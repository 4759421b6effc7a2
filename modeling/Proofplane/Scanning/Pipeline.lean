import Proofplane.Messaging.RoundTrip
import Proofplane.Outbox.Dequeuer
import Proofplane.Scanning.Bytes

/-!
# The pipeline from the outbox to the worker

A command appends its messages to the outbox in its own transaction, dequeuers publish them, and the
broker pushes what was published to the worker, any number of times and in any order, until a handler
returns without an error.

* `PipelineWorld`, `pipelineStep`   uploads, scans, promotions, dequeuers and pushes at once;
* `pushed`                          what the worker does with a message;
* `Delivery.returnsOk`              the step in which the handler of a finalization message returns;
* `creates_spec`                    what a creating command does;
* `Applied`                         **all that a step of the application does to documents, policies and
                                    outbox**, `scanningStep_applied`.
-/

namespace Proofplane
open Base

/-- the handler of the delivery returns in this step, without an error -/
def Delivery.returnsOk (db : DocumentDb) (x : Delivery) (e : DeliveryEvent) : Bool :=
  match x.phase, e with
  | .finalizing, .finalize fault =>
    match (committed fault db
      (finalizeDocument db ⟨x.work.identity, x.work.objectKey, x.destination⟩)).1 with
    | .ok .applied => false
    | .ok _ => true
    | .error _ => false
  | .deletingSource, .deleteSource ok => !ok
  | .deletingSourceMetadata, .deleteSourceMetadata _ => true
  | _, _ => false

structure PipelineWorld where
  scanning : ScanningWorld
  queue : OutboxWorld
  /-- the messages that the deliveries under way have come with -/
  scanMessages : Nat → Option Json
  promotionMessages : Nat → Option Json
  /-- the messages whose handler has returned without an error, so that they are not pushed again -/
  acknowledged : List Json

inductive PipelineEvent
  /-- a step of the application; rows of the outbox get their ids from a sequence -/
  | scanning (event : ScanningEvent) (rowId now : Int)
  | queue (event : OutboxEvent)
  /-- the broker pushes one of the published messages -/
  | push (published : Nat) (pushId : String) (attempt : Option Int) (delivery : Nat) (ok : Bool)

/-- messages come in by pushes only -/
def ScanningEvent.comesIn : ScanningEvent → Bool
  | .receive _ _ _ => true
  | .finalization (.deliver _ _ _ _) => true
  | _ => false

/-- what else is enqueued: the mails of invitations -/
def OutboxEvent.foreign : OutboxEvent → Bool
  | .enqueue new _ _ =>
    match new.message with
    | .sendWorkspaceInvitation _ _ => true
    | _ => false
  | _ => true

/-- the rows of one transaction -/
def OutboxWorld.enqueueAll (config : Nat → OutboxDequeuerConfig) (s : OutboxWorld) (now : Int) :
    Int → List NewOutboxMessage → Option OutboxWorld
  | _, [] => some s
  | rowId, new :: rest =>
    (dequeue config s (.enqueue new rowId now)).bind fun s => s.enqueueAll config now (rowId + 1) rest

/-- the messages that a transaction has appended -/
def appendedMessages (db db' : DocumentDb) : List NewOutboxMessage := db'.outbox.drop db.outbox.length

namespace PipelineWorld

def empty : PipelineWorld := ⟨.empty, .init, fun _ => none, fun _ => none, []⟩

def db (w : PipelineWorld) : DocumentDb := w.scanning.promotion.db

def acknowledge (w : PipelineWorld) (data : Option Json) : PipelineWorld :=
  { w with acknowledged := w.acknowledged ++ data.toList }

/-- the message whose handler returns without an error in a step of the application -/
def answered (w : PipelineWorld) (scanning : ScanningWorld) : ScanningEvent → Option Json
  | .scan delivery _ =>
    if (scanning.scans.get? delivery).any fun x => x.phase = .returned true then w.scanMessages delivery
    else none
  | .finalization (.step delivery event) =>
    if (w.scanning.promotion.deliveries.get? delivery).any fun x => x.returnsOk w.db event then
      w.promotionMessages delivery
    else none
  | _ => none

/-- a message for the scan handler -/
def pushScan (w : PipelineWorld) (data : Json) (message : WorkerMessage) (delivery : Nat) (ok : Bool)
    (scanning : ScanningWorld) : PipelineWorld :=
  match w.db.receiveScan message ok with
  | .returned answer => w.acknowledge (if answer then some data else none)
  | .working _ =>
    { w with scanning, scanMessages := Function.update w.scanMessages delivery (some data) }

/-- a message for the finalization handler -/
def pushFinalization (w : PipelineWorld) (data : Json) (identity : DocumentIdentity) (objectKey : ObjectKey)
    (delivery : Nat) (ok : Bool) (scanning : ScanningWorld) : PipelineWorld :=
  if ok && (w.db.loadFinalizingUploadWork identity objectKey.text).isNone then w.acknowledge (some data)
  else { w with scanning, promotionMessages := Function.update w.promotionMessages delivery (some data) }

end PipelineWorld

section
variable (config : Nat → OutboxDequeuerConfig) (sha256 : List UInt8 → String) (maxDeliveryAttempts : Nat)

/-- what the worker does with a message: what it cannot decode, or has no handler for, is acknowledged -/
def pushed (w : PipelineWorld) (data : Json) (pushId : String) (attempt : Option Int) (delivery : Nat)
    (ok : Bool) : Option PipelineWorld :=
  match decodeData data pushId attempt with
  | .error _ => some (w.acknowledge (some data))
  | .ok message =>
    match dispatch message with
    | none => some (w.acknowledge (some data))
    | some .workspaceInvitationDelivery => some (w.acknowledge (if ok then some data else none))
    | some .documentScan =>
      (scanningStep sha256 maxDeliveryAttempts w.scanning (.receive delivery message ok)).map
        (w.pushScan data message delivery ok)
    | some .documentFinalization =>
      match finalizationRequestedPayload message with
      | none => some (w.acknowledge (some data))
      | some (identity, objectKey) =>
        (scanningStep sha256 maxDeliveryAttempts w.scanning
          (.finalization (.deliver delivery identity objectKey ok))).map
          (w.pushFinalization data identity objectKey delivery ok)

def pipelineStep (w : PipelineWorld) : PipelineEvent → Option PipelineWorld
  | .scanning event rowId now =>
    if event.comesIn then none
    else
      (scanningStep sha256 maxDeliveryAttempts w.scanning event).bind fun scanning =>
        (w.queue.enqueueAll config now rowId (appendedMessages w.db scanning.promotion.db)).map fun queue =>
          { w.acknowledge (w.answered scanning event) with scanning, queue }
  | .queue event =>
    if event.foreign then (dequeue config w.queue event).map fun queue => { w with queue } else none
  | .push published pushId attempt delivery ok =>
    w.queue.published[published]?.bind fun p =>
      pushed sha256 maxDeliveryAttempts w p.2.2.data pushId attempt delivery ok

/-- ids of uploads, documents and messages are random: a new one is no other's -/
def NewMessages (w : PipelineWorld) : PipelineEvent → Prop
  | .scanning event _ _ =>
    NewUploads w.scanning event ∧
      ∀ scanning, scanningStep sha256 maxDeliveryAttempts w.scanning event = some scanning →
        ∀ new ∈ appendedMessages w.db scanning.promotion.db, ∀ row ∈ w.queue.committed,
          row.messageId ≠ new.message.metadata.messageId
  | _ => True

end

/-! ## What a step of the application does -/

/-- a document is created, with the policy that owns it -/
structure CreatedFor (db db' : DocumentDb) (d : Document) : Prop where
  documents : db'.documents = db.documents.upsert d.toRow
  policies : db'.policies = db.policies
  status : d.uploadStatus = .pendingUpload
  live : d.archived = false
  owner : ∀ id, d.owner = .policy id → (db.policies.get? id).isSome = true
  announced : Announced (some (.scanRequested d.identity d.objectKey)) db.outbox db'.outbox

/-- what every creating command says of the document that it makes -/
theorem createdFor_new {db db' : DocumentDb} {d : Document} {identity : DocumentIdentity}
    {workspaceId : WorkspaceId} {userId : UserId} {payload : CreateDocumentPayload} {createdAt : Int}
    (hd : d = newDocument identity workspaceId userId payload createdAt)
    (hdocs : db'.documents = db.documents.upsert d.toRow) (hpolicies : db'.policies = db.policies)
    (howner : ∀ id, identity.owner = .policy id → (db.policies.get? id).isSome = true)
    (hout : Announced (some (.scanRequested d.identity d.objectKey)) db.outbox db'.outbox) :
    CreatedFor db db' d := by
  refine ⟨hdocs, hpolicies, ?_, ?_, ?_, hout⟩
  · rw [hd]
    rfl
  · rw [hd]
    rfl
  · intro id hid
    rw [hd] at hid
    exact howner id hid

/-- a policy that takes a document is there -/
theorem policy_of_eligible {db : DocumentDb} {workspaceId : WorkspaceId} {id : PolicyId}
    (h : db.lockDocumentUploadEligibility workspaceId id = some .eligible) :
    (db.policies.get? id).isSome = true := by
  obtain ⟨p, hp, -⟩ := Option.map_eq_some_iff.mp h
  obtain ⟨hget, -⟩ := Option.filter_eq_some_iff.mp hp
  rw [hget]
  rfl

/-- **A creating command** does nothing, or creates one document and asks for its scan. -/
theorem creates_spec {db db' : DocumentDb} {command : DocumentCommand} {metadata : ExecutionMetadata}
    {messageId : Uuid} {effect : DocumentEffect} (hc : command.creates = true)
    (h : command.handle db metadata messageId = .ok (effect, db')) :
    db' = db ∨ ∃ d, effect = .created d ∧ CreatedFor db db' d := by
  cases command with
  | createEvidenceSubmissionDocument c =>
    simp only [DocumentCommand.handle] at h
    split at h
    · cases h
    · next d db1 hr =>
      cases h
      rcases createEvidenceSubmissionDocument_ok hr with ⟨x, hx, -⟩ | ⟨x, sub, hx, hnew, -, -, -, -, hdb, hout⟩
      · cases hx
      · cases hx
        exact .inr ⟨d, rfl, createdFor_new hnew (by rw [hdb]) (by rw [hdb]) (fun id hid => nomatch hid) hout⟩
    · next outcome db1 hne hr =>
      cases h
      rcases createEvidenceSubmissionDocument_ok hr with ⟨x, -, hdb⟩ | ⟨x, sub, hx, -⟩
      · exact .inl hdb
      · exact absurd hx (hne x)
  | createPolicyDocument c =>
    simp only [DocumentCommand.handle] at h
    split at h
    · cases h
    · next d db1 hr =>
      cases h
      rcases createPolicyDocument_ok hr with ⟨hne, -⟩ | ⟨x, hx, hnew, -, heligible, -, hdb, hout⟩
      · exact absurd rfl (hne d)
      · cases hx
        refine .inr ⟨d, rfl, createdFor_new hnew (by rw [hdb]) (by rw [hdb]) (fun id hid => ?_) hout⟩
        cases hid
        exact policy_of_eligible heligible
    · next outcome db1 hne hr =>
      cases h
      rcases createPolicyDocument_ok hr with ⟨-, hdb⟩ | ⟨x, hx, -⟩
      · exact .inl hdb
      · exact absurd hx (hne x)
  | completeAgentEvidenceUpload c =>
    simp only [DocumentCommand.handle] at h
    split at h
    · cases h
    · next sid d db1 hr =>
      cases h
      rcases completeAgentEvidenceUpload_ok hr with ⟨hx, -⟩ | ⟨g, -, -, -, -, ⟨x, -, hx, -⟩ |
        ⟨x, sub, g', -, hx, hnew, -, -, -, -, -, -, -, hdb, hout⟩⟩
      · cases hx
      · cases hx
      · cases hx
        exact .inr ⟨d, rfl, createdFor_new hnew (by rw [hdb]) (by rw [hdb]) (fun id hid => nomatch hid) hout⟩
    · next outcome db1 hne hr =>
      cases h
      rcases completeAgentEvidenceUpload_ok hr with ⟨-, hdb⟩ | ⟨g, -, -, -, -, ⟨x, -, -, hdb⟩ |
        ⟨x, sub, g', -, hx, -⟩⟩
      · exact .inl hdb
      · exact .inl hdb
      · exact absurd hx (hne _ x)
  | completeAgentPolicyDocumentUpload c =>
    simp only [DocumentCommand.handle] at h
    split at h
    · cases h
    · next d db1 hr =>
      cases h
      rcases completeAgentPolicyDocumentUpload_ok hr with ⟨hx | hx, -⟩ | ⟨g, -, -, -, ⟨x, -, hx, -⟩ |
        ⟨x, g', -, hx, hnew, -, -, -, heligible, -, hdb, hout⟩⟩
      · cases hx
      · cases hx
      · cases hx
      · cases hx
        refine .inr ⟨d, rfl, createdFor_new hnew (by rw [hdb]) (by rw [hdb]) (fun id hid => ?_) hout⟩
        cases hid
        exact policy_of_eligible heligible
    · next outcome db1 hne hr =>
      cases h
      rcases completeAgentPolicyDocumentUpload_ok hr with ⟨-, hdb⟩ | ⟨g, -, -, -, ⟨x, -, -, hdb⟩ |
        ⟨x, g', -, hx, -⟩⟩
      · exact .inl hdb
      · exact .inl hdb
      · exact absurd hx (hne x)
  | scan c => cases hc
  | finalize c => cases hc
  | archive c => cases hc

/-- a policy that is there stays there, and does not become active again -/
structure PoliciesKept (db db' : DocumentDb) : Prop where
  present : ∀ id, (db.policies.get? id).isSome = true → (db'.policies.get? id).isSome = true
  active : ∀ d : Document, (∀ id, d.owner = .policy id → (db.policies.get? id).isSome = true) →
    db'.ownerActive d = true → db.ownerActive d = true

theorem policiesKept_of_eq {db db' : DocumentDb} (h : db'.policies = db.policies) : PoliciesKept db db' := by
  refine ⟨?_, ?_⟩
  · intro id hid
    rw [h]
    exact hid
  · intro d _ hactive
    unfold DocumentDb.ownerActive at *
    rw [h] at hactive
    exact hactive

theorem policiesKept_housekeeping {db db' : DocumentDb} {change : Housekeeping}
    (h : db.housekeep change = some db') : PoliciesKept db db' := by
  cases housekeeps h with
  | addEvidence item hnew hdb => exact policiesKept_of_eq (by rw [hdb])
  | issueEvidenceGrant grant hnew hvalid hdb => exact policiesKept_of_eq (by rw [hdb])
  | issuePolicyGrant grant hnew hvalid hdb => exact policiesKept_of_eq (by rw [hdb])
  | addPolicy item hnew hdb =>
    have hold : ∀ id, (db.policies.get? id).isSome = true → db'.policies.get? id = db.policies.get? id := by
      intro id hid
      rw [hdb]
      refine Table.get?_upsert_of_ne db.policies ?_
      rintro rfl
      rw [hnew] at hid
      cases hid
    refine ⟨?_, ?_⟩
    · intro id hid
      rw [hold id hid]
      exact hid
    · intro d howner hactive
      unfold DocumentDb.ownerActive at *
      cases hd : d.owner with
      | evidenceSubmission id => rfl
      | policy id =>
        rw [hd] at hactive
        dsimp only at hactive ⊢
        rwa [hold id (howner id hd)] at hactive
  | archivePolicy id archivedAt hdb =>
    subst hdb
    refine ⟨?_, ?_⟩
    · intro j hj
      rw [Table.get?_modify]
      split
      · next hid =>
        rw [Option.isSome_map, ← hid]
        exact hj
      · exact hj
    · intro d howner hactive
      unfold DocumentDb.ownerActive at *
      cases hd : d.owner with
      | evidenceSubmission id => rfl
      | policy j =>
        rw [hd] at hactive
        dsimp only at hactive ⊢
        rw [Table.get?_modify] at hactive
        split at hactive
        · -- the policy that was archived is not active
          obtain ⟨p, hp⟩ := Option.isSome_iff_exists.mp hactive
          obtain ⟨hget, hcond⟩ := Option.filter_eq_some_iff.mp hp
          obtain ⟨p0, -, rfl⟩ := Option.map_eq_some_iff.mp hget
          exact absurd (of_decide_eq_true hcond).2 (by simp [PolicyItem.archive])
        · exact hactive

/-- all that a step of the application does to documents, policies and outbox -/
inductive Applied (db db' : DocumentDb) : Prop
  | kept (hdocs : db'.documents = db.documents) (hout : db'.outbox = db.outbox) (hp : PoliciesKept db db') :
      Applied db db'
  | moved (effect : DocumentEffect) (hm : DocumentMove db db' effect) (hp : db'.policies = db.policies)
      (hout : Announced effect.request db.outbox db'.outbox)
      (howner : ∀ d, effect = .created d → ∀ id, d.owner = .policy id → (db.policies.get? id).isSome = true) :
      Applied db db'

theorem Applied.refl (db : DocumentDb) : Applied db db := .kept rfl rfl (policiesKept_of_eq rfl)

/-- a unit of work, however it ends -/
theorem applied_committed {α : Type} {db : DocumentDb} {r : Except DocumentCommandError (α × DocumentDb)}
    (fault : CommitFault) (h : ∀ a db', r = .ok (a, db') → Applied db db') :
    Applied db (committed fault db r).2 := by
  unfold committed
  cases settle_cases (.repository .database) fault db r with
  | nothing e hstate hanswer hlanded =>
    rw [hstate]
    exact .refl db
  | committed a db' hr hstate hanswer hlanded =>
    rw [hstate]
    exact h a db' hr

theorem applied_command {α : Type} {w : FinalizationWorld} {r : Except DocumentCommandError (α × DocumentDb)}
    (commits : Bool) (h : ∀ a db', r = .ok (a, db') → Applied w.db db') :
    Applied w.db (w.command commits r).db := by
  unfold FinalizationWorld.command
  split
  · next a db' =>
    cases commits with
    | false => exact .refl _
    | true => exact h a db' rfl
  · exact .refl _

theorem applied_scan {db db' : DocumentDb} {metadata : ExecutionMetadata} {messageId : Uuid}
    {command : ScanDocument} {outcome : DocumentCommandOutcome}
    (h : scanDocument db metadata messageId command = .ok (outcome, db')) : Applied db db' := by
  rcases scanDocument_ok h with ⟨-, rfl⟩ | ⟨-, hmove, hout, hdb⟩
  · exact .refl _
  · exact .moved _ hmove (by rw [hdb]) hout (fun d he => by cases he)

theorem applied_finalize {db db' : DocumentDb} {command : FinalizeDocument} {outcome : DocumentCommandOutcome}
    (h : finalizeDocument db command = .ok (outcome, db')) : Applied db db' := by
  rcases finalizeDocument_ok h with ⟨-, rfl⟩ | ⟨-, hmove, hdb⟩
  · exact .refl _
  · exact .moved _ hmove (by rw [hdb]) (show db'.outbox = db.outbox by rw [hdb]) (fun d he => by cases he)

theorem applied_archive {db db' : DocumentDb} {command : ArchiveDocument} {outcome : ArchiveDocumentOutcome}
    (h : archiveDocument db command = .ok (outcome, db')) : Applied db db' := by
  rcases archiveDocument_ok h with ⟨-, rfl⟩ | ⟨-, hmove, hdb⟩
  · exact .refl _
  · exact .moved _ hmove (by rw [hdb]) (show db'.outbox = db.outbox by rw [hdb]) (fun d he => by cases he)

section
variable {sha256 : List UInt8 → String} {maxDeliveryAttempts : Nat}

theorem finalizationStep_applied {w w' : FinalizationWorld} {e : FinalizationEvent}
    (h : finalizationStep sha256 w e = some w') : Applied w.db w'.db := by
  cases e with
  | deliver delivery identity objectKey ok =>
    simp only [finalizationStep] at h
    split at h
    · cases h
    · have hw := Option.some.inj h
      rcases delivered_cases w delivery identity objectKey.text ok with hsame | ⟨d, -, -, dest, hput⟩
      · rw [hsame] at hw
        subst hw
        exact .refl _
      · rw [hput] at hw
        subst hw
        exact .refl _
  | step delivery event =>
    obtain ⟨x, -, hx⟩ := Option.bind_eq_some_iff.mp h
    obtain ⟨p, hp, rfl⟩ := Option.map_eq_some_iff.mp hx
    show Applied w.db p.1.db
    cases deliveryStep_move hp with
    | confined hc =>
      rw [hc.db]
      exact .refl _
    | seized result he hresult hidle evidence' hw hel hok hsource =>
      rw [hw]
      exact .refl _
    | finalized fault hphase hw hphase' =>
      rw [hw]
      exact applied_committed fault fun _ _ => applied_finalize
  | crash delivery =>
    obtain ⟨x, -, rfl⟩ := Option.map_eq_some_iff.mp h
    exact .refl _
  | scan command metadata messageId commits =>
    cases h
    exact applied_command commits fun _ _ => applied_scan
  | archive command commits =>
    cases h
    exact applied_command commits fun _ _ => applied_archive
  | housekeeping change =>
    obtain ⟨db', hdb, rfl⟩ := Option.map_eq_some_iff.mp h
    exact .kept (housekept hdb).documents (housekept hdb).outbox (policiesKept_housekeeping hdb)

theorem scanMove_applied {db db' : DocumentDb} {quarantine : FilesystemObjectStore} {x : ScanDelivery}
    {phase' : ScanPhase} {exchanges : List ScanExchange} (h : ScanMove db db' quarantine x phase' exchanges) :
    Applied db db' := by
  cases h with
  | rested hdb _ _ =>
    rw [hdb]
    exact .refl _
  | opened file hdb hopen hphase' =>
    rw [hdb]
    exact .refl _
  | sent file size chunks hdb hbefore hphase' =>
    rw [hdb]
    exact .refl _
  | ended file size chunks hdb hsize hbefore hend hphase' =>
    rw [hdb]
    exact .refl _
  | answered chunks reads hdb hbefore hphase' =>
    rw [hdb]
    exact .refl _
  | recorded result messageId fault hbefore hdb hphase' =>
    rw [hdb]
    exact applied_committed fault fun _ _ => applied_scan

/-- **All that a step of the application does to documents, policies and outbox.** -/
theorem scanningStep_applied {w w' : ScanningWorld} {e : ScanningEvent}
    (h : scanningStep sha256 maxDeliveryAttempts w e = some w') : Applied w.promotion.db w'.promotion.db := by
  cases e with
  | beginUpload uploadId workspaceId owner filename contentType =>
    simp only [scanningStep] at h
    split at h
    · cases h
      exact .refl _
    · cases h
      exact .refl _
  | upload uploadId event =>
    obtain ⟨u, -, hu⟩ := Option.bind_eq_some_iff.mp h
    obtain ⟨p, -, rfl⟩ := Option.map_eq_some_iff.mp hu
    exact .refl _
  | create uploadId command metadata messageId commits =>
    obtain ⟨u, -, hu⟩ := Option.bind_eq_some_iff.mp h
    obtain ⟨hcond, hw⟩ := Option.ite_none_right_eq_some.mp hu
    obtain ⟨hcreates, -⟩ := Bool.and_eq_true_iff.mp hcond
    cases hw
    refine applied_command commits fun effect db' hr => ?_
    rcases creates_spec hcreates hr with rfl | ⟨d, rfl, hd⟩
    · exact .refl _
    · refine .moved _ (.created d hd.status hd.live hd.documents) hd.policies hd.announced ?_
      intro d' he
      cases he
      exact hd.owner
  | removeObject key =>
    cases h
    exact .refl _
  | removeMetadata key =>
    cases h
    exact .refl _
  | receive delivery message ok =>
    simp only [scanningStep] at h
    split at h
    · cases h
    · split at h
      · cases h
        exact .refl _
      · cases h
        exact .refl _
  | scan delivery event =>
    obtain ⟨x, -, hx⟩ := Option.bind_eq_some_iff.mp h
    obtain ⟨p, hp, rfl⟩ := Option.map_eq_some_iff.mp hx
    exact scanMove_applied (scanStep_move hp)
  | finalization event =>
    simp only [scanningStep] at h
    split at h
    · cases h
    · obtain ⟨promotion, hp, rfl⟩ := Option.map_eq_some_iff.mp h
      exact finalizationStep_applied hp

end

end Proofplane
