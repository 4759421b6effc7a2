import Proofplane.Base.Run
import Proofplane.Base.Transaction
import Proofplane.Documents.Moves

/-!
# Runs of document commands

A run is a list of document commands in any order, each of which may fail to commit, between the
changes that the rest of the application makes to evidence, policies and grants.

* `Housekeeping`            those changes, `housekeeps` all that they can do, `housekept` what they
                            leave alone;
* `DocumentCommand.handle`  the seven handlers under one type, with the effect of each;
* `LifecycleState`, `lifecycleStep`   the tables, with the effects of the committed commands so far,
                            `lifecycleStep_cases` all that an event can do;
* `Drawn`                   what the callers see to: document and submission ids are random, so a
                            command that creates a document has an id that no other document has
                            (it may be a repetition of an earlier command);
* `committed`               what the caller of a unit of work is told of it;
* `command_spec`            **what any of the seven commands does**.
-/

namespace Proofplane
open Base

/-! ## The rest of the application -/

/-- what else happens to the tables -/
inductive Housekeeping
  | addEvidence (item : EvidenceItem)
  | addPolicy (item : PolicyItem)
  | archivePolicy (id : PolicyId) (archivedAt : Int)
  | issueEvidenceGrant (grant : AgentEvidenceUploadGrant)
  | issuePolicyGrant (grant : AgentPolicyDocumentUploadGrant)

/-- `UPDATE policies SET archived_at` -/
def PolicyItem.archive (archivedAt : Int) (p : PolicyItem) : PolicyItem :=
  { p with archivedAt := some archivedAt }

theorem PolicyItem.archive_id (archivedAt : Int) (p : PolicyItem) :
    (p.archive archivedAt).id = p.id := rfl

/-- a pending grant that `issue` makes, if it accepts the instants -/
def UploadGrant.reissue {K : UploadTarget} (g : UploadGrant K) :
    Except UploadGrantError (UploadGrant K) :=
  UploadGrant.issue g.id g.workspaceId g.target g.declaration g.issuedByUserId g.issuedViaAgentConnectionId
    g.issuedAt g.expiresAt

/-- new rows have new ids; `none` where the change is refused -/
def DocumentDb.housekeep (db : DocumentDb) : Housekeeping → Option DocumentDb
  | .addEvidence item =>
    if (db.evidence.get? item.id).isSome then none
    else some { db with evidence := db.evidence.upsert item }
  | .addPolicy item =>
    if (db.policies.get? item.id).isSome then none
    else some { db with policies := db.policies.upsert item }
  | .archivePolicy id archivedAt =>
    some { db with
      policies := db.policies.modify id (.archive archivedAt) (PolicyItem.archive_id archivedAt) }
  | .issueEvidenceGrant grant =>
    if (db.evidenceGrants.get? grant.id).isSome then none
    else (grant.reissue.toOption).bind fun g => (db.saveEvidenceGrant g).toOption
  | .issuePolicyGrant grant =>
    if (db.policyGrants.get? grant.id).isSome then none
    else (grant.reissue.toOption).bind fun g => (db.savePolicyGrant g).toOption

/-- the row of a grant that was just issued -/
def UploadGrant.issuedRow {K : UploadTarget} (g : UploadGrant K) : UploadGrant K :=
  UploadGrant.toRow { g with lifecycle := .pending }

/-- all that housekeeping can do -/
inductive Housekeeps (db db' : DocumentDb) : Housekeeping → Prop
  | addEvidence (item : EvidenceItem) (hnew : db.evidence.get? item.id = none)
      (h : db' = { db with evidence := db.evidence.upsert item }) :
      Housekeeps db db' (.addEvidence item)
  | addPolicy (item : PolicyItem) (hnew : db.policies.get? item.id = none)
      (h : db' = { db with policies := db.policies.upsert item }) :
      Housekeeps db db' (.addPolicy item)
  | archivePolicy (id : PolicyId) (archivedAt : Int)
      (h : db' = { db with
        policies := db.policies.modify id (.archive archivedAt) (PolicyItem.archive_id archivedAt) }) :
      Housekeeps db db' (.archivePolicy id archivedAt)
  | issueEvidenceGrant (grant : AgentEvidenceUploadGrant)
      (hnew : db.evidenceGrants.get? grant.id = none) (hvalid : grant.issuedRow.valid = true)
      (h : db' = { db with evidenceGrants := db.evidenceGrants.upsert grant.issuedRow }) :
      Housekeeps db db' (.issueEvidenceGrant grant)
  | issuePolicyGrant (grant : AgentPolicyDocumentUploadGrant)
      (hnew : db.policyGrants.get? grant.id = none) (hvalid : grant.issuedRow.valid = true)
      (h : db' = { db with policyGrants := db.policyGrants.upsert grant.issuedRow }) :
      Housekeeps db db' (.issuePolicyGrant grant)

theorem UploadGrant.reissue_ok {K : UploadTarget} {g g' : UploadGrant K}
    (h : g.reissue.toOption = some g') : g' = { g with lifecycle := .pending } := by
  unfold UploadGrant.reissue UploadGrant.issue at h
  split at h
  · cases h
  · cases h
    rfl

theorem toOption_eq_some {α β : Type} {r : Except α β} {b : β} (h : r.toOption = some b) :
    r = .ok b := by
  cases r with
  | error e => cases h
  | ok x =>
    cases h
    rfl

/-- the inversion of housekeeping -/
theorem housekeeps {db db' : DocumentDb} {h : Housekeeping} (hs : db.housekeep h = some db') :
    Housekeeps db db' h := by
  cases h with
  | addEvidence item =>
    simp only [DocumentDb.housekeep] at hs
    split at hs
    · cases hs
    · next hnone =>
      cases hs
      exact .addEvidence item (Option.not_isSome_iff_eq_none.mp hnone) rfl
  | addPolicy item =>
    simp only [DocumentDb.housekeep] at hs
    split at hs
    · cases hs
    · next hnone =>
      cases hs
      exact .addPolicy item (Option.not_isSome_iff_eq_none.mp hnone) rfl
  | archivePolicy id archivedAt =>
    cases hs
    exact .archivePolicy id archivedAt rfl
  | issueEvidenceGrant grant =>
    simp only [DocumentDb.housekeep] at hs
    split at hs
    · cases hs
    · next hnone =>
      obtain ⟨g, hg, hsave⟩ := Option.bind_eq_some_iff.mp hs
      obtain ⟨rfl, hvalid⟩ := DocumentDb.saveEvidenceGrant_ok (toOption_eq_some hsave)
      rw [UploadGrant.reissue_ok hg] at hvalid ⊢
      exact .issueEvidenceGrant grant (Option.not_isSome_iff_eq_none.mp hnone) hvalid rfl
  | issuePolicyGrant grant =>
    simp only [DocumentDb.housekeep] at hs
    split at hs
    · cases hs
    · next hnone =>
      obtain ⟨g, hg, hsave⟩ := Option.bind_eq_some_iff.mp hs
      obtain ⟨rfl, hvalid⟩ := DocumentDb.savePolicyGrant_ok (toOption_eq_some hsave)
      rw [UploadGrant.reissue_ok hg] at hvalid ⊢
      exact .issuePolicyGrant grant (Option.not_isSome_iff_eq_none.mp hnone) hvalid rfl

/-- what housekeeping leaves alone -/
structure Housekept (db db' : DocumentDb) : Prop where
  documents : db'.documents = db.documents
  submissions : db'.submissions = db.submissions
  outbox : db'.outbox = db.outbox
  evidence : ∀ id item, db.evidence.get? id = some item → db'.evidence.get? id = some item

theorem housekept {db db' : DocumentDb} {h : Housekeeping} (hs : db.housekeep h = some db') :
    Housekept db db' := by
  cases housekeeps hs with
  | addEvidence item hnew h =>
    subst h
    refine ⟨rfl, rfl, rfl, ?_⟩
    intro id other hid
    have hne : item.id ≠ id := by
      rintro rfl
      rw [hid] at hnew
      cases hnew
    exact (Table.get?_upsert_of_ne db.evidence hne).trans hid
  | addPolicy item hnew h =>
    subst h
    exact ⟨rfl, rfl, rfl, fun _ _ hid => hid⟩
  | archivePolicy id archivedAt h =>
    subst h
    exact ⟨rfl, rfl, rfl, fun _ _ hid => hid⟩
  | issueEvidenceGrant grant hnew hvalid h =>
    subst h
    exact ⟨rfl, rfl, rfl, fun _ _ hid => hid⟩
  | issuePolicyGrant grant hnew hvalid h =>
    subst h
    exact ⟨rfl, rfl, rfl, fun _ _ hid => hid⟩

/-! ## Commands and runs -/

inductive DocumentCommand
  | createEvidenceSubmissionDocument (command : CreateEvidenceSubmissionDocument)
  | createPolicyDocument (command : CreatePolicyDocument)
  | completeAgentEvidenceUpload (command : CompleteAgentEvidenceUpload)
  | completeAgentPolicyDocumentUpload (command : CompleteAgentPolicyDocumentUpload)
  | scan (command : ScanDocument)
  | finalize (command : FinalizeDocument)
  | archive (command : ArchiveDocument)

/-- the handler of a command, with the change that its outcome reports -/
def DocumentCommand.handle (db : DocumentDb) (metadata : ExecutionMetadata) (messageId : Uuid) :
    DocumentCommand → Except DocumentCommandError (DocumentEffect × DocumentDb)
  | .createEvidenceSubmissionDocument command =>
    match Proofplane.createEvidenceSubmissionDocument db metadata messageId command with
    | .error e => .error e
    | .ok (.created d, db) => .ok (.created d, db)
    | .ok (_, db) => .ok (.unchanged, db)
  | .createPolicyDocument command =>
    match Proofplane.createPolicyDocument db metadata messageId command with
    | .error e => .error e
    | .ok (.created d, db) => .ok (.created d, db)
    | .ok (_, db) => .ok (.unchanged, db)
  | .completeAgentEvidenceUpload command =>
    match Proofplane.completeAgentEvidenceUpload db metadata messageId command with
    | .error e => .error e
    | .ok (.created _ d, db) => .ok (.created d, db)
    | .ok (_, db) => .ok (.unchanged, db)
  | .completeAgentPolicyDocumentUpload command =>
    match Proofplane.completeAgentPolicyDocumentUpload db metadata messageId command with
    | .error e => .error e
    | .ok (.created d, db) => .ok (.created d, db)
    | .ok (_, db) => .ok (.unchanged, db)
  | .scan command =>
    match scanDocument db metadata messageId command with
    | .error e => .error e
    | .ok (.applied, db) => .ok (.scanned command.identity command.objectKey command.result, db)
    | .ok (_, db) => .ok (.unchanged, db)
  | .finalize command =>
    match finalizeDocument db command with
    | .error e => .error e
    | .ok (.applied, db) =>
      .ok (.finalized command.identity command.quarantineObjectKey command.finalObjectKey, db)
    | .ok (_, db) => .ok (.unchanged, db)
  | .archive command =>
    match archiveDocument db command with
    | .error e => .error e
    | .ok (.archived, db) => .ok (.archived command.identity, db)
    | .ok (_, db) => .ok (.unchanged, db)

structure LifecycleState where
  db : DocumentDb
  /-- the effects of the committed commands, in order -/
  trace : List DocumentEffect

inductive LifecycleEvent
  | command (command : DocumentCommand) (metadata : ExecutionMetadata) (messageId : Uuid)
      (commits : Bool)
  | housekeeping (change : Housekeeping)

/-- the effect as a list, empty where nothing changed -/
def DocumentEffect.toList : DocumentEffect → List DocumentEffect
  | .unchanged => []
  | e => [e]

/-- a unit of work that does not commit leaves everything as it was -/
def lifecycleStep (s : LifecycleState) : LifecycleEvent → Option LifecycleState
  | .command command metadata messageId commits =>
    match command.handle s.db metadata messageId with
    | .error _ => some s
    | .ok (effect, db) => some (if commits then ⟨db, s.trace ++ effect.toList⟩ else s)
  | .housekeeping change => (s.db.housekeep change).map fun db => { s with db }

/-- all that an event can do: nothing, what a committed command leaves, or a change around the documents -/
theorem lifecycleStep_cases {s s' : LifecycleState} {e : LifecycleEvent} (h : lifecycleStep s e = some s') :
    s' = s ∨
    (∃ command metadata messageId effect db, e = .command command metadata messageId true ∧
      command.handle s.db metadata messageId = .ok (effect, db) ∧ s' = ⟨db, s.trace ++ effect.toList⟩) ∨
    ∃ change db, e = .housekeeping change ∧ s.db.housekeep change = some db ∧ s' = { s with db } := by
  cases e with
  | command command metadata messageId commits =>
    simp only [lifecycleStep] at h
    split at h
    · cases h
      exact .inl rfl
    · next effect db hc =>
      cases commits with
      | false =>
        cases h
        exact .inl rfl
      | true =>
        cases h
        exact .inr (.inl ⟨command, metadata, messageId, effect, db, rfl, hc, rfl⟩)
  | housekeeping change =>
    obtain ⟨db, hdb, rfl⟩ := Option.map_eq_some_iff.mp h
    exact .inr (.inr ⟨change, db, rfl, hdb, rfl⟩)

/-- a stored document with this id is the command's own -/
def OwnDocument (db : DocumentDb) (identity : DocumentIdentity) (workspaceId : WorkspaceId) : Prop :=
  ∀ d ∈ db.documents.rows, d.id = identity.documentId →
    d.identity = identity ∧ d.workspaceId = workspaceId

/-- a stored submission with this id is one of the workspace -/
def OwnSubmission (db : DocumentDb) (id : EvidenceSubmissionId) (workspaceId : WorkspaceId) : Prop :=
  ∀ s, db.submissions.get? id = some s → db.getSubmission workspaceId id = some s

/-- no stored document has this id -/
def NewDocumentId (db : DocumentDb) (id : DocumentId) : Prop :=
  ∀ d ∈ db.documents.rows, d.id ≠ id

/-- what the callers of a command see to: random ids are new or the command's own, and the final key
of a document is not its staged one -/
def Drawn (s : LifecycleState) : LifecycleEvent → Prop
  | .command (.createEvidenceSubmissionDocument c) _ _ _ =>
    OwnDocument s.db (.evidence c.submissionId c.documentId) c.connection.workspaceId ∧
      OwnSubmission s.db c.submissionId c.connection.workspaceId
  | .command (.createPolicyDocument c) _ _ _ =>
    OwnDocument s.db (.policy c.policyId c.documentId) c.connection.workspaceId
  | .command (.completeAgentEvidenceUpload c) _ _ _ =>
    NewDocumentId s.db c.documentId ∧
      OwnSubmission s.db c.stagedSubmissionId c.grant.workspaceId
  | .command (.completeAgentPolicyDocumentUpload c) _ _ _ => NewDocumentId s.db c.documentId
  | .command (.finalize c) _ _ _ => c.finalObjectKey ≠ c.quarantineObjectKey
  | _ => True

/-! ## The acknowledgement of a unit of work -/

/-- what the caller of a unit of work is told, and the tables afterwards -/
def committed {α : Type} (fault : CommitFault) (db : DocumentDb)
    (r : Except DocumentCommandError (α × DocumentDb)) :
    Except DocumentCommandError α × DocumentDb :=
  settle (.repository .database) fault db r

/-! ## One command -/

/-- the submission of every stored evidence document is there -/
def Owned (db : DocumentDb) : Prop :=
  ∀ d ∈ db.documents.rows, ∀ submissionId documentId,
    d.identity = .evidence submissionId documentId →
      db.getSubmission d.workspaceId submissionId ≠ none

/-- what every command that returns does -/
structure CommandSpec (db db' : DocumentDb) (effect : DocumentEffect) : Prop where
  move : DocumentMove db db' effect
  announced : Announced effect.request db.outbox db'.outbox
  fresh : ∀ d, effect = .created d → NewDocumentId db d.id
  owned : Owned db'
  final : ∀ i q f, effect = .finalized i q f → f ≠ q

theorem getSubmission_congr {db db' : DocumentDb} (hs : db'.submissions = db.submissions)
    (he : db'.evidence = db.evidence) (w : WorkspaceId) (id : EvidenceSubmissionId) :
    db'.getSubmission w id = db.getSubmission w id := by
  unfold DocumentDb.getSubmission DocumentDb.getEvidence
  rw [hs, he]

theorem CommandSpec.same {db : DocumentDb} (ho : Owned db) : CommandSpec db db .unchanged where
  move := .unchanged rfl
  announced := rfl
  fresh := by simp
  owned := ho
  final := by simp

theorem Owned.housekept {db db' : DocumentDb} (ho : Owned db) (hk : Housekept db db') : Owned db' := by
  intro d hd sid did hid
  have hold := ho d (hk.documents ▸ hd) sid did hid
  unfold DocumentDb.getSubmission at hold ⊢
  rw [hk.submissions]
  intro hnone
  apply hold
  rw [Option.filter_eq_none_iff] at hnone ⊢
  intro sub hsub hc
  apply hnone sub hsub
  unfold DocumentDb.getEvidence at hc ⊢
  obtain ⟨item, hitem⟩ := Option.isSome_iff_exists.mp hc
  rw [Option.filter_eq_some_iff] at hitem
  rw [Option.isSome_iff_exists]
  exact ⟨item, Option.filter_eq_some_iff.mpr ⟨hk.evidence _ _ hitem.1, hitem.2⟩⟩

/-- a move of one document keeps the submissions of all -/
theorem owned_moved {db db' : DocumentDb} {d d' : Document} (ho : Owned db) (hm : Moved db db' d d')
    (hi : d'.identity = d.identity) (hw : d'.workspaceId = d.workspaceId)
    (hs : db'.submissions = db.submissions) (he : db'.evidence = db.evidence) : Owned db' := by
  intro x hx sid did hid
  rw [getSubmission_congr hs he]
  rw [hm.documents] at hx
  rcases Table.mem_upsert.mp hx with rfl | ⟨hx, -⟩
  · have hid' : d.identity = .evidence sid did := hi ▸ hid
    have := ho d hm.mem sid did hid'
    rw [← hw] at this
    exact this
  · exact ho x hx sid did hid

/-- a new submission of the workspace, with its document -/
theorem owned_submitted {db db' : DocumentDb} {d : Document} {s : EvidenceSubmission}
    (ho : Owned db) (hnone : db.getSubmission d.workspaceId s.id = none)
    (hown : OwnSubmission db s.id d.workspaceId)
    (he : db.getEvidence d.workspaceId s.evidenceId ≠ none)
    (hid : d.identity.owner = .evidenceSubmission s.id)
    (hdocs : db'.documents = db.documents.upsert d.toRow)
    (hsubs : db'.submissions = db.submissions.upsert s.toRow)
    (hev : db'.evidence = db.evidence) : Owned db' := by
  have hnew : db.submissions.get? s.id = none := by
    cases hg : db.submissions.get? s.id with
    | none => rfl
    | some x =>
      rw [hown x hg] at hnone
      cases hnone
  have hkey : EvidenceSubmission.id s.toRow = s.id := rfl
  intro x hx sid did hxi
  rw [hdocs] at hx
  rcases Table.mem_upsert.mp hx with rfl | ⟨hx, -⟩
  · have hsid : sid = s.id := by
      have howner : d.identity.owner = .evidenceSubmission sid := by
        have hd : d.identity = .evidence sid did := hxi
        rw [hd]
        rfl
      rw [hid] at howner
      cases howner
      rfl
    subst hsid
    intro hc
    unfold DocumentDb.getSubmission at hc
    rw [hsubs, ← hkey, Table.get?_upsert_self] at hc
    apply he
    have hw : d.toRow.workspaceId = d.workspaceId := rfl
    have hse : s.toRow.evidenceId = s.evidenceId := rfl
    unfold DocumentDb.getEvidence at hc ⊢
    rw [hev, hw] at hc
    rw [Option.filter_eq_none_iff] at hc
    have hno := hc s.toRow rfl
    rw [hse] at hno
    exact Option.not_isSome_iff_eq_none.mp hno
  · have hold := ho x hx sid did hxi
    have hne : s.id ≠ sid := by
      rintro rfl
      apply hold
      unfold DocumentDb.getSubmission
      rw [hnew]
      rfl
    intro hc
    apply hold
    unfold DocumentDb.getSubmission DocumentDb.getEvidence at hc ⊢
    rw [hsubs, hev, Table.get?_upsert_of_ne db.submissions (hkey ▸ hne)] at hc
    exact hc

section
variable {s : LifecycleState} {db' : DocumentDb} {effect : DocumentEffect}
  {metadata : ExecutionMetadata} {messageId : Uuid} {commits : Bool}

attribute [local simp] DocumentCommand.handle

theorem createEvidence_spec {c : CreateEvidenceSubmissionDocument} (ho : Owned s.db)
    (hd : Drawn s (.command (.createEvidenceSubmissionDocument c) metadata messageId commits))
    (h : DocumentCommand.handle s.db metadata messageId (.createEvidenceSubmissionDocument c)
      = .ok (effect, db')) : CommandSpec s.db db' effect := by
  obtain ⟨hdoc, hsub⟩ := hd
  simp only [DocumentCommand.handle] at h
  split at h
  · cases h
  · next d db1 hr =>
    cases h
    rcases createEvidenceSubmissionDocument_ok hr with ⟨x, hx, -⟩ | ⟨x, sub, hx, hnew, hevidence,
      hnone, hs, -, hdb, hout⟩
    · cases hx
    · cases hx
      have hid : d.identity = .evidence c.submissionId c.documentId := by
        rw [hnew]
        rfl
      have hw : d.workspaceId = c.connection.workspaceId := by
        rw [hnew]
        rfl
      have hsid : sub.id = c.submissionId := by
        rw [hs]
        rfl
      have hse : sub.evidenceId = c.evidenceId := by
        rw [hs]
        rfl
      refine ⟨.created d (by rw [hnew]; rfl) (by rw [hnew]; rfl) (by rw [hdb]), hout, ?_, ?_, by simp⟩
      · rintro x hx y hy hxy
        cases hx
        -- the id is stored: then it is the command's own document, and its submission exists
        obtain ⟨hyi, hyw⟩ := hdoc y hy (by rw [hxy]; unfold Document.id; rw [hid])
        have := ho y hy c.submissionId c.documentId hyi
        rw [hyw] at this
        exact this hnone
      · refine owned_submitted (d := d) (s := sub) ho (by rw [hw, hsid]; exact hnone)
          (by rw [hw, hsid]; exact hsub) (by rw [hw, hse]; exact hevidence) (by rw [hid, hsid]; rfl)
          ?_ ?_ ?_
        · rw [hdb]
        · rw [hdb]
        · rw [hdb]
  · next outcome db1 hne hr =>
    cases h
    rcases createEvidenceSubmissionDocument_ok hr with ⟨x, -, hdb⟩ | ⟨x, sub, hx, -⟩
    · rw [hdb]
      exact .same ho
    · exact absurd hx (hne x)

/-- a creation that stores a document for a policy -/
theorem policyCreated_spec {d : Document} {policyId : PolicyId} {documentId : DocumentId}
    {db db' : DocumentDb} (ho : Owned db) (hnew : NewDocumentId db d.id)
    (hid : d.identity = .policy policyId documentId) (hstatus : d.uploadStatus = .pendingUpload)
    (ha : d.archived = false) (hdocs : db'.documents = db.documents.upsert d.toRow)
    (hsubs : db'.submissions = db.submissions) (hev : db'.evidence = db.evidence)
    (hout : Announced (some (.scanRequested d.identity d.objectKey)) db.outbox db'.outbox) :
    CommandSpec db db' (.created d) := by
  refine ⟨.created d hstatus ha hdocs, hout, ?_, ?_, by simp⟩
  · rintro x hx
    cases hx
    exact hnew
  · intro x hx sid did hxi
    rw [getSubmission_congr hsubs hev]
    rw [hdocs] at hx
    rcases Table.mem_upsert.mp hx with rfl | ⟨hx, -⟩
    · have hd : d.identity = .evidence sid did := hxi
      rw [hid] at hd
      cases hd
    · exact ho x hx sid did hxi

theorem createPolicy_spec {c : CreatePolicyDocument} (ho : Owned s.db)
    (hd : Drawn s (.command (.createPolicyDocument c) metadata messageId commits))
    (h : DocumentCommand.handle s.db metadata messageId (.createPolicyDocument c)
      = .ok (effect, db')) : CommandSpec s.db db' effect := by
  simp only [DocumentCommand.handle] at h
  split at h
  · cases h
  · next d db1 hr =>
    cases h
    rcases createPolicyDocument_ok hr with ⟨hne, -⟩ | ⟨x, hx, hnew, hnone, -, -, hdb, hout⟩
    · exact absurd rfl (hne d)
    · cases hx
      have hid : d.identity = .policy c.policyId c.documentId := by
        rw [hnew]
        rfl
      refine policyCreated_spec ho ?_ hid (by rw [hnew]; rfl) (by rw [hnew]; rfl) (by rw [hdb])
        (by rw [hdb]) (by rw [hdb]) hout
      intro y hy hxy
      have hyid : y.id = c.documentId := by
        rw [hxy]
        unfold Document.id
        rw [hid]
        rfl
      obtain ⟨hyi, hyw⟩ := hd y hy hyid
      have hget : s.db.getWorkspaceDocument c.connection.workspaceId c.documentId
          (.policy c.policyId) = some y := by
        rw [DocumentDb.getWorkspaceDocument_eq_some, DocumentDb.getDocument_eq_some]
        refine ⟨⟨hy, hyid, ?_⟩, hyw⟩
        unfold Document.owner
        rw [hyi]
        rfl
      rw [hnone] at hget
      cases hget
  · next outcome db1 hne hr =>
    cases h
    rcases createPolicyDocument_ok hr with ⟨-, hdb⟩ | ⟨x, hx, -⟩
    · rw [hdb]
      exact .same ho
    · exact absurd hx (hne x)

theorem completeEvidence_spec {c : CompleteAgentEvidenceUpload} (ho : Owned s.db)
    (hd : Drawn s (.command (.completeAgentEvidenceUpload c) metadata messageId commits))
    (h : DocumentCommand.handle s.db metadata messageId (.completeAgentEvidenceUpload c)
      = .ok (effect, db')) : CommandSpec s.db db' effect := by
  obtain ⟨hdoc, hsub⟩ := hd
  simp only [DocumentCommand.handle] at h
  split at h
  · cases h
  · next sid d db1 hr =>
    cases h
    rcases completeAgentEvidenceUpload_ok hr with ⟨hx, -⟩ | ⟨g, -, -, hstaged, -, ⟨x, -, hx, -⟩ |
      ⟨x, sub, g', -, hx, hnew, hs, -, -, -, hevidence, hnone, -, hdb, hout⟩⟩
    · cases hx
    · cases hx
    · cases hx
      have hid : d.identity = .evidence g.submissionId c.documentId := by
        rw [hnew]
        rfl
      have hw : d.workspaceId = c.grant.workspaceId := by
        rw [hnew]
        rfl
      have hsid : sub.id = g.submissionId := by
        rw [hs]
        rfl
      have hse : sub.evidenceId = g.evidenceId := by
        rw [hs]
        rfl
      refine ⟨.created d (by rw [hnew]; rfl) (by rw [hnew]; rfl) (by rw [hdb]), hout, ?_, ?_, by simp⟩
      · rintro x hx
        cases hx
        unfold Document.id
        rw [hid]
        exact hdoc
      · refine owned_submitted (d := d) (s := sub) ho ?_ (by rw [hw, hsid, ← hstaged]; exact hsub)
          (by rw [hw, hse]; exact hevidence) (by rw [hid, hsid]; rfl) ?_ ?_ ?_
        · rw [hw, hsid]
          exact Option.isNone_iff_eq_none.mp (by simpa [DocumentDb.submissionExists] using hnone)
        · rw [hdb]
        · rw [hdb]
        · rw [hdb]
  · next outcome db1 hne hr =>
    cases h
    rcases completeAgentEvidenceUpload_ok hr with ⟨-, hdb⟩ | ⟨g, -, -, -, -, ⟨x, -, -, hdb⟩ |
      ⟨x, sub, g', -, hx, -⟩⟩
    · rw [hdb]
      exact .same ho
    · rw [hdb]
      exact .same ho
    · exact absurd hx (hne _ x)

theorem completePolicy_spec {c : CompleteAgentPolicyDocumentUpload} (ho : Owned s.db)
    (hd : Drawn s (.command (.completeAgentPolicyDocumentUpload c) metadata messageId commits))
    (h : DocumentCommand.handle s.db metadata messageId (.completeAgentPolicyDocumentUpload c)
      = .ok (effect, db')) : CommandSpec s.db db' effect := by
  simp only [DocumentCommand.handle] at h
  split at h
  · cases h
  · next d db1 hr =>
    cases h
    rcases completeAgentPolicyDocumentUpload_ok hr with ⟨hx | hx, -⟩ | ⟨g, -, -, -, ⟨x, -, hx, -⟩ |
      ⟨x, g', -, hx, hnew, -, -, -, -, -, hdb, hout⟩⟩
    · cases hx
    · cases hx
    · cases hx
    · cases hx
      have hid : d.identity = .policy g.policyId c.documentId := by
        rw [hnew]
        rfl
      refine policyCreated_spec ho ?_ hid (by rw [hnew]; rfl) (by rw [hnew]; rfl) (by rw [hdb])
        (by rw [hdb]) (by rw [hdb]) hout
      unfold Document.id
      rw [hid]
      exact hd
  · next outcome db1 hne hr =>
    cases h
    rcases completeAgentPolicyDocumentUpload_ok hr with ⟨-, hdb⟩ | ⟨g, -, -, -, ⟨x, -, -, hdb⟩ |
      ⟨x, g', -, hx, -⟩⟩
    · rw [hdb]
      exact .same ho
    · rw [hdb]
      exact .same ho
    · exact absurd hx (hne x)

/-- a scan, a finalization or an archiving keeps the submissions of all documents -/
theorem owned_of_move {db db' : DocumentDb} (ho : Owned db) (hm : DocumentMove db db' effect)
    (hnot : ∀ d, effect ≠ .created d) (hs : db'.submissions = db.submissions)
    (he : db'.evidence = db.evidence) : Owned db' := by
  cases hm with
  | unchanged hd =>
    intro x hx sid did hid
    rw [getSubmission_congr hs he]
    exact ho x (hd ▸ hx) sid did hid
  | created d => exact absurd rfl (hnot d)
  | scanned d result ha hstatus hm => exact owned_moved ho hm rfl rfl hs he
  | finalized d key ha hstatus hm => exact owned_moved ho hm rfl rfl hs he
  | archived d ha ht hm => exact owned_moved ho hm rfl rfl hs he

theorem scan_spec {c : ScanDocument} (ho : Owned s.db)
    (h : DocumentCommand.handle s.db metadata messageId (.scan c) = .ok (effect, db')) :
    CommandSpec s.db db' effect := by
  simp only [DocumentCommand.handle] at h
  split at h
  · cases h
  · next db1 hr =>
    cases h
    rcases scanDocument_ok hr with ⟨hx, -⟩ | ⟨-, hmove, hout, hdb⟩
    · exact absurd rfl hx
    · exact ⟨hmove, hout, by simp, owned_of_move ho hmove (by simp) (by rw [hdb]) (by rw [hdb]),
        by simp⟩
  · next outcome db1 hne hr =>
    cases h
    rcases scanDocument_ok hr with ⟨-, hdb⟩ | ⟨hx, -⟩
    · rw [hdb]
      exact .same ho
    · exact absurd hx hne

theorem finalize_spec {c : FinalizeDocument} (ho : Owned s.db)
    (hd : Drawn s (.command (.finalize c) metadata messageId commits))
    (h : DocumentCommand.handle s.db metadata messageId (.finalize c) = .ok (effect, db')) :
    CommandSpec s.db db' effect := by
  simp only [DocumentCommand.handle] at h
  split at h
  · cases h
  · next db1 hr =>
    cases h
    rcases finalizeDocument_ok hr with ⟨hx, -⟩ | ⟨-, hmove, hdb⟩
    · exact absurd rfl hx
    · refine ⟨hmove, ?_, by simp, owned_of_move ho hmove (by simp) (by rw [hdb]) (by rw [hdb]), ?_⟩
      · rw [hdb]
        rfl
      · rintro i q f hf
        cases hf
        exact hd
  · next outcome db1 hne hr =>
    cases h
    rcases finalizeDocument_ok hr with ⟨-, hdb⟩ | ⟨hx, -⟩
    · rw [hdb]
      exact .same ho
    · exact absurd hx hne

theorem archive_spec {c : ArchiveDocument} (ho : Owned s.db)
    (h : DocumentCommand.handle s.db metadata messageId (.archive c) = .ok (effect, db')) :
    CommandSpec s.db db' effect := by
  simp only [DocumentCommand.handle] at h
  split at h
  · cases h
  · next db1 hr =>
    cases h
    rcases archiveDocument_ok hr with ⟨hx, -⟩ | ⟨-, hmove, hdb⟩
    · exact absurd rfl hx
    · refine ⟨hmove, ?_, by simp, owned_of_move ho hmove (by simp) (by rw [hdb]) (by rw [hdb]),
        by simp⟩
      rw [hdb]
      rfl
  · next outcome db1 hne hr =>
    cases h
    rcases archiveDocument_ok hr with ⟨-, hdb⟩ | ⟨hx, -⟩
    · rw [hdb]
      exact .same ho
    · exact absurd hx hne

/-- **What any of the seven commands does.** -/
theorem command_spec {c : DocumentCommand} (ho : Owned s.db)
    (hd : Drawn s (.command c metadata messageId commits))
    (h : c.handle s.db metadata messageId = .ok (effect, db')) : CommandSpec s.db db' effect := by
  cases c with
  | createEvidenceSubmissionDocument c => exact createEvidence_spec ho hd h
  | createPolicyDocument c => exact createPolicy_spec ho hd h
  | completeAgentEvidenceUpload c => exact completeEvidence_spec ho hd h
  | completeAgentPolicyDocumentUpload c => exact completePolicy_spec ho hd h
  | scan c => exact scan_spec ho h
  | finalize c => exact finalize_spec ho hd h
  | archive c => exact archive_spec ho h

end

end Proofplane
