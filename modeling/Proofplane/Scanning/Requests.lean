import Proofplane.Scanning.Pipeline

/-!
# Requests and the documents that wait for them

A document that is not at its end waits for the scanner or for its promotion: for a row of the outbox that
was committed for it in the transaction that made it wait.

* `Asking`, `Carries`     a row that asks for a request, a message that the worker reads as one;
                          `Carries.eq`: it is the same request;
* `Document.awaits`       the request that a document waits for;
* `scanDocument_over`, `finalizeDocument_over`   after a unit of work that succeeded the document does not
                          wait any more;
* `DocumentsFit`          owners are there, and only documents at their end are archived;
* `Waiting`               every document that waits has its message outstanding;
* `Waiting.applied`, `Waiting.acknowledge`   steps of the application, and answers of handlers, keep that.
-/

namespace Proofplane
open Base

/-! ## Requests and rows -/

/-- the row was appended for this request -/
def Asking (r : WorkRequest) (row : OutboxMessage) : Prop :=
  ∃ topic correlationId causationId messageId id now,
    row = outboxRow ⟨topic, r.message correlationId causationId messageId⟩ id now

/-- the worker makes of the row the request that it was appended for -/
theorem Asking.delivered {r : WorkRequest} {row : OutboxMessage} (h : Asking r row) (hr : r.WellFormed)
    (pushId : String) (attempt : Option Int) :
    ∃ m, decodeData (outboundMessage row).data pushId attempt = .ok m ∧
      ∃ correlationId, Delivered r correlationId m := by
  obtain ⟨topic, correlationId, causationId, messageId, id, now, rfl⟩ := h
  obtain ⟨m, hm, hdelivered⟩ := decodeData_typed hr (.refl _) pushId attempt
  exact ⟨m, hm, correlationId, hdelivered⟩

/-- what the worker has made of the row -/
theorem Asking.decoded {r : WorkRequest} {row : OutboxMessage} (h : Asking r row) (hr : r.WellFormed)
    {pushId : String} {attempt : Option Int} {m : WorkerMessage}
    (hm : decodeData (outboundMessage row).data pushId attempt = .ok m) :
    dispatch m = some r.handler ∧ r.Recovered m := by
  obtain ⟨m', hm', _, hdelivered⟩ := h.delivered hr pushId attempt
  have hsame : m = m' := Except.ok.inj (hm.symm.trans hm')
  subst hsame
  exact ⟨hdelivered.handler, hdelivered.recovered⟩

/-- the worker reads the message as this request -/
def Carries (data : Json) (r : WorkRequest) : Prop :=
  ∃ pushId attempt m, decodeData data pushId attempt = .ok m ∧ dispatch m = some r.handler ∧ r.Recovered m

/-- **The worker reads a row as the request that it was appended for, and as no other.** -/
theorem Carries.eq {r r' : WorkRequest} {row : OutboxMessage} (h : Carries (outboundMessage row).data r)
    (hask : Asking r' row) (hr' : r'.WellFormed) : r = r' := by
  obtain ⟨pushId, attempt, m, hm, hhandler, hrecovered⟩ := h
  obtain ⟨hhandler', hrecovered'⟩ := hask.decoded hr' hm
  have hhandlers : r.handler = r'.handler := Option.some.inj (hhandler.symm.trans hhandler')
  cases r with
  | scan identity key =>
    cases r' with
    | scan identity' key' =>
      obtain ⟨rfl, rfl⟩ := Prod.mk.inj (Except.ok.inj (hrecovered.symm.trans hrecovered'))
      rfl
    | finalize identity' key' => cases hhandlers
    | invite invitationId' generation' => cases hhandlers
  | finalize identity key =>
    cases r' with
    | scan identity' key' => cases hhandlers
    | finalize identity' key' =>
      obtain ⟨rfl, rfl⟩ := Prod.mk.inj (Option.some.inj (hrecovered.symm.trans hrecovered'))
      rfl
    | invite invitationId' generation' => cases hhandlers
  | invite invitationId generation =>
    cases r' with
    | scan identity' key' => cases hhandlers
    | finalize identity' key' => cases hhandlers
    | invite invitationId' generation' =>
      cases Option.some.inj (hrecovered.symm.trans hrecovered')
      rfl

/-- the request that a document waits for -/
def Document.awaits (d : Document) (r : WorkRequest) : Prop :=
  ∃ key : ObjectKey, key.text = d.objectKey ∧
    (d.uploadStatus = .pendingUpload ∧ r = .scan d.identity key ∨
      d.uploadStatus = .finalizing ∧ r = .finalize d.identity key)

theorem Document.awaits.wellFormed {d : Document} {r : WorkRequest} (h : d.awaits r) : r.WellFormed := by
  obtain ⟨key, -, ⟨-, rfl⟩ | ⟨-, rfl⟩⟩ := h
  · exact trivial
  · exact trivial

theorem Document.awaits.scan {d : Document} {identity : DocumentIdentity} {key : ObjectKey}
    (h : d.awaits (.scan identity key)) :
    d.identity = identity ∧ d.objectKey = key.text ∧ d.uploadStatus = .pendingUpload := by
  obtain ⟨_, hkey, ⟨hst, hr⟩ | ⟨-, hr⟩⟩ := h
  · cases hr
    exact ⟨rfl, hkey.symm, hst⟩
  · cases hr

theorem Document.awaits.finalize {d : Document} {identity : DocumentIdentity} {key : ObjectKey}
    (h : d.awaits (.finalize identity key)) :
    d.identity = identity ∧ d.objectKey = key.text ∧ d.uploadStatus = .finalizing := by
  obtain ⟨_, hkey, ⟨-, hr⟩ | ⟨hst, hr⟩⟩ := h
  · cases hr
  · cases hr
    exact ⟨rfl, hkey.symm, hst⟩

theorem terminal_iff {d : Document} :
    d.terminal = false ↔ d.uploadStatus = .pendingUpload ∨ d.uploadStatus = .finalizing := by
  unfold Document.terminal
  cases d.uploadStatus with
  | pendingUpload => simp
  | finalizing => simp
  | uploaded => simp
  | containsVirus => simp
  | failedUpload => simp

/-- two typed rows with one text have one message id -/
theorem messageId_of_data {row row' : OutboxMessage} (hrow : row.messageVersion ≠ 0)
    (hrow' : row'.messageVersion ≠ 0) (h : (outboundMessage row).data = (outboundMessage row').data) :
    row.messageId = row'.messageId := by
  unfold outboundMessage at h
  rw [if_neg hrow, if_neg hrow'] at h
  simp only [Json.obj.injEq, List.cons.injEq, Prod.mk.injEq, true_and] at h
  obtain ⟨-, -, -, hid, -⟩ := h
  exact Uuid.text_injective (Json.str.inj hid)

/-! ## Units of work that succeed -/

section
variable {db db' : DocumentDb} {metadata : ExecutionMetadata} {messageId : Uuid}

theorem getDocument_stored {d : Document} {identity : DocumentIdentity} (hd : d ∈ db.documents.rows)
    (hid : d.identity = identity) : db.getDocument identity.documentId identity.owner = some d := by
  rw [DocumentDb.getDocument_eq_some]
  subst hid
  exact ⟨hd, rfl, rfl⟩

/-- a waiting document is moved by a result of its scan -/
theorem scanned_changes {d : Document} (ha : d.archived = false) (hst : d.uploadStatus = .pendingUpload)
    (result : ScanDocumentResult) : d.scanned result ≠ (d, .ignored) := by
  have hmoves : ∀ next event, d.transition .pendingUpload next event ≠ (d, .ignored) := by
    intro next event h
    unfold Document.transition at h
    rw [if_neg (by simp [ha, hst])] at h
    cases (Prod.mk.inj h).2
  cases result with
  | clean => exact hmoves _ _
  | malicious => exact hmoves _ _
  | failed => exact hmoves _ _

theorem finalized_changes {d : Document} (ha : d.archived = false) (hst : d.uploadStatus = .finalizing)
    (key : String) : d.finalizeUploaded key ≠ (d, .ignored) := by
  intro h
  unfold Document.finalizeUploaded at h
  rw [if_neg (by simp [ha, hst])] at h
  cases (Prod.mk.inj h).2

theorem scanned_status {identity : DocumentIdentity} {key : String} {result : ScanDocumentResult}
    (h : DocumentMove db db' (.scanned identity key result)) {d : Document} (hd : d ∈ db'.documents.rows)
    (hid : d.identity = identity) : d.uploadStatus = result.status := by
  cases h with
  | scanned d0 result ha0 hst0 hm =>
    rw [hm.documents] at hd
    rcases Table.mem_upsert.mp hd with rfl | ⟨hdm, hne⟩
    · rfl
    · exact absurd (congrArg DocumentIdentity.documentId hid) hne

theorem finalized_status {identity : DocumentIdentity} {key finalKey : String}
    (h : DocumentMove db db' (.finalized identity key finalKey)) {d : Document} (hd : d ∈ db'.documents.rows)
    (hid : d.identity = identity) : d.uploadStatus = .uploaded := by
  cases h with
  | finalized d0 finalKey ha0 hst0 hm =>
    rw [hm.documents] at hd
    rcases Table.mem_upsert.mp hd with rfl | ⟨hdm, hne⟩
    · rfl
    · exact absurd (congrArg DocumentIdentity.documentId hid) hne

/-- **After a scan was recorded its document does not wait for it any more.** -/
theorem scanDocument_over {command : ScanDocument} {outcome : DocumentCommandOutcome}
    (h : scanDocument db metadata messageId command = .ok (outcome, db')) {d : Document}
    (hd : d ∈ db'.documents.rows) (hid : d.identity = command.identity) (hkey : d.objectKey = command.objectKey)
    (ha : d.archived = false) : d.uploadStatus ≠ .pendingUpload := by
  intro hst
  rcases scanDocument_ok h with ⟨hout, rfl⟩ | ⟨-, hmove, -, -⟩
  · -- nothing has happened, although the document was there and waited
    unfold scanDocument at h
    rw [getDocument_stored hd hid] at h
    dsimp only at h
    rw [if_neg (not_not.mpr hkey)] at h
    rcases d.scanned_cases command.result with hs | ⟨-, -, hs⟩
    · exact scanned_changes ha hst _ hs
    · rw [hs] at h
      dsimp only at h
      rw [if_pos (by rfl)] at h
      split at h
      · cases h
      · cases h
        exact hout rfl
  · rw [scanned_status hmove hd hid] at hst
    cases hr : command.result with
    | clean => rw [hr] at hst; cases hst
    | malicious => rw [hr] at hst; cases hst
    | failed => rw [hr] at hst; cases hst

/-- **After a finalization was recorded its document does not wait for it any more.** -/
theorem finalizeDocument_over {command : FinalizeDocument} {outcome : DocumentCommandOutcome}
    (h : finalizeDocument db command = .ok (outcome, db')) {d : Document} (hd : d ∈ db'.documents.rows)
    (hid : d.identity = command.identity) (hkey : d.objectKey = command.quarantineObjectKey)
    (ha : d.archived = false) : d.uploadStatus ≠ .finalizing := by
  intro hst
  rcases finalizeDocument_ok h with ⟨hout, rfl⟩ | ⟨-, hmove, -⟩
  · unfold finalizeDocument at h
    rw [getDocument_stored hd hid] at h
    dsimp only at h
    rw [if_neg (not_not.mpr hkey)] at h
    rcases d.finalizeUploaded_cases command.finalObjectKey with hs | ⟨-, -, hs⟩
    · exact finalized_changes ha hst _ hs
    · rw [hs] at h
      dsimp only at h
      rw [if_pos (by rfl)] at h
      split at h
      · cases h
      · cases h
        exact hout rfl
  · rw [finalized_status hmove hd hid] at hst
    cases hst

end

/-! ## What holds of all documents -/

/-- owners are there, and only documents at their end are archived -/
structure DocumentsFit (db : DocumentDb) : Prop where
  owners : ∀ d ∈ db.documents.rows, ∀ id, d.owner = .policy id → (db.policies.get? id).isSome = true
  live : ∀ d ∈ db.documents.rows, d.terminal = false → d.archived = false

section
variable {db db' : DocumentDb}

theorem DocumentsFit.kept (h : DocumentsFit db) (hdocs : db'.documents = db.documents)
    (hp : PoliciesKept db db') : DocumentsFit db' := by
  refine ⟨?_, ?_⟩
  · rw [hdocs]
    exact fun d hd id howner => hp.present id (h.owners d hd id howner)
  · rw [hdocs]
    exact h.live

/-- a document is added, or replaced -/
theorem DocumentsFit.upsert {d : Document} (h : DocumentsFit db) (hp : db'.policies = db.policies)
    (hdocs : db'.documents = db.documents.upsert d)
    (howner : ∀ id, d.owner = .policy id → (db.policies.get? id).isSome = true)
    (hlive : d.terminal = false → d.archived = false) : DocumentsFit db' := by
  refine ⟨?_, ?_⟩
  · rw [hdocs, hp]
    intro x hx
    rcases Table.mem_upsert.mp hx with rfl | ⟨hxm, -⟩
    · exact howner
    · exact h.owners x hxm
  · rw [hdocs]
    intro x hx
    rcases Table.mem_upsert.mp hx with rfl | ⟨hxm, -⟩
    · exact hlive
    · exact h.live x hxm

theorem DocumentsFit.applied (h : DocumentsFit db) (ha : Applied db db') : DocumentsFit db' := by
  cases ha with
  | kept hdocs hout hp => exact h.kept hdocs hp
  | moved effect hm hp hout howner =>
    cases hm with
    | unchanged hd => exact h.kept hd (policiesKept_of_eq hp)
    | created d hstatus ha hd => exact h.upsert hp hd (howner d rfl) fun _ => ha
    | scanned d result ha hstatus hm => exact h.upsert hp hm.documents (h.owners d hm.mem) fun _ => ha
    | finalized d finalKey ha hstatus hm => exact h.upsert hp hm.documents (h.owners d hm.mem) fun _ => ha
    | archived d ha hterminal hm =>
      refine h.upsert hp hm.documents (h.owners d hm.mem) fun hnot => ?_
      rw [show ({ d with archived := true } : Document).toRow.terminal = d.terminal from rfl, hterminal] at hnot
      cases hnot

end

/-! ## What waits -/

/-- a message was committed for the request, and no handler has acknowledged it -/
def Outstanding (queue : OutboxWorld) (acknowledged : List Json) (r : WorkRequest) : Prop :=
  ∃ row ∈ queue.committed, Asking r row ∧ (outboundMessage row).data ∉ acknowledged

/-- every document that is not at its end, and whose owner is active, has its message outstanding -/
def Waiting (db : DocumentDb) (queue : OutboxWorld) (acknowledged : List Json) : Prop :=
  ∀ d ∈ db.documents.rows, d.terminal = false → db.ownerActive d = true →
    ∃ r, d.awaits r ∧ Outstanding queue acknowledged r

section
variable {db db' : DocumentDb} {queue queue' : OutboxWorld} {acknowledged : List Json}

theorem Outstanding.mono {r : WorkRequest} (h : Outstanding queue acknowledged r)
    (hqueue : ∀ row ∈ queue.committed, row ∈ queue'.committed) : Outstanding queue' acknowledged r := by
  obtain ⟨row, hrow, hrest⟩ := h
  exact ⟨row, hqueue row hrow, hrest⟩

/-- an answer to a message that nobody waits for -/
theorem Waiting.acknowledge (h : Waiting db queue acknowledged) {answered : Option Json}
    (hover : ∀ data, answered = some data → ∀ d ∈ db.documents.rows, d.terminal = false →
      db.ownerActive d = true → ∀ r row, d.awaits r → row ∈ queue.committed → Asking r row →
        (outboundMessage row).data ≠ data) :
    Waiting db queue (acknowledged ++ answered.toList) := by
  intro d hd hterminal hactive
  obtain ⟨r, hr, row, hrow, hask, hnot⟩ := h d hd hterminal hactive
  refine ⟨r, hr, row, hrow, hask, ?_⟩
  rw [List.mem_append, Option.mem_toList]
  rintro (hmem | hdata)
  · exact hnot hmem
  · exact hover _ hdata d hd hterminal hactive r row hr hrow hask rfl

/-- the message of a document that waits for its scan or its promotion -/
theorem asking_of_asks {message : NewOutboxMessage} {identity : DocumentIdentity} {key : ObjectKey} {id now : Int} :
    (Asks message (.scanRequested identity key.text) → Asking (.scan identity key) (outboxRow message id now)) ∧
      (Asks message (.finalizationRequested identity key.text) →
        Asking (.finalize identity key) (outboxRow message id now)) := by
  refine ⟨?_, ?_⟩
  · rintro ⟨metadata, messageId, hm⟩
    cases hm
    exact ⟨_, _, _, _, _, _, rfl⟩
  · rintro ⟨metadata, messageId, hm⟩
    cases hm
    exact ⟨_, _, _, _, _, _, rfl⟩

/-- **A step of the application**: a document that begins to wait has its message in the same transaction. -/
theorem Waiting.applied (h : Waiting db queue acknowledged) (hfit : DocumentsFit db) (ha : Applied db db')
    (hqueue : ∀ row ∈ queue.committed, row ∈ queue'.committed)
    (hnew : ∀ message ∈ appendedMessages db db', ∃ id now,
      outboxRow message id now ∈ queue'.committed ∧
        (outboundMessage (outboxRow message id now)).data ∉ acknowledged)
    (hkeys : ∀ d ∈ db'.documents.rows, d.terminal = false → ∃ key : ObjectKey, key.text = d.objectKey) :
    Waiting db' queue' acknowledged := by
  -- a document from before has its message from before
  have hold : ∀ d ∈ db.documents.rows, d.terminal = false → db.ownerActive d = true →
      ∃ r, d.awaits r ∧ Outstanding queue' acknowledged r := by
    intro d hd hterminal hactive
    obtain ⟨r, hr, hout⟩ := h d hd hterminal hactive
    exact ⟨r, hr, hout.mono hqueue⟩
  cases ha with
  | kept hdocs hout hp =>
    intro d hd hterminal hactive
    rw [hdocs] at hd
    exact hold d hd hterminal (hp.active d (hfit.owners d hd) hactive)
  | moved effect hm hp hout howner =>
    have hactive' : ∀ d, db'.ownerActive d = true → db.ownerActive d = true :=
      fun d => by
        unfold DocumentDb.ownerActive
        rw [hp]
        exact id
    -- the message of the effect
    have hmessage : ∀ event, effect.request = some event → ∃ message id now, Asks message event ∧
        outboxRow message id now ∈ queue'.committed ∧
          (outboundMessage (outboxRow message id now)).data ∉ acknowledged := by
      intro event hevent
      rw [hevent] at hout
      obtain ⟨message, hasks, houtbox⟩ := hout
      have hmem : message ∈ appendedMessages db db' := by
        unfold appendedMessages
        rw [houtbox, List.drop_left]
        exact List.mem_singleton.mpr rfl
      obtain ⟨id, now, hrow⟩ := hnew message hmem
      exact ⟨message, id, now, hasks, hrow⟩
    -- the documents are those from before, but for one
    have hrows : ∀ d', db'.documents = db.documents.upsert d' →
        (d' ∈ db'.documents.rows → d'.terminal = false →
          ∃ r, d'.awaits r ∧ Outstanding queue' acknowledged r) →
        Waiting db' queue' acknowledged := by
      intro d' hdocs hd' d hd hterminal hactive
      rcases Table.mem_upsert.mp (hdocs ▸ hd) with rfl | ⟨hdm, -⟩
      · exact hd' hd hterminal
      · exact hold d hdm hterminal (hactive' d hactive)
    cases hm with
    | unchanged hdocs =>
      intro d hd hterminal hactive
      rw [hdocs] at hd
      exact hold d hd hterminal (hactive' d hactive)
    | created d hstatus ha hdocs =>
      refine hrows _ hdocs fun hd hterminal => ?_
      obtain ⟨key, hkey⟩ := hkeys _ hd hterminal
      obtain ⟨message, id, now, hasks, hrow, hnot⟩ := hmessage _ rfl
      have hkey' : key.text = d.objectKey := hkey
      rw [← hkey'] at hasks
      exact ⟨.scan d.identity key, ⟨key, hkey, .inl ⟨hstatus, rfl⟩⟩, _, hrow, asking_of_asks.1 hasks, hnot⟩
    | scanned d result ha hstatus hm =>
      refine hrows _ hm.documents fun hd hterminal => ?_
      cases result with
      | clean =>
        obtain ⟨key, hkey⟩ := hkeys _ hd hterminal
        obtain ⟨message, id, now, hasks, hrow, hnot⟩ := hmessage _ rfl
        have hkey' : key.text = d.objectKey := hkey
        rw [← hkey'] at hasks
        exact ⟨.finalize d.identity key, ⟨key, hkey, .inr ⟨rfl, rfl⟩⟩, _, hrow, asking_of_asks.2 hasks, hnot⟩
      | malicious => cases hterminal
      | failed => cases hterminal
    | finalized d finalKey ha hstatus hm =>
      exact hrows _ hm.documents fun hd hterminal => nomatch hterminal
    | archived d ha hterminal hm =>
      refine hrows _ hm.documents fun hd hnot => ?_
      rw [show ({ d with archived := true } : Document).toRow.terminal = d.terminal from rfl, hterminal] at hnot
      cases hnot

end

end Proofplane
