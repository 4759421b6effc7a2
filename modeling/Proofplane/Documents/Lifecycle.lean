import Proofplane.Documents.Runs

/-!
# The lifecycle of a document over whole runs

* `Evolves`                 what one step can do to a stored document;
* `Document.path`           the effects that lead to a stored document, in order;
* `LifecycleInv`            **the effects on a document are its path, and the outbox holds one
                            message for each effect that asks for one**;
* `document_lifecycle`      the whole lifecycle, for every run.
-/

namespace Proofplane
open Base

/-! ## One step of one document -/

/-- the moves of the status -/
inductive StatusMove : DocumentUploadStatus → DocumentUploadStatus → Prop
  | clean : StatusMove .pendingUpload .finalizing
  | virus : StatusMove .pendingUpload .containsVirus
  | failed : StatusMove .pendingUpload .failedUpload

/-- what a step can do to a stored document: nothing once it is archived, else one move of its
status, its finalization under another key, or its archiving at the end -/
inductive Evolves (d : Document) : Document → Prop
  | same : Evolves d d
  | scanned (next : DocumentUploadStatus) (ha : d.archived = false)
      (h : StatusMove d.uploadStatus next) : Evolves d { d with uploadStatus := next }
  | finalized (key : String) (ha : d.archived = false) (h : d.uploadStatus = .finalizing)
      (hkey : key ≠ d.objectKey) :
      Evolves d { d with objectKey := key, uploadStatus := .uploaded }
  | archived (ha : d.archived = false) (h : d.terminal = true) :
      Evolves d { d with archived := true }

theorem statusMove_scan {d : Document} (h : d.uploadStatus = .pendingUpload)
    (result : ScanDocumentResult) : StatusMove d.uploadStatus result.status := by
  rw [h]
  cases result with
  | clean => exact .clean
  | malicious => exact .virus
  | failed => exact .failed

/-! ## The path of a document -/

def DocumentEffect.documentId? : DocumentEffect → Option DocumentId
  | .unchanged => none
  | .created d => some d.id
  | .scanned identity _ _ => some identity.documentId
  | .finalized identity _ _ => some identity.documentId
  | .archived identity => some identity.documentId

/-- the effects on one document -/
def effectsOn (id : DocumentId) (trace : List DocumentEffect) : List DocumentEffect :=
  trace.filter fun e => e.documentId? = some id

/-- the effects that lead from the creation of `d0` to `d` -/
def Document.path (d0 d : Document) : List DocumentEffect :=
  .created d0 ::
    (match d.uploadStatus with
      | .pendingUpload => []
      | .finalizing => [.scanned d.identity d0.objectKey .clean]
      | .uploaded =>
        [.scanned d.identity d0.objectKey .clean,
          .finalized d.identity d0.objectKey d.objectKey]
      | .containsVirus => [.scanned d.identity d0.objectKey .malicious]
      | .failedUpload => [.scanned d.identity d0.objectKey .failed]) ++
    if d.archived then [.archived d.identity] else []

/-- the stored document `d` was created as `d0`, and `trace` tells how it came to where it is -/
structure Document.Descends (trace : List DocumentEffect) (d0 d : Document) : Prop where
  /-- nothing but key, status and archiving ever changes -/
  same : d0.SameFile d
  staged : d.uploadStatus ≠ .uploaded → d.objectKey = d0.objectKey
  final : d.uploadStatus = .uploaded → d.objectKey ≠ d0.objectKey
  terminal : d.archived = true → d.terminal = true
  path : effectsOn d.id trace = d0.path d

/-- the state of a run -/
structure LifecycleInv (s : LifecycleState) : Prop where
  owned : Owned s.db
  descends : ∀ d ∈ s.db.documents.rows, ∃ d0, Document.Descends s.trace d0 d
  unborn : ∀ id, NewDocumentId s.db id → effectsOn id s.trace = []
  announced : List.Forall₂ Asks s.db.outbox (s.trace.filterMap DocumentEffect.request)

theorem Document.Descends.createdAt_eq {trace : List DocumentEffect} {d0 d : Document}
    (h : d0.Descends trace d) : pgTimestamp d.createdAt = d.createdAt := by
  rw [h.same]
  simp [Document.toRow]

/-- a move leaves the instant alone, so it stores the document as it is -/
theorem Document.Descends.toRow_eq {trace : List DocumentEffect} {d0 d : Document}
    (h : d0.Descends trace d) (key : String) (status : DocumentUploadStatus) (archived : Bool) :
    Document.toRow { d with objectKey := key, uploadStatus := status, archived := archived }
      = { d with objectKey := key, uploadStatus := status, archived := archived } := by
  simp [Document.toRow, h.createdAt_eq]

theorem effectsOn_append (id : DocumentId) (trace : List DocumentEffect) (e : DocumentEffect) :
    effectsOn id (trace ++ e.toList)
      = effectsOn id trace ++ if e.documentId? = some id then [e] else [] := by
  unfold effectsOn
  rw [List.filter_append]
  congr 1
  cases e with
  | unchanged => rfl
  | created d => simp [DocumentEffect.toList, List.filter_cons]
  | scanned i k r => simp [DocumentEffect.toList, List.filter_cons]
  | finalized i q f => simp [DocumentEffect.toList, List.filter_cons]
  | archived i => simp [DocumentEffect.toList, List.filter_cons]

/-- a document that an effect is not about goes on as it was -/
theorem Document.Descends.other {trace : List DocumentEffect} {d0 d : Document}
    (h : d0.Descends trace d) {e : DocumentEffect} (he : e.documentId? ≠ some d.id) :
    d0.Descends (trace ++ e.toList) d := by
  refine ⟨h.same, h.staged, h.final, h.terminal, ?_⟩
  rw [effectsOn_append, if_neg he, List.append_nil]
  exact h.path

/-- the document that an effect is about goes one step further on its path -/
theorem Document.Descends.next {trace : List DocumentEffect} {d0 d d' : Document}
    (h : d0.Descends trace d) {e : DocumentEffect} (he : e.documentId? = some d.id)
    (hid : d'.id = d.id) (hpath : d0.path d' = d0.path d ++ [e])
    (hsame : d' = { d with
      objectKey := d'.objectKey, uploadStatus := d'.uploadStatus, archived := d'.archived })
    (hstaged : d'.uploadStatus ≠ .uploaded → d'.objectKey = d0.objectKey)
    (hfinal : d'.uploadStatus = .uploaded → d'.objectKey ≠ d0.objectKey)
    (hterminal : d'.archived = true → d'.terminal = true) :
    d0.Descends (trace ++ e.toList) d' := by
  refine ⟨?_, hstaged, hfinal, hterminal, ?_⟩
  · rw [h.same] at hsame
    exact hsame
  · rw [hid, effectsOn_append, if_pos he, h.path, hpath]

/-! ## One step of a run -/

section
variable {s : LifecycleState} {db' : DocumentDb} {effect : DocumentEffect}

/-- where a stored document goes in a move of another one, or of none -/
theorem descends_moved {d d' : Document} (hi : LifecycleInv s) (hm : Moved s.db db' d d')
    (he : effect.documentId? = some d.id)
    (hd' : ∀ d0, Document.Descends s.trace d0 d →
      Document.Descends (s.trace ++ effect.toList) d0 d'.toRow) :
    ∀ x ∈ db'.documents.rows, ∃ d0, Document.Descends (s.trace ++ effect.toList) d0 x := by
  intro x hx
  rw [hm.documents] at hx
  rcases Table.mem_upsert.mp hx with rfl | ⟨hx, hne⟩
  · obtain ⟨d0, hd0⟩ := hi.descends d hm.mem
    exact ⟨d0, hd' d0 hd0⟩
  · obtain ⟨d0, hd0⟩ := hi.descends x hx
    refine ⟨d0, hd0.other ?_⟩
    rw [he]
    intro hc
    apply hne
    rw [Document.toRow_id, hm.id_eq]
    exact (Option.some.inj hc).symm

theorem descends_command (hi : LifecycleInv s) (hc : CommandSpec s.db db' effect) :
    ∀ x ∈ db'.documents.rows, ∃ d0, Document.Descends (s.trace ++ effect.toList) d0 x := by
  have hmove := hc.move
  cases hmove with
  | unchanged hd =>
    intro x hx
    rw [hd] at hx
    obtain ⟨d0, hd0⟩ := hi.descends x hx
    exact ⟨d0, hd0.other (by simp [DocumentEffect.documentId?])⟩
  | created d hstatus ha hd =>
    have hnew := hc.fresh d rfl
    intro x hx
    rw [hd] at hx
    rcases Table.mem_upsert.mp hx with rfl | ⟨hx, hne⟩
    · refine ⟨d, rfl, fun _ => rfl, ?_, ?_, ?_⟩
      · intro hc
        have : d.uploadStatus = .uploaded := hc
        rw [hstatus] at this
        cases this
      · intro hc
        have : d.archived = true := hc
        rw [ha] at this
        cases this
      · have hstatus' : d.toRow.uploadStatus = .pendingUpload := hstatus
        have ha' : d.toRow.archived = false := ha
        rw [effectsOn_append, Document.toRow_id, hi.unborn d.id hnew]
        simp [Document.path, hstatus', ha', DocumentEffect.documentId?]
    · obtain ⟨d0, hd0⟩ := hi.descends x hx
      refine ⟨d0, hd0.other ?_⟩
      intro hc
      apply hne
      exact (Option.some.inj hc).symm
  | scanned d result ha hstatus hm =>
    refine descends_moved hi hm rfl ?_
    intro d0 hd0
    have hkey : d.objectKey = d0.objectKey := hd0.staged (by rw [hstatus]; decide)
    rw [hd0.toRow_eq d.objectKey result.status d.archived]
    refine hd0.next rfl rfl ?_ rfl (fun _ => hkey) ?_ ?_
    · cases result with
      | clean => simp [Document.path, hstatus, ha, hkey, ScanDocumentResult.status]
      | malicious => simp [Document.path, hstatus, ha, hkey, ScanDocumentResult.status]
      | failed => simp [Document.path, hstatus, ha, hkey, ScanDocumentResult.status]
    · cases result <;> simp [ScanDocumentResult.status]
    · simp [ha]
  | finalized d key ha hstatus hm =>
    refine descends_moved hi hm rfl ?_
    intro d0 hd0
    have hkey : d.objectKey = d0.objectKey := hd0.staged (by rw [hstatus]; decide)
    have hne : key ≠ d.objectKey := hc.final d.identity d.objectKey key rfl
    rw [hd0.toRow_eq key .uploaded d.archived]
    refine hd0.next rfl rfl ?_ rfl ?_ (fun _ => hkey ▸ hne) ?_
    · simp [Document.path, hstatus, ha, hkey]
    · simp
    · simp [ha]
  | archived d ha ht hm =>
    refine descends_moved hi hm rfl ?_
    intro d0 hd0
    rw [hd0.toRow_eq d.objectKey d.uploadStatus true]
    refine hd0.next rfl rfl ?_ rfl hd0.staged hd0.final (fun _ => ht)
    simp [Document.path, ha]

/-- an effect is about a stored document afterwards -/
theorem mem_of_effect (hc : CommandSpec s.db db' effect) {id : DocumentId}
    (he : effect.documentId? = some id) : ¬ NewDocumentId db' id := by
  have hstored : ∀ d : Document, db'.documents = s.db.documents.upsert d.toRow →
      some d.id = some id → ¬ NewDocumentId db' id := by
    intro d hd hid hnew
    refine hnew d.toRow ?_ (Option.some.inj hid)
    rw [hd]
    exact Table.mem_upsert.mpr (.inl rfl)
  have hmove := hc.move
  cases hmove with
  | unchanged hd => cases he
  | created d hstatus ha hd => exact hstored d hd he
  | scanned d result ha hstatus hm => exact hstored _ hm.documents he
  | finalized d key ha hstatus hm => exact hstored _ hm.documents he
  | archived d ha ht hm => exact hstored _ hm.documents he

/-- no command removes a document -/
theorem stored_of_stored (hc : CommandSpec s.db db' effect) {id : DocumentId}
    (h : NewDocumentId db' id) : NewDocumentId s.db id := by
  have hkept : ∀ d : Document, db'.documents = s.db.documents.upsert d.toRow →
      NewDocumentId s.db id := by
    intro d hd x hx hid
    by_cases hxd : x.id = d.id
    · refine h d.toRow ?_ (hxd ▸ hid)
      rw [hd]
      exact Table.mem_upsert.mpr (.inl rfl)
    · refine h x ?_ hid
      rw [hd]
      exact Table.mem_upsert.mpr (.inr ⟨hx, hxd⟩)
  have hmove := hc.move
  cases hmove with
  | unchanged hd =>
    intro x hx
    exact h x (hd ▸ hx)
  | created d hstatus ha hd => exact hkept d hd
  | scanned d result ha hstatus hm => exact hkept _ hm.documents
  | finalized d key ha hstatus hm => exact hkept _ hm.documents
  | archived d ha ht hm => exact hkept _ hm.documents

theorem announced_command (hi : LifecycleInv s) (hc : CommandSpec s.db db' effect) :
    List.Forall₂ Asks db'.outbox
      ((s.trace ++ effect.toList).filterMap DocumentEffect.request) := by
  have hout := hc.announced
  have hlist : effect.toList.filterMap DocumentEffect.request = effect.request.toList := by
    cases effect with
    | unchanged => rfl
    | created d => rfl
    | scanned i k r =>
      cases r with
      | clean => rfl
      | malicious => rfl
      | failed => rfl
    | finalized i q f => rfl
    | archived i => rfl
  rw [List.filterMap_append, hlist]
  cases hr : effect.request with
  | none =>
    rw [hr] at hout
    rw [show db'.outbox = s.db.outbox from hout, Option.toList_none, List.append_nil]
    exact hi.announced
  | some event =>
    rw [hr] at hout
    obtain ⟨message, hasks, heq⟩ := hout
    rw [heq]
    exact List.rel_append hi.announced (.cons hasks .nil)

theorem LifecycleInv.command (hi : LifecycleInv s) (hc : CommandSpec s.db db' effect) :
    LifecycleInv ⟨db', s.trace ++ effect.toList⟩ where
  owned := hc.owned
  descends := descends_command hi hc
  unborn := by
    intro id hnew
    rw [effectsOn_append, hi.unborn id (stored_of_stored hc hnew)]
    rw [if_neg (fun he => mem_of_effect hc he hnew)]
    rfl
  announced := announced_command hi hc

theorem LifecycleInv.housekept (hi : LifecycleInv s) (hk : Housekept s.db db') :
    LifecycleInv { s with db := db' } where
  owned := hi.owned.housekept hk
  descends := by
    intro d hd
    exact hi.descends d (hk.documents ▸ hd)
  unborn := by
    intro id hnew
    refine hi.unborn id fun d hd => hnew d ?_
    show d ∈ db'.documents.rows
    rw [hk.documents]
    exact hd
  announced := by
    show List.Forall₂ Asks db'.outbox _
    rw [hk.outbox]
    exact hi.announced

/-- **one step keeps the history of all documents** -/
theorem lifecycle_step {s' : LifecycleState} {e : LifecycleEvent} (hi : LifecycleInv s)
    (hd : Drawn s e) (h : lifecycleStep s e = some s') : LifecycleInv s' := by
  rcases lifecycleStep_cases h with rfl | ⟨c, metadata, messageId, effect, db, rfl, hc, rfl⟩ |
    ⟨change, db, rfl, hdb, rfl⟩
  · exact hi
  · exact hi.command (command_spec hi.owned hd hc)
  · exact hi.housekept (Proofplane.housekept hdb)

/-- a move of a stored document is a step of its lifecycle -/
theorem evolves_moved {d d' : Document} (hm : Moved s.db db' d d')
    (hrow : d'.toRow = d') (hd : Evolves d d') :
    ∀ x ∈ s.db.documents.rows, ∃ x' ∈ db'.documents.rows, x'.id = x.id ∧ Evolves x x' := by
  intro x hx
  rw [hm.documents, hrow]
  by_cases hxd : x.id = d.id
  · have hxd' : x = d := s.db.documents.eq_of_key hx hm.mem hxd
    rw [hxd']
    exact ⟨d', Table.mem_upsert.mpr (.inl rfl), hm.id_eq, hd⟩
  · refine ⟨x, Table.mem_upsert.mpr (.inr ⟨hx, ?_⟩), rfl, .same⟩
    rw [hm.id_eq]
    exact hxd

theorem evolves_command (hi : LifecycleInv s) (hc : CommandSpec s.db db' effect) :
    ∀ x ∈ s.db.documents.rows, ∃ x' ∈ db'.documents.rows, x'.id = x.id ∧ Evolves x x' := by
  have hmove := hc.move
  cases hmove with
  | unchanged hd =>
    intro x hx
    exact ⟨x, hd ▸ hx, rfl, .same⟩
  | created d hstatus ha hd =>
    intro x hx
    refine ⟨x, ?_, rfl, .same⟩
    rw [hd]
    exact Table.mem_upsert.mpr (.inr ⟨hx, hc.fresh d rfl x hx⟩)
  | scanned d result ha hstatus hm =>
    obtain ⟨d0, hd0⟩ := hi.descends d hm.mem
    exact evolves_moved hm (hd0.toRow_eq d.objectKey result.status d.archived)
      (.scanned result.status ha (statusMove_scan hstatus result))
  | finalized d key ha hstatus hm =>
    obtain ⟨d0, hd0⟩ := hi.descends d hm.mem
    exact evolves_moved hm (hd0.toRow_eq key .uploaded d.archived)
      (.finalized key ha hstatus (hc.final d.identity d.objectKey key rfl))
  | archived d ha ht hm =>
    obtain ⟨d0, hd0⟩ := hi.descends d hm.mem
    exact evolves_moved hm (hd0.toRow_eq d.objectKey d.uploadStatus true) (.archived ha ht)

/-- **one step of a run is one step of every stored document** -/
theorem evolves_step {s' : LifecycleState} {e : LifecycleEvent} (hi : LifecycleInv s)
    (hd : Drawn s e) (h : lifecycleStep s e = some s') :
    ∀ x ∈ s.db.documents.rows, ∃ x' ∈ s'.db.documents.rows, x'.id = x.id ∧ Evolves x x' := by
  rcases lifecycleStep_cases h with rfl | ⟨c, metadata, messageId, effect, db, rfl, hc, rfl⟩ |
    ⟨change, db, rfl, hdb, rfl⟩
  · exact fun x hx => ⟨x, hx, rfl, .same⟩
  · exact evolves_command hi (command_spec hi.owned hd hc)
  · intro x hx
    refine ⟨x, ?_, rfl, .same⟩
    show x ∈ db.documents.rows
    rw [(Proofplane.housekept hdb).documents]
    exact hx

/-! ## Commands for another key -/

theorem getDocument_of_identity {d : Document} {identity : DocumentIdentity}
    (hd : d ∈ s.db.documents.rows) (hid : d.identity = identity) :
    s.db.getDocument identity.documentId identity.owner = some d := by
  rw [DocumentDb.getDocument_eq_some]
  subst hid
  exact ⟨hd, rfl, rfl⟩

theorem unchanged_step {c : DocumentCommand} {metadata : ExecutionMetadata} {messageId : Uuid}
    (h : c.handle s.db metadata messageId = .ok (.unchanged, s.db)) (commits : Bool) :
    lifecycleStep s (.command c metadata messageId commits) = some s := by
  simp only [lifecycleStep, h]
  cases commits with
  | false => rfl
  | true => simp [DocumentEffect.toList]

/-- a scan result for another key is dropped -/
theorem scan_other_key {d : Document} {c : ScanDocument} (hd : d ∈ s.db.documents.rows)
    (hid : d.identity = c.identity) (hkey : d.objectKey ≠ c.objectKey)
    (metadata : ExecutionMetadata) (messageId : Uuid) (commits : Bool) :
    lifecycleStep s (.command (.scan c) metadata messageId commits) = some s := by
  refine unchanged_step ?_ commits
  simp only [DocumentCommand.handle, scanDocument, getDocument_of_identity hd hid, if_pos hkey]

/-- a finalization for another key is dropped -/
theorem finalize_other_key {d : Document} {c : FinalizeDocument} (hd : d ∈ s.db.documents.rows)
    (hid : d.identity = c.identity) (hkey : d.objectKey ≠ c.quarantineObjectKey)
    (metadata : ExecutionMetadata) (messageId : Uuid) (commits : Bool) :
    lifecycleStep s (.command (.finalize c) metadata messageId commits) = some s := by
  refine unchanged_step ?_ commits
  simp only [DocumentCommand.handle, finalizeDocument, getDocument_of_identity hd hid, if_pos hkey]

end

/-! ## Counting the messages of a document -/

/-- the message asks for a scan of this document -/
def isScanRequestFor (id : DocumentId) (m : NewOutboxMessage) : Bool :=
  match m.message with
  | .scanDocument metadata _ => metadata.subject == id.uuid.text
  | _ => false

/-- the message asks for the finalization of this document -/
def isFinalizationRequestFor (id : DocumentId) (m : NewOutboxMessage) : Bool :=
  match m.message with
  | .finalizeDocument metadata _ => metadata.subject == id.uuid.text
  | _ => false

/-- the event of a document, `finalization` telling which of the two -/
def isEventFor (id : DocumentId) (finalization : Bool) : DocumentEvent → Bool
  | .scanRequested identity _ => !finalization && decide (identity.documentId = id)
  | .finalizationRequested identity _ => finalization && decide (identity.documentId = id)

theorem subject_eq_iff (a b : DocumentId) : (a.uuid.text == b.uuid.text) = decide (a = b) := by
  by_cases h : a = b
  · simp [h]
  · have hne : a.uuid.text ≠ b.uuid.text := by
      intro hc
      apply h
      cases a
      cases b
      exact congrArg Id.mk (Uuid.text_injective hc)
    simp [h, hne]

theorem Asks.isScanRequestFor_eq {m : NewOutboxMessage} {e : DocumentEvent} (h : Asks m e)
    (id : DocumentId) : isScanRequestFor id m = isEventFor id false e := by
  obtain ⟨metadata, messageId, hm⟩ := h
  cases e with
  | scanRequested identity key =>
    cases hm
    exact subject_eq_iff identity.documentId id
  | finalizationRequested identity key =>
    cases hm
    rfl

theorem Asks.isFinalizationRequestFor_eq {m : NewOutboxMessage} {e : DocumentEvent} (h : Asks m e)
    (id : DocumentId) : isFinalizationRequestFor id m = isEventFor id true e := by
  obtain ⟨metadata, messageId, hm⟩ := h
  cases e with
  | scanRequested identity key =>
    cases hm
    rfl
  | finalizationRequested identity key =>
    cases hm
    exact subject_eq_iff identity.documentId id

theorem countP_forall₂ {α β : Type*} {R : α → β → Prop} {p : α → Bool} {q : β → Bool}
    (hpq : ∀ a b, R a b → p a = q b) {as : List α} {bs : List β} (h : List.Forall₂ R as bs) :
    as.countP p = bs.countP q := by
  induction h with
  | nil => rfl
  | cons hab _ ih => rw [List.countP_cons, List.countP_cons, hpq _ _ hab, ih]

/-- only the effects on a document ask for messages about it -/
theorem countP_request (id : DocumentId) (finalization : Bool) (trace : List DocumentEffect) :
    (trace.filterMap DocumentEffect.request).countP (isEventFor id finalization)
      = ((effectsOn id trace).filterMap DocumentEffect.request).countP
          (isEventFor id finalization) := by
  unfold effectsOn
  rw [List.countP_filterMap, List.countP_filterMap, List.countP_filter]
  apply List.countP_congr
  intro e _
  cases e with
  | unchanged => simp [DocumentEffect.request]
  | created d =>
    simp [DocumentEffect.request, DocumentEffect.documentId?, isEventFor, Document.id]
  | scanned i k r =>
    cases r with
    | clean => simp [DocumentEffect.request, DocumentEffect.documentId?, isEventFor]
    | malicious => simp [DocumentEffect.request]
    | failed => simp [DocumentEffect.request]
  | finalized i q f => simp [DocumentEffect.request]
  | archived i => simp [DocumentEffect.request]

/-- **one scan request for every document, one finalization request for every clean one** -/
theorem LifecycleInv.requests {s : LifecycleState} (hi : LifecycleInv s) {d : Document}
    (hd : d ∈ s.db.documents.rows) :
    s.db.outbox.countP (isScanRequestFor d.id) = 1 ∧
    s.db.outbox.countP (isFinalizationRequestFor d.id)
      = if d.uploadStatus = .finalizing ∨ d.uploadStatus = .uploaded then 1 else 0 := by
  obtain ⟨d0, hd0⟩ := hi.descends d hd
  have hid : d0.identity.documentId = d.id := by
    have hidentity := congrArg Document.identity hd0.same
    exact congrArg DocumentIdentity.documentId hidentity.symm
  have hid' : d.identity.documentId = d.id := rfl
  rw [countP_forall₂ (fun _ _ h => h.isScanRequestFor_eq d.id) hi.announced,
    countP_forall₂ (fun _ _ h => h.isFinalizationRequestFor_eq d.id) hi.announced,
    countP_request d.id false s.trace, countP_request d.id true s.trace, hd0.path]
  unfold Document.path
  cases d.uploadStatus with
  | pendingUpload =>
    cases d.archived <;> simp [DocumentEffect.request, isEventFor, hid]
  | finalizing =>
    cases d.archived <;> simp [DocumentEffect.request, isEventFor, hid, hid']
  | uploaded =>
    cases d.archived <;> simp [DocumentEffect.request, isEventFor, hid, hid']
  | containsVirus =>
    cases d.archived <;> simp [DocumentEffect.request, isEventFor, hid]
  | failedUpload =>
    cases d.archived <;> simp [DocumentEffect.request, isEventFor, hid]

/-! ## The whole lifecycle -/

theorem lifecycleInv_start {s : LifecycleState} (hdocs : s.db.documents = .empty)
    (hout : s.db.outbox = []) (htrace : s.trace = []) : LifecycleInv s where
  owned := by
    intro d hd
    rw [hdocs] at hd
    exact absurd hd (Table.mem_rows_empty d)
  descends := by
    intro d hd
    rw [hdocs] at hd
    exact absurd hd (Table.mem_rows_empty d)
  unborn := by
    intro id _
    rw [htrace]
    rfl
  announced := by
    rw [hout, htrace]
    exact .nil

/-- **Every run of document commands.**  Each stored document descends from its creation by exactly
the effects of its path, so its status only moved forward, it is uploaded only after a clean scan of
its staged key and its key changed then and only then; every step evolves each document or leaves it
alone; a command for another key does nothing; and the outbox has one scan request for each document
and one finalization request for each clean scan. -/
theorem document_lifecycle {s0 s : LifecycleState} {es : List LifecycleEvent}
    (hdocs : s0.db.documents = .empty) (hout : s0.db.outbox = []) (htrace : s0.trace = [])
    (hdrawn : Along lifecycleStep Drawn s0 es) (hrun : run lifecycleStep s0 es = some s) :
    (∀ d ∈ s.db.documents.rows, ∃ d0, Document.Descends s.trace d0 d) ∧
    (∀ id, NewDocumentId s.db id → effectsOn id s.trace = []) ∧
    (∀ e s', Drawn s e → lifecycleStep s e = some s' →
      ∀ d ∈ s.db.documents.rows, ∃ d' ∈ s'.db.documents.rows, d'.id = d.id ∧ Evolves d d') ∧
    (∀ c : ScanDocument, ∀ metadata messageId commits, ∀ d ∈ s.db.documents.rows,
      d.identity = c.identity → d.objectKey ≠ c.objectKey →
        lifecycleStep s (.command (.scan c) metadata messageId commits) = some s) ∧
    (∀ c : FinalizeDocument, ∀ metadata messageId commits, ∀ d ∈ s.db.documents.rows,
      d.identity = c.identity → d.objectKey ≠ c.quarantineObjectKey →
        lifecycleStep s (.command (.finalize c) metadata messageId commits) = some s) ∧
    List.Forall₂ Asks s.db.outbox (s.trace.filterMap DocumentEffect.request) ∧
    (∀ d ∈ s.db.documents.rows,
      s.db.outbox.countP (isScanRequestFor d.id) = 1 ∧
      s.db.outbox.countP (isFinalizationRequestFor d.id)
        = if d.uploadStatus = .finalizing ∨ d.uploadStatus = .uploaded then 1 else 0) := by
  have hi : LifecycleInv s :=
    run_inv_along LifecycleInv (fun _ _ _ hi hd h => lifecycle_step hi hd h)
      (lifecycleInv_start hdocs hout htrace) hdrawn hrun
  refine ⟨hi.descends, hi.unborn, fun e s' hd h => evolves_step hi hd h, ?_, ?_, hi.announced,
    fun d hd => hi.requests hd⟩
  · intro c metadata messageId commits d hd hid hkey
    exact scan_other_key hd hid hkey metadata messageId commits
  · intro c metadata messageId commits d hd hid hkey
    exact finalize_other_key hd hid hkey metadata messageId commits

/-! A policy document on its whole way, from creation to archive. -/

def samplePolicy : PolicyItem := ⟨⟨7⟩, ⟨1⟩, none⟩

def sampleConnection : AgentConnectionContext := ⟨⟨2⟩, ⟨3⟩, ⟨1⟩, .all⟩

def sampleIdentity : DocumentIdentity := .policy ⟨7⟩ ⟨9⟩

def sampleLifecycle : LifecycleState :=
  ⟨{ DocumentDb.empty with policies := DocumentDb.empty.policies.upsert samplePolicy }, []⟩

def sampleCreate : CreatePolicyDocument :=
  ⟨sampleConnection, ⟨7⟩, ⟨9⟩, ⟨.policy ⟨7⟩, "a.pdf", "application/pdf", 3, "staged", "sha", "crc"⟩, 0⟩

def sampleLifecycleRun : List LifecycleEvent :=
  [.command (.createPolicyDocument sampleCreate) .background 1 true,
    .command (.scan ⟨sampleIdentity, "staged", .clean⟩) .background 2 true,
    .command (.finalize ⟨sampleIdentity, "staged", "final"⟩) .background 3 true,
    .command (.archive ⟨sampleConnection, sampleIdentity⟩) .background 4 true]

theorem sampleLifecycle_drawn :
    Along lifecycleStep Drawn sampleLifecycle sampleLifecycleRun := by
  refine ⟨?_, fun s1 _ => ⟨trivial, fun s2 _ => ⟨?_, fun s3 _ => ⟨trivial, fun s4 _ => trivial⟩⟩⟩⟩
  · intro d hd
    exact absurd hd (Table.mem_rows_empty d)
  · show "final" ≠ "staged"
    decide

theorem document_lifecycle_archived :
    ∃ s, run lifecycleStep sampleLifecycle sampleLifecycleRun = some s ∧
      (s.db.documents.get? ⟨9⟩).map (fun d => (d.objectKey, d.uploadStatus, d.archived))
        = some ("final", .uploaded, true) ∧
      ∀ d ∈ s.db.documents.rows, ∃ d0, Document.Descends s.trace d0 d := by
  have hrun : ((run lifecycleStep sampleLifecycle sampleLifecycleRun).bind fun s =>
      (s.db.documents.get? ⟨9⟩).map fun d => (d.objectKey, d.uploadStatus, d.archived))
        = some ("final", .uploaded, true) := by
    decide
  obtain ⟨s, hs, hd⟩ := Option.bind_eq_some_iff.mp hrun
  exact ⟨s, hs, hd, (document_lifecycle rfl rfl rfl sampleLifecycle_drawn hs).1⟩

end Proofplane
