import Proofplane.Documents.Runs

/-!
# One document for an owner

A submission has one document, and a policy has one that is not archived: the commands create a document
only for an owner that has none.

* `Housed`           the policy of a stored document is one of its workspace;
* `SingleOwners`     no two documents that are not archived have one owner;
* `Admits`           what a creation has found of the owner, `created_admits`;
* `DocumentsInv`     **the three hold in every run**, `documents_run`.
-/

namespace Proofplane
open Base

/-- the policy of every stored policy document is one of its workspace -/
def Housed (db : DocumentDb) : Prop :=
  ∀ d ∈ db.documents.rows, ∀ policyId documentId, d.identity = .policy policyId documentId →
    ∃ p, db.policies.get? policyId = some p ∧ p.workspaceId = d.workspaceId

/-- no two documents that are not archived have one owner -/
def SingleOwners (db : DocumentDb) : Prop :=
  ∀ d ∈ db.documents.rows, ∀ d' ∈ db.documents.rows, d.archived = false → d'.archived = false →
    d.owner = d'.owner → d = d'

/-- the owner of `d` takes a document -/
def Admits (db : DocumentDb) (d : Document) : Prop :=
  match d.identity with
  | .evidence submissionId _ => db.submissions.get? submissionId = none
  | .policy policyId _ => db.lockDocumentUploadEligibility d.workspaceId policyId = some .eligible

/-! ## What a creation finds -/

theorem OwnSubmission.get?_none {db : DocumentDb} {id : EvidenceSubmissionId} {workspaceId : WorkspaceId}
    (h : OwnSubmission db id workspaceId) (hnone : db.getSubmission workspaceId id = none) :
    db.submissions.get? id = none := by
  cases hget : db.submissions.get? id with
  | none => rfl
  | some s =>
    have hsome := h s hget
    rw [hnone] at hsome
    cases hsome

theorem eligible_iff {db : DocumentDb} {workspaceId : WorkspaceId} {id : PolicyId} :
    db.lockDocumentUploadEligibility workspaceId id = some .eligible ↔
      (∃ p, db.policies.get? id = some p ∧ p.workspaceId = workspaceId ∧ p.archivedAt = none) ∧
        ∀ d ∈ db.documents.rows, d.owner = .policy id → d.workspaceId = workspaceId → d.archived ≠ false := by
  unfold DocumentDb.lockDocumentUploadEligibility
  rw [Option.map_eq_some_iff]
  constructor
  · intro h
    obtain ⟨p, hp, hsome⟩ := h
    obtain ⟨hget, hcond⟩ := Option.filter_eq_some_iff.mp hp
    obtain ⟨hworkspace, harchived⟩ := of_decide_eq_true hcond
    refine ⟨⟨p, hget, hworkspace, harchived⟩, fun d hd howner hw ha => ?_⟩
    rw [if_pos] at hsome
    · cases hsome
    · exact List.any_eq_true.mpr ⟨d, hd, by simp [howner, hw, ha]⟩
  · intro h
    obtain ⟨⟨p, hget, hworkspace, harchived⟩, hfree⟩ := h
    refine ⟨p, Option.filter_eq_some_iff.mpr ⟨hget, decide_eq_true ⟨hworkspace, harchived⟩⟩, if_neg ?_⟩
    intro hany
    obtain ⟨d, hd, hcond⟩ := List.any_eq_true.mp hany
    obtain ⟨howner, hw, ha⟩ := of_decide_eq_true hcond
    exact hfree d hd howner hw ha

section
variable {s : LifecycleState} {db' : DocumentDb} {effect : DocumentEffect} {d : Document}
  {metadata : ExecutionMetadata} {messageId : Uuid} {commits : Bool}

theorem createEvidence_admits {c : CreateEvidenceSubmissionDocument}
    (hd : Drawn s (.command (.createEvidenceSubmissionDocument c) metadata messageId commits))
    (h : DocumentCommand.handle s.db metadata messageId (.createEvidenceSubmissionDocument c)
      = .ok (effect, db')) :
    db'.policies = s.db.policies ∧ ∀ d, effect = .created d → Admits s.db d := by
  obtain ⟨-, hsub⟩ := hd
  simp only [DocumentCommand.handle] at h
  split at h
  · cases h
  · next d db1 hr =>
    cases h
    rcases createEvidenceSubmissionDocument_ok hr with ⟨x, hx, -⟩ | ⟨x, sub, hx, hnew, -, hnone, -, -, hdb, -⟩
    · cases hx
    · cases hx
      refine ⟨by rw [hdb], fun d' hd' => ?_⟩
      cases hd'
      rw [hnew]
      exact hsub.get?_none hnone
  · next outcome db1 hne hr =>
    cases h
    rcases createEvidenceSubmissionDocument_ok hr with ⟨x, -, hdb⟩ | ⟨x, sub, hx, -⟩
    · exact ⟨by rw [hdb], by simp⟩
    · exact absurd hx (hne x)

theorem createPolicy_admits {c : CreatePolicyDocument}
    (h : DocumentCommand.handle s.db metadata messageId (.createPolicyDocument c) = .ok (effect, db')) :
    db'.policies = s.db.policies ∧ ∀ d, effect = .created d → Admits s.db d := by
  simp only [DocumentCommand.handle] at h
  split at h
  · cases h
  · next d db1 hr =>
    cases h
    rcases createPolicyDocument_ok hr with ⟨hne, -⟩ | ⟨x, hx, hnew, -, heligible, -, hdb, -⟩
    · exact absurd rfl (hne d)
    · cases hx
      refine ⟨by rw [hdb], fun d' hd' => ?_⟩
      cases hd'
      rw [hnew]
      exact heligible
  · next outcome db1 hne hr =>
    cases h
    rcases createPolicyDocument_ok hr with ⟨-, hdb⟩ | ⟨x, hx, -⟩
    · exact ⟨by rw [hdb], by simp⟩
    · exact absurd hx (hne x)

theorem completeEvidence_admits {c : CompleteAgentEvidenceUpload}
    (hd : Drawn s (.command (.completeAgentEvidenceUpload c) metadata messageId commits))
    (h : DocumentCommand.handle s.db metadata messageId (.completeAgentEvidenceUpload c)
      = .ok (effect, db')) :
    db'.policies = s.db.policies ∧ ∀ d, effect = .created d → Admits s.db d := by
  obtain ⟨-, hsub⟩ := hd
  simp only [DocumentCommand.handle] at h
  split at h
  · cases h
  · next sid d db1 hr =>
    cases h
    rcases completeAgentEvidenceUpload_ok hr with ⟨hx, -⟩ | ⟨g, -, -, hstaged, -, ⟨x, -, hx, -⟩ |
      ⟨x, sub, g', -, hx, hnew, -, -, -, -, -, hnone, -, hdb, -⟩⟩
    · cases hx
    · cases hx
    · cases hx
      refine ⟨by rw [hdb], fun d' hd' => ?_⟩
      cases hd'
      have hgone : s.db.getSubmission c.grant.workspaceId g.submissionId = none :=
        Option.isNone_iff_eq_none.mp (by simpa [DocumentDb.submissionExists] using hnone)
      rw [hstaged] at hsub
      rw [hnew]
      exact hsub.get?_none hgone
  · next outcome db1 hne hr =>
    cases h
    rcases completeAgentEvidenceUpload_ok hr with ⟨-, hdb⟩ | ⟨g, -, -, -, -, ⟨x, -, -, hdb⟩ |
      ⟨x, sub, g', -, hx, -⟩⟩
    · exact ⟨by rw [hdb], by simp⟩
    · exact ⟨by rw [hdb], by simp⟩
    · exact absurd hx (hne _ x)

theorem completePolicy_admits {c : CompleteAgentPolicyDocumentUpload}
    (h : DocumentCommand.handle s.db metadata messageId (.completeAgentPolicyDocumentUpload c)
      = .ok (effect, db')) :
    db'.policies = s.db.policies ∧ ∀ d, effect = .created d → Admits s.db d := by
  simp only [DocumentCommand.handle] at h
  split at h
  · cases h
  · next d db1 hr =>
    cases h
    rcases completeAgentPolicyDocumentUpload_ok hr with ⟨hx | hx, -⟩ | ⟨g, -, -, -, ⟨x, -, hx, -⟩ |
      ⟨x, g', -, hx, hnew, -, -, -, heligible, -, hdb, -⟩⟩
    · cases hx
    · cases hx
    · cases hx
    · cases hx
      refine ⟨by rw [hdb], fun d' hd' => ?_⟩
      cases hd'
      rw [hnew]
      exact heligible
  · next outcome db1 hne hr =>
    cases h
    rcases completeAgentPolicyDocumentUpload_ok hr with ⟨-, hdb⟩ | ⟨g, -, -, -, ⟨x, -, -, hdb⟩ |
      ⟨x, g', -, hx, -⟩⟩
    · exact ⟨by rw [hdb], by simp⟩
    · exact ⟨by rw [hdb], by simp⟩
    · exact absurd hx (hne x)

theorem scanDocument_policies {db db' : DocumentDb} {c : ScanDocument} {outcome : DocumentCommandOutcome}
    (h : scanDocument db metadata messageId c = .ok (outcome, db')) : db'.policies = db.policies := by
  rcases scanDocument_ok h with ⟨-, hdb⟩ | ⟨-, -, -, hdb⟩
  · rw [hdb]
  · rw [hdb]

theorem finalizeDocument_policies {db db' : DocumentDb} {c : FinalizeDocument}
    {outcome : DocumentCommandOutcome} (h : finalizeDocument db c = .ok (outcome, db')) :
    db'.policies = db.policies := by
  rcases finalizeDocument_ok h with ⟨-, hdb⟩ | ⟨-, -, hdb⟩
  · rw [hdb]
  · rw [hdb]

theorem archiveDocument_policies {db db' : DocumentDb} {c : ArchiveDocument}
    {outcome : ArchiveDocumentOutcome} (h : archiveDocument db c = .ok (outcome, db')) :
    db'.policies = db.policies := by
  rcases archiveDocument_ok h with ⟨-, hdb⟩ | ⟨-, -, hdb⟩
  · rw [hdb]
  · rw [hdb]

/-- a command leaves the policies alone, and creates a document only where its owner takes one -/
theorem command_admits {c : DocumentCommand} (hd : Drawn s (.command c metadata messageId commits))
    (h : c.handle s.db metadata messageId = .ok (effect, db')) :
    db'.policies = s.db.policies ∧ ∀ d, effect = .created d → Admits s.db d := by
  cases c with
  | createEvidenceSubmissionDocument c => exact createEvidence_admits hd h
  | createPolicyDocument c => exact createPolicy_admits h
  | completeAgentEvidenceUpload c => exact completeEvidence_admits hd h
  | completeAgentPolicyDocumentUpload c => exact completePolicy_admits h
  | scan c =>
    simp only [DocumentCommand.handle] at h
    split at h
    · cases h
    · next db1 hr =>
      cases h
      exact ⟨scanDocument_policies hr, by simp⟩
    · next outcome db1 hne hr =>
      cases h
      exact ⟨scanDocument_policies hr, by simp⟩
  | finalize c =>
    simp only [DocumentCommand.handle] at h
    split at h
    · cases h
    · next db1 hr =>
      cases h
      exact ⟨finalizeDocument_policies hr, by simp⟩
    · next outcome db1 hne hr =>
      cases h
      exact ⟨finalizeDocument_policies hr, by simp⟩
  | archive c =>
    simp only [DocumentCommand.handle] at h
    split at h
    · cases h
    · next db1 hr =>
      cases h
      exact ⟨archiveDocument_policies hr, by simp⟩
    · next outcome db1 hne hr =>
      cases h
      exact ⟨archiveDocument_policies hr, by simp⟩

end

/-! ## Moves -/

section
variable {db db' : DocumentDb} {d d' : Document}

theorem Housed.moved (h : Housed db) (hm : Moved db db' d d') (hi : d'.identity = d.identity)
    (hw : d'.workspaceId = d.workspaceId) (hp : db'.policies = db.policies) : Housed db' := by
  intro x hx policyId documentId hid
  rw [hp]
  rw [hm.documents] at hx
  rcases Table.mem_upsert.mp hx with rfl | ⟨hx, -⟩
  · have hid' : d.identity = .policy policyId documentId := hi ▸ hid
    obtain ⟨p, hget, hworkspace⟩ := h d hm.mem policyId documentId hid'
    exact ⟨p, hget, hworkspace.trans hw.symm⟩
  · exact h x hx policyId documentId hid

theorem SingleOwners.moved (h : SingleOwners db) (hm : Moved db db' d d') (hi : d'.identity = d.identity)
    (ha : d'.archived = false → d.archived = false) : SingleOwners db' := by
  have howner : d'.toRow.owner = d.owner := congrArg DocumentIdentity.owner hi
  have hother : ∀ x ∈ db.documents.rows, x.id ≠ d'.toRow.id → x.archived = false →
      d'.toRow.archived = false → x.owner ≠ d'.toRow.owner := by
    intro x hx hne hxa hda he
    have hsame : x = d := h x hx d hm.mem hxa (ha hda) (he.trans howner)
    exact hne (by rw [hsame]; exact hm.id_eq.symm)
  intro x hx y hy hxa hya he
  rw [hm.documents] at hx hy
  rcases Table.mem_upsert.mp hx with rfl | ⟨hx, hxne⟩
  · rcases Table.mem_upsert.mp hy with rfl | ⟨hy, hyne⟩
    · rfl
    · exact absurd he.symm (hother y hy hyne hya hxa)
  · rcases Table.mem_upsert.mp hy with rfl | ⟨hy, hyne⟩
    · exact absurd he (hother x hx hxne hxa hya)
    · exact h x hx y hy hxa hya he

/-- no stored document has the owner of a document that is admitted -/
theorem Admits.free (h : Admits db d) (ho : Owned db) (hh : Housed db) {x : Document}
    (hx : x ∈ db.documents.rows) (ha : x.archived = false) : x.owner ≠ d.owner := by
  intro he
  unfold Admits at h
  cases hid : d.identity with
  | evidence submissionId documentId =>
    rw [hid] at h
    cases hxid : x.identity with
    | evidence submissionId' documentId' =>
      unfold Document.owner at he
      rw [hid, hxid] at he
      cases he
      apply ho x hx submissionId documentId' hxid
      unfold DocumentDb.getSubmission
      rw [h]
      rfl
    | policy policyId documentId' =>
      unfold Document.owner at he
      rw [hid, hxid] at he
      cases he
  | policy policyId documentId =>
    rw [hid] at h
    cases hxid : x.identity with
    | evidence submissionId' documentId' =>
      unfold Document.owner at he
      rw [hid, hxid] at he
      cases he
    | policy policyId' documentId' =>
      have howner : x.owner = .policy policyId := by
        rw [he]
        unfold Document.owner
        rw [hid]
        rfl
      unfold Document.owner at he
      rw [hid, hxid] at he
      cases he
      obtain ⟨p, hget, hworkspace⟩ := hh x hx policyId documentId' hxid
      obtain ⟨⟨p', hget', hworkspace', -⟩, hfree⟩ := eligible_iff.mp h
      rw [hget] at hget'
      cases hget'
      exact hfree x hx howner (hworkspace.symm.trans hworkspace') ha

theorem SingleOwners.created (h : SingleOwners db) (hadmits : Admits db d) (ho : Owned db)
    (hh : Housed db) (hdocs : db'.documents = db.documents.upsert d.toRow) : SingleOwners db' := by
  intro x hx y hy hxa hya he
  rw [hdocs] at hx hy
  rcases Table.mem_upsert.mp hx with rfl | ⟨hx, -⟩
  · rcases Table.mem_upsert.mp hy with rfl | ⟨hy, -⟩
    · rfl
    · exact absurd he.symm (hadmits.free ho hh hy hya)
  · rcases Table.mem_upsert.mp hy with rfl | ⟨hy, -⟩
    · exact absurd he (hadmits.free ho hh hx hxa)
    · exact h x hx y hy hxa hya he

theorem Housed.created (h : Housed db) (hadmits : Admits db d)
    (hdocs : db'.documents = db.documents.upsert d.toRow) (hp : db'.policies = db.policies) :
    Housed db' := by
  intro x hx policyId documentId hid
  rw [hp]
  rw [hdocs] at hx
  rcases Table.mem_upsert.mp hx with rfl | ⟨hx, -⟩
  · have hid' : d.identity = .policy policyId documentId := hid
    unfold Admits at hadmits
    rw [hid'] at hadmits
    obtain ⟨⟨p, hget, hworkspace, -⟩, -⟩ := eligible_iff.mp hadmits
    exact ⟨p, hget, hworkspace⟩
  · exact h x hx policyId documentId hid

end

/-! ## Runs -/

/-- what holds of the owners of all documents -/
structure DocumentsInv (db : DocumentDb) : Prop where
  owned : Owned db
  housed : Housed db
  single : SingleOwners db

theorem DocumentsInv.command {db db' : DocumentDb} {effect : DocumentEffect} (hi : DocumentsInv db)
    (hc : CommandSpec db db' effect) (hp : db'.policies = db.policies)
    (hadmits : ∀ d, effect = .created d → Admits db d) : DocumentsInv db' := by
  have hmove := hc.move
  have howned := hc.owned
  cases hmove with
  | unchanged hd =>
    refine ⟨howned, ?_, ?_⟩
    · intro x hx policyId documentId hid
      rw [hp]
      exact hi.housed x (hd ▸ hx) policyId documentId hid
    · intro x hx y hy
      exact hi.single x (hd ▸ hx) y (hd ▸ hy)
  | created d hstatus ha hd =>
    have hd' := hadmits d rfl
    exact ⟨howned, hi.housed.created hd' hd hp, hi.single.created hd' hi.owned hi.housed hd⟩
  | scanned d result ha hstatus hm =>
    exact ⟨howned, hi.housed.moved hm rfl rfl hp, hi.single.moved hm rfl fun h => h⟩
  | finalized d key ha hstatus hm =>
    exact ⟨howned, hi.housed.moved hm rfl rfl hp, hi.single.moved hm rfl fun h => h⟩
  | archived d ha ht hm =>
    exact ⟨howned, hi.housed.moved hm rfl rfl hp, hi.single.moved hm rfl fun _ => ha⟩

/-- a change to the rest keeps every policy in its workspace -/
theorem housekeep_policies {db db' : DocumentDb} {change : Housekeeping} (hs : db.housekeep change = some db')
    {id : PolicyId} {p : PolicyItem} (hget : db.policies.get? id = some p) :
    ∃ p', db'.policies.get? id = some p' ∧ p'.workspaceId = p.workspaceId := by
  cases housekeeps hs with
  | addEvidence item hnew h =>
    rw [h]
    exact ⟨p, hget, rfl⟩
  | addPolicy item hnew h =>
    have hne : item.id ≠ id := by
      intro he
      rw [he, hget] at hnew
      cases hnew
    rw [h]
    exact ⟨p, (Table.get?_upsert_of_ne db.policies hne).trans hget, rfl⟩
  | archivePolicy archived archivedAt h =>
    rw [h]
    dsimp only
    rw [Table.get?_modify]
    by_cases he : id = archived
    · rw [if_pos he, ← he, hget]
      exact ⟨p.archive archivedAt, rfl, rfl⟩
    · rw [if_neg he]
      exact ⟨p, hget, rfl⟩
  | issueEvidenceGrant grant hnew hvalid h =>
    rw [h]
    exact ⟨p, hget, rfl⟩
  | issuePolicyGrant grant hnew hvalid h =>
    rw [h]
    exact ⟨p, hget, rfl⟩

theorem DocumentsInv.housekept {db db' : DocumentDb} {change : Housekeeping} (hi : DocumentsInv db)
    (h : db.housekeep change = some db') : DocumentsInv db' := by
  have hk := Proofplane.housekept h
  refine ⟨hi.owned.housekept hk, ?_, ?_⟩
  · intro d hd policyId documentId hid
    obtain ⟨p, hget, hworkspace⟩ := hi.housed d (hk.documents ▸ hd) policyId documentId hid
    obtain ⟨p', hget', hsame⟩ := housekeep_policies h hget
    exact ⟨p', hget', hsame.trans hworkspace⟩
  · intro d hd d' hd'
    exact hi.single d (hk.documents ▸ hd) d' (hk.documents ▸ hd')

theorem documents_step {s s' : LifecycleState} {e : LifecycleEvent} (hi : DocumentsInv s.db) (hd : Drawn s e)
    (h : lifecycleStep s e = some s') : DocumentsInv s'.db := by
  rcases lifecycleStep_cases h with rfl | ⟨c, metadata, messageId, effect, db, rfl, hc, rfl⟩ |
    ⟨change, db, rfl, hdb, rfl⟩
  · exact hi
  · obtain ⟨hpolicies, hadmits⟩ := command_admits hd hc
    exact hi.command (command_spec hi.owned hd hc) hpolicies hadmits
  · exact hi.housekept hdb

theorem documentsInv_start {db : DocumentDb} (hdocs : db.documents = .empty) : DocumentsInv db where
  owned d hd := by
    rw [hdocs] at hd
    exact absurd hd List.not_mem_nil
  housed d hd := by
    rw [hdocs] at hd
    exact absurd hd List.not_mem_nil
  single d hd := by
    rw [hdocs] at hd
    exact absurd hd List.not_mem_nil

/-- **In every run each owner has at most one document that is not archived, and the owner is there.** -/
theorem documents_run {s0 s : LifecycleState} {es : List LifecycleEvent} (hdocs : s0.db.documents = .empty)
    (hdrawn : Along lifecycleStep Drawn s0 es) (hrun : run lifecycleStep s0 es = some s) :
    DocumentsInv s.db :=
  run_inv_along (fun s => DocumentsInv s.db) (fun _ _ _ hi hd h => documents_step hi hd h)
    (documentsInv_start hdocs) hdrawn hrun

end Proofplane
