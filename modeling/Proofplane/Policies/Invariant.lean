import Proofplane.Policies.Transactions

/-!
# Policies and their documents agree over every interleaving

A unit of work is right about the rows that it holds: nobody else changes them.  An upload that holds its
policy knows that it is active and, later, that it has no current document; an archive that holds its
policy knows that no document is in progress.  No document of a policy is inserted without the policy
being held.

* `Knows`                  what a unit of work knows at the point where it is;
* `PolicyDbMove`           the change of the tables by a commit, with the rows that it needs;
* `Knows.frame`            **what is known survives every commit that needs no row held**;
* `PolicyDocuments`        what the policies and their documents keep; `PolicyDocuments.move`;
* `policy_step`, `policy_run`   the invariant over a step and over a run.
-/

namespace Proofplane
open Base

/-- every document of the policy is such -/
def OfPolicy (P : Document → Prop) (db : DocumentDb) (id : PolicyId) : Prop :=
  ∀ d ∈ db.documents.rows, d.owner = .policy id → P d

/-- the document is archived, or its upload has come to its end -/
def Document.settled (d : Document) : Prop := d.archived = true ∨ d.uploadStatus.inProgress = false

/-- the policy is stored like this, and is active -/
def StoredActive (db : DocumentDb) (p : PolicyItem) : Prop :=
  db.policies.get? p.id = some p ∧ p.archivedAt = none

/-- what a unit of work knows at the point where it is -/
def Knows : PolicyPoint → DocumentDb → Prop
  | .archiving c p, db =>
    StoredActive db p ∧ p.id = c.policyId ∧ p.workspaceId = c.connection.workspaceId
  | .archivable _ p, db => StoredActive db p ∧ OfPolicy Document.settled db p.id
  | .uploading _, _ => True
  | .eligible u p, db => StoredActive db p ∧ p.id = u.policyId ∧ p.workspaceId = u.workspaceId
  | .inserting u p, db =>
    StoredActive db p ∧ p.id = u.policyId ∧ p.workspaceId = u.workspaceId ∧
      OfPolicy (fun d => d.archived = true) db p.id
  | .changing _ d, db => db.documents.get? d.id = some d

/-! ## The changes of the tables -/

/-- a change of a document by one of the commands on it -/
structure DocumentChanged (d d' : Document) : Prop where
  identity_eq : d'.identity = d.identity
  workspace_eq : d'.workspaceId = d.workspaceId
  current : d.archived = false
  moved_on : d'.uploadStatus ≠ .pendingUpload
  inProgress : d'.uploadStatus.inProgress = true → d.uploadStatus.inProgress = true

/-- the change of the tables by a commit, with the rows that nobody else may hold -/
inductive PolicyDbMove (db db' : DocumentDb) : List PolicyRow → Prop
  | kept (hp : db'.policies = db.policies) (hd : db'.documents = db.documents) : PolicyDbMove db db' []
  | policyCreated (p : PolicyItem) (hnew : db.policies.get? p.id = none) (ha : p.archivedAt = none)
      (hp : db'.policies = db.policies.upsert p) (hd : db'.documents = db.documents) :
      PolicyDbMove db db' []
  | evidenceCreated (d : Document) (id : EvidenceSubmissionId)
      (hnew : db.documents.get? d.id = none) (howner : d.owner = .evidenceSubmission id)
      (hp : db'.policies = db.policies) (hd : db'.documents = db.documents.upsert d) :
      PolicyDbMove db db' []
  | policyArchived (p : PolicyItem) (now : Int) (hk : StoredActive db p)
      (hsettled : OfPolicy Document.settled db p.id)
      (hp : db'.policies = db.policies.upsert { p with archivedAt := some now })
      (hd : db'.documents = db.documents) : PolicyDbMove db db' [.policy p.id]
  | inserted (p : PolicyItem) (d : Document) (hk : StoredActive db p)
      (hnone : OfPolicy (fun d => d.archived = true) db p.id) (howner : d.owner = .policy p.id)
      (hworkspace : d.workspaceId = p.workspaceId) (ha : d.archived = false)
      (hp : db'.policies = db.policies) (hd : db'.documents = db.documents.upsert d) :
      PolicyDbMove db db' [.policy p.id, .document d.id]
  | changed (d d' : Document) (hmem : d ∈ db.documents.rows) (hc : DocumentChanged d d')
      (hp : db'.policies = db.policies) (hd : db'.documents = db.documents.upsert d') :
      PolicyDbMove db db' [.document d.id]

section
variable {db db' : DocumentDb} {rows : List PolicyRow}

/-- the row of a policy stays, if nobody else may change it -/
theorem StoredActive.frame {p : PolicyItem} (hk : StoredActive db p) (hm : PolicyDbMove db db' rows)
    (hfree : PolicyRow.policy p.id ∉ rows) : StoredActive db' p := by
  refine ⟨?_, hk.2⟩
  cases hm with
  | kept hp hd => rw [hp, hk.1]
  | policyCreated q hnew ha hp hd =>
    have hne : q.id ≠ p.id := by
      intro he
      rw [he, hk.1] at hnew
      cases hnew
    rw [hp, Table.get?_upsert_of_ne _ hne, hk.1]
  | evidenceCreated d id hnew howner hp hd => rw [hp, hk.1]
  | policyArchived q now hq hsettled hp hd =>
    have hne : q.id ≠ p.id := by
      intro he
      exact hfree (he ▸ List.mem_singleton_self _)
    rw [hp, Table.get?_upsert, if_neg hne, hk.1]
  | inserted q d hq hnone howner hworkspace ha hp hd => rw [hp, hk.1]
  | changed d d' hmem hc hp hd => rw [hp, hk.1]

/-- what holds of the documents of a policy stays, if nobody else may insert one, and if the commands on
a document keep it -/
theorem OfPolicy.frame {P : Document → Prop} {id : PolicyId} (hk : OfPolicy P db id)
    (hP : ∀ d d', DocumentChanged d d' → P d → P d')
    (hm : PolicyDbMove db db' rows) (hfree : PolicyRow.policy id ∉ rows) : OfPolicy P db' id := by
  intro e he howner'
  cases hm with
  | kept hp hd => exact hk e (hd ▸ he) howner'
  | policyCreated q hnew ha hp hd => exact hk e (hd ▸ he) howner'
  | evidenceCreated d sid hnew howner hp hd =>
    rw [hd] at he
    rcases Table.mem_upsert.mp he with rfl | ⟨he', -⟩
    · rw [howner] at howner'
      cases howner'
    · exact hk e he' howner'
  | policyArchived q now hq hsettled hp hd => exact hk e (hd ▸ he) howner'
  | inserted q d hq hnone howner hworkspace ha hp hd =>
    rw [hd] at he
    rcases Table.mem_upsert.mp he with rfl | ⟨he', -⟩
    · rw [howner] at howner'
      cases howner'
      exact absurd List.mem_cons_self hfree
    · exact hk e he' howner'
  | changed d d' hmem hc hp hd =>
    rw [hd] at he
    rcases Table.mem_upsert.mp he with rfl | ⟨he', -⟩
    · refine hP d e hc (hk d hmem ?_)
      rw [← howner']
      show d.identity.owner = e.identity.owner
      rw [hc.identity_eq]
    · exact hk e he' howner'

theorem stays_archived (d d' : Document) (hc : DocumentChanged d d') (h : d.archived = true) :
    d'.archived = true := by
  rw [hc.current] at h
  cases h

theorem stays_settled (d d' : Document) (hc : DocumentChanged d d') (h : d.settled) : d'.settled := by
  rcases h with h | h
  · exact .inl (stays_archived d d' hc h)
  · right
    by_contra hne
    rw [hc.inProgress (by simpa using hne)] at h
    cases h

/-- the row of a document stays, if nobody else may change it -/
theorem stored_frame {d : Document} (hk : db.documents.get? d.id = some d)
    (hm : PolicyDbMove db db' rows) (hfree : PolicyRow.document d.id ∉ rows) :
    db'.documents.get? d.id = some d := by
  cases hm with
  | kept hp hd => rw [hd, hk]
  | policyCreated q hnew ha hp hd => rw [hd, hk]
  | evidenceCreated e id hnew howner hp hd =>
    have hne : e.id ≠ d.id := by
      intro he
      rw [he, hk] at hnew
      cases hnew
    rw [hd, Table.get?_upsert_of_ne _ hne, hk]
  | policyArchived q now hq hsettled hp hd => rw [hd, hk]
  | inserted q e hq hnone howner hworkspace ha hp hd =>
    have hne : e.id ≠ d.id := by
      intro he
      exact hfree (he ▸ List.mem_cons_of_mem _ (List.mem_singleton_self _))
    rw [hd, Table.get?_upsert_of_ne _ hne, hk]
  | changed e e' hmem hc hp hd =>
    have hne : e'.id ≠ d.id := by
      intro he
      have hid : e.id = d.id := by
        rw [← he]
        show e.identity.documentId = e'.identity.documentId
        rw [hc.identity_eq]
      exact hfree (hid ▸ List.mem_singleton_self _)
    rw [hd, Table.get?_upsert_of_ne _ hne, hk]

/-- **What a unit of work knows survives every commit that needs none of the rows that it holds.** -/
theorem Knows.frame {point : PolicyPoint} (hk : Knows point db) (hm : PolicyDbMove db db' rows)
    (hfree : ∀ row ∈ rows, row ∉ point.locks) : Knows point db' := by
  have hnot : ∀ row ∈ point.locks, row ∉ rows := fun row hrow hin => hfree row hin hrow
  cases point with
  | archiving c p => exact ⟨hk.1.frame hm (hnot _ List.mem_cons_self), hk.2⟩
  | archivable c p =>
    exact ⟨hk.1.frame hm (hnot _ List.mem_cons_self),
      hk.2.frame stays_settled hm (hnot _ List.mem_cons_self)⟩
  | uploading u => exact trivial
  | eligible u p => exact ⟨hk.1.frame hm (hnot _ List.mem_cons_self), hk.2⟩
  | inserting u p =>
    exact ⟨hk.1.frame hm (hnot _ List.mem_cons_self), hk.2.1, hk.2.2.1,
      hk.2.2.2.frame stays_archived hm (hnot _ List.mem_cons_self)⟩
  | changing c d => exact stored_frame hk hm (hnot _ List.mem_cons_self)

/-! ## Policies and their documents -/

/-- what the policies and their documents keep -/
structure PolicyDocuments (db : DocumentDb) : Prop where
  /-- a policy has at most one document that is not archived -/
  one_current : ∀ d ∈ db.documents.rows, ∀ d' ∈ db.documents.rows, ∀ id, d.owner = .policy id →
    d'.owner = .policy id → d.archived = false → d'.archived = false → d = d'
  /-- no upload to an archived policy goes on -/
  archived_settled : ∀ p ∈ db.policies.rows, p.archivedAt ≠ none → OfPolicy Document.settled db p.id
  /-- a document of a policy is in the workspace of the policy -/
  same_workspace : ∀ d ∈ db.documents.rows, ∀ id, d.owner = .policy id →
    ∃ p, db.policies.get? id = some p ∧ p.workspaceId = d.workspaceId

theorem PolicyDocuments.move_one_current (hi : PolicyDocuments db) (hm : PolicyDbMove db db' rows) :
    ∀ d ∈ db'.documents.rows, ∀ d' ∈ db'.documents.rows, ∀ id, d.owner = .policy id →
      d'.owner = .policy id → d.archived = false → d'.archived = false → d = d' := by
  intro e he e' he' id howner howner' hcurrent hcurrent'
  cases hm with
  | kept hp hd =>
    rw [hd] at he he'
    exact hi.one_current e he e' he' id howner howner' hcurrent hcurrent'
  | policyCreated q hnew ha hp hd =>
    rw [hd] at he he'
    exact hi.one_current e he e' he' id howner howner' hcurrent hcurrent'
  | policyArchived q now hq hsettled hp hd =>
    rw [hd] at he he'
    exact hi.one_current e he e' he' id howner howner' hcurrent hcurrent'
  | evidenceCreated d sid hnew hsub hp hd =>
    rw [hd] at he he'
    rcases Table.mem_upsert.mp he with rfl | ⟨hold, -⟩
    · rw [hsub] at howner
      cases howner
    · rcases Table.mem_upsert.mp he' with rfl | ⟨hold', -⟩
      · rw [hsub] at howner'
        cases howner'
      · exact hi.one_current e hold e' hold' id howner howner' hcurrent hcurrent'
  | inserted q d hq hnone howned hworkspace ha hp hd =>
    rw [hd] at he he'
    -- nobody but the inserted document is a current one of this policy
    have hother : ∀ x ∈ db.documents.rows, x.archived = false → d.owner ≠ x.owner := by
      intro x hx hxa hxo
      have harchived : x.archived = true := hnone x hx (hxo ▸ howned)
      rw [hxa] at harchived
      cases harchived
    rcases Table.mem_upsert.mp he with rfl | ⟨hold, -⟩
    · rcases Table.mem_upsert.mp he' with rfl | ⟨hold', -⟩
      · rfl
      · exact absurd (howner.trans howner'.symm) (hother e' hold' hcurrent')
    · rcases Table.mem_upsert.mp he' with rfl | ⟨hold', -⟩
      · exact absurd (howner'.trans howner.symm) (hother e hold hcurrent)
      · exact hi.one_current e hold e' hold' id howner howner' hcurrent hcurrent'
  | changed d d' hmem hc hp hd =>
    rw [hd] at he he'
    have howned : d.owner = d'.owner := by
      show d.identity.owner = d'.identity.owner
      rw [hc.identity_eq]
    have hid : d.id = d'.id := by
      show d.identity.documentId = d'.identity.documentId
      rw [hc.identity_eq]
    rcases Table.mem_upsert.mp he with rfl | ⟨hold, hne⟩
    · rcases Table.mem_upsert.mp he' with rfl | ⟨hold', hne'⟩
      · rfl
      · have := hi.one_current d hmem e' hold' id (howned.trans howner) howner' hc.current hcurrent'
        exact absurd (this ▸ hid) hne'
    · rcases Table.mem_upsert.mp he' with rfl | ⟨hold', hne'⟩
      · have := hi.one_current d hmem e hold id (howned.trans howner') howner hc.current hcurrent
        exact absurd (this ▸ hid) hne
      · exact hi.one_current e hold e' hold' id howner howner' hcurrent hcurrent'

/-- nobody holds an archived policy for a change -/
theorem PolicyDbMove.free_of_archived (hm : PolicyDbMove db db' rows) {p : PolicyItem}
    (hmem : p ∈ db.policies.rows) (harchived : p.archivedAt ≠ none) :
    PolicyRow.policy p.id ∉ rows := by
  have hactive : ∀ q, StoredActive db q → p.id ≠ q.id := by
    intro q hq hid
    have hpq := db.policies.eq_of_key hmem (Table.get?_mem hq.1) hid
    exact harchived (hpq ▸ hq.2)
  cases hm with
  | kept hp hd => exact List.not_mem_nil
  | policyCreated q hnew ha hp hd => exact List.not_mem_nil
  | evidenceCreated d sid hnew hsub hp hd => exact List.not_mem_nil
  | policyArchived q now hq hsettled hp hd => simpa using hactive q hq
  | inserted q d hq hnone howned hworkspace ha hp hd => simpa using hactive q hq
  | changed d d' hmem hc hp hd => simp

theorem PolicyDocuments.move_archived_settled (hi : PolicyDocuments db)
    (hm : PolicyDbMove db db' rows) :
    ∀ p ∈ db'.policies.rows, p.archivedAt ≠ none → OfPolicy Document.settled db' p.id := by
  intro p hmem' harchived
  -- no document is inserted for an archived policy, and what is settled stays so
  have hold : p ∈ db.policies.rows → OfPolicy Document.settled db' p.id := fun hmem =>
    (hi.archived_settled p hmem harchived).frame stays_settled hm
      (hm.free_of_archived hmem harchived)
  cases hm with
  | kept hp hd => exact hold (hp ▸ hmem')
  | policyCreated q hnew ha hp hd =>
    rw [hp] at hmem'
    rcases Table.mem_upsert.mp hmem' with rfl | ⟨hmem, -⟩
    · exact absurd ha harchived
    · exact hold hmem
  | evidenceCreated d sid hnew hsub hp hd => exact hold (hp ▸ hmem')
  | policyArchived q now hq hsettled hp hd =>
    rw [hp] at hmem'
    rcases Table.mem_upsert.mp hmem' with rfl | ⟨hmem, -⟩
    · intro d hmem howner
      exact hsettled d (hd ▸ hmem) howner
    · exact hold hmem
  | inserted q d hq hnone howned hworkspace ha hp hd => exact hold (hp ▸ hmem')
  | changed d d' hmem hc hp hd => exact hold (hp ▸ hmem')

theorem PolicyDocuments.move_same_workspace (hi : PolicyDocuments db)
    (hm : PolicyDbMove db db' rows) :
    ∀ d ∈ db'.documents.rows, ∀ id, d.owner = .policy id →
      ∃ p, db'.policies.get? id = some p ∧ p.workspaceId = d.workspaceId := by
  -- a policy stays in its workspace
  have hpolicy : ∀ id p, db.policies.get? id = some p →
      ∃ p', db'.policies.get? id = some p' ∧ p'.workspaceId = p.workspaceId := by
    intro id p hget
    cases hm with
    | kept hp hd => exact ⟨p, hp ▸ hget, rfl⟩
    | policyCreated q hnew ha hp hd =>
      have hne : q.id ≠ id := by
        intro he
        rw [he, hget] at hnew
        cases hnew
      exact ⟨p, by rw [hp, Table.get?_upsert_of_ne _ hne, hget], rfl⟩
    | evidenceCreated d sid hnew hsub hp hd => exact ⟨p, hp ▸ hget, rfl⟩
    | policyArchived q now hq hsettled hp hd =>
      rw [hp, Table.get?_upsert]
      by_cases he : q.id = id
      · subst he
        rw [hq.1] at hget
        cases hget
        exact ⟨_, if_pos rfl, rfl⟩
      · exact ⟨p, by rw [if_neg he, hget], rfl⟩
    | inserted q d hq hnone howned hworkspace ha hp hd => exact ⟨p, hp ▸ hget, rfl⟩
    | changed d d' hmem hc hp hd => exact ⟨p, hp ▸ hget, rfl⟩
  have hold : ∀ d ∈ db.documents.rows, ∀ id, d.owner = .policy id →
      ∃ p, db'.policies.get? id = some p ∧ p.workspaceId = d.workspaceId := by
    intro d hmem id howner
    obtain ⟨p, hget, hw⟩ := hi.same_workspace d hmem id howner
    obtain ⟨p', hget', hw'⟩ := hpolicy id p hget
    exact ⟨p', hget', hw'.trans hw⟩
  intro e he id howner
  cases hm with
  | kept hp hd => exact hold e (hd ▸ he) id howner
  | policyCreated q hnew ha hp hd => exact hold e (hd ▸ he) id howner
  | policyArchived q now hq hsettled hp hd => exact hold e (hd ▸ he) id howner
  | evidenceCreated d sid hnew hsub hp hd =>
    rw [hd] at he
    rcases Table.mem_upsert.mp he with rfl | ⟨hmem, -⟩
    · rw [hsub] at howner
      cases howner
    · exact hold e hmem id howner
  | inserted q d hq hnone howned hworkspace ha hp hd =>
    rw [hd] at he
    rcases Table.mem_upsert.mp he with rfl | ⟨hmem, -⟩
    · rw [howned] at howner
      cases howner
      exact ⟨q, hp ▸ hq.1, hworkspace.symm⟩
    · exact hold e hmem id howner
  | changed d d' hmem hc hp hd =>
    rw [hd] at he
    rcases Table.mem_upsert.mp he with rfl | ⟨hmem', -⟩
    · have howned : d.owner = e.owner := by
        show d.identity.owner = e.identity.owner
        rw [hc.identity_eq]
      rw [hc.workspace_eq]
      exact hold d hmem id (howned.trans howner)
    · exact hold e hmem' id howner

/-- **Every commit keeps the policies and their documents in agreement.** -/
theorem PolicyDocuments.move (hi : PolicyDocuments db) (hm : PolicyDbMove db db' rows) :
    PolicyDocuments db' :=
  ⟨hi.move_one_current hm, hi.move_archived_settled hm, hi.move_same_workspace hm⟩

/-- a document that a commit creates for a policy: the policy is active -/
theorem PolicyDbMove.created_active (hm : PolicyDbMove db db' rows) {d : Document} {id : PolicyId}
    (hmem : d ∈ db'.documents.rows) (hnew : d ∉ db.documents.rows)
    (hstatus : d.uploadStatus = .pendingUpload) (howner : d.owner = .policy id) :
    ∃ p, p.id = id ∧ StoredActive db p ∧ StoredActive db' p := by
  cases hm with
  | kept hp hd => exact absurd (hd ▸ hmem) hnew
  | policyCreated q hq ha hp hd => exact absurd (hd ▸ hmem) hnew
  | policyArchived q now hq hsettled hp hd => exact absurd (hd ▸ hmem) hnew
  | evidenceCreated e sid hfresh hsub hp hd =>
    rw [hd] at hmem
    rcases Table.mem_upsert.mp hmem with rfl | ⟨hold, -⟩
    · rw [hsub] at howner
      cases howner
    · exact absurd hold hnew
  | inserted q e hq hnone howned hworkspace ha hp hd =>
    rw [hd] at hmem
    rcases Table.mem_upsert.mp hmem with rfl | ⟨hold, -⟩
    · rw [howned] at howner
      cases howner
      exact ⟨q, rfl, hq, hp ▸ hq.1, hq.2⟩
    · exact absurd hold hnew
  | changed e e' hold hc hp hd =>
    rw [hd] at hmem
    rcases Table.mem_upsert.mp hmem with rfl | ⟨hold', -⟩
    · exact absurd hstatus hc.moved_on
    · exact absurd hold' hnew

/-! ## What the statements tell -/

theorem storedActive_of_findPolicy {workspaceId : WorkspaceId} {id : PolicyId} {p : PolicyItem}
    (h : db.findPolicy workspaceId id = some p) (ha : p.archivedAt.isSome = false) :
    StoredActive db p ∧ p.id = id ∧ p.workspaceId = workspaceId := by
  unfold DocumentDb.findPolicy at h
  rw [Option.filter_eq_some_iff, decide_eq_true_eq] at h
  have hid := Table.get?_key h.1
  exact ⟨⟨hid ▸ h.1, Option.isSome_eq_false_iff.mp ha |> Option.isNone_iff_eq_none.mp⟩, hid, h.2⟩

theorem storedActive_of_findActivePolicy {workspaceId : WorkspaceId} {id : PolicyId} {p : PolicyItem}
    (h : db.findActivePolicy workspaceId id = some p) :
    StoredActive db p ∧ p.id = id ∧ p.workspaceId = workspaceId := by
  unfold DocumentDb.findActivePolicy at h
  rw [Option.filter_eq_some_iff, decide_eq_true_eq] at h
  have hid := Table.get?_key h.1
  exact ⟨⟨hid ▸ h.1, h.2.2⟩, hid, h.2.1⟩

/-- a document of a stored policy is found in the workspace of the policy -/
theorem PolicyDocuments.workspace_of (hi : PolicyDocuments db) {p : PolicyItem}
    (hp : StoredActive db p) {d : Document} (hmem : d ∈ db.documents.rows)
    (howner : d.owner = .policy p.id) : d.workspaceId = p.workspaceId := by
  obtain ⟨q, hget, hw⟩ := hi.same_workspace d hmem p.id howner
  rw [hp.1] at hget
  cases hget
  exact hw.symm

theorem PolicyDocuments.settled_of_read (hi : PolicyDocuments db) {p : PolicyItem}
    (hp : StoredActive db p) (h : db.documentInProgress p.workspaceId p.id = false) :
    OfPolicy Document.settled db p.id := by
  intro d hmem howner
  have hw := hi.workspace_of hp hmem howner
  have hno := List.any_eq_false.mp h d hmem
  simp only [howner, hw, decide_eq_true_eq, true_and, not_and, Bool.not_eq_true] at hno
  by_cases ha : d.archived = true
  · exact .inl ha
  · exact .inr (hno (by simpa using ha))

theorem PolicyDocuments.none_of_read (hi : PolicyDocuments db) {p : PolicyItem}
    (hp : StoredActive db p) (h : db.hasCurrentDocument p.workspaceId p.id = false) :
    OfPolicy (fun d => d.archived = true) db p.id := by
  intro d hmem howner
  have hw := hi.workspace_of hp hmem howner
  have hno := List.any_eq_false.mp h d hmem
  simpa [howner, hw] using hno

theorem DocumentChange.stored_of_find {change : DocumentChange} {d : Document}
    (h : change.find db = some d) : db.documents.get? d.id = some d := by
  cases change with
  | scan command =>
    exact Table.get?_of_mem (DocumentDb.getDocument_eq_some.mp h).1
  | finalize command =>
    exact Table.get?_of_mem (DocumentDb.getDocument_eq_some.mp h).1
  | archive command =>
    obtain ⟨h', -⟩ := DocumentDb.getWorkspaceDocument_eq_some.mp h
    exact Table.get?_of_mem (DocumentDb.getDocument_eq_some.mp h').1

/-! ## What the last statements do -/

variable {metadata : ExecutionMetadata} {messageId : Uuid}

/-- the insertion of a document for a policy, by a unit of work that holds the policy -/
theorem insertDocument_move {p : PolicyItem} (hp : StoredActive db p)
    (hnone : OfPolicy (fun d => d.archived = true) db p.id) {documentId : DocumentId} {user : UserId}
    {payload : CreateDocumentPayload} {createdAt : Int} {invalid : String} {d : Document}
    {db1 : DocumentDb}
    (h : insertDocument db metadata messageId (.policy p.id documentId) p.workspaceId user payload
      createdAt invalid = .ok (d, db1))
    (hpolicies : db'.policies = db1.policies) (hdocuments : db'.documents = db1.documents) :
    PolicyDbMove db db' [.policy p.id, .document documentId] := by
  obtain ⟨rfl, -, -, hdb, -⟩ := insertDocument_ok h
  have hp' : db1.policies = db.policies := by rw [hdb]
  have hd' : db1.documents = db.documents.upsert
      (newDocument (.policy p.id documentId) p.workspaceId user payload createdAt).toRow := by
    rw [hdb]
  exact .inserted p _ hp hnone rfl rfl rfl (hpolicies.trans hp') (hdocuments.trans hd')

theorem PolicyUpload.commit_move {u : PolicyUpload} {p : PolicyItem}
    (hk : Knows (.inserting u p) db) (h : u.commit db metadata messageId = .ok db') :
    PolicyDbMove db db' [.policy p.id, .document u.documentId] := by
  obtain ⟨hp, hid, hworkspace, hnone⟩ := hk
  cases u with
  | human command =>
    unfold PolicyUpload.commit at h
    dsimp only at h
    split at h
    · cases h
    · next d db1 hins =>
      cases h
      have hid' : command.policyId = p.id := hid.symm
      have hworkspace' : command.connection.workspaceId = p.workspaceId := hworkspace.symm
      rw [hid', hworkspace'] at hins
      exact insertDocument_move hp hnone hins rfl rfl
  | agent command grant =>
    unfold PolicyUpload.commit at h
    dsimp only at h
    split at h
    · cases h
    · next d db1 hins =>
      have hid' : grant.policyId = p.id := hid.symm
      have hworkspace' : command.grant.workspaceId = p.workspaceId := hworkspace.symm
      rw [hid', hworkspace'] at hins
      split at h
      · cases h
      · next completed hcompleted =>
        obtain ⟨hsaved, -⟩ := DocumentDb.savePolicyGrant_ok h
        exact insertDocument_move hp hnone hins (by rw [hsaved]) (by rw [hsaved])

theorem ScanDocumentResult.status_ne (result : ScanDocumentResult) :
    result.status ≠ .pendingUpload := by
  cases result <;> decide

theorem DocumentChange.commit_move {change : DocumentChange} {d : Document}
    (hk : Knows (.changing change d) db) (h : change.commit db metadata messageId d = .ok db') :
    ∃ rows, PolicyDbMove db db' rows ∧ ∀ row ∈ rows, row = .document d.id := by
  have hmem := Table.get?_mem hk
  have hkept : db' = db → ∃ rows, PolicyDbMove db db' rows ∧ ∀ row ∈ rows, row = .document d.id := by
    rintro rfl
    exact ⟨[], .kept rfl rfl, by simp⟩
  cases change with
  | scan command =>
    unfold DocumentChange.commit at h
    dsimp only at h
    split at h
    · cases h
      exact hkept rfl
    · rcases d.scanned_cases command.result with hs | ⟨ha, hstatus, hs⟩
      · rw [hs] at h
        cases h
        exact hkept rfl
      · rw [hs] at h
        dsimp only at h
        rw [if_pos (by rfl)] at h
        split at h
        · cases h
        · next db1 hsave =>
          cases h
          obtain ⟨hdb1, -⟩ := DocumentDb.saveDocument_ok hsave
          have hc : DocumentChanged d
              ({ d with uploadStatus := command.result.status } : Document).toRow :=
            ⟨rfl, rfl, ha, command.result.status_ne, fun _ => by rw [hstatus]; rfl⟩
          refine ⟨_, .changed d _ hmem hc ?_ ?_, by simp⟩
          · rw [appendTransitionMessage_eq, hdb1]
          · rw [appendTransitionMessage_eq, hdb1]
  | finalize command =>
    unfold DocumentChange.commit at h
    dsimp only at h
    split at h
    · cases h
      exact hkept rfl
    · rcases d.finalizeUploaded_cases command.finalObjectKey with hs | ⟨ha, hstatus, hs⟩
      · rw [hs] at h
        cases h
        exact hkept rfl
      · rw [hs] at h
        dsimp only at h
        rw [if_pos (by rfl)] at h
        obtain ⟨hdb', -⟩ := DocumentDb.saveDocument_ok h
        have hc : DocumentChanged d
            ({ d with objectKey := command.finalObjectKey, uploadStatus := .uploaded } : Document).toRow :=
          ⟨rfl, rfl, ha, fun hw => (by cases hw), fun hw => (by cases hw)⟩
        exact ⟨_, .changed d _ hmem hc (by rw [hdb']) (by rw [hdb']), by simp⟩
  | archive command =>
    unfold DocumentChange.commit at h
    dsimp only at h
    rcases d.archive_cases with hs | hs | ⟨ha, hterminal, hs⟩
    · rw [hs] at h
      cases h
      exact hkept rfl
    · rw [hs] at h
      cases h
      exact hkept rfl
    · rw [hs] at h
      dsimp only at h
      rw [if_pos (by rfl)] at h
      obtain ⟨hdb', -⟩ := DocumentDb.saveDocument_ok h
      have hc : DocumentChanged d ({ d with archived := true } : Document).toRow :=
        ⟨rfl, rfl, ha, fun hw => (by simp_all [Document.toRow, Document.terminal]), id⟩
      exact ⟨_, .changed d _ hmem hc (by rw [hdb']) (by rw [hdb']), by simp⟩

end

/-! ## A step -/

/-- all that a statement or a commit can do -/
inductive PolicyMove (w : PolicyWorld) : PolicyWorld → Prop
  | stays : PolicyMove w w
  | moves (tx : Nat) (point : PolicyPoint)
      (hfree : ∀ row ∈ point.locks, Transactions.Free PolicyPoint.locks w.txs tx row)
      (hk : Knows point w.db) : PolicyMove w { w with txs := w.txs.moves tx point }
  | ends (tx : Nat) : PolicyMove w (w.ends tx)
  | outside (db : DocumentDb) (hm : PolicyDbMove w.db db []) : PolicyMove w { w with db }
  | commits (tx : Nat) (db : DocumentDb) (rows : List PolicyRow) (hm : PolicyDbMove w.db db rows)
      (hfree : ∀ row ∈ rows, Transactions.Free PolicyPoint.locks w.txs tx row) :
      PolicyMove w { db, txs := w.txs.ends tx }

/-- what every reachable state keeps -/
structure PolicyInv (w : PolicyWorld) : Prop where
  exclusive : Transactions.Exclusive PolicyPoint.locks w.txs
  holds : Transactions.Holds Knows w.txs w.db
  documents : PolicyDocuments w.db

section
variable {w w' : PolicyWorld} {tx : Nat}

theorem move_of_moves {point : PolicyPoint} (h : w.moves tx point = some w')
    (hk : Knows point w.db) : PolicyMove w w' := by
  unfold PolicyWorld.moves at h
  split at h
  · next hfree =>
    cases h
    exact .moves tx point hfree hk
  · cases h

theorem archivePolicyStep_move {command : ArchivePolicy}
    (h : w.archivePolicyStep tx command = some w') : PolicyMove w w' := by
  unfold PolicyWorld.archivePolicyStep at h
  split at h
  · cases h
    exact .stays
  · split at h
    · cases h
      exact .stays
    · next p hfind =>
      split at h
      · split at h
        · cases h
          exact .stays
        · cases h
      · next ha =>
        exact move_of_moves h (storedActive_of_findPolicy hfind (by simpa using ha))

theorem createPolicyDocumentStep_move {command : CreatePolicyDocument}
    (h : w.createPolicyDocumentStep tx command = some w') : PolicyMove w w' := by
  unfold PolicyWorld.createPolicyDocumentStep at h
  split at h
  · cases h
    exact .stays
  · split at h
    · cases h
      exact .stays
    · split at h
      · split at h
        · cases h
          exact .stays
        · cases h
      · exact move_of_moves h trivial

theorem completeAgentUploadStep_move {command : CompleteAgentPolicyDocumentUpload}
    (h : w.completeAgentUploadStep tx command = some w') : PolicyMove w w' := by
  unfold PolicyWorld.completeAgentUploadStep at h
  split at h
  · cases h
    exact .stays
  · cases h
    exact .stays
  · next grant hgrant =>
    split at h
    · split at h
      · cases h
        exact .stays
      · split at h
        · cases h
          exact .stays
        · cases h
          exact .stays
        · exact move_of_moves h trivial
    · cases h

theorem changeDocumentStep_move {change : DocumentChange}
    (h : w.changeDocumentStep tx change = some w') : PolicyMove w w' := by
  unfold PolicyWorld.changeDocumentStep at h
  split at h
  · cases h
    exact .stays
  · split at h
    · cases h
      exact .stays
    · next d hfind => exact move_of_moves h (DocumentChange.stored_of_find hfind)

theorem lockPolicyStep_move {u : PolicyUpload} (h : w.lockPolicyStep tx u = some w') :
    PolicyMove w w' := by
  unfold PolicyWorld.lockPolicyStep at h
  split at h
  · cases h
    exact .ends tx
  · next p hfind => exact move_of_moves h (storedActive_of_findActivePolicy hfind)

theorem readDocumentsStep_move (hi : PolicyInv w) {point : PolicyPoint}
    (hpoint : w.txs.point tx = some point) (h : w.readDocumentsStep tx point = some w') :
    PolicyMove w w' := by
  have hk := hi.holds.of_point hpoint
  unfold PolicyWorld.readDocumentsStep at h
  split at h
  · next command p =>
    obtain ⟨hp, hid, hworkspace⟩ := hk
    split at h
    · cases h
      exact .ends tx
    · next hread =>
      rw [← hid, ← hworkspace, Bool.not_eq_true] at hread
      exact move_of_moves h ⟨hp, hi.documents.settled_of_read hp hread⟩
  · next u p =>
    obtain ⟨hp, hid, hworkspace⟩ := hk
    split at h
    · cases h
      exact .ends tx
    · next hread =>
      rw [← hid, ← hworkspace, Bool.not_eq_true] at hread
      exact move_of_moves h ⟨hp, hid, hworkspace, hi.documents.none_of_read hp hread⟩
  · cases h

/-- a commit, or the failure of its last statements -/
theorem commits_move {r : Except RepositoryError DocumentDb}
    (h : ∀ db, r = .ok db → ∃ rows, PolicyDbMove w.db db rows ∧
      ∀ row ∈ rows, Transactions.Free PolicyPoint.locks w.txs tx row) :
    PolicyMove w (w.commits tx r) := by
  unfold PolicyWorld.commits
  split
  · exact .ends tx
  · next db =>
    obtain ⟨rows, hm, hfree⟩ := h db rfl
    exact .commits tx db rows hm hfree

theorem commitStep_move (hi : PolicyInv w) {now : Int} {metadata : ExecutionMetadata}
    {messageId : Uuid} {point : PolicyPoint} (hpoint : w.txs.point tx = some point)
    (h : w.commitStep tx now metadata messageId point = some w') : PolicyMove w w' := by
  have hk := hi.holds.of_point hpoint
  have hheld : ∀ row ∈ point.locks, Transactions.Free PolicyPoint.locks w.txs tx row :=
    fun row hrow => hi.exclusive.free hpoint hrow
  unfold PolicyWorld.commitStep at h
  split at h
  · next command p =>
    cases h
    refine commits_move fun db hdb => ?_
    cases hdb
    refine ⟨_, .policyArchived p (pgTimestamp now) hk.1 hk.2 rfl rfl, ?_⟩
    exact fun row hrow => hheld row hrow
  · next u p =>
    split at h
    · next hdocument =>
      cases h
      refine commits_move fun db hdb => ⟨_, u.commit_move hk hdb, ?_⟩
      intro row hrow
      rcases List.mem_cons.mp hrow with rfl | hrow'
      · exact hheld _ List.mem_cons_self
      · rw [List.mem_singleton.mp hrow']
        exact hdocument
    · cases h
  · next change d =>
    cases h
    refine commits_move fun db hdb => ?_
    obtain ⟨rows, hm, hrows⟩ := change.commit_move hk hdb
    refine ⟨rows, hm, fun row hrow => ?_⟩
    rw [hrows row hrow]
    exact hheld _ List.mem_cons_self
  · cases h

/-- **All that a statement or a commit can do, in a reachable state.** -/
theorem policyStep_move (hi : PolicyInv w) {e : PolicyEvent} (h : policyStep w e = some w') :
    PolicyMove w w' := by
  cases e with
  | createPolicy p =>
    simp only [policyStep] at h
    split at h
    · cases h
    · next hc =>
      cases h
      simp only [not_or, Bool.not_eq_true, Option.isSome_eq_false_iff, Option.isNone_iff_eq_none,
        not_not] at hc
      exact .outside _ (.policyCreated p hc.1 hc.2 rfl rfl)
  | issueGrant grant =>
    simp only [policyStep] at h
    split at h
    · cases h
    · split at h
      · cases h
        exact .stays
      · next db hsave =>
        cases h
        obtain ⟨hdb, -⟩ := DocumentDb.savePolicyGrant_ok hsave
        exact .outside db (.kept (by rw [hdb]) (by rw [hdb]))
  | createEvidenceDocument d =>
    simp only [policyStep] at h
    split at h
    · cases h
    · next sid howner =>
      split at h
      · cases h
      · next hnew =>
        split at h
        · cases h
          exact .stays
        · next db hsave =>
          cases h
          obtain ⟨hdb, -⟩ := DocumentDb.saveDocument_ok hsave
          have hnone : w.db.documents.get? d.toRow.id = none := by simpa using hnew
          exact .outside db (.evidenceCreated d.toRow sid hnone howner (by rw [hdb]) (by rw [hdb]))
  | archivePolicy tx command =>
    simp only [policyStep] at h
    split at h
    · cases h
    · exact archivePolicyStep_move h
  | createPolicyDocument tx command =>
    simp only [policyStep] at h
    split at h
    · cases h
    · exact createPolicyDocumentStep_move h
  | completeAgentUpload tx command =>
    simp only [policyStep] at h
    split at h
    · cases h
    · exact completeAgentUploadStep_move h
  | changeDocument tx change =>
    simp only [policyStep] at h
    split at h
    · cases h
    · exact changeDocumentStep_move h
  | lockPolicy tx =>
    simp only [policyStep] at h
    split at h
    · exact lockPolicyStep_move h
    · cases h
  | readDocuments tx =>
    simp only [policyStep] at h
    obtain ⟨point, hpoint, hstep⟩ := Option.bind_eq_some_iff.mp h
    exact readDocumentsStep_move hi hpoint hstep
  | commit tx now metadata messageId =>
    simp only [policyStep] at h
    obtain ⟨point, hpoint, hstep⟩ := Option.bind_eq_some_iff.mp h
    exact commitStep_move hi hpoint hstep
  | rollback tx =>
    simp only [policyStep] at h
    split at h
    · cases h
      exact .ends tx
    · cases h

/-- the change of the tables by a step -/
theorem PolicyMove.db_move (hm : PolicyMove w w') : ∃ rows, PolicyDbMove w.db w'.db rows := by
  cases hm with
  | stays => exact ⟨[], .kept rfl rfl⟩
  | moves tx point hfree hk => exact ⟨[], .kept rfl rfl⟩
  | ends tx => exact ⟨[], .kept rfl rfl⟩
  | outside db hm => exact ⟨[], hm⟩
  | commits tx db rows hm hfree => exact ⟨rows, hm⟩

theorem PolicyInv.move (hi : PolicyInv w) (hm : PolicyMove w w') : PolicyInv w' := by
  obtain ⟨rows, hdb⟩ := hm.db_move
  have hdocuments := hi.documents.move hdb
  cases hm with
  | stays => exact hi
  | moves tx point hfree hk =>
    exact ⟨hi.exclusive.moves hfree, hi.holds.moves hk, hi.documents⟩
  | ends tx => exact ⟨hi.exclusive.ends tx, hi.holds.ends tx, hi.documents⟩
  | outside db hm =>
    refine ⟨hi.exclusive, ?_, hdocuments⟩
    intro t ht
    exact (hi.holds t ht).frame hm (by simp)
  | commits tx db rows hm hfree =>
    refine ⟨hi.exclusive.ends tx, hi.holds.changes ?_, hdocuments⟩
    intro t ht hne hk
    exact hk.frame hm fun row hrow => hfree row hrow t ht hne

theorem policy_step (hi : PolicyInv w) {e : PolicyEvent} (h : policyStep w e = some w') :
    PolicyInv w' :=
  hi.move (policyStep_move hi h)

theorem policyInv_empty : PolicyInv .empty where
  exclusive := by
    intro t ht
    exact absurd ht (Table.mem_rows_empty t)
  holds := by
    intro t ht
    exact absurd ht (Table.mem_rows_empty t)
  documents :=
    ⟨fun d hd => absurd hd (Table.mem_rows_empty d), fun p hp => absurd hp (Table.mem_rows_empty p),
      fun d hd => absurd hd (Table.mem_rows_empty d)⟩

theorem policy_run {events : List PolicyEvent} (h : run policyStep .empty events = some w) :
    PolicyInv w :=
  run_inv PolicyInv (fun _ _ _ hi hs => policy_step hi hs) policyInv_empty h

end

/-- **Over every interleaving of policy creation, uploads, scans, finalizations and archives**: a policy has
at most one document that is not archived, no document is created for an archived policy, and an archived
policy has no document whose upload goes on. -/
theorem policy_document_invariant {events : List PolicyEvent} {w : PolicyWorld}
    (h : run policyStep .empty events = some w) :
    (∀ d ∈ w.db.documents.rows, ∀ d' ∈ w.db.documents.rows, ∀ id, d.owner = .policy id →
      d'.owner = .policy id → d.archived = false → d'.archived = false → d = d') ∧
    (∀ e w' d id, policyStep w e = some w' → d ∈ w'.db.documents.rows → d ∉ w.db.documents.rows →
      d.uploadStatus = .pendingUpload → d.owner = .policy id →
      ∃ p, p.id = id ∧ p.archivedAt = none ∧ w.db.policies.get? id = some p ∧
        w'.db.policies.get? id = some p) ∧
    (∀ p ∈ w.db.policies.rows, p.archivedAt ≠ none → ∀ d ∈ w.db.documents.rows,
      d.owner = .policy p.id → d.archived = false →
      d.uploadStatus ≠ .pendingUpload ∧ d.uploadStatus ≠ .finalizing) := by
  have hi := policy_run h
  refine ⟨hi.documents.one_current, ?_, ?_⟩
  · intro e w' d id hstep hmem hnew hstatus howner
    obtain ⟨rows, hm⟩ := (policyStep_move hi hstep).db_move
    obtain ⟨p, rfl, hp, hp'⟩ := hm.created_active hmem hnew hstatus howner
    exact ⟨p, rfl, hp.2, hp.1, hp'.1⟩
  · intro p hmem harchived d hd howner ha
    have hsettled := hi.documents.archived_settled p hmem harchived d hd howner
    rcases hsettled with h' | h'
    · rw [ha] at h'
      cases h'
    · constructor
      · intro hs
        rw [hs] at h'
        cases h'
      · intro hs
        rw [hs] at h'
        cases h'

/-! Two uploads to one policy: the second waits for the policy and then finds the document of the first. -/

def racingPolicyConnection : AgentConnectionContext := ⟨⟨2⟩, ⟨3⟩, ⟨1⟩, .all⟩

def racingPolicyUpload (documentId : DocumentId) (objectKey : String) : CreatePolicyDocument :=
  ⟨racingPolicyConnection, ⟨7⟩, documentId,
    ⟨.policy ⟨7⟩, "a.pdf", "application/pdf", 3, objectKey, "sha", "crc"⟩, 0⟩

def racingPolicyEvents : List PolicyEvent :=
  [.createPolicy ⟨⟨7⟩, ⟨1⟩, none⟩,
    .createPolicyDocument 1 (racingPolicyUpload ⟨9⟩ "first"),
    .createPolicyDocument 2 (racingPolicyUpload ⟨10⟩ "second"),
    .lockPolicy 1, .readDocuments 1, .commit 1 0 .background 11,
    .lockPolicy 2, .readDocuments 2,
    .changeDocument 3 (.scan ⟨.policy ⟨7⟩ ⟨9⟩, "first", .malicious⟩), .commit 3 1 .background 12,
    .archivePolicy 4 ⟨racingPolicyConnection, ⟨7⟩⟩, .readDocuments 4, .commit 4 2 .background 13]

/-- while the first upload holds the policy, the second has to wait -/
example : (run policyStep .empty (racingPolicyEvents.take 5)).bind
    (fun w => policyStep w (.lockPolicy 2)) = none := by
  decide

/-- the policy is archived, and its one document is current and settled -/
theorem policy_document_invariant_racing :
    ∃ w, run policyStep .empty racingPolicyEvents = some w ∧
      w.db.documents.rows.map (fun d => (d.id, d.uploadStatus, d.archived))
        = [(⟨9⟩, .containsVirus, false)] ∧
      w.db.policies.rows.map (fun p => p.archivedAt.isSome) = [true] ∧
      ∀ p ∈ w.db.policies.rows, p.archivedAt ≠ none → ∀ d ∈ w.db.documents.rows,
        d.owner = .policy p.id → d.archived = false →
        d.uploadStatus ≠ .pendingUpload ∧ d.uploadStatus ≠ .finalizing := by
  have hrun : (run policyStep .empty racingPolicyEvents).map (fun w =>
      (w.db.documents.rows.map (fun d => (d.id, d.uploadStatus, d.archived)),
        w.db.policies.rows.map (fun p => p.archivedAt.isSome)))
      = some ([(⟨9⟩, .containsVirus, false)], [true]) := by
    decide
  obtain ⟨w, hw, hrows⟩ := Option.map_eq_some_iff.mp hrun
  exact ⟨w, hw, congrArg Prod.fst hrows, congrArg Prod.snd hrows,
    (policy_document_invariant hw).2.2⟩

end Proofplane
