import Proofplane.Auditor.Listing

/-!
# Each thing once, with its own children

The loops over the joined rows put every submission, control and policy together once, whatever the
database does with the ties of an order.

* `ListsSubmissions`, `submissions_listed`   the submissions of a period, each with its one document;
* `ListsControls`, `controls_listed`   the controls of a workspace, each with its requirements;
* `ListsPolicies`, `policies_listed`   the active policies, each with its current document and its controls.
-/

namespace Proofplane
open Base

/-- of rows that are all different, one at most satisfies what one row at most satisfies -/
theorem length_filter_le_one {ρ κ : Type} {key : ρ → κ} (t : Table key) (q : ρ → Bool)
    (h : ∀ a ∈ t.rows, ∀ b ∈ t.rows, q a = true → q b = true → a = b) : (t.rows.filter q).length ≤ 1 := by
  have hnodup : (t.rows.filter q).Nodup := (List.Nodup.of_map key t.nodup).filter q
  cases hrows : t.rows.filter q with
  | nil => exact Nat.zero_le 1
  | cons a l =>
    cases l with
    | nil => exact le_refl 1
    | cons b l =>
      have hmem : ∀ x ∈ a :: b :: l, x ∈ t.rows ∧ q x = true := fun x hx =>
        List.mem_filter.mp (by rw [hrows]; exact hx)
      obtain ⟨ha, hqa⟩ := hmem a List.mem_cons_self
      obtain ⟨hb, hqb⟩ := hmem b (List.mem_cons_of_mem _ List.mem_cons_self)
      rw [hrows, h a ha b hb hqa hqb] at hnodup
      exact absurd List.mem_cons_self (List.nodup_cons.mp hnodup).1

/-! ## Submissions -/

/-- the submissions of a period are listed once, under their evidence, in the order of the rows -/
structure ListsSubmissions (db : DocumentDb) (workspaceId : WorkspaceId) (periodStart periodEnd : Int)
    (rows : List SubmissionRow) (listing : EvidenceId → Option (List AuditorPortalSubmission)) : Prop where
  once : (rows.map fun r => r.submission.id).Nodup
  all : ∀ s ∈ db.submissions.rows, ∀ d ∈ db.documents.rows, ⟨s, d⟩ ∈ rows ↔
    (db.getEvidence workspaceId s.evidenceId).isSome ∧ d.owner = .evidenceSubmission s.id ∧
      d.workspaceId = workspaceId ∧ d.archived = false ∧ s.validFrom ≤ pgTimestamp periodEnd ∧
      pgTimestamp periodStart ≤ s.validUntil
  own : ∀ evidenceId, listing evidenceId =
    if (rows.filter fun r => r.submission.evidenceId = evidenceId) = [] then none
    else some ((rows.filter fun r => r.submission.evidenceId = evidenceId).map SubmissionRow.toSubmission)

section
variable {db : DocumentDb} {workspaceId : WorkspaceId} {periodStart periodEnd : Int}

theorem mem_submissionRows {r : SubmissionRow} :
    r ∈ db.submissionRows workspaceId periodStart periodEnd ↔
      r.submission ∈ db.submissions.rows ∧
      (∃ e, db.getEvidence workspaceId r.submission.evidenceId = some e) ∧
      r.document ∈ db.documents.rows ∧ r.document.owner = .evidenceSubmission r.submission.id ∧
      r.document.workspaceId = workspaceId ∧ r.document.archived = false ∧
      r.submission.validFrom ≤ pgTimestamp periodEnd ∧ pgTimestamp periodStart ≤ r.submission.validUntil := by
  have hworkspace : ∀ {id e}, db.getEvidence workspaceId id = some e → e.workspaceId = workspaceId :=
    fun h => of_decide_eq_true (Option.filter_eq_some_iff.mp h).2
  unfold DocumentDb.submissionRows DocumentDb.rowsOfSubmission
  simp only [List.mem_flatMap, List.mem_map, List.mem_filter, Option.mem_toList, decide_eq_true_eq]
  constructor
  · rintro ⟨s, hs, e, he, d, ⟨hd, howner, hw, ha, hfrom, huntil⟩, rfl⟩
    exact ⟨hs, ⟨e, he⟩, hd, howner, hw.trans (hworkspace he), ha, hfrom, huntil⟩
  · rintro ⟨hs, ⟨e, he⟩, hd, howner, hw, ha, hfrom, huntil⟩
    exact ⟨r.submission, hs, e, he, r.document,
      ⟨hd, howner, hw.trans (hworkspace he).symm, ha, hfrom, huntil⟩, rfl⟩

/-- a submission has one row at most -/
theorem submissionRows_nodup (hsingle : SingleOwners db) :
    ((db.submissionRows workspaceId periodStart periodEnd).map fun r => r.submission.id).Nodup := by
  refine nodup_map_flatMap_rows db.submissions.nodup ?_ ?_
  · intro s hs r hr
    unfold DocumentDb.rowsOfSubmission at hr
    obtain ⟨e, -, hr⟩ := List.mem_flatMap.mp hr
    obtain ⟨d, -, rfl⟩ := List.mem_map.mp hr
    rfl
  · intro s hs
    unfold DocumentDb.rowsOfSubmission
    cases he : db.getEvidence workspaceId s.evidenceId with
    | none => exact Nat.zero_le 1
    | some e =>
      show ((_ : List SubmissionRow) ++ []).length ≤ 1
      rw [List.append_nil, List.length_map]
      refine length_filter_le_one db.documents _ fun a ha b hb hqa hqb => ?_
      obtain ⟨hoa, -, haa, -⟩ := of_decide_eq_true hqa
      obtain ⟨hob, -, hab, -⟩ := of_decide_eq_true hqb
      exact hsingle a ha b hb haa hab (hoa.trans hob.symm)

/-- **Every submission of the period is listed once, with its one document.** -/
theorem submissions_listed (hsingle : SingleOwners db) {rows : List SubmissionRow}
    (hrows : OrderedBy SubmissionRow.rank (db.submissionRows workspaceId periodStart periodEnd) rows) :
    ListsSubmissions db workspaceId periodStart periodEnd rows (submissionsFromRows rows) where
  once := (hrows.perm.map _).nodup_iff.mpr (submissionRows_nodup hsingle)
  all s hs d hd := by
    rw [hrows.perm.mem_iff, mem_submissionRows, Option.isSome_iff_exists]
    constructor
    · intro h
      exact ⟨h.2.1, h.2.2.2⟩
    · intro h
      exact ⟨hs, h.1, hd, h.2⟩
  own evidenceId := collectRows_eq _ _ rows evidenceId

end

/-! ## Controls -/

def FrameworkRequirement.detail (q : FrameworkRequirement) (f : Framework) : FrameworkRequirementDetail :=
  ⟨q.id, q.frameworkId, f.code, f.name, q.code, q.title, q.description⟩

/-- the requirement of a row, with its framework -/
def ControlListRow.requirementDetail (r : ControlListRow) : Option FrameworkRequirementDetail :=
  r.requirement.bind fun q => r.framework.map q.detail

def ControlListRow.detail (control : StoredControl) (requirements : List FrameworkRequirementDetail) :
    ControlDetail :=
  ⟨control.id, control.workspaceId, control.code, control.title, control.description, requirements,
    control.createdAt, control.updatedAt⟩

/-- the requirements that are mapped to a control -/
def PortalDb.requirementsOf (p : PortalDb) (id : ControlId) : List FrameworkRequirementDetail :=
  (p.requirementMappings.filter fun m => m.controlId = id).filterMap fun m =>
    (p.frameworkRequirements.get? m.frameworkRequirementId).bind fun q =>
      (p.frameworks.get? q.frameworkId).map q.detail

/-- the controls of the workspace are listed once, each with the requirements that are mapped to it, once
each and in the order of the rows -/
structure ListsControls (p : PortalDb) (workspaceId : WorkspaceId) (rows : List ControlListRow)
    (controls : List ControlDetail) : Prop where
  once : (controls.map ControlDetail.id).Nodup
  order : (controls.map ControlDetail.id).Sublist (rows.map fun r => r.control.id)
  all : ∀ c ∈ p.controls.rows, c.workspaceId = workspaceId → c.id ∈ controls.map ControlDetail.id
  own : ∀ control ∈ controls, ∃ c ∈ p.controls.rows, c.workspaceId = workspaceId ∧
    control = ControlListRow.detail c
      ((rows.filter fun r => r.control.id = c.id).filterMap ControlListRow.requirementDetail) ∧
    control.frameworkRequirements.Perm (p.requirementsOf c.id) ∧
    (control.frameworkRequirements.map FrameworkRequirementDetail.id).Nodup

section
variable {p : PortalDb} {workspaceId : WorkspaceId} {rows : List ControlListRow}

/-- a row of the listing without the check of its framework -/
def addRequirement (control : ControlDetail) (r : ControlListRow) : ControlDetail :=
  { control with frameworkRequirements := control.frameworkRequirements ++ r.requirementDetail.toList }

theorem foldl_addRequirement (rs : List ControlListRow) (control : ControlDetail) :
    rs.foldl addRequirement control = { control with
      frameworkRequirements := control.frameworkRequirements ++ rs.filterMap ControlListRow.requirementDetail } := by
  induction rs generalizing control with
  | nil => simp
  | cons r rs ih =>
    rw [List.foldl_cons, ih]
    unfold addRequirement
    cases h : r.requirementDetail with
    | none => simp [List.filterMap_cons_none h]
    | some q => simp [List.filterMap_cons_some h]

theorem mem_controlRows {r : ControlListRow} (h : r ∈ p.controlRows workspaceId) :
    r.control ∈ p.controls.rows ∧ r.control.workspaceId = workspaceId ∧
      (∀ q, r.requirement = some q → r.framework.isSome) := by
  unfold PortalDb.controlRows at h
  obtain ⟨c, hc, hr⟩ := List.mem_flatMap.mp h
  obtain ⟨m, -, rfl⟩ := List.mem_map.mp hr
  obtain ⟨hc, hworkspace⟩ := List.mem_filter.mp hc
  refine ⟨hc, of_decide_eq_true hworkspace, fun q hq => ?_⟩
  have hq' : (m.bind fun m => p.frameworkRequirements.get? m.frameworkRequirementId) = some q := hq
  obtain ⟨mapping, -, hget⟩ := Option.bind_eq_some_iff.mp hq'
  show ((m.bind fun m => p.frameworkRequirements.get? m.frameworkRequirementId).bind fun r =>
    p.frameworks.get? r.frameworkId).isSome = true
  rw [hq']
  exact p.frameworkRequirements_framework q (Table.get?_mem hget)

/-- the row of every requirement has its framework, so that no column fails to be read -/
theorem pushRequirement_ok {r : ControlListRow} (h : r ∈ p.controlRows workspaceId) (control : ControlDetail) :
    pushRequirement control r = .ok (addRequirement control r) := by
  unfold pushRequirement addRequirement ControlListRow.requirementDetail
  cases hq : r.requirement with
  | none => simp
  | some q =>
    obtain ⟨f, hf⟩ := Option.isSome_iff_exists.mp ((mem_controlRows h).2.2 q hq)
    rw [hf]
    rfl

/-- a control has at least one row -/
theorem exists_controlRow {c : StoredControl} (hc : c ∈ p.controls.rows) (hw : c.workspaceId = workspaceId) :
    ∃ r ∈ p.controlRows workspaceId, r.control.id = c.id := by
  have hmem : c ∈ p.controls.rows.filter fun c => c.workspaceId = workspaceId :=
    List.mem_filter.mpr ⟨hc, decide_eq_true hw⟩
  obtain ⟨m, hm⟩ := List.exists_mem_of_ne_nil _
    (leftJoin_ne_nil (p.requirementMappings.filter fun m => m.controlId = c.id))
  exact ⟨_, List.mem_flatMap.mpr ⟨c, hmem, List.mem_map_of_mem hm⟩, rfl⟩

/-- what is read off the rows of a control is what is mapped to it -/
theorem controlRows_requirements {c : StoredControl} (hc : c ∈ p.controls.rows)
    (hw : c.workspaceId = workspaceId) :
    ((p.controlRows workspaceId).filter fun r => r.control.id = c.id).filterMap ControlListRow.requirementDetail
      = p.requirementsOf c.id := by
  have hmem : c ∈ p.controls.rows.filter fun c => c.workspaceId = workspaceId :=
    List.mem_filter.mpr ⟨hc, decide_eq_true hw⟩
  have hnodup : ((p.controls.rows.filter fun c => c.workspaceId = workspaceId).map fun c => c.id).Nodup :=
    p.controls.nodup.sublist (List.filter_sublist.map _)
  have hkey : ∀ c ∈ p.controls.rows.filter fun c => c.workspaceId = workspaceId,
      ∀ r ∈ p.rowsOfControl c, r.control.id = c.id := by
    intro c' _ r hr
    obtain ⟨m, -, rfl⟩ := List.mem_map.mp hr
    rfl
  have hown : ((p.controlRows workspaceId).filter fun r => r.control.id = c.id) = p.rowsOfControl c :=
    filter_flatMap_rows hnodup hkey hmem
  rw [hown]
  unfold PortalDb.rowsOfControl PortalDb.requirementsOf
  rw [List.filterMap_map, filterMap_leftJoin _ rfl]
  refine List.filterMap_congr fun m _ => ?_
  show ((p.frameworkRequirements.get? m.frameworkRequirementId).bind fun q =>
    ((p.frameworkRequirements.get? m.frameworkRequirementId).bind fun r =>
      p.frameworks.get? r.frameworkId).map q.detail) = _
  cases p.frameworkRequirements.get? m.frameworkRequirementId with
  | none => rfl
  | some q => rfl

theorem requirementsOf_nodup (p : PortalDb) (id : ControlId) :
    ((p.requirementsOf id).map FrameworkRequirementDetail.id).Nodup := by
  have hkeys : ((p.requirementMappings.filter fun m => m.controlId = id).map
      RequirementMapping.frameworkRequirementId).Nodup := by
    refine nodup_map_filter p.requirementMappings_nodup ?_ id
    rintro ⟨controlId, requirementId⟩ ⟨controlId', requirementId'⟩ rfl rfl
    rfl
  refine hkeys.sublist (map_filterMap_sublist _ ?_ _)
  intro m detail h
  obtain ⟨q, hq, hdetail⟩ := Option.bind_eq_some_iff.mp h
  obtain ⟨f, -, rfl⟩ := Option.map_eq_some_iff.mp hdetail
  exact (Table.get?_key hq : q.id = m.frameworkRequirementId)

/-- **Every control of the workspace is listed once, with the requirements that are mapped to it.** -/
theorem controls_listed {ω : Type} [LinearOrder ω] {collate : String ↪ ω}
    (hrows : OrderedBy (ControlListRow.rank collate) (p.controlRows workspaceId) rows) :
    ∃ controls, controlsFromJoinedRows rows = .ok controls ∧ ListsControls p workspaceId rows controls := by
  have hmem : ∀ r ∈ rows, r ∈ p.controlRows workspaceId := fun r hr => hrows.perm.mem_iff.mp hr
  -- in one workspace a code is a control, so that the first column of the order tells the controls apart
  have hkey : ∀ r ∈ rows, ∀ s ∈ rows,
      collate r.control.code = collate s.control.code ↔ r.control.id = s.control.id := by
    intro r hr s hs
    obtain ⟨hrc, hrw, -⟩ := mem_controlRows (hmem r hr)
    obtain ⟨hsc, hsw, -⟩ := mem_controlRows (hmem s hs)
    constructor
    · intro h
      exact p.controls_code r.control hrc s.control hsc (hrw.trans hsw.symm) (collate.injective h)
    · intro h
      have hsame : r.control = s.control := p.controls.eq_of_key hrc hsc h
      rw [hsame]
  have hstart : ∀ r : ControlListRow, (controlFromRow r).id = r.control.id := fun _ => rfl
  have hadd : ∀ control r, (addRequirement control r).id = control.id := fun _ _ => rfl
  have hpush : ∀ control, ∀ r ∈ rows, pushRequirement control r = .ok (addRequirement control r) :=
    fun control r hr => pushRequirement_ok (hmem r hr) control
  obtain ⟨controls, hjoin, hgroups⟩ := joinRows_grouped hstart hadd hpush hrows.fst hkey
  refine ⟨controls, hjoin, hgroups.once, hgroups.order, ?_, ?_⟩
  · intro c hc hw
    obtain ⟨r, hr, hid⟩ := exists_controlRow hc hw
    rw [← hid]
    exact hgroups.complete r (hrows.perm.mem_iff.mpr hr)
  · intro control hcontrol
    obtain ⟨r, hr, hfold⟩ := hgroups.exists_row hcontrol
    obtain ⟨hc, hw, -⟩ := mem_controlRows (hmem r hr)
    rw [foldl_addRequirement] at hfold
    have hchildren : control.frameworkRequirements
        = (rows.filter fun x => x.control.id = r.control.id).filterMap ControlListRow.requirementDetail := by
      rw [hfold]
      rfl
    have hperm : control.frameworkRequirements.Perm (p.requirementsOf r.control.id) := by
      rw [hchildren, ← controlRows_requirements hc hw]
      exact (hrows.perm.filter _).filterMap _
    exact ⟨r.control, hc, hw, hfold, hperm, (hperm.map _).nodup_iff.mpr (requirementsOf_nodup p _)⟩

end

/-! ## Policies -/

/-- the control of a row -/
def PolicyListRow.controlSummary (r : PolicyListRow) : Option ControlSummary :=
  r.control.map fun c => ⟨c.id, c.code, c.title, c.description⟩

/-- the controls of the policy's workspace that are mapped to the policy -/
def PortalDb.controlsOf (p : PortalDb) (q : PolicyItem) : List ControlSummary :=
  (p.policyMappings.filter fun m => m.policyId = q.id).filterMap fun m =>
    ((p.controls.get? m.controlId).filter fun c => c.workspaceId = q.workspaceId).map fun c =>
      ⟨c.id, c.code, c.title, c.description⟩

/-- the document of a policy that is not archived -/
def PortalDb.currentDocument (p : PortalDb) (q : PolicyItem) : Option Document :=
  (p.documentDb.documents.rows.filter fun d =>
    d.owner = .policy q.id ∧ d.workspaceId = q.workspaceId ∧ d.archived = false).head?

/-- a policy with its document and its controls -/
def PortalDb.policy (p : PortalDb) (q : PolicyItem) (controls : List ControlSummary) : AuditorPortalPolicy :=
  ⟨q.id, (p.policyColumns q.id).name, (p.policyColumns q.id).description, controls,
    (p.currentDocument q).map (policyDocument q.id), (p.policyColumns q.id).createdAt,
    (p.policyColumns q.id).updatedAt⟩

/-- the active policies of the workspace are listed once, each with its current document and with the controls
that are mapped to it, once each and in the order of the rows -/
structure ListsPolicies (p : PortalDb) (workspaceId : WorkspaceId) (rows : List PolicyListRow)
    (policies : List AuditorPortalPolicy) : Prop where
  once : (policies.map AuditorPortalPolicy.id).Nodup
  order : (policies.map AuditorPortalPolicy.id).Sublist (rows.map PolicyListRow.policyId)
  all : ∀ q ∈ p.documentDb.policies.rows, q.workspaceId = workspaceId → q.archivedAt = none →
    q.id ∈ policies.map AuditorPortalPolicy.id
  own : ∀ policy ∈ policies, ∃ q ∈ p.documentDb.policies.rows, q.workspaceId = workspaceId ∧
    q.archivedAt = none ∧
    policy = p.policy q ((rows.filter fun r => r.policyId = q.id).filterMap PolicyListRow.controlSummary) ∧
    (∀ d, p.currentDocument q = some d ↔ d ∈ p.documentDb.documents.rows ∧ d.owner = .policy q.id ∧
      d.workspaceId = workspaceId ∧ d.archived = false) ∧
    policy.controls.Perm (p.controlsOf q) ∧ (policy.controls.map ControlSummary.id).Nodup

section
variable {p : PortalDb} {workspaceId : WorkspaceId} {rows : List PolicyListRow}

theorem foldl_pushControl (rs : List PolicyListRow) (policy : AuditorPortalPolicy) :
    rs.foldl pushControl policy = { policy with
      controls := policy.controls ++ rs.filterMap PolicyListRow.controlSummary } := by
  induction rs generalizing policy with
  | nil => simp
  | cons r rs ih =>
    rw [List.foldl_cons, ih]
    unfold pushControl
    cases h : r.control with
    | none =>
      have hnone : r.controlSummary = none := by
        unfold PolicyListRow.controlSummary
        rw [h]
        rfl
      simp [List.filterMap_cons_none hnone]
    | some c =>
      have hsome : r.controlSummary = some ⟨c.id, c.code, c.title, c.description⟩ := by
        unfold PolicyListRow.controlSummary
        rw [h]
        rfl
      simp [List.filterMap_cons_some hsome]

/-- one document at most of a policy is not archived -/
theorem currentDocuments_length (hsingle : SingleOwners p.documentDb) (q : PolicyItem) :
    (p.documentDb.documents.rows.filter fun d =>
      d.owner = .policy q.id ∧ d.workspaceId = q.workspaceId ∧ d.archived = false).length ≤ 1 := by
  refine length_filter_le_one p.documentDb.documents _ fun a ha b hb hqa hqb => ?_
  obtain ⟨hoa, -, haa⟩ := of_decide_eq_true hqa
  obtain ⟨hob, -, hab⟩ := of_decide_eq_true hqb
  exact hsingle a ha b hb haa hab (hoa.trans hob.symm)

theorem currentDocument_eq_some (hsingle : SingleOwners p.documentDb) {q : PolicyItem} {d : Document} :
    p.currentDocument q = some d ↔ d ∈ p.documentDb.documents.rows ∧ d.owner = .policy q.id ∧
      d.workspaceId = q.workspaceId ∧ d.archived = false := by
  have hmem : d ∈ (p.documentDb.documents.rows.filter fun d =>
      d.owner = .policy q.id ∧ d.workspaceId = q.workspaceId ∧ d.archived = false) ↔
      d ∈ p.documentDb.documents.rows ∧ d.owner = .policy q.id ∧ d.workspaceId = q.workspaceId ∧
        d.archived = false := by
    rw [List.mem_filter, decide_eq_true_eq]
  rw [← hmem]
  have hlength := currentDocuments_length hsingle q
  unfold PortalDb.currentDocument
  cases hrows : p.documentDb.documents.rows.filter fun d =>
      d.owner = .policy q.id ∧ d.workspaceId = q.workspaceId ∧ d.archived = false with
  | nil => simp
  | cons a l =>
    rw [hrows, List.length_cons] at hlength
    have hnil : l = [] := List.length_eq_zero_iff.mp (by omega)
    subst hnil
    rw [List.mem_singleton, List.head?_cons, Option.some.injEq]
    exact eq_comm

/-- the one document that is not archived stands in every row of its policy -/
theorem rowsOfPolicy_eq (hsingle : SingleOwners p.documentDb) (q : PolicyItem) :
    p.rowsOfPolicy q = (leftJoin (p.policyMappings.filter fun m => m.policyId = q.id)).map fun m =>
      ⟨q.id, p.policyColumns q.id, p.currentDocument q,
        (m.bind fun m => p.controls.get? m.controlId).filter fun c => c.workspaceId = q.workspaceId⟩ := by
  unfold PortalDb.rowsOfPolicy PortalDb.currentDocument
  rw [leftJoin_of_length_le_one (currentDocuments_length hsingle q), List.flatMap_singleton]

theorem mem_policyRows (hsingle : SingleOwners p.documentDb) {r : PolicyListRow}
    (h : r ∈ p.policyRows workspaceId) :
    ∃ q ∈ p.documentDb.policies.rows, q.workspaceId = workspaceId ∧ q.archivedAt = none ∧
      r.policyId = q.id ∧ r.columns = p.policyColumns q.id ∧ r.document = p.currentDocument q := by
  unfold PortalDb.policyRows at h
  obtain ⟨q, hq, hr⟩ := List.mem_flatMap.mp h
  obtain ⟨hq, hcond⟩ := List.mem_filter.mp hq
  obtain ⟨hw, ha⟩ := of_decide_eq_true hcond
  rw [rowsOfPolicy_eq hsingle] at hr
  obtain ⟨m, -, rfl⟩ := List.mem_map.mp hr
  exact ⟨q, hq, hw, ha, rfl, rfl, rfl⟩

/-- an active policy has at least one row -/
theorem exists_policyRow (hsingle : SingleOwners p.documentDb) {q : PolicyItem}
    (hq : q ∈ p.documentDb.policies.rows) (hw : q.workspaceId = workspaceId) (ha : q.archivedAt = none) :
    ∃ r ∈ p.policyRows workspaceId, r.policyId = q.id := by
  obtain ⟨m, hm⟩ := List.exists_mem_of_ne_nil _
    (leftJoin_ne_nil (p.policyMappings.filter fun m => m.policyId = q.id))
  refine ⟨⟨q.id, p.policyColumns q.id, p.currentDocument q,
    (m.bind fun m => p.controls.get? m.controlId).filter fun c => c.workspaceId = q.workspaceId⟩, ?_, rfl⟩
  refine List.mem_flatMap.mpr ⟨q, List.mem_filter.mpr ⟨hq, decide_eq_true ⟨hw, ha⟩⟩, ?_⟩
  rw [rowsOfPolicy_eq hsingle]
  exact List.mem_map_of_mem hm

/-- what is read off the rows of a policy is what is mapped to it -/
theorem policyRows_controls (hsingle : SingleOwners p.documentDb) {q : PolicyItem}
    (hq : q ∈ p.documentDb.policies.rows) (hw : q.workspaceId = workspaceId) (ha : q.archivedAt = none) :
    ((p.policyRows workspaceId).filter fun r => r.policyId = q.id).filterMap PolicyListRow.controlSummary
      = p.controlsOf q := by
  have hmem : q ∈ p.documentDb.policies.rows.filter fun q =>
      q.workspaceId = workspaceId ∧ q.archivedAt = none :=
    List.mem_filter.mpr ⟨hq, decide_eq_true ⟨hw, ha⟩⟩
  have hnodup : ((p.documentDb.policies.rows.filter fun q =>
      q.workspaceId = workspaceId ∧ q.archivedAt = none).map PolicyItem.id).Nodup :=
    p.documentDb.policies.nodup.sublist (List.filter_sublist.map _)
  have hkey : ∀ q ∈ p.documentDb.policies.rows.filter fun q =>
      q.workspaceId = workspaceId ∧ q.archivedAt = none, ∀ r ∈ p.rowsOfPolicy q, r.policyId = q.id := by
    intro q' _ r hr
    rw [rowsOfPolicy_eq hsingle] at hr
    obtain ⟨m, -, rfl⟩ := List.mem_map.mp hr
    rfl
  have hown : ((p.policyRows workspaceId).filter fun r => r.policyId = q.id) = p.rowsOfPolicy q :=
    filter_flatMap_rows hnodup hkey hmem
  rw [hown, rowsOfPolicy_eq hsingle, List.filterMap_map, filterMap_leftJoin _ rfl]
  rfl

theorem controlsOf_nodup (p : PortalDb) (q : PolicyItem) :
    ((p.controlsOf q).map ControlSummary.id).Nodup := by
  have hkeys : ((p.policyMappings.filter fun m => m.policyId = q.id).map PolicyMapping.controlId).Nodup := by
    refine nodup_map_filter p.policyMappings_nodup ?_ q.id
    rintro ⟨policyId, controlId⟩ ⟨policyId', controlId'⟩ rfl rfl
    rfl
  refine hkeys.sublist (map_filterMap_sublist _ ?_ _)
  intro m summary h
  obtain ⟨c, hc, rfl⟩ := Option.map_eq_some_iff.mp h
  have hget := (Option.filter_eq_some_iff.mp hc).1
  have hid := Table.get?_key hget
  exact hid

/-- **Every active policy is listed once, with its current document and the controls mapped to it.** -/
theorem policies_listed (hsingle : SingleOwners p.documentDb) {ω : Type} [LinearOrder ω]
    {collate : String ↪ ω} {lower : String → String}
    (hrows : OrderedBy (PolicyListRow.rank collate lower) (p.policyRows workspaceId) rows) :
    ∃ policies, policiesFromRows rows = .ok policies ∧ ListsPolicies p workspaceId rows policies := by
  have hmem : ∀ r ∈ rows, r ∈ p.policyRows workspaceId := fun r hr => hrows.perm.mem_iff.mp hr
  -- the id stands second in the order, and it decides the name before it
  have hkey : ∀ r ∈ rows, ∀ s ∈ rows,
      (ofLex (r.rank collate lower)).1 = (ofLex (s.rank collate lower)).1 ↔ r.policyId = s.policyId := by
    intro r hr s hs
    obtain ⟨q, -, -, -, hrid, hrc, -⟩ := mem_policyRows hsingle (hmem r hr)
    obtain ⟨q', -, -, -, hsid, hsc, -⟩ := mem_policyRows hsingle (hmem s hs)
    constructor
    · intro h
      have hpair : (collate (lower r.columns.name), r.policyId.uuid.toNat)
          = (collate (lower s.columns.name), s.policyId.uuid.toNat) := toLex.injective h
      exact Id.ext (BitVec.eq_of_toNat_eq (Prod.mk.inj hpair).2)
    · intro h
      have hcolumns : r.columns = s.columns := by rw [hrc, hsc, ← hrid, ← hsid, h]
      unfold PolicyListRow.rank
      rw [hcolumns, h]
      rfl
  have hstart : ∀ r, (policyFromRow r).id = r.policyId := fun _ => rfl
  have hadd : ∀ policy r, (pushControl policy r).id = policy.id := by
    intro policy r
    unfold pushControl
    cases r.control with
    | none => rfl
    | some c => rfl
  have hpush : ∀ policy, ∀ r ∈ rows, (Except.ok (pushControl policy r) : Except RepositoryError _)
      = .ok (pushControl policy r) := fun _ _ _ => rfl
  obtain ⟨policies, hjoin, hgroups⟩ := joinRows_grouped hstart hadd hpush hrows.fst hkey
  refine ⟨policies, hjoin, hgroups.once, hgroups.order, ?_, ?_⟩
  · intro q hq hw ha
    obtain ⟨r, hr, hid⟩ := exists_policyRow hsingle hq hw ha
    rw [← hid]
    exact hgroups.complete r (hrows.perm.mem_iff.mpr hr)
  · intro policy hpolicy
    obtain ⟨r, hr, hfold⟩ := hgroups.exists_row hpolicy
    obtain ⟨q, hq, hw, ha, hrid, hrc, hrd⟩ := mem_policyRows hsingle (hmem r hr)
    rw [foldl_pushControl, hrid] at hfold
    have hstarted : policyFromRow r = p.policy q [] := by
      unfold policyFromRow PortalDb.policy
      rw [hrid, hrc, hrd]
    rw [hstarted] at hfold
    have hchildren : policy.controls
        = (rows.filter fun x => x.policyId = q.id).filterMap PolicyListRow.controlSummary := by
      rw [hfold]
      rfl
    have hperm : policy.controls.Perm (p.controlsOf q) := by
      rw [hchildren, ← policyRows_controls hsingle hq hw ha]
      exact (hrows.perm.filter _).filterMap _
    refine ⟨q, hq, hw, ha, hfold, ?_, hperm, (hperm.map _).nodup_iff.mpr (controlsOf_nodup p q)⟩
    intro d
    rw [currentDocument_eq_some hsingle, hw]

end

end Proofplane
