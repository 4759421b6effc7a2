import Proofplane.Base.Mutation
import Proofplane.Base.Normalise
import Proofplane.Domain.Ids
import Proofplane.Domain.Validation

/-!
# Controls and the requirements they meet

A control of a workspace lists the framework requirements that it meets, each once.

* `ControlDefinition`   a code, a title and a description that are not blank;
* `Control`             the control, **its requirements strictly in the order of their UUIDs**;
* `normalizeFrameworkRequirementIds`   the sort, and the pass that refuses what has been seen;
* `define`, `rehydrate`, `ControlMethod.replace`   the operations.
-/

namespace Proofplane
open Base Mutation

structure ControlDefinition where
  code : RequiredText
  title : RequiredText
  description : RequiredText
  deriving DecidableEq, Repr

def ControlDefinition.new (rawCode rawTitle rawDescription : String) : Validation ControlDefinition :=
  match requiredText "code" rawCode, requiredText "title" rawTitle,
      requiredText "description" rawDescription with
  | .ok code, .ok title, .ok description => .ok ⟨code, title, description⟩
  | code, title, description => .error (code.errors ++ title.errors ++ description.errors)

theorem ControlDefinition.new_eq (d : ControlDefinition) :
    ControlDefinition.new d.code.1 d.title.1 d.description.1 = .ok d := by
  unfold ControlDefinition.new
  rw [requiredText_eq, requiredText_eq, requiredText_eq]

inductive ControlError
  | duplicateFrameworkRequirementReference (id : FrameworkRequirementId)
  | invalidRehydration
  | invalidReplacementTime
  deriving DecidableEq, Repr

def ControlError.message : ControlError → String
  | .duplicateFrameworkRequirementReference _ => "framework requirement reference is duplicated"
  | .invalidRehydration => "persisted control snapshot is inconsistent"
  | .invalidReplacementTime => "control replacement predates its creation"

/-- the order of the requirements -/
def requirementKey (id : FrameworkRequirementId) : Nat := id.uuid.toNat

theorem requirementKey_agrees (a b : FrameworkRequirementId) :
    requirementKey a = requirementKey b ↔ id a = id b :=
  ⟨fun h => Id.ext (BitVec.eq_of_toNat_eq h), congrArg requirementKey⟩

/-! ## The list of requirements -/

/-- `normalize_framework_requirement_ids` -/
def normalizeFrameworkRequirementIds (sort : UnstableSort requirementKey)
    (ids : List FrameworkRequirementId) : Except ControlError (List FrameworkRequirementId) :=
  let ids := sort.run ids
  match firstSeen ∅ ids with
  | some id => .error (.duplicateFrameworkRequirementReference id)
  | none => .ok ids

section
variable {sort sort' : UnstableSort requirementKey} {ids ids' s : List FrameworkRequirementId}

theorem normalizeFrameworkRequirementIds_ok_iff :
    normalizeFrameworkRequirementIds sort ids = .ok s ↔ ids.Nodup ∧ s = sort.run ids := by
  have hnone : firstSeen ∅ (sort.run ids) = none ↔ ids.Nodup := by
    rw [firstSeen_eq_none_iff, (sort.perm ids).nodup_iff]
    exact and_iff_right fun d _ => Finset.notMem_empty d
  unfold normalizeFrameworkRequirementIds
  dsimp only
  split
  case h_1 id hid =>
    refine iff_of_false (fun h => nomatch h) fun h => ?_
    rw [hnone.mpr h.1] at hid
    cases hid
  case h_2 hid =>
    rw [Except.ok.injEq, eq_comm]
    exact (and_iff_right (hnone.mp hid)).symm

theorem normalizeFrameworkRequirementIds_normalised
    (h : normalizeFrameworkRequirementIds sort ids = .ok s) : Normalised requirementKey ids s := by
  obtain ⟨hnodup, rfl⟩ := normalizeFrameworkRequirementIds_ok_iff.mp h
  have hkey := (nodup_key_iff requirementKey_agrees ids).mpr (by rwa [List.map_id])
  exact sort.normalised hkey

/-- the sorted list is the same whatever the order of the list and the sort, and the pass with it -/
theorem normalizeFrameworkRequirementIds_perm (hperm : ids.Perm ids') :
    normalizeFrameworkRequirementIds sort ids = normalizeFrameworkRequirementIds sort' ids' := by
  have hrun : sort.run ids = sort'.run ids' := by
    have hid := map_eq_map_of_key (fun a b => (requirementKey_agrees a b).mp) (sort.map_key sort' hperm)
    rwa [List.map_id, List.map_id] at hid
  unfold normalizeFrameworkRequirementIds
  rw [hrun]

end

/-! ## Controls -/

/-- a control of a workspace, with the requirements it meets -/
structure Control where
  id : ControlId
  workspaceId : WorkspaceId
  definition : ControlDefinition
  frameworkRequirementIds : List FrameworkRequirementId
  createdAt : Int
  updatedAt : Int
  ordered : createdAt ≤ updatedAt
  sorted : frameworkRequirementIds.Pairwise fun a b => requirementKey a < requirementKey b

namespace Control

def define (sort : UnstableSort requirementKey) (id : ControlId) (workspaceId : WorkspaceId)
    (definition : ControlDefinition) (frameworkRequirementIds : List FrameworkRequirementId)
    (createdAt : Int) : Except ControlError Control :=
  match h : normalizeFrameworkRequirementIds sort frameworkRequirementIds with
  | .error e => .error e
  | .ok frameworkRequirementIds =>
    .ok { id, workspaceId, definition, frameworkRequirementIds, createdAt
          updatedAt := createdAt
          ordered := Int.le_refl _
          sorted := (normalizeFrameworkRequirementIds_normalised h).sorted }

def rehydrate (sort : UnstableSort requirementKey) (id : ControlId) (workspaceId : WorkspaceId)
    (definition : ControlDefinition) (frameworkRequirementIds : List FrameworkRequirementId)
    (createdAt updatedAt : Int) : Except ControlError Control :=
  if h : updatedAt < createdAt then .error .invalidRehydration
  else
    match define sort id workspaceId definition frameworkRequirementIds createdAt with
    | .error e => .error e
    | .ok control =>
      .ok { id, workspaceId, definition, createdAt, updatedAt
            frameworkRequirementIds := control.frameworkRequirementIds
            ordered := Int.le_of_not_gt h
            sorted := control.sorted }

end Control

namespace ControlMethod

/-- `Control::replace`: the list first, then the time, and only then the assignments -/
def replace (sort : UnstableSort requirementKey) (definition : ControlDefinition)
    (frameworkRequirementIds : List FrameworkRequirementId) (updatedAt : Int) :
    Mutation ControlError Control Unit :=
  match hids : normalizeFrameworkRequirementIds sort frameworkRequirementIds with
  | .error e => throw e
  | .ok frameworkRequirementIds => do
    let control ← get
    if h : updatedAt < control.createdAt then throw .invalidReplacementTime
    else
      set { control with
        definition, frameworkRequirementIds, updatedAt
        ordered := not_lt.mp h
        sorted := (normalizeFrameworkRequirementIds_normalised hids).sorted }

section
variable {sort sort' : UnstableSort requirementKey} {ids ids' s : List FrameworkRequirementId}

/-- a list with a repetition is refused before the time is looked at -/
theorem replace_error {err : ControlError} (h : normalizeFrameworkRequirementIds sort ids = .error err)
    (definition : ControlDefinition) (updatedAt : Int) (c : Control) :
    (replace sort definition ids updatedAt).exec c = (.error err, c) := by
  unfold replace
  split
  case h_1 err' hids =>
    obtain rfl : err = err' := Except.error.inj (h.symm.trans hids)
    rfl
  case h_2 s hids =>
    rw [h] at hids
    cases hids

/-- after the list it is the time alone -/
theorem replace_ok (h : normalizeFrameworkRequirementIds sort ids = .ok s)
    (definition : ControlDefinition) (updatedAt : Int) (c : Control) :
    (updatedAt < c.createdAt ∧
      (replace sort definition ids updatedAt).exec c = (.error .invalidReplacementTime, c)) ∨
    ∃ hordered : c.createdAt ≤ updatedAt,
      (replace sort definition ids updatedAt).exec c
        = (.ok (), { c with
            definition, updatedAt
            frameworkRequirementIds := s
            ordered := hordered
            sorted := (normalizeFrameworkRequirementIds_normalised h).sorted }) := by
  unfold replace
  split
  case h_1 err hids =>
    rw [h] at hids
    cases hids
  case h_2 s' hids =>
    obtain rfl : s = s' := Except.ok.inj (h.symm.trans hids)
    simp only [exec_get_bind]
    split
    case isTrue hlt => exact .inl ⟨hlt, rfl⟩
    case isFalse hlt => exact .inr ⟨not_lt.mp hlt, rfl⟩

/-- all that a replacement can do -/
theorem replace_cases (sort : UnstableSort requirementKey) (definition : ControlDefinition)
    (ids : List FrameworkRequirementId) (updatedAt : Int) (c : Control) :
    (∃ hordered hsorted, ids.Nodup ∧ c.createdAt ≤ updatedAt ∧
      (replace sort definition ids updatedAt).exec c
        = (.ok (), { c with
            definition, updatedAt
            frameworkRequirementIds := sort.run ids
            ordered := hordered
            sorted := hsorted })) ∨
    ((¬ ids.Nodup ∨ updatedAt < c.createdAt) ∧
      ∃ e, (replace sort definition ids updatedAt).exec c = (.error e, c)) := by
  cases hids : normalizeFrameworkRequirementIds sort ids with
  | error err =>
    refine .inr ⟨.inl fun hnodup => ?_, err, replace_error hids definition updatedAt c⟩
    rw [normalizeFrameworkRequirementIds_ok_iff.mpr ⟨hnodup, rfl⟩] at hids
    cases hids
  | ok s =>
    obtain ⟨hnodup, rfl⟩ := normalizeFrameworkRequirementIds_ok_iff.mp hids
    rcases replace_ok hids definition updatedAt c with ⟨hlt, hexec⟩ | ⟨hle, hexec⟩
    · exact .inr ⟨.inr hlt, _, hexec⟩
    · exact .inl ⟨hle, _, hnodup, hle, hexec⟩

/-- the list and the sort come in through the normalised list alone -/
theorem replace_congr (definition : ControlDefinition) (updatedAt : Int) (c : Control)
    (h : normalizeFrameworkRequirementIds sort ids = normalizeFrameworkRequirementIds sort' ids') :
    (replace sort definition ids updatedAt).exec c = (replace sort' definition ids' updatedAt).exec c := by
  cases hids : normalizeFrameworkRequirementIds sort' ids' with
  | error err => rw [replace_error (h.trans hids), replace_error hids]
  | ok s =>
    obtain ⟨hlt, hexec⟩ | ⟨hle, hexec⟩ := replace_ok (h.trans hids) definition updatedAt c
    · obtain ⟨-, hexec'⟩ | ⟨hle, -⟩ := replace_ok hids definition updatedAt c
      · rw [hexec, hexec']
      · exact absurd hlt (not_lt.mpr hle)
    · obtain ⟨hlt, -⟩ | ⟨_, hexec'⟩ := replace_ok hids definition updatedAt c
      · exact absurd hlt (not_lt.mpr hle)
      · rw [hexec, hexec']

end

end ControlMethod

end Proofplane
