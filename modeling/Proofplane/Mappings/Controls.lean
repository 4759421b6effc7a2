import Proofplane.Base.Table
import Proofplane.Domain.Ids
import Mathlib.Data.List.Dedup
import Mathlib.Data.List.Perm.Subperm

/-!
# The controls of a workspace

Controls are only read by the commands that map them.

* `Controls.existingIds`     the ids among the given ones that are controls of the workspace;
* `Controls.Has`             the control is one of the workspace;
* `Controls.mem_existingIds` the two agree.
-/

namespace Proofplane
open Base

/-- a row of `controls` -/
structure ControlRecord where
  id : ControlId
  workspaceId : WorkspaceId
  code : String
  title : String
  description : String
  deriving DecidableEq, Repr

abbrev Controls := Table ControlRecord.id

namespace Controls

def existingIds (controls : Controls) (workspaceId : WorkspaceId) (ids : List ControlId) :
    List ControlId :=
  (controls.rows.filter fun c => c.workspaceId = workspaceId ∧ c.id ∈ ids).map ControlRecord.id

/-- the control is one of the workspace -/
def Has (controls : Controls) (workspaceId : WorkspaceId) (id : ControlId) : Prop :=
  ∃ c ∈ controls.rows, c.id = id ∧ c.workspaceId = workspaceId

instance (controls : Controls) (w : WorkspaceId) (id : ControlId) : Decidable (controls.Has w id) :=
  inferInstanceAs (Decidable (∃ c ∈ _, _))

variable {controls : Controls} {workspaceId : WorkspaceId} {ids : List ControlId}

theorem existingIds_perm (controls : Controls) (workspaceId : WorkspaceId) (ids : List ControlId) :
    (controls.existingIds workspaceId ids).Perm
      (ids.dedup.filter fun id => controls.Has workspaceId id) := by
  refine (List.perm_ext_iff_of_nodup ?_ (ids.nodup_dedup.filter _)).mpr fun id => ?_
  · exact controls.nodup.sublist (List.filter_sublist.map _)
  · unfold existingIds
    rw [List.mem_map, List.mem_filter, List.mem_dedup, decide_eq_true_eq]
    constructor
    · rintro ⟨c, hc, rfl⟩
      obtain ⟨hc, hcond⟩ := List.mem_filter.mp hc
      obtain ⟨hworkspace, hmem⟩ := of_decide_eq_true hcond
      exact ⟨hmem, c, hc, rfl, hworkspace⟩
    · rintro ⟨hmem, c, hc, rfl, hworkspace⟩
      exact ⟨c, List.mem_filter.mpr ⟨hc, decide_eq_true ⟨hworkspace, hmem⟩⟩, rfl⟩

theorem mem_existingIds {id : ControlId} (h : id ∈ ids) :
    id ∈ controls.existingIds workspaceId ids ↔ controls.Has workspaceId id := by
  rw [(existingIds_perm controls workspaceId ids).mem_iff, List.mem_filter, List.mem_dedup,
    decide_eq_true_eq]
  exact and_iff_right h

/-- the requested ids that are no controls of the workspace -/
theorem filter_existingIds (controls : Controls) (workspaceId : WorkspaceId) (ids : List ControlId) :
    (ids.filter fun id => id ∉ controls.existingIds workspaceId ids)
      = ids.filter fun id => ¬ controls.Has workspaceId id :=
  List.filter_congr fun _ hid => decide_eq_decide.mpr (not_congr (mem_existingIds hid))

end Controls

end Proofplane
