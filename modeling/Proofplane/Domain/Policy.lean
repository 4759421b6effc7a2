import Proofplane.Base.Links
import Proofplane.Domain.Ids
import Proofplane.Domain.Validation

/-!
# Policies and the controls they are attached to

A policy owns its mappings to controls.  Once it is archived it is not changed any more.

* `PolicyDefinition`         a name, and a description if there is one;
* `Policy`                   the policy with its mappings, **each control once**;
* `define`, `rehydrate`, `replace`, `archive`, `replaceMappings`   the operations.
-/

namespace Proofplane
open Base

def validatePolicyName (value : String) : Validation { s : String // TrimmedText 200 s } :=
  if hne : trim value = "" then .error [.emptyRequiredText "name"]
  else if hlong : 200 < (trim value).length then .error [.requiredTextTooLong "name" 200]
  else .ok ⟨trim value, trim_trim value, hne, Nat.not_lt.mp hlong⟩

theorem validatePolicyName_eq (name : { s : String // TrimmedText 200 s }) :
    validatePolicyName name.1 = .ok name := by
  obtain ⟨s, htrim, hne, hlong⟩ := name
  show validatePolicyName s = _
  unfold validatePolicyName
  rw [dif_neg (by rw [htrim]; exact hne), dif_neg (by rw [htrim]; exact Nat.not_lt.mpr hlong)]
  simp only [htrim]

structure PolicyDefinition where
  name : { s : String // TrimmedText 200 s }
  description : Option { s : String // TrimmedText 4000 s }
  deriving DecidableEq, Repr

def PolicyDefinition.new (rawName : String) (rawDescription : Option String) :
    Validation PolicyDefinition :=
  match validatePolicyName rawName, optionalText "description" 4000 rawDescription with
  | .ok name, .ok description => .ok ⟨name, description⟩
  | name, description => .error (name.errors ++ description.errors)

theorem PolicyDefinition.new_eq (d : PolicyDefinition) :
    PolicyDefinition.new d.name.1 (d.description.map Subtype.val) = .ok d := by
  unfold PolicyDefinition.new
  rw [validatePolicyName_eq, optionalText_eq]

structure PolicyControlMappingState where
  controlId : ControlId
  createdAt : Int
  deriving DecidableEq, Repr

inductive PolicyError
  | archived | duplicateControlMapping | invalidRehydration | invalidReplacementTime
  deriving DecidableEq, Repr

/-- a policy of a workspace, with its mappings -/
structure Policy where
  id : PolicyId
  workspaceId : WorkspaceId
  definition : PolicyDefinition
  mappings : List PolicyControlMappingState
  createdAt : Int
  updatedAt : Int
  archivedAt : Option Int
  ordered : createdAt ≤ updatedAt
  archivedLater : ∀ at' ∈ archivedAt, createdAt ≤ at'
  distinct : (mappings.map PolicyControlMappingState.controlId).Nodup

namespace Policy

def define (id : PolicyId) (workspaceId : WorkspaceId) (definition : PolicyDefinition)
    (createdAt : Int) : Policy where
  id := id
  workspaceId := workspaceId
  definition := definition
  mappings := []
  createdAt := createdAt
  updatedAt := createdAt
  archivedAt := none
  ordered := Int.le_refl _
  archivedLater := fun _ h => nomatch h
  distinct := List.nodup_nil

/-- the order of the mappings -/
def mappingKey (m : PolicyControlMappingState) : Nat := m.controlId.uuid.toNat

theorem nodup_mappingKey_iff (ms : List PolicyControlMappingState) :
    (ms.map mappingKey).Nodup ↔ (ms.map PolicyControlMappingState.controlId).Nodup := by
  have hmap : ms.map mappingKey
      = (ms.map PolicyControlMappingState.controlId).map fun id : ControlId => id.uuid.toNat := by
    rw [List.map_map]
    rfl
  rw [hmap]
  exact List.nodup_map_iff fun a b hab => Id.ext (BitVec.eq_of_toNat_eq hab)

def replaceMappings (p : Policy) (mappings : List PolicyControlMappingState) :
    Except PolicyError Policy :=
  if p.archivedAt.isSome then .error .archived
  else
    match h : normalizeBy mappingKey mappings with
    | .error _ => .error .duplicateControlMapping
    | .ok sorted =>
      .ok { p with
        mappings := sorted
        distinct :=
          (((normalizeBy_ok h).1.map _).nodup_iff).mpr
            ((nodup_mappingKey_iff mappings).mp (normalizeBy_ok h).2) }

def rehydrate (id : PolicyId) (workspaceId : WorkspaceId) (definition : PolicyDefinition)
    (mappings : List PolicyControlMappingState) (createdAt updatedAt : Int) (archivedAt : Option Int) :
    Except PolicyError Policy :=
  if hordered : updatedAt < createdAt then .error .invalidRehydration
  else if harchived : ∃ at' ∈ archivedAt, at' < createdAt then .error .invalidRehydration
  else
    match (define id workspaceId definition createdAt).replaceMappings mappings with
    | .error e => .error e
    | .ok policy =>
      .ok { id, workspaceId, definition, createdAt, updatedAt, archivedAt
            mappings := policy.mappings
            ordered := Int.le_of_not_gt hordered
            archivedLater := fun at' h => not_lt.mp fun hlt => harchived ⟨at', h, hlt⟩
            distinct := policy.distinct }

def replace (p : Policy) (definition : PolicyDefinition) (now : Int) : Except PolicyError Policy :=
  if p.archivedAt.isSome then .error .archived
  else if h : now < p.createdAt then .error .invalidReplacementTime
  else .ok { p with definition, updatedAt := now, ordered := not_lt.mp h }

def archive (p : Policy) (now : Int) : Except PolicyError Policy :=
  if p.archivedAt.isSome then .error .archived
  else if h : now < p.createdAt then .error .invalidReplacementTime
  else
    .ok { p with
      archivedAt := some now
      updatedAt := now
      ordered := not_lt.mp h
      archivedLater := fun _ hat => Option.some.inj hat ▸ not_lt.mp h }

/-- **Mappings to different controls replace the old ones of an active policy.** -/
theorem replaceMappings_eq (p : Policy) {ms : List PolicyControlMappingState}
    (hactive : p.archivedAt = none) (h : (ms.map PolicyControlMappingState.controlId).Nodup) :
    ∃ p', p.replaceMappings ms = .ok p' ∧ p'.mappings.Perm ms ∧ p'.id = p.id ∧
      p'.workspaceId = p.workspaceId ∧ p'.definition = p.definition ∧ p'.createdAt = p.createdAt ∧
      p'.updatedAt = p.updatedAt ∧ p'.archivedAt = p.archivedAt := by
  obtain ⟨sorted, hsorted, hperm⟩ := normalizeBy_eq ((nodup_mappingKey_iff ms).mpr h)
  unfold replaceMappings
  rw [if_neg (by rw [hactive]; exact Bool.false_ne_true)]
  split
  · next herror =>
    rw [hsorted] at herror
    cases herror
  · next s hok =>
    rw [hsorted] at hok
    cases hok
    exact ⟨_, rfl, hperm, rfl, rfl, rfl, rfl, rfl, rfl⟩

/-- what a replacement of mappings that succeeds has found -/
theorem replaceMappings_ok {p p' : Policy} {ms : List PolicyControlMappingState}
    (h : p.replaceMappings ms = .ok p') :
    p.archivedAt = none ∧ (ms.map PolicyControlMappingState.controlId).Nodup := by
  unfold replaceMappings at h
  split at h
  · cases h
  · next hactive =>
    refine ⟨Option.not_isSome_iff_eq_none.mp hactive, ?_⟩
    split at h
    · cases h
    · next s hok => exact (nodup_mappingKey_iff ms).mp (normalizeBy_ok hok).2

theorem rehydrate_eq (id : PolicyId) (workspaceId : WorkspaceId) (definition : PolicyDefinition)
    {ms : List PolicyControlMappingState} {createdAt updatedAt : Int} {archivedAt : Option Int}
    (hle : createdAt ≤ updatedAt) (harchived : ∀ at' ∈ archivedAt, createdAt ≤ at')
    (h : (ms.map PolicyControlMappingState.controlId).Nodup) :
    ∃ p, rehydrate id workspaceId definition ms createdAt updatedAt archivedAt = .ok p ∧
      p.mappings.Perm ms ∧ p.id = id ∧ p.workspaceId = workspaceId ∧ p.definition = definition ∧
      p.createdAt = createdAt ∧ p.updatedAt = updatedAt ∧ p.archivedAt = archivedAt := by
  obtain ⟨p, hp, hperm, -⟩ :=
    (define id workspaceId definition createdAt).replaceMappings_eq rfl h
  have hnot : ¬ ∃ at' ∈ archivedAt, at' < createdAt := by
    rintro ⟨at', hat, hlt⟩
    exact absurd hlt (not_lt.mpr (harchived at' hat))
  unfold rehydrate
  rw [dif_neg (not_lt.mpr hle), dif_neg hnot, hp]
  exact ⟨_, rfl, hperm, rfl, rfl, rfl, rfl, rfl, rfl⟩

end Policy

end Proofplane
