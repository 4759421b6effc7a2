import Proofplane.Base.Links
import Proofplane.Domain.Ids
import Proofplane.Domain.Validation

/-!
# Evidence and the controls it supports

One item of evidence owns its mappings to controls, each with a rationale.

* `EvidenceDefinition`, `EvidenceControlMappingState`   texts that are not blank;
* `Evidence`                 the item with its mappings, **each control once**;
* `define`, `rehydrate`, `replace`, `replaceMappings`   the operations.
-/

namespace Proofplane
open Base

inductive EvidenceStatus
  | active | paused | retired
  deriving DecidableEq, Repr

structure EvidenceDefinition where
  title : RequiredText
  description : RequiredText
  collectionInstructions : RequiredText
  deriving DecidableEq, Repr

def EvidenceDefinition.new (rawTitle rawDescription rawCollectionInstructions : String) :
    Validation EvidenceDefinition :=
  match requiredText "title" rawTitle, requiredText "description" rawDescription,
      requiredText "collection_instructions" rawCollectionInstructions with
  | .ok title, .ok description, .ok collectionInstructions =>
    .ok ⟨title, description, collectionInstructions⟩
  | title, description, collectionInstructions =>
    .error (title.errors ++ description.errors ++ collectionInstructions.errors)

theorem EvidenceDefinition.new_eq (d : EvidenceDefinition) :
    EvidenceDefinition.new d.title.1 d.description.1 d.collectionInstructions.1 = .ok d := by
  unfold EvidenceDefinition.new
  rw [requiredText_eq, requiredText_eq, requiredText_eq]

structure EvidenceControlMappingState where
  controlId : ControlId
  rationale : RequiredText
  createdAt : Int
  deriving DecidableEq, Repr

def EvidenceControlMappingState.new (controlId : ControlId) (rationale : String) (createdAt : Int) :
    Validation EvidenceControlMappingState :=
  (requiredText "rationale" rationale).map fun rationale => ⟨controlId, rationale, createdAt⟩

theorem EvidenceControlMappingState.new_eq (m : EvidenceControlMappingState) :
    new m.controlId m.rationale.1 m.createdAt = .ok m := by
  unfold new
  rw [requiredText_eq]
  rfl

theorem EvidenceControlMappingState.new_ok {controlId : ControlId} {rationale : String} {createdAt : Int}
    {m : EvidenceControlMappingState} (h : new controlId rationale createdAt = .ok m) :
    m.controlId = controlId ∧ m.rationale.1 = rationale ∧ m.createdAt = createdAt := by
  unfold new requiredText at h
  split at h
  · cases h
    exact ⟨rfl, rfl, rfl⟩
  · cases h

inductive EvidenceError
  | duplicateControlMapping (id : ControlId)
  | invalidRehydration
  | invalidReplacementTime
  deriving DecidableEq, Repr

/-- one item of evidence of a workspace, with its mappings -/
structure Evidence where
  id : EvidenceId
  workspaceId : WorkspaceId
  definition : EvidenceDefinition
  status : EvidenceStatus
  mappings : List EvidenceControlMappingState
  createdAt : Int
  updatedAt : Int
  ordered : createdAt ≤ updatedAt
  distinct : (mappings.map EvidenceControlMappingState.controlId).Nodup

namespace Evidence

def define (id : EvidenceId) (workspaceId : WorkspaceId) (definition : EvidenceDefinition)
    (status : EvidenceStatus) (createdAt : Int) : Evidence where
  id := id
  workspaceId := workspaceId
  definition := definition
  status := status
  mappings := []
  createdAt := createdAt
  updatedAt := createdAt
  ordered := Int.le_refl _
  distinct := List.nodup_nil

/-- the order of the mappings -/
def mappingKey (m : EvidenceControlMappingState) : Nat := m.controlId.uuid.toNat

theorem nodup_mappingKey_iff (ms : List EvidenceControlMappingState) :
    (ms.map mappingKey).Nodup ↔ (ms.map EvidenceControlMappingState.controlId).Nodup := by
  have hinj : Function.Injective fun id : ControlId => id.uuid.toNat := by
    intro a b hab
    exact Id.ext (BitVec.eq_of_toNat_eq hab)
  have hmap : ms.map mappingKey
      = (ms.map EvidenceControlMappingState.controlId).map fun id : ControlId => id.uuid.toNat := by
    rw [List.map_map]
    rfl
  rw [hmap]
  exact List.nodup_map_iff hinj

def replaceMappings (e : Evidence) (mappings : List EvidenceControlMappingState) :
    Except EvidenceError Evidence :=
  match h : normalizeBy mappingKey mappings with
  | .error m => .error (.duplicateControlMapping m.controlId)
  | .ok sorted =>
    .ok { e with
      mappings := sorted
      distinct :=
        (((normalizeBy_ok h).1.map _).nodup_iff).mpr
          ((nodup_mappingKey_iff mappings).mp (normalizeBy_ok h).2) }

def rehydrate (id : EvidenceId) (workspaceId : WorkspaceId) (definition : EvidenceDefinition)
    (status : EvidenceStatus) (mappings : List EvidenceControlMappingState)
    (createdAt updatedAt : Int) : Except EvidenceError Evidence :=
  if h : updatedAt < createdAt then .error .invalidRehydration
  else
    match (define id workspaceId definition status createdAt).replaceMappings mappings with
    | .error e => .error e
    | .ok evidence =>
      .ok { id, workspaceId, definition, status, createdAt, updatedAt
            mappings := evidence.mappings
            ordered := Int.le_of_not_gt h
            distinct := evidence.distinct }

def replace (e : Evidence) (definition : EvidenceDefinition) (status : EvidenceStatus)
    (updatedAt : Int) : Except EvidenceError Evidence :=
  if h : updatedAt < e.createdAt then .error .invalidReplacementTime
  else .ok { e with definition, status, updatedAt, ordered := not_lt.mp h }

/-- **Mappings to different controls replace the old ones.** -/
theorem replaceMappings_eq (e : Evidence) {ms : List EvidenceControlMappingState}
    (h : (ms.map EvidenceControlMappingState.controlId).Nodup) :
    ∃ e', e.replaceMappings ms = .ok e' ∧ e'.mappings.Perm ms ∧ e'.id = e.id ∧
      e'.workspaceId = e.workspaceId ∧ e'.definition = e.definition ∧ e'.status = e.status ∧
      e'.createdAt = e.createdAt ∧ e'.updatedAt = e.updatedAt := by
  obtain ⟨sorted, hsorted, hperm⟩ := normalizeBy_eq ((nodup_mappingKey_iff ms).mpr h)
  unfold replaceMappings
  split
  · next m herror =>
    rw [hsorted] at herror
    cases herror
  · next s hok =>
    rw [hsorted] at hok
    cases hok
    exact ⟨_, rfl, hperm, rfl, rfl, rfl, rfl, rfl, rfl⟩

theorem replaceMappings_ok {e e' : Evidence} {ms : List EvidenceControlMappingState}
    (h : e.replaceMappings ms = .ok e') :
    (ms.map EvidenceControlMappingState.controlId).Nodup := by
  unfold replaceMappings at h
  split at h
  · cases h
  · next s hok => exact (nodup_mappingKey_iff ms).mp (normalizeBy_ok hok).2

theorem rehydrate_eq (id : EvidenceId) (workspaceId : WorkspaceId) (definition : EvidenceDefinition)
    (status : EvidenceStatus) {ms : List EvidenceControlMappingState} {createdAt updatedAt : Int}
    (hle : createdAt ≤ updatedAt) (h : (ms.map EvidenceControlMappingState.controlId).Nodup) :
    ∃ e, rehydrate id workspaceId definition status ms createdAt updatedAt = .ok e ∧
      e.mappings.Perm ms ∧ e.id = id ∧ e.workspaceId = workspaceId ∧ e.definition = definition ∧
      e.status = status ∧ e.createdAt = createdAt ∧ e.updatedAt = updatedAt := by
  obtain ⟨e, he, hperm, -⟩ :=
    (define id workspaceId definition status createdAt).replaceMappings_eq h
  unfold rehydrate
  rw [dif_neg (not_lt.mpr hle), he]
  exact ⟨_, rfl, hperm, rfl, rfl, rfl, rfl, rfl, rfl⟩

end Evidence

end Proofplane
