import Proofplane.Domain.Permission
import Proofplane.Domain.Policy
import Proofplane.Mappings.Controls
import Proofplane.Persistence.Workspaces

/-!
# The commands on policies and their mappings to controls

Policies are created, replaced and archived.  Their mappings change from both sides, each with one function
for attaching and detaching: `changeMappings` edits one policy, `changeControlPolicies` sorts out the
policies of a request in the order of their ids and then edits each of them.

* `getPolicy`, `savePolicy`      the aggregate with its mappings; names of active policies are unique;
* `changeMappings`               one policy and the requested controls;
* `changeControlPolicies`        one control and the requested policies;
* `createPolicy`, `replacePolicy`, `archivePolicy`   the commands on policies themselves.
-/

namespace Proofplane
open Base

/-! ## The tables -/

/-- a row of `policies` -/
structure PolicyRecord where
  id : PolicyId
  workspaceId : WorkspaceId
  name : String
  description : Option String
  createdAt : Int
  updatedAt : Int
  archivedAt : Option Int
  deriving DecidableEq, Repr

/-- a row of `policy_control_mappings` -/
structure PolicyControlMappingRecord where
  policyId : PolicyId
  controlId : ControlId
  createdAt : Int
  deriving DecidableEq, Repr

def PolicyControlMappingRecord.key (m : PolicyControlMappingRecord) : PolicyId × ControlId :=
  (m.policyId, m.controlId)

structure PolicyDb where
  controls : Controls
  policies : Table PolicyRecord.id
  mappings : Table PolicyControlMappingRecord.key

/-! ## Records and aggregates -/

def PolicyControlMappingRecord.fromDomain (policyId : PolicyId) (mapping : PolicyControlMappingState) :
    PolicyControlMappingRecord where
  policyId := policyId
  controlId := mapping.controlId
  createdAt := pgTimestamp mapping.createdAt

def policyMappingFromRow (row : PolicyControlMappingRecord) : PolicyControlMappingState :=
  ⟨row.controlId, row.createdAt⟩

def PolicyRecord.fromDomain (policy : Policy) : PolicyRecord where
  id := policy.id
  workspaceId := policy.workspaceId
  name := policy.definition.name.1
  description := policy.definition.description.map Subtype.val
  createdAt := pgTimestamp policy.createdAt
  updatedAt := pgTimestamp policy.updatedAt
  archivedAt := policy.archivedAt.map pgTimestamp

def PolicyRecord.intoDomain (record : PolicyRecord) (mappings : List PolicyControlMappingState) :
    Except RepositoryError Policy :=
  match PolicyDefinition.new record.name record.description with
  | .error _ => .error (.invariantViolation "persisted policy definition is invalid")
  | .ok definition =>
    match Policy.rehydrate record.id record.workspaceId definition mappings record.createdAt
        record.updatedAt record.archivedAt with
    | .error _ => .error (.invariantViolation "persisted policy snapshot is inconsistent")
    | .ok policy => .ok policy

namespace PolicyDb

/-- the mappings of one policy, in the order of the controls -/
def mappingRows (db : PolicyDb) (id : PolicyId) : List PolicyControlMappingRecord :=
  (linksOf db.mappings id).insertionSort fun a b => a.controlId.uuid.toNat ≤ b.controlId.uuid.toNat

/-- `PolicyRepository::get` -/
def getPolicy (db : PolicyDb) (workspaceId : WorkspaceId) (id : PolicyId) :
    Except RepositoryError (Option Policy) :=
  match (db.policies.get? id).filter fun row => row.workspaceId = workspaceId with
  | none => .ok none
  | some record => (record.intoDomain ((db.mappingRows id).map policyMappingFromRow)).map some

/-- two active policies of one workspace whose names are the same in lower case -/
def SameName (lower : String → String) (r s : PolicyRecord) : Prop :=
  r.archivedAt = none ∧ s.archivedAt = none ∧ r.workspaceId = s.workspaceId ∧
    lower r.name = lower s.name

instance (lower : String → String) (r s : PolicyRecord) : Decidable (SameName lower r s) :=
  inferInstanceAs (Decidable (_ ∧ _))

/-- `PolicyRepository::save`, which a unique index on the names of active policies can refuse -/
def savePolicy (lower : String → String) (db : PolicyDb) (policy : Policy) :
    Except RepositoryError PolicyDb :=
  let record := PolicyRecord.fromDomain policy
  if ∃ r ∈ db.policies.rows, r.id ≠ record.id ∧ SameName lower r record then
    .error (.conflict .policyNameTaken)
  else
    match replaceLinks db.mappings policy.id
        (policy.mappings.map (PolicyControlMappingRecord.fromDomain policy.id)) with
    | none => .error .database
    | some mappings => .ok { db with policies := db.policies.upsert record, mappings }

/-- an active policy of the workspace, as it is read -/
def readPolicy (db : PolicyDb) (workspaceId : WorkspaceId) (id : PolicyId) : Option PolicyRecord :=
  (db.policies.get? id).filter fun row => row.workspaceId = workspaceId ∧ row.archivedAt = none

end PolicyDb

/-- a mapping as it is read, with its control -/
structure PolicyControlMapping where
  policyId : PolicyId
  control : ControlRecord
  createdAt : Int
  deriving DecidableEq, Repr

/-- the mapping joined with its policy and its control, the policy being active -/
def PolicyDb.getControlMapping (db : PolicyDb) (workspaceId : WorkspaceId) (policyId : PolicyId)
    (controlId : ControlId) : Option PolicyControlMapping :=
  match db.mappings.get? (policyId, controlId), db.readPolicy workspaceId policyId,
      (db.controls.get? controlId).filter fun row => row.workspaceId = workspaceId with
  | some m, some _, some c => some ⟨m.policyId, c, m.createdAt⟩
  | _, _, _ => none

/-! ## What the commands can answer -/

inductive PolicyCommandError
  | unavailable
  | invalidDefinition (errors : List DomainError)
  | rejected (unknown alreadyMapped : List ControlId)
  | nameTaken
  | repository (e : RepositoryError)
  deriving DecidableEq, Repr

def PolicyCommandError.ofRepository : RepositoryError → PolicyCommandError
  | .conflict .policyNameTaken => .nameTaken
  | e => .repository e

inductive ArchivePolicyError
  | unavailable | documentInProgress
  | repository (e : RepositoryError)
  deriving DecidableEq, Repr

inductive ControlPolicyCommandError
  | unavailable
  | rejected (unknown archived invalid : List PolicyId)
  | repository (e : RepositoryError)
  deriving DecidableEq, Repr

def invariant : PolicyError → RepositoryError
  | .archived => .invariantViolation "archived policy cannot be mutated"
  | _ => .invariantViolation "policy snapshot is invalid"

/-- what a unit of work on mappings finds; `ρ` is what it rejects -/
inductive PolicyOutcome (ρ α : Type)
  | unavailable
  | rejected (r : ρ)
  | changed (answer : α)
  deriving DecidableEq, Repr

/-- the function around a unit of work: the permission, and the tables that it commits -/
def settlePolicy {ρ α ε β : Type} (connection : AgentConnectionContext) (db : PolicyDb)
    (unavailable : ε) (repository : RepositoryError → ε) (rejected : ρ → ε) (answer : α → β)
    (work : Except RepositoryError (PolicyOutcome ρ α × PolicyDb)) : Except ε β × PolicyDb :=
  if connection.permissions.has .writeControls then
    match work with
    | .error e => (.error (repository e), db)
    | .ok (.unavailable, db) => (.error unavailable, db)
    | .ok (.rejected r, db) => (.error (rejected r), db)
    | .ok (.changed a, db) => (.ok (answer a), db)
  else (.error unavailable, db)

/-! ## One policy and its controls -/

/-- new mappings; `clock n` is what the clock shows at the `n`-th of them -/
def newPolicyMappings (clock : Nat → Int) : Nat → List ControlId → List PolicyControlMappingState
  | _, [] => []
  | n, id :: ids => ⟨id, clock n⟩ :: newPolicyMappings clock (n + 1) ids

/-- whether the policy has a mapping to the control -/
def Policy.isMapped (policy : Policy) (controlId : ControlId) : Bool :=
  policy.mappings.any fun m => m.controlId = controlId

/-- the unit of work of `change_mappings` -/
def changeMappingsWork (lower : String → String) (db : PolicyDb) (clock : Nat → Int)
    (connection : AgentConnectionContext) (policyId : PolicyId) (requested : List ControlId)
    (attach : Bool) :
    Except RepositoryError
      (PolicyOutcome (List ControlId × List ControlId) (List PolicyControlMapping) × PolicyDb) :=
  match db.getPolicy connection.workspaceId policyId with
  | .error e => .error e
  | .ok none => .ok (.unavailable, db)
  | .ok (some policy) =>
    if policy.archivedAt.isSome then .ok (.unavailable, db)
    else
      let existing := db.controls.existingIds connection.workspaceId requested
      let unknown := requested.filter fun id => id ∉ existing
      let invalid := requested.filter fun id =>
        id ∈ existing ∧ if attach then policy.isMapped id = true else policy.isMapped id = false
      if unknown ≠ [] ∨ invalid ≠ [] ∨ ¬ requested.Nodup then .ok (.rejected (unknown, invalid), db)
      else
        let next :=
          if attach then policy.mappings ++ newPolicyMappings clock 0 requested
          else policy.mappings.filter fun m => m.controlId ∉ requested
        match policy.replaceMappings next with
        | .error e => .error (invariant e)
        | .ok policy =>
          match db.savePolicy lower policy with
          | .error e => .error e
          | .ok db =>
            if attach then
              match requested.mapM (db.getControlMapping connection.workspaceId policyId) with
              | none => .error (.invariantViolation "saved policy mapping must be readable")
              | some mappings => .ok (.changed mappings, db)
            else .ok (.changed [], db)

structure ChangedPolicyMappings where
  controlIds : List ControlId
  mappings : List PolicyControlMapping
  deriving DecidableEq, Repr

def changeMappings (lower : String → String) (db : PolicyDb) (clock : Nat → Int)
    (connection : AgentConnectionContext) (policyId : PolicyId) (requested : List ControlId)
    (attach : Bool) : Except PolicyCommandError ChangedPolicyMappings × PolicyDb :=
  settlePolicy connection db .unavailable .ofRepository (fun r => .rejected r.1 r.2)
    (fun mappings => ⟨requested, mappings⟩)
    (changeMappingsWork lower db clock connection policyId requested attach)

/-! ## One control and its policies -/

/-- the ids in the order in which their rows are locked -/
def policyLockOrder (ids : List PolicyId) : List PolicyId :=
  ids.insertionSort fun a b => a.uuid.toNat ≤ b.uuid.toNat

/-- the policies of a request, sorted out -/
structure SortedPolicies where
  policies : List Policy
  unknown : List PolicyId
  archived : List PolicyId
  invalid : List PolicyId

/-- the loop that loads the policies -/
def sortPolicies (db : PolicyDb) (workspaceId : WorkspaceId) (controlId : ControlId) (attach : Bool) :
    List PolicyId → Except RepositoryError SortedPolicies
  | [] => .ok ⟨[], [], [], []⟩
  | id :: ids =>
    match db.getPolicy workspaceId id with
    | .error e => .error e
    | .ok none =>
      (sortPolicies db workspaceId controlId attach ids).map fun s =>
        { s with unknown := id :: s.unknown }
    | .ok (some policy) =>
      if policy.archivedAt.isSome then
        (sortPolicies db workspaceId controlId attach ids).map fun s =>
          { s with archived := id :: s.archived }
      else
        let mapped := policy.isMapped controlId
        (sortPolicies db workspaceId controlId attach ids).map fun s =>
          { s with
            invalid := if (attach && mapped) || (!attach && !mapped) then id :: s.invalid else s.invalid
            policies := policy :: s.policies }

/-- the loop that changes them -/
def changeEach (lower : String → String) (controlId : ControlId) (attach : Bool) (clock : Nat → Int) :
    Nat → PolicyDb → List Policy → Except RepositoryError PolicyDb
  | _, db, [] => .ok db
  | n, db, policy :: policies =>
    let next :=
      if attach then policy.mappings ++ [⟨controlId, clock n⟩]
      else policy.mappings.filter fun m => m.controlId ≠ controlId
    match policy.replaceMappings next with
    | .error e => .error (invariant e)
    | .ok policy =>
      match db.savePolicy lower policy with
      | .error e => .error e
      | .ok db => changeEach lower controlId attach clock (n + 1) db policies

/-- the ids that a request on a control cannot change -/
structure PolicyRejection where
  unknown : List PolicyId
  archived : List PolicyId
  invalid : List PolicyId
  deriving DecidableEq, Repr

/-- the unit of work of `change_control_policies` -/
def changeControlPoliciesWork (lower : String → String) (db : PolicyDb) (clock : Nat → Int)
    (connection : AgentConnectionContext) (controlId : ControlId) (requested : List PolicyId)
    (attach : Bool) : Except RepositoryError (PolicyOutcome PolicyRejection Unit × PolicyDb) :=
  if controlId ∉ db.controls.existingIds connection.workspaceId [controlId] then
    .ok (.unavailable, db)
  else
    match sortPolicies db connection.workspaceId controlId attach (policyLockOrder requested) with
    | .error e => .error e
    | .ok s =>
      if s.unknown ≠ [] ∨ s.archived ≠ [] ∨ s.invalid ≠ [] ∨ ¬ requested.Nodup then
        .ok (.rejected ⟨s.unknown, s.archived, s.invalid⟩, db)
      else
        (changeEach lower controlId attach clock 0 db s.policies).map fun db => (.changed (), db)

def changeControlPolicies (lower : String → String) (db : PolicyDb) (clock : Nat → Int)
    (connection : AgentConnectionContext) (controlId : ControlId) (requested : List PolicyId)
    (attach : Bool) : Except ControlPolicyCommandError (List PolicyId) × PolicyDb :=
  settlePolicy connection db .unavailable .repository
    (fun r => .rejected r.unknown r.archived r.invalid) (fun _ => requested)
    (changeControlPoliciesWork lower db clock connection controlId requested attach)

/-! ## Policies themselves -/

structure CreatePolicy where
  connection : AgentConnectionContext
  name : String
  description : Option String
  controlIds : List ControlId
  deriving DecidableEq, Repr

/-- the errors of a definition, and one more where a control is named twice -/
def createPolicyErrors (command : CreatePolicy) : List DomainError :=
  (PolicyDefinition.new command.name command.description).errors ++
    if command.controlIds.Nodup then [] else [.duplicatePolicyControlId]

/-- `clock 0` is the instant of the policy, and the others are those of its mappings -/
def createPolicy (lower : String → String) (db : PolicyDb) (id : PolicyId) (clock : Nat → Int)
    (command : CreatePolicy) : Except PolicyCommandError PolicyRecord × PolicyDb :=
  if command.connection.permissions.has .writeControls then
    if createPolicyErrors command ≠ [] then
      (.error (.invalidDefinition (createPolicyErrors command)), db)
    else
      match PolicyDefinition.new command.name command.description with
      | .error _ =>
        (.error (.repository
          (.invariantViolation "validated policy definition must be present")), db)
      | .ok definition =>
        let present := db.controls.existingIds command.connection.workspaceId command.controlIds
        let unknown := command.controlIds.filter fun id => id ∉ present
        if unknown ≠ [] then (.error (.rejected unknown []), db)
        else
          let policy := Policy.define id command.connection.workspaceId definition (clock 0)
          match policy.replaceMappings (newPolicyMappings clock 1 command.controlIds) with
          | .error e => (.error (.ofRepository (invariant e)), db)
          | .ok policy =>
            match db.savePolicy lower policy with
            | .error e => (.error (.ofRepository e), db)
            | .ok saved =>
              match saved.readPolicy command.connection.workspaceId id with
              | none =>
                (.error (.repository
                  (.invariantViolation "created policy must be readable in its transaction")), db)
              | some row => (.ok row, saved)
  else (.error .unavailable, db)

structure ReplacePolicy where
  connection : AgentConnectionContext
  policyId : PolicyId
  name : String
  description : Option String
  deriving DecidableEq, Repr

def replacePolicy (lower : String → String) (db : PolicyDb) (now : Int) (command : ReplacePolicy) :
    Except PolicyCommandError PolicyRecord × PolicyDb :=
  if command.connection.permissions.has .writeControls then
    match PolicyDefinition.new command.name command.description with
    | .error es => (.error (.invalidDefinition es), db)
    | .ok definition =>
      match db.getPolicy command.connection.workspaceId command.policyId with
      | .error e => (.error (.ofRepository e), db)
      | .ok none => (.error .unavailable, db)
      | .ok (some policy) =>
        if policy.archivedAt.isSome then (.error .unavailable, db)
        else
          match policy.replace definition now with
          | .error e => (.error (.ofRepository (invariant e)), db)
          | .ok policy =>
            match db.savePolicy lower policy with
            | .error e => (.error (.ofRepository e), db)
            | .ok saved =>
              match saved.readPolicy command.connection.workspaceId command.policyId with
              | none => (.error .unavailable, saved)
              | some row => (.ok row, saved)
  else (.error .unavailable, db)

/-- `inProgress` is whether a document of the policy is still on its way -/
def archivePolicy (lower : String → String) (db : PolicyDb) (now : Int) (inProgress : Bool)
    (connection : AgentConnectionContext) (policyId : PolicyId) :
    Except ArchivePolicyError (PolicyId × Int) × PolicyDb :=
  if connection.permissions.has .writeControls then
    match db.getPolicy connection.workspaceId policyId with
    | .error e => (.error (.repository e), db)
    | .ok none => (.error .unavailable, db)
    | .ok (some policy) =>
      if policy.archivedAt.isSome then (.error .unavailable, db)
      else if inProgress then (.error .documentInProgress, db)
      else
        match policy.archive now with
        | .error e => (.error (.repository (invariant e)), db)
        | .ok policy =>
          match policy.archivedAt with
          | none =>
            (.error (.repository (.invariantViolation "archived policy needs timestamp")), db)
          | some archivedAt =>
            match db.savePolicy lower policy with
            | .error e => (.error (.repository e), db)
            | .ok saved => (.ok (policyId, archivedAt), saved)
  else (.error .unavailable, db)

end Proofplane
