import Proofplane.Domain.Evidence
import Proofplane.Domain.Permission
import Proofplane.Mappings.Controls
import Proofplane.Persistence.Workspaces

/-!
# The commands on evidence and its mappings to controls

Six commands over the tables `controls`, `evidence` and `evidence_control_mappings`.  A mapping can be made
and undone from both of its ends: an item of evidence with many controls is one aggregate, saved once; a
control with many items of evidence is a loop over aggregates, loaded in the order of their ids.

* `getEvidence`, `saveEvidence`      the aggregate with its mappings; a save replaces them;
* `idsExist`                         whether all of these are controls of the workspace;
* `mapEvidenceToControls`, `unmapEvidenceFromControls`   the two commands on one item of evidence;
* `mapControlToEvidence`, `unmapControlFromEvidence`     the two commands on one control;
* `createEvidence`, `replaceEvidence`                    the commands that leave the mappings alone.
-/

namespace Proofplane
open Base

/-! ## The tables -/

/-- a row of `evidence` -/
structure EvidenceRecord where
  id : EvidenceId
  workspaceId : WorkspaceId
  title : String
  description : String
  collectionInstructions : String
  status : EvidenceStatus
  createdAt : Int
  updatedAt : Int
  deriving DecidableEq, Repr

/-- a row of `evidence_control_mappings` -/
structure EvidenceControlMappingRecord where
  evidenceId : EvidenceId
  controlId : ControlId
  rationale : String
  createdAt : Int
  deriving DecidableEq, Repr

def EvidenceControlMappingRecord.key (m : EvidenceControlMappingRecord) : EvidenceId × ControlId :=
  (m.evidenceId, m.controlId)

structure MappingDb where
  controls : Controls
  evidence : Table EvidenceRecord.id
  mappings : Table EvidenceControlMappingRecord.key

/-! ## Records and aggregates -/

def EvidenceControlMappingRecord.fromDomain (evidenceId : EvidenceId)
    (mapping : EvidenceControlMappingState) : EvidenceControlMappingRecord where
  evidenceId := evidenceId
  controlId := mapping.controlId
  rationale := mapping.rationale.1
  createdAt := pgTimestamp mapping.createdAt

def mappingFromRow (row : EvidenceControlMappingRecord) :
    Except RepositoryError EvidenceControlMappingState :=
  match EvidenceControlMappingState.new row.controlId row.rationale row.createdAt with
  | .error _ => .error (.invariantViolation "persisted evidence mapping is invalid")
  | .ok mapping => .ok mapping

def EvidenceRecord.fromDomain (evidence : Evidence) : EvidenceRecord where
  id := evidence.id
  workspaceId := evidence.workspaceId
  title := evidence.definition.title.1
  description := evidence.definition.description.1
  collectionInstructions := evidence.definition.collectionInstructions.1
  status := evidence.status
  createdAt := pgTimestamp evidence.createdAt
  updatedAt := pgTimestamp evidence.updatedAt

def EvidenceRecord.intoDomain (record : EvidenceRecord) (mappings : List EvidenceControlMappingState) :
    Except RepositoryError Evidence :=
  match EvidenceDefinition.new record.title record.description record.collectionInstructions with
  | .error _ => .error (.invariantViolation "persisted evidence definition is invalid")
  | .ok definition =>
    match Evidence.rehydrate record.id record.workspaceId definition record.status mappings
        record.createdAt record.updatedAt with
    | .error _ => .error (.invariantViolation "persisted evidence snapshot is inconsistent")
    | .ok evidence => .ok evidence

namespace MappingDb

/-- the mappings of one item, in the order of the controls -/
def mappingRows (db : MappingDb) (id : EvidenceId) : List EvidenceControlMappingRecord :=
  (linksOf db.mappings id).insertionSort fun a b => a.controlId.uuid.toNat ≤ b.controlId.uuid.toNat

/-- `EvidenceRepository::get` -/
def getEvidence (db : MappingDb) (workspaceId : WorkspaceId) (id : EvidenceId) :
    Except RepositoryError (Option Evidence) :=
  match (db.evidence.get? id).filter fun row => row.workspaceId = workspaceId with
  | none => .ok none
  | some record =>
    match (db.mappingRows id).mapM mappingFromRow with
    | .error e => .error e
    | .ok mappings => (record.intoDomain mappings).map some

/-- `EvidenceRepository::save` -/
def saveEvidence (db : MappingDb) (evidence : Evidence) : Except RepositoryError MappingDb :=
  match replaceLinks db.mappings evidence.id
      (evidence.mappings.map (EvidenceControlMappingRecord.fromDomain evidence.id)) with
  | none => .error .database
  | some mappings =>
    .ok { db with evidence := db.evidence.upsert (.fromDomain evidence), mappings }

def idsExist (db : MappingDb) (workspaceId : WorkspaceId) (ids : List ControlId) : Bool :=
  (db.controls.existingIds workspaceId ids).length = ids.dedup.length

end MappingDb

/-- a mapping as it is read, with its control -/
structure EvidenceControlMapping where
  evidenceId : EvidenceId
  control : ControlRecord
  rationale : String
  createdAt : Int
  deriving DecidableEq, Repr

/-- the mapping joined with its evidence and its control, all in one workspace -/
def MappingDb.getEvidenceMapping (db : MappingDb) (workspaceId : WorkspaceId) (evidenceId : EvidenceId)
    (controlId : ControlId) : Option EvidenceControlMapping :=
  match db.mappings.get? (evidenceId, controlId),
      (db.evidence.get? evidenceId).filter fun row => row.workspaceId = workspaceId,
      (db.controls.get? controlId).filter fun row => row.workspaceId = workspaceId with
  | some m, some _, some c => some ⟨m.evidenceId, c, m.rationale, m.createdAt⟩
  | _, _, _ => none

/-! ## What a mapping command can answer -/

/-- what a unit of work finds, with the ids that it refuses -/
inductive MappingOutcome (ι α : Type)
  | done (answer : α)
  | notFound
  | rejected (unknown conflicting : List ι)
  deriving Repr

/-- the errors of the four commands; the conflicting ids are those already mapped, or not mapped -/
inductive MappingCommandError (ι : Type)
  | unavailable | notFound
  | rejected (unknown conflicting : List ι)
  | repository (e : RepositoryError)
  deriving Repr

/-- the handler around a unit of work: the permission, and the tables that it commits -/
def settleMapping {ι α : Type} (connection : AgentConnectionContext) (db : MappingDb)
    (work : Except RepositoryError (MappingOutcome ι α × MappingDb)) :
    Except (MappingCommandError ι) α × MappingDb :=
  if connection.permissions.has .writeControls then
    match work with
    | .error e => (.error (.repository e), db)
    | .ok (.done answer, db) => (.ok answer, db)
    | .ok (.notFound, db) => (.error .notFound, db)
    | .ok (.rejected unknown conflicting, db) => (.error (.rejected unknown conflicting), db)
  else (.error .unavailable, db)

/-! ## One item of evidence and its controls -/

structure EvidenceControlMappingInput where
  controlId : ControlId
  rationale : String
  deriving DecidableEq, Repr

structure MapEvidenceToControls where
  connection : AgentConnectionContext
  evidenceId : EvidenceId
  mappings : List EvidenceControlMappingInput
  deriving DecidableEq, Repr

structure MappedEvidenceToControls where
  controlIds : List ControlId
  mappings : List EvidenceControlMapping
  deriving DecidableEq, Repr

/-- the new mappings; `clock n` is what the clock shows at the `n`-th of them -/
def newMappings (clock : Nat → Int) :
    Nat → List EvidenceControlMappingInput → Except RepositoryError (List EvidenceControlMappingState)
  | _, [] => .ok []
  | n, mapping :: rest =>
    match EvidenceControlMappingState.new mapping.controlId mapping.rationale (clock n) with
    | .error _ => .error (.invariantViolation "evidence mapping is invalid")
    | .ok state => (newMappings clock (n + 1) rest).map (state :: ·)

/-- whether the item has a mapping to the control -/
def Evidence.isMapped (evidence : Evidence) (controlId : ControlId) : Bool :=
  evidence.mappings.any fun m => m.controlId = controlId

def mapEvidenceReplacementError : EvidenceError → RepositoryError
  | .duplicateControlMapping _ => .invariantViolation "duplicate evidence control mapping"
  | _ => .invariantViolation "evidence snapshot is invalid"

def mapEvidence (db : MappingDb) (clock : Nat → Int) (command : MapEvidenceToControls) :
    Except RepositoryError (MappingOutcome ControlId MappedEvidenceToControls × MappingDb) :=
  let workspaceId := command.connection.workspaceId
  match db.getEvidence workspaceId command.evidenceId with
  | .error e => .error e
  | .ok none => .ok (.notFound, db)
  | .ok (some evidence) =>
    let requestedIds := command.mappings.map EvidenceControlMappingInput.controlId
    let existingControls := db.controls.existingIds workspaceId requestedIds
    let unknown := requestedIds.filter fun id => id ∉ existingControls
    let alreadyMapped := requestedIds.filter fun id => evidence.isMapped id
    if unknown ≠ [] ∨ alreadyMapped ≠ [] then .ok (.rejected unknown alreadyMapped, db)
    else
      match newMappings clock 0 command.mappings with
      | .error e => .error e
      | .ok new =>
        match evidence.replaceMappings (evidence.mappings ++ new) with
        | .error e => .error (mapEvidenceReplacementError e)
        | .ok evidence =>
          match db.saveEvidence evidence with
          | .error e => .error e
          | .ok db =>
            match requestedIds.mapM (db.getEvidenceMapping workspaceId command.evidenceId) with
            | none => .error (.invariantViolation "saved evidence mapping must be readable")
            | some saved => .ok (.done ⟨requestedIds, saved⟩, db)

def mapEvidenceToControls (db : MappingDb) (clock : Nat → Int) (command : MapEvidenceToControls) :
    Except (MappingCommandError ControlId) MappedEvidenceToControls × MappingDb :=
  settleMapping command.connection db (mapEvidence db clock command)

structure UnmapEvidenceFromControls where
  connection : AgentConnectionContext
  evidenceId : EvidenceId
  controlIds : List ControlId
  deriving DecidableEq, Repr

def unmapEvidence (db : MappingDb) (command : UnmapEvidenceFromControls) :
    Except RepositoryError (MappingOutcome ControlId (List ControlId) × MappingDb) :=
  let requested := command.controlIds
  match db.getEvidence command.connection.workspaceId command.evidenceId with
  | .error e => .error e
  | .ok none => .ok (.notFound, db)
  | .ok (some evidence) =>
    let existingControls := db.controls.existingIds command.connection.workspaceId requested
    let unknown := requested.filter fun id => id ∉ existingControls
    let notMapped := requested.filter fun id => id ∈ existingControls ∧ evidence.isMapped id = false
    if unknown ≠ [] ∨ notMapped ≠ [] then .ok (.rejected unknown notMapped, db)
    else
      match evidence.replaceMappings (evidence.mappings.filter fun m => m.controlId ∉ requested) with
      | .error _ => .error (.invariantViolation "evidence mappings are invalid")
      | .ok evidence => (db.saveEvidence evidence).map fun db => (.done requested, db)

def unmapEvidenceFromControls (db : MappingDb) (command : UnmapEvidenceFromControls) :
    Except (MappingCommandError ControlId) (List ControlId) × MappingDb :=
  settleMapping command.connection db (unmapEvidence db command)

/-! ## One control and its items of evidence -/

structure ControlEvidenceMapping where
  evidenceId : EvidenceId
  rationale : String
  deriving DecidableEq, Repr

structure MapControlToEvidence where
  connection : AgentConnectionContext
  controlId : ControlId
  mappings : List ControlEvidenceMapping
  deriving DecidableEq, Repr

/-- the ids in the order in which their rows are locked -/
def evidenceLockOrder (ids : List EvidenceId) : List EvidenceId :=
  ids.insertionSort fun a b => a.uuid.toNat ≤ b.uuid.toNat

/-- the items that exist -/
def loadEvidence (db : MappingDb) (workspaceId : WorkspaceId) :
    List EvidenceId → Except RepositoryError (List Evidence)
  | [] => .ok []
  | id :: ids =>
    match db.getEvidence workspaceId id with
    | .error e => .error e
    | .ok none => loadEvidence db workspaceId ids
    | .ok (some evidence) => (loadEvidence db workspaceId ids).map (evidence :: ·)

/-- the rationale that was given last for this item -/
def rationaleFor (mappings : List ControlEvidenceMapping) (id : EvidenceId) : Option String :=
  (mappings.reverse.find? fun m => m.evidenceId = id).map ControlEvidenceMapping.rationale

/-- the loop of a mapping: each of the items gets one mapping more -/
def mapEach (controlId : ControlId) (clock : Nat → Int) (mappings : List ControlEvidenceMapping) :
    Nat → MappingDb → List Evidence → Except RepositoryError MappingDb
  | _, db, [] => .ok db
  | n, db, item :: items =>
    match rationaleFor mappings item.id with
    | none => .error (.invariantViolation "evidence mapping rationale must be present")
    | some rationale =>
      match EvidenceControlMappingState.new controlId rationale (clock n) with
      | .error _ => .error (.invariantViolation "evidence mapping is invalid")
      | .ok mapping =>
        match item.replaceMappings (item.mappings ++ [mapping]) with
        | .error _ => .error (.invariantViolation "evidence mappings are invalid")
        | .ok item =>
          match db.saveEvidence item with
          | .error e => .error e
          | .ok db => mapEach controlId clock mappings (n + 1) db items

def mapControl (db : MappingDb) (clock : Nat → Int) (command : MapControlToEvidence) :
    Except RepositoryError (MappingOutcome EvidenceId (List EvidenceId) × MappingDb) :=
  let requestedIds := command.mappings.map ControlEvidenceMapping.evidenceId
  if db.idsExist command.connection.workspaceId [command.controlId] then
    match loadEvidence db command.connection.workspaceId (evidenceLockOrder requestedIds) with
    | .error e => .error e
    | .ok evidence =>
      let unknown := requestedIds.filter fun id => evidence.all fun item => item.id ≠ id
      let alreadyMapped := requestedIds.filter fun id =>
        evidence.any fun item => item.id = id ∧ item.isMapped command.controlId
      if unknown ≠ [] ∨ alreadyMapped ≠ [] then .ok (.rejected unknown alreadyMapped, db)
      else
        (mapEach command.controlId clock command.mappings 0 db evidence).map fun db =>
          (.done requestedIds, db)
  else .ok (.notFound, db)

def mapControlToEvidence (db : MappingDb) (clock : Nat → Int) (command : MapControlToEvidence) :
    Except (MappingCommandError EvidenceId) (List EvidenceId) × MappingDb :=
  settleMapping command.connection db (mapControl db clock command)

structure UnmapControlFromEvidence where
  connection : AgentConnectionContext
  controlId : ControlId
  evidenceIds : List EvidenceId
  deriving DecidableEq, Repr

/-- the loop of its undoing -/
def unmapEach (controlId : ControlId) : MappingDb → List Evidence → Except RepositoryError MappingDb
  | db, [] => .ok db
  | db, item :: items =>
    match item.replaceMappings (item.mappings.filter fun m => m.controlId ≠ controlId) with
    | .error _ => .error (.invariantViolation "evidence mappings are invalid")
    | .ok item =>
      match db.saveEvidence item with
      | .error e => .error e
      | .ok db => unmapEach controlId db items

def unmapControl (db : MappingDb) (command : UnmapControlFromEvidence) :
    Except RepositoryError (MappingOutcome EvidenceId (List EvidenceId) × MappingDb) :=
  let requestedIds := command.evidenceIds
  if db.idsExist command.connection.workspaceId [command.controlId] then
    match loadEvidence db command.connection.workspaceId (evidenceLockOrder requestedIds) with
    | .error e => .error e
    | .ok evidence =>
      let unknown := requestedIds.filter fun id => evidence.all fun item => item.id ≠ id
      let notMapped := requestedIds.filter fun id =>
        (evidence.any fun item => item.id = id) ∧
          ¬ evidence.any fun item => item.id = id ∧ item.isMapped command.controlId
      if unknown ≠ [] ∨ notMapped ≠ [] then .ok (.rejected unknown notMapped, db)
      else
        (unmapEach command.controlId db evidence).map fun db => (.done requestedIds, db)
  else .ok (.notFound, db)

def unmapControlFromEvidence (db : MappingDb) (command : UnmapControlFromEvidence) :
    Except (MappingCommandError EvidenceId) (List EvidenceId) × MappingDb :=
  settleMapping command.connection db (unmapControl db command)

/-! ## Evidence itself -/

structure CreateEvidence where
  connection : AgentConnectionContext
  title : String
  description : String
  collectionInstructions : String
  status : EvidenceStatus
  deriving DecidableEq, Repr

structure ReplaceEvidence where
  connection : AgentConnectionContext
  evidenceId : EvidenceId
  title : String
  description : String
  collectionInstructions : String
  status : EvidenceStatus
  deriving DecidableEq, Repr

inductive EvidenceCommandError
  | unavailable
  | invalidDefinition (errors : List DomainError)
  | repository (e : RepositoryError)
  deriving DecidableEq, Repr

/-- the evidence of the workspace, as it is read -/
def MappingDb.readEvidence (db : MappingDb) (workspaceId : WorkspaceId) (id : EvidenceId) :
    Option EvidenceRecord :=
  (db.evidence.get? id).filter fun row => row.workspaceId = workspaceId

def createEvidence (db : MappingDb) (id : EvidenceId) (now : Int) (command : CreateEvidence) :
    Except EvidenceCommandError EvidenceRecord × MappingDb :=
  if command.connection.permissions.has .writeEvidence then
    match EvidenceDefinition.new command.title command.description command.collectionInstructions with
    | .error es => (.error (.invalidDefinition es), db)
    | .ok definition =>
      let evidence := Evidence.define id command.connection.workspaceId definition command.status now
      match db.saveEvidence evidence with
      | .error e => (.error (.repository e), db)
      | .ok saved =>
        match saved.readEvidence command.connection.workspaceId id with
        | none =>
          (.error (.repository
            (.invariantViolation "created evidence must be readable in its transaction")), db)
        | some row => (.ok row, saved)
  else (.error .unavailable, db)

def replaceEvidenceReplacementError : EvidenceError → RepositoryError
  | .duplicateControlMapping _ => .invariantViolation "evidence mappings are invalid"
  | _ => .invariantViolation "evidence snapshot is invalid"

def replaceEvidence (db : MappingDb) (now : Int) (command : ReplaceEvidence) :
    Except EvidenceCommandError EvidenceRecord × MappingDb :=
  if command.connection.permissions.has .writeEvidence then
    match EvidenceDefinition.new command.title command.description command.collectionInstructions with
    | .error es => (.error (.invalidDefinition es), db)
    | .ok definition =>
      match db.getEvidence command.connection.workspaceId command.evidenceId with
      | .error e => (.error (.repository e), db)
      | .ok none => (.error .unavailable, db)
      | .ok (some evidence) =>
        match evidence.replace definition command.status now with
        | .error e => (.error (.repository (replaceEvidenceReplacementError e)), db)
        | .ok evidence =>
          match db.saveEvidence evidence with
          | .error e => (.error (.repository e), db)
          | .ok saved =>
            match saved.readEvidence command.connection.workspaceId command.evidenceId with
            | none => (.error .unavailable, saved)
            | some row => (.ok row, saved)
  else (.error .unavailable, db)

end Proofplane
