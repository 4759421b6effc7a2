import Proofplane.Documents.Runs
import Proofplane.ObjectStorage.Filesystem
import Proofplane.Uploads.Staging

/-!
# Deliveries of finalization messages

The worker promotes a scanned document: it copies the staged object from quarantine into the evidence
store, marks the document uploaded under its final key, and deletes the staged object.  A message may
be delivered any number of times; a delivery is a program of small steps, one for each statement on a
file or on the database, and between two steps of one delivery anything else may happen.

* `loadFinalizingUploadWork`, `finalDocumentObjectKey`   what a delivery reads first, and where the
  document goes;
* `DeliveryPhase`, `deliveryStep`    the steps of `handle_finalization_requested`, down through
  `stream_copy_object`, `put_object` and `write_object_stream`, with the faults of each;
* `FinalizationWorld`, `finalizationStep`   all deliveries at once, over one database and two stores.
-/

namespace Proofplane
open Base

/-! ## The work -/

/-- `TypedDocumentUploadWork`, but for the status that it was selected by -/
structure UploadWork where
  workspaceId : WorkspaceId
  identity : DocumentIdentity
  filename : String
  contentType : String
  contentLength : Int
  objectKey : String
  checksumSha256 : String
  deriving DecidableEq, Repr

def Document.uploadWork (d : Document) : UploadWork :=
  ⟨d.workspaceId, d.identity, d.filename, d.contentType, d.contentLength, d.objectKey,
    d.checksumSha256⟩

/-- a document of a policy counts while its policy is active -/
def DocumentDb.ownerActive (db : DocumentDb) (d : Document) : Bool :=
  match d.owner with
  | .evidenceSubmission _ => true
  | .policy id =>
    ((db.policies.get? id).filter fun p => p.workspaceId = d.workspaceId ∧ p.archivedAt = none).isSome

def DocumentDb.loadFinalizingUploadWork (db : DocumentDb) (identity : DocumentIdentity)
    (objectKey : String) : Option UploadWork :=
  ((db.getDocument identity.documentId identity.owner).filter fun d =>
    d.objectKey = objectKey ∧ d.uploadStatus = .finalizing ∧ d.archived = false ∧
      db.ownerActive d = true).map Document.uploadWork

def finalDocumentObjectKey (work : UploadWork) : Option String :=
  objectKeyText work.workspaceId
    (match work.identity with
    | .evidence submissionId documentId =>
      "evidence-submissions/" ++ submissionId.uuid.text ++ "/documents/" ++ documentId.uuid.text
    | .policy policyId documentId =>
      "policies/" ++ policyId.uuid.text ++ "/documents/" ++ documentId.uuid.text)
    work.filename

/-! ## One delivery -/

inductive DeliveryPhase
  /-- `get_object`: read the description of the source, then open it -/
  | promoting
  | headed (source : ObjectMetadata)
  /-- `put_object`: create the destination -/
  | opened (source : ObjectMetadata) (file : Nat)
  /-- the loop of `write_object_stream`: the two open files, and what was written so far -/
  | copying (source : ObjectMetadata) (file destinationFile : Nat) (written : List UInt8)
  /-- remove what a failed `put_object` has written -/
  | discarding
  /-- write the description of the destination -/
  | describing (source : ObjectMetadata) (written : List UInt8)
  | describingFile (source : ObjectMetadata) (written : List UInt8) (metadataFile : Nat)
  /-- `delete_object` of a destination that does not agree -/
  | deletingObject
  | deletingMetadata
  /-- the unit of work -/
  | finalizing
  /-- `delete_object` of the source -/
  | deletingSource
  | deletingSourceMetadata
  | finished
  deriving DecidableEq, Repr

structure Delivery where
  id : Nat
  work : UploadWork
  destination : String
  phase : DeliveryPhase
  deriving DecidableEq, Repr

structure FinalizationWorld where
  db : DocumentDb
  quarantine : FilesystemObjectStore
  evidence : FilesystemObjectStore
  deliveries : Table Delivery.id

/-- how opening a file for writing ends: its directory cannot be made, it cannot be opened, or it is -/
inductive CreateResult
  | directoryFailed | failed | created
  deriving DecidableEq, Repr

/-- how copying a chunk ends; a write that fails may have written a part of it, and at the end of the
stream it is the last flush that fails -/
inductive ChunkFault
  | none | read
  | write (part : Nat)
  deriving DecidableEq, Repr

inductive DeliveryEvent
  | head (ok : Bool)
  | openSource (ok : Bool)
  | createDestination (result : CreateResult)
  | copyChunk (size : Nat) (fault : ChunkFault)
  | discard (ok : Bool)
  | createMetadata (result : CreateResult)
  | writeMetadata (ok : Bool)
  | deleteObject (ok : Bool)
  | deleteMetadata (ok : Bool)
  | finalize (fault : CommitFault)
  | deleteSource (ok : Bool)
  | deleteSourceMetadata (ok : Bool)
  deriving DecidableEq, Repr

/-- what `put_object` reports of the copy -/
def Delivery.copied (sha256 : List UInt8 → String) (x : Delivery) (source : ObjectMetadata)
    (written : List UInt8) : ObjectMetadata :=
  ⟨x.destination, source.contentType, written.length, sha256 written⟩

/-- the two comparisons of the copy: with the source, then with the document -/
def Delivery.comparedPhase (sha256 : List UInt8 → String) (x : Delivery) (source : ObjectMetadata)
    (written : List UInt8) : DeliveryPhase :=
  let copied := x.copied sha256 source written
  if copied.contentType ≠ source.contentType ∨ copied.contentLength ≠ source.contentLength ∨
      copied.sha256 ≠ source.sha256 then .deletingObject
  else if copied.key ≠ x.destination ∨ copied.contentType ≠ x.work.contentType ∨
      copied.contentLength ≠ asU64 x.work.contentLength ∨
      copied.sha256 ≠ x.work.checksumSha256 then .deletingObject
  else .finalizing

/-- what a delivery does next with the answer of its unit of work -/
def finalizedPhase : Except DocumentCommandError DocumentCommandOutcome → DeliveryPhase
  | .ok .applied => .deletingSource
  | .ok _ => .finished
  | .error _ => .finished

namespace FinalizationWorld

/-- one chunk of the copy: the end of the stream, a fault, or one more write -/
def copyChunk (w : FinalizationWorld) (source : ObjectMetadata) (file destinationFile : Nat)
    (written : List UInt8) (size : Nat) (fault : ChunkFault) : FinalizationWorld × DeliveryPhase :=
  let chunk := w.quarantine.readChunk file written.length size
  match fault with
  | .read => (w, .discarding)
  | .write part =>
    ({ w with evidence := w.evidence.writeChunk destinationFile written.length (chunk.take part) },
      .discarding)
  | .none =>
    if chunk = [] then (w, .describing source written)
    else
      let w := { w with evidence := w.evidence.writeChunk destinationFile written.length chunk }
      if u64Max < written.length + chunk.length then (w, .discarding)
      else (w, .copying source file destinationFile (written ++ chunk))

end FinalizationWorld

/-- one step of a delivery: the world and what the delivery does next; `none` where the delivery is
not at this step -/
def deliveryStep (sha256 : List UInt8 → String) (w : FinalizationWorld) (x : Delivery)
    (e : DeliveryEvent) : Option (FinalizationWorld × DeliveryPhase) :=
  match x.phase, e with
  | .promoting, .head ok =>
    match if ok then w.quarantine.headObject x.work.objectKey else none with
    | none => some (w, .finished)
    | some source => some (w, .headed source)
  | .headed source, .openSource ok =>
    match if ok then w.quarantine.openObject x.work.objectKey else none with
    | none => some (w, .finished)
    | some file => some (w, .opened source file)
  | .opened source file, .createDestination result =>
    match result with
    | .directoryFailed => some (w, .finished)
    | .failed => some (w, .discarding)
    | .created =>
      some ({ w with evidence := w.evidence.truncateObject x.destination },
        .copying source file (w.evidence.objects.created x.destination) [])
  | .copying source file destinationFile written, .copyChunk size fault =>
    if size = 0 ∨ objectChunkSize < size then none
    else some (w.copyChunk source file destinationFile written size fault)
  | .discarding, .discard ok =>
    some (if ok then { w with evidence := w.evidence.removeObject x.destination } else w, .finished)
  | .describing source written, .createMetadata result =>
    match result with
    | .directoryFailed => some (w, .finished)
    | .failed => some (w, .discarding)
    | .created =>
      some ({ w with evidence := w.evidence.truncateMetadata x.destination },
        .describingFile source written (w.evidence.metadata.created x.destination))
  | .describingFile source written metadataFile, .writeMetadata ok =>
    if ok then
      some ({ w with
          evidence := w.evidence.writeMetadata metadataFile (some (x.copied sha256 source written)) },
        x.comparedPhase sha256 source written)
    else some ({ w with evidence := w.evidence.writeMetadata metadataFile none }, .discarding)
  | .deletingObject, .deleteObject ok =>
    if ok then some ({ w with evidence := w.evidence.removeObject x.destination }, .deletingMetadata)
    else some (w, .finished)
  | .deletingMetadata, .deleteMetadata ok =>
    some (if ok then { w with evidence := w.evidence.removeMetadata x.destination } else w, .finished)
  | .finalizing, .finalize fault =>
    let (answer, db) := committed fault w.db
      (finalizeDocument w.db ⟨x.work.identity, x.work.objectKey, x.destination⟩)
    some ({ w with db }, finalizedPhase answer)
  | .deletingSource, .deleteSource ok =>
    if ok then
      some ({ w with quarantine := w.quarantine.removeObject x.work.objectKey },
        .deletingSourceMetadata)
    else some (w, .finished)
  | .deletingSourceMetadata, .deleteSourceMetadata ok =>
    some (if ok then { w with quarantine := w.quarantine.removeMetadata x.work.objectKey } else w,
      .finished)
  | _, _ => none

/-! ## All deliveries at once -/

inductive FinalizationEvent
  | deliver (delivery : Nat) (identity : DocumentIdentity) (objectKey : ObjectKey) (ok : Bool)
  | step (delivery : Nat) (event : DeliveryEvent)
  | crash (delivery : Nat)
  | scan (command : ScanDocument) (metadata : ExecutionMetadata) (messageId : Uuid) (commits : Bool)
  | archive (command : ArchiveDocument) (commits : Bool)
  | housekeeping (change : Housekeeping)

namespace FinalizationWorld

def put (w : FinalizationWorld) (x : Delivery) : FinalizationWorld :=
  { w with deliveries := w.deliveries.upsert x }

/-- a message comes in: a stale one is skipped, and so is one that cannot be read or promoted -/
def deliver (w : FinalizationWorld) (delivery : Nat) (identity : DocumentIdentity)
    (objectKey : String) (ok : Bool) : FinalizationWorld :=
  match if ok then w.db.loadFinalizingUploadWork identity objectKey else none with
  | none => w
  | some work =>
    match finalDocumentObjectKey work with
    | none => w
    | some destination =>
      if hasSameWorkspace objectKey destination then w.put ⟨delivery, work, destination, .promoting⟩
      else w

/-- a command of the rest of the application -/
def command {α : Type} (w : FinalizationWorld) (commits : Bool)
    (r : Except DocumentCommandError (α × DocumentDb)) : FinalizationWorld :=
  match r with
  | .ok (_, db) => if commits then { w with db } else w
  | .error _ => w

end FinalizationWorld

def finalizationStep (sha256 : List UInt8 → String) (w : FinalizationWorld) :
    FinalizationEvent → Option FinalizationWorld
  | .deliver delivery identity objectKey ok =>
    if (w.deliveries.get? delivery).isSome then none
    else some (w.deliver delivery identity objectKey.text ok)
  | .step delivery event =>
    (w.deliveries.get? delivery).bind fun x =>
      (deliveryStep sha256 w x event).map fun p => p.1.put { x with phase := p.2 }
  | .crash delivery =>
    (w.deliveries.get? delivery).map fun x => w.put { x with phase := .finished }
  | .scan command metadata messageId commits =>
    some (w.command commits (scanDocument w.db metadata messageId command))
  | .archive command commits => some (w.command commits (archiveDocument w.db command))
  | .housekeeping change => (w.db.housekeep change).map fun db => { w with db }

end Proofplane
