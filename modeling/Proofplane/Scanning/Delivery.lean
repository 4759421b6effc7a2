import Proofplane.Base.Crc32c
import Proofplane.Finalization.Keys
import Proofplane.Messaging.Worker
import Proofplane.ObjectStorage.Operations
import Proofplane.Scanner.ClamAv

/-!
# Deliveries of scan messages

An upload is staged in quarantine, a document is created for it, the worker sends the staged object to
the scanner, and only what the scanner answers clean is promoted.  Uploads, scans and promotions are
programs of small steps over one database and two stores, and between two steps of one of them anything
else may happen.

* `ScanPhase`, `scanStep`         the steps of `handle_scan_requested`, down through `get_object` and the
                                  loop of the scanner, with the faults of each;
* `StagedUpload`, `stagingStep`   the steps of `stage_document` and `put_object`;
* `ScanExchange`                  what the scanner was sent, and what it answered;
* `ScanningWorld`, `scanningStep` all of them at once, with the deliveries of finalization messages, and
                                  with removals from quarantine at any time.
-/

namespace Proofplane
open Base

/-! ## One scan -/

def workerMetadata (m : WorkerMessage) : ExecutionMetadata :=
  ⟨none, m.requestId, Uuid.parseStr m.messageId⟩

def DocumentDb.loadPendingUploadWork (db : DocumentDb) (identity : DocumentIdentity)
    (objectKey : String) : Option UploadWork :=
  ((db.getDocument identity.documentId identity.owner).filter fun d =>
    d.objectKey = objectKey ∧ d.uploadStatus = .pendingUpload ∧ d.archived = false ∧
      db.ownerActive d = true).map Document.uploadWork

inductive ScanPhase
  /-- `get_object`: read the description of the object, then open it -/
  | reading
  | headed (source : ObjectMetadata)
  /-- the loop of `scan_chunks`: the open file, and the chunks sent so far -/
  | sending (file : Nat) (chunks : List (List UInt8))
  /-- all chunks are sent, and the frame that ends the stream -/
  | awaiting (chunks : List (List UInt8))
  /-- the unit of work -/
  | recording (result : ScanDocumentResult)
  /-- the handler has returned, without an error or with a retryable one -/
  | returned (ok : Bool)
  deriving DecidableEq, Repr

structure ScanDelivery where
  id : Nat
  work : UploadWork
  metadata : ExecutionMetadata
  finalDelivery : Bool
  phase : ScanPhase
  deriving DecidableEq, Repr

/-- what the scanner was sent of an object, and what was read of its answer -/
structure ScanExchange where
  identity : DocumentIdentity
  objectKey : String
  written : List UInt8
  reads : List (Except String (List UInt8))

/-- how one statement on a store ends for a delivery that reads -/
inductive ScanEvent
  | head (ok : Bool)
  | openObject (ok : Bool)
  | sendChunk (size : Nat) (ok : Bool)
  /-- the connection to the scanner fails, or takes too long -/
  | scannerFails
  | answer (reads : List (Except String (List UInt8)))
  | record (messageId : Uuid) (fault : CommitFault)
  | crash

/-- `delivery_attempt.is_some_and(|attempt| attempt >= max_delivery_attempts)` -/
def isFinalDelivery (maxDeliveryAttempts : Nat) (m : WorkerMessage) : Bool :=
  m.deliveryAttempt.any fun attempt => (maxDeliveryAttempts : Int) ≤ attempt

/-- an error of the store or the scanner: the last delivery gives the document up -/
def ScanDelivery.failed (x : ScanDelivery) : ScanPhase :=
  if x.finalDelivery then .recording .failed else .returned false

/-- what is recorded of an answer -/
def scanDocumentResult : MalwareScanOutcome → ScanDocumentResult
  | .clean => .clean
  | .malicious _ => .malicious
  | .failed _ => .failed

/-- the checks between `get_object` and the scanner -/
def ScanDelivery.openedPhase (x : ScanDelivery) (source : ObjectMetadata) (file : Nat) : ScanPhase :=
  if x.work.contentLength < 0 then .returned false
  else if source.contentType ≠ x.work.contentType ∨ (source.contentLength : Int) ≠ x.work.contentLength ∨
      source.sha256 ≠ x.work.checksumSha256 then x.failed
  else .sending file []

/-- one step of a scan: the tables, what the delivery does next, and what was exchanged with the scanner;
`none` where the delivery is not at this step -/
def scanStep (db : DocumentDb) (quarantine : FilesystemObjectStore) (x : ScanDelivery) (e : ScanEvent) :
    Option (DocumentDb × ScanPhase × List ScanExchange) :=
  match x.phase, e with
  | .returned _, .crash => none
  | _, .crash => some (db, .returned false, [])
  | .reading, .head ok =>
    match if ok then quarantine.headResult x.work.objectKey else .error .metadataPersistence with
    | .error .notFound => some (db, .recording .failed, [])
    | .error _ => some (db, x.failed, [])
    | .ok source => some (db, .headed source, [])
  | .headed source, .openObject ok =>
    if ok then
      match quarantine.openObject x.work.objectKey with
      | none => some (db, .recording .failed, [])
      | some file => some (db, x.openedPhase source file, [])
    else some (db, x.failed, [])
  | .sending file chunks, .sendChunk size ok =>
    if size = 0 ∨ objectChunkSize < size then none
    else if ok then
      let chunk := quarantine.readChunk file chunks.flatten.length size
      if chunk = [] then some (db, .awaiting chunks, [])
      else some (db, .sending file (chunks ++ [chunk]), [])
    else some (db, x.failed, [])
  | .sending _ _, .scannerFails => some (db, x.failed, [])
  | .awaiting _, .scannerFails => some (db, x.failed, [])
  | .awaiting chunks, .answer reads =>
    let (result, written) := scan (chunks.map .ok) reads
    let exchange := ⟨x.work.identity, x.work.objectKey, written, reads⟩
    match result with
    | .error _ => some (db, x.failed, [exchange])
    | .ok result => some (db, .recording (scanDocumentResult result.outcome), [exchange])
  | .recording result, .record messageId fault =>
    let (answer, db) := committed fault db
      (scanDocument db x.metadata messageId ⟨x.work.identity, x.work.objectKey, result⟩)
    some (db, .returned answer.isOk, [])
  | _, _ => none

/-! ## One upload -/

inductive StagingPhase
  /-- `put_object`: create the file -/
  | creating
  /-- the loop of `write_object_stream`: the open file, and what was written so far -/
  | copying (file : Nat) (written : List UInt8)
  /-- remove what a failed `put_object` has written -/
  | discarding
  /-- write the description -/
  | describing (written : List UInt8)
  | describingFile (written : List UInt8) (metadataFile : Nat)
  /-- `stage_document` has returned this -/
  | staged (document : StagedDocument)
  | stopped
  deriving DecidableEq, Repr

structure StagedUpload where
  uploadId : Uuid
  workspaceId : WorkspaceId
  owner : DocumentOwner
  filename : String
  contentType : String
  objectKey : String
  key_eq : stagedObjectKey workspaceId owner uploadId filename = some objectKey
  /-- the file that `put_object` has made -/
  file : Option Nat
  phase : StagingPhase

inductive StagingEvent
  | createFile (result : CreateResult)
  | receiveChunk (chunk : List UInt8) (fault : ChunkFault)
  | endOfStream (ok : Bool)
  | discard (ok : Bool)
  | createMetadata (result : CreateResult)
  | writeMetadata (ok : Bool)
  | crash

/-- what `stage_document` returns of what was written -/
def StagedUpload.stagedPhase (sha256 : List UInt8 → String) (u : StagedUpload) (written : List UInt8) :
    StagingPhase :=
  if i64Max < written.length then .stopped
  else .staged ⟨u.filename, u.contentType, written.length, u.objectKey, sha256 written,
    Base64.encodeStandard (toBeBytes (crc32c written))⟩

/-- one step of an upload: the store, the upload afterwards -/
def stagingStep (sha256 : List UInt8 → String) (s : FilesystemObjectStore) (u : StagedUpload)
    (e : StagingEvent) : Option (FilesystemObjectStore × StagedUpload) :=
  match u.phase, e with
  | .stopped, .crash => none
  | _, .crash => some (s, { u with phase := .stopped })
  | .creating, .createFile result =>
    match result with
    | .directoryFailed => some (s, { u with phase := .stopped })
    | .failed => some (s, { u with phase := .discarding })
    | .created =>
      let file := s.objects.created u.objectKey
      some (s.truncateObject u.objectKey, { u with file := some file, phase := .copying file [] })
  | .copying file written, .receiveChunk chunk fault =>
    match fault with
    | .read => some (s, { u with phase := .discarding })
    | .write part => some (s.writeChunk file written.length (chunk.take part), { u with phase := .discarding })
    | .none =>
      some (s.writeChunk file written.length chunk,
        { u with phase :=
          if u64Max < written.length + chunk.length then .discarding else .copying file (written ++ chunk) })
  | .copying _ written, .endOfStream ok =>
    some (s, { u with phase := if ok then .describing written else .discarding })
  | .discarding, .discard ok =>
    some (if ok then s.removeObject u.objectKey else s, { u with phase := .stopped })
  | .describing written, .createMetadata result =>
    match result with
    | .directoryFailed => some (s, { u with phase := .stopped })
    | .failed => some (s, { u with phase := .discarding })
    | .created =>
      some (s.truncateMetadata u.objectKey,
        { u with phase := .describingFile written (s.metadata.created u.objectKey) })
  | .describingFile written metadataFile, .writeMetadata ok =>
    if ok then
      some (s.writeMetadata metadataFile
          (some ⟨u.objectKey, u.contentType, written.length, sha256 written⟩),
        { u with phase := u.stagedPhase sha256 written })
    else some (s.writeMetadata metadataFile none, { u with phase := .discarding })
  | _, _ => none

/-- what a creating command is given of its upload -/
def DocumentCommand.document? : DocumentCommand → Option CreateDocumentPayload
  | .createEvidenceSubmissionDocument command => some command.document
  | .createPolicyDocument command => some command.document
  | .completeAgentEvidenceUpload command => some command.document
  | .completeAgentPolicyDocumentUpload command => some command.document
  | _ => none

/-- the upload has been staged, and this is what the services make of it -/
def StagedUpload.offers (u : StagedUpload) (payload : CreateDocumentPayload) : Bool :=
  match u.phase with
  | .staged document => decide (payload = document.payload u.owner)
  | _ => false

/-! ## All of them at once -/

structure ScanningWorld where
  promotion : FinalizationWorld
  uploads : Table StagedUpload.uploadId
  scans : Table ScanDelivery.id
  /-- all that was exchanged with the scanner -/
  exchanges : List ScanExchange

inductive ScanningEvent
  | beginUpload (uploadId : Uuid) (workspaceId : WorkspaceId) (owner : DocumentOwner)
      (filename contentType : String)
  | upload (uploadId : Uuid) (event : StagingEvent)
  | create (uploadId : Uuid) (command : DocumentCommand) (metadata : ExecutionMetadata) (messageId : Uuid)
      (commits : Bool)
  /-- uploads delete what they have staged for nothing; let everything be deleted at any time -/
  | removeObject (key : String)
  | removeMetadata (key : String)
  | receive (delivery : Nat) (message : WorkerMessage) (ok : Bool)
  | scan (delivery : Nat) (event : ScanEvent)
  | finalization (event : FinalizationEvent)

/-- the handler up to the store: it has returned, or goes on with this work -/
inductive ScanReceipt
  | returned (ok : Bool)
  | working (work : UploadWork)
  deriving DecidableEq, Repr

def DocumentDb.receiveScan (db : DocumentDb) (m : WorkerMessage) (ok : Bool) : ScanReceipt :=
  match scanRequestedPayload m with
  | .error _ => .returned true
  | .ok (identity, objectKey) =>
    if ok then
      match db.loadPendingUploadWork identity objectKey.text with
      | none => .returned true
      | some work => if (ObjectKey.parse work.objectKey).isSome then .working work else .returned false
    else .returned false

/-- scans are recorded by deliveries only -/
def FinalizationEvent.isScan : FinalizationEvent → Bool
  | .scan _ _ _ _ => true
  | _ => false

namespace ScanningWorld

def empty : ScanningWorld := ⟨.empty, .empty, .empty, []⟩

/-- the store of staged objects -/
def quarantine (w : ScanningWorld) : FilesystemObjectStore := w.promotion.quarantine

def withQuarantine (w : ScanningWorld) (s : FilesystemObjectStore) : ScanningWorld :=
  { w with promotion := { w.promotion with quarantine := s } }

/-- a scan has taken a step -/
def scanned (w : ScanningWorld) (x : ScanDelivery) (db : DocumentDb) (phase : ScanPhase)
    (exchanges : List ScanExchange) : ScanningWorld :=
  { w with
    promotion := { w.promotion with db }
    scans := w.scans.upsert { x with phase }
    exchanges := w.exchanges ++ exchanges }

end ScanningWorld

def scanningStep (sha256 : List UInt8 → String) (maxDeliveryAttempts : Nat) (w : ScanningWorld) :
    ScanningEvent → Option ScanningWorld
  | .beginUpload uploadId workspaceId owner filename contentType =>
    match h : stagedObjectKey workspaceId owner uploadId filename with
    | none => some w
    | some objectKey =>
      let u := ⟨uploadId, workspaceId, owner, filename, contentType, objectKey, h, none, .creating⟩
      some { w with uploads := w.uploads.upsert u }
  | .upload uploadId event =>
    (w.uploads.get? uploadId).bind fun u =>
      (stagingStep sha256 w.quarantine u event).map fun p =>
        { w.withQuarantine p.1 with uploads := w.uploads.upsert p.2 }
  | .create uploadId command metadata messageId commits =>
    (w.uploads.get? uploadId).bind fun u =>
      if command.creates && command.document?.any u.offers then
        let result := command.handle w.promotion.db metadata messageId
        some { w with promotion := w.promotion.command commits result }
      else none
  | .removeObject key => some (w.withQuarantine (w.quarantine.removeObject key))
  | .removeMetadata key => some (w.withQuarantine (w.quarantine.removeMetadata key))
  | .receive delivery message ok =>
    if (w.scans.get? delivery).isSome then none
    else
      match w.promotion.db.receiveScan message ok with
      | .returned _ => some w
      | .working work =>
        let x := ⟨delivery, work, workerMetadata message, isFinalDelivery maxDeliveryAttempts message,
          .reading⟩
        some { w with scans := w.scans.upsert x }
  | .scan delivery event =>
    (w.scans.get? delivery).bind fun x =>
      (scanStep w.promotion.db w.quarantine x event).map fun p => w.scanned x p.1 p.2.1 p.2.2
  | .finalization event =>
    if event.isScan then none
    else (finalizationStep sha256 w.promotion event).map fun promotion => { w with promotion }

/-- upload ids and document ids are random: a new one is no other's -/
def NewUploads (w : ScanningWorld) : ScanningEvent → Prop
  | .beginUpload uploadId _ _ _ _ => ∀ u ∈ w.uploads.rows, u.uploadId ≠ uploadId
  | .create _ command metadata messageId _ =>
    ∀ d db', command.handle w.promotion.db metadata messageId = .ok (.created d, db') →
      NewDocumentId w.promotion.db d.id
  | _ => True

/-- destinations are opened exclusively -/
def ScanningWorld.exclusive (w : ScanningWorld) : ScanningEvent → Bool
  | .finalization event => w.promotion.exclusive event
  | _ => true

end Proofplane
