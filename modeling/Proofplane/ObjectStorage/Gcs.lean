import Proofplane.Base.Run
import Proofplane.Base.Versions
import Proofplane.ObjectStorage.Operations

/-!
# The object store on Cloud Storage

An operation of the store is a few requests to Cloud Storage, and between any two of them any other operation may
go on.  Cloud Storage keeps one version of an object, of a generation of its own; the digest of its bytes is
written behind it, as metadata of that generation.  A request may be refused, and a reply may be lost after the
request was done.  Cloud Storage itself is a parameter: any store of versions.

* `GcsProviderError`, `classifyProviderError`   a failure of a request, and what it is told as;
* `CloudStorage`, `mapObjectMetadata`   what keeps the objects of all buckets, and the description of one;
* `GcsRequest`, `GcsPoint`     the operations, and where one of them is;
* `gcsStep`                    **an operation begins, or the reply to its request comes in**.

SHA-256, as lower-case hexadecimals, is a parameter.
-/

namespace Proofplane
open Base

/-! ## Failures -/

inductive ProviderFailureKind
  | adcInitialization | authentication | timeout | retryExhaustion | connection | io | rpcStatus | httpResponse
  | provider
  deriving DecidableEq, Repr

structure ProviderFailure where
  kind : ProviderFailureKind
  httpStatus : Option Nat
  rpcStatus : Option String
  deriving DecidableEq, Repr

inductive GcsError
  | storage (e : StorageError)
  | authentication (source : ProviderFailure)
  | unavailable (source : ProviderFailure)
  | provider (source : ProviderFailure)
  deriving DecidableEq, Repr

/-- what can be told of an error of the client -/
structure GcsProviderError where
  /-- a `StreamRead` of the uploaded stream among its sources -/
  streamRead : Option (String × Bool)
  checksumMismatch : Bool
  isAuthentication : Bool
  isTimeout : Bool
  isExhausted : Bool
  isConnect : Bool
  isIo : Bool
  httpStatus : Option Nat
  statusName : Option String
  deriving DecidableEq, Repr

def GcsProviderError.providerFailure (e : GcsProviderError) : ProviderFailure :=
  let kind :=
    if e.isAuthentication then ProviderFailureKind.authentication
    else if e.isTimeout then .timeout
    else if e.isExhausted then .retryExhaustion
    else if e.isConnect then .connection
    else if e.isIo then .io
    else if e.statusName.isSome then .rpcStatus
    else if e.httpStatus.isSome then .httpResponse
    else .provider
  ⟨kind, e.httpStatus, e.statusName⟩

def classifyProviderError (e : GcsProviderError) : GcsError :=
  match e.streamRead with
  | some (message, payloadTooLarge) => .storage (.streamRead message payloadTooLarge)
  | none =>
    if e.checksumMismatch then .storage .integrity
    else if e.httpStatus = some 404 ∨ e.statusName = some "NOT_FOUND" then .storage .notFound
    else if e.isAuthentication ∨ e.httpStatus = some 401 ∨ e.httpStatus = some 403 ∨
        e.statusName = some "UNAUTHENTICATED" ∨ e.statusName = some "PERMISSION_DENIED" then
      .authentication e.providerFailure
    else if e.isTimeout ∨ e.isExhausted ∨ e.isConnect ∨ e.isIo ∨
        e.httpStatus.any (fun status => status = 408 ∨ status = 429 ∨ 500 ≤ status ∧ status ≤ 599) ∨
        e.statusName = some "DEADLINE_EXCEEDED" ∨ e.statusName = some "RESOURCE_EXHAUSTED" ∨
        e.statusName = some "UNAVAILABLE" then
      .unavailable e.providerFailure
    else .provider e.providerFailure

/-! ## Objects -/

structure GcsObjectStore where
  bucket : String
  objectKeyPrefix : String
  deriving DecidableEq, Repr

/-- a bucket and a name in it -/
abbrev GcsName := String × String

namespace GcsObjectStore

/-- another bucket with the same prefix -/
def forBucket (s : GcsObjectStore) (bucket : String) : GcsObjectStore := { s with bucket }

def bucketResource (s : GcsObjectStore) : String := "projects/_/buckets/" ++ s.bucket

def physicalName (s : GcsObjectStore) (key : String) : String := s.objectKeyPrefix ++ "/" ++ key

def name (s : GcsObjectStore) (key : String) : GcsName := (s.bucketResource, s.physicalName key)

end GcsObjectStore

/-- what is written once -/
structure GcsContent where
  contentType : String
  bytes : List UInt8
  deriving DecidableEq, Repr

/-- the objects of all buckets; the label is the metadata `proofplane-sha256` -/
abbrev GcsObjects := VersionView GcsName GcsContent (Option String)

abbrev GcsObject := Version GcsName GcsContent (Option String)

/-- the service, as it is documented: a new version has a fresh generation, an update and a removal may be made
conditional on one, a rewrite copies bytes and metadata, and what is refused has no effect -/
abbrev CloudStorage (σ : Type) := VersionStore σ GcsName GcsContent (Option String)

/-- a version that an operation has written, by its id -/
abbrev GcsWrite := Written GcsName GcsContent Nat

def isHexDigest (sha256 : String) : Bool :=
  decide (sha256.utf8ByteSize = 64) && sha256.toList.all fun c =>
    '0' ≤ c && c ≤ '9' || 'a' ≤ c && c ≤ 'f' || 'A' ≤ c && c ≤ 'F'

def mapObjectMetadata (key physicalName : String) (object : GcsObject) : Except GcsError ObjectMetadata :=
  if object.key.2 ≠ physicalName ∨ object.content.contentType = "" then .error (.storage .integrity)
  else
    match object.label with
    | none => .error (.storage .integrity)
    | some sha256 =>
      if isHexDigest sha256 then
        .ok ⟨key, object.content.contentType, object.content.bytes.length, sha256⟩
      else .error (.storage .integrity)

/-- the description that `head_object` answers -/
def headObject (objects : GcsObjects) (s : GcsObjectStore) (key : String) : Except GcsError ObjectMetadata :=
  match objects.get? (s.name key) with
  | none => .error (.storage .notFound)
  | some object => mapObjectMetadata key (s.physicalName key) object

/-! ## Operations -/

inductive GcsRequest
  | put (store : GcsObjectStore) (key contentType : String) (chunks : List (Except StorageError (List UInt8)))
  | get (store : GcsObjectStore) (key : String)
  | head (store : GcsObjectStore) (key : String)
  | copy (store : GcsObjectStore) (source : String) (destinationStore : GcsObjectStore) (destination : String)
  | delete (store : GcsObjectStore) (key : String)

/-- the object that the operation answers about; of a copy it is the destination -/
def GcsRequest.target : GcsRequest → GcsName
  | .put store key _ _ => store.name key
  | .get store key => store.name key
  | .head store key => store.name key
  | .copy _ _ store key => store.name key
  | .delete store key => store.name key

inductive GcsAnswer
  | metadata (metadata : ObjectMetadata)
  | stream (metadata : ObjectMetadata) (bytes : List UInt8)
  | deleted
  | failed (e : GcsError)
  deriving DecidableEq, Repr

/-- the request that an operation waits for -/
inductive GcsPoint
  /-- the upload of a put -/
  | writing
  /-- the digest of a put, for the generation that was uploaded -/
  | labelling (generation contentLength : Nat) (sha256 : String)
  /-- the description of what was put -/
  | checking (generation contentLength : Nat) (sha256 : String)
  /-- the description of an object, of a copy that of its source -/
  | heading
  /-- the bytes of what was described -/
  | reading (metadata : ObjectMetadata)
  /-- the rewrite of a source that was described -/
  | rewriting (metadata : ObjectMetadata) (rewriteToken : Option String)
  /-- the removal of the generation that was written -/
  | cleaning (generation : Nat) (e : GcsError)
  | deleting
  | answered (answer : GcsAnswer)
  deriving DecidableEq, Repr

structure GcsCall where
  id : Nat
  request : GcsRequest
  point : GcsPoint

inductive GcsReply
  | done
  /-- an upload is done, and has this size -/
  | uploaded (size : Int)
  /-- a rewrite is not done -/
  | more (rewriteToken : String)
  /-- a rewrite is done, and tells no resource -/
  | noResource
  | lost (e : GcsProviderError)
  | refused (e : GcsProviderError)
  deriving DecidableEq, Repr

inductive GcsEvent
  | calls (id : Nat) (request : GcsRequest)
  | replies (id : Nat) (reply : GcsReply)

structure GcsWorld (σ : Type) where
  objects : σ
  calls : Table GcsCall.id
  /-- all that was written -/
  written : List GcsWrite

def GcsRequest.start : GcsRequest → GcsPoint
  | .put .. => .writing
  | .get .. => .heading
  | .head .. => .heading
  | .copy _ source _ destination =>
    if hasSameWorkspace source destination then .heading else .answered (.failed (.storage .invalidKey))
  | .delete .. => .deleting

/-- the answer of a removal: what is not there is removed -/
def deletedOr (e : GcsError) : GcsAnswer := if e = .storage .notFound then .deleted else .failed e

namespace GcsWorld
variable {σ : Type} (S : CloudStorage σ) (sha256 : List UInt8 → String)

def empty : GcsWorld σ := ⟨S.empty, .empty, []⟩

/-- the operation goes on, on these objects -/
def goes (w : GcsWorld σ) (c : GcsCall) (objects : σ) (point : GcsPoint) : Option (GcsWorld σ) :=
  some { w with objects, calls := w.calls.upsert { c with point } }

def failed (w : GcsWorld σ) (c : GcsCall) (objects : σ) (e : GcsError) : Option (GcsWorld σ) :=
  w.goes c objects (.answered (.failed e))

/-- the operation has written a version, of this generation -/
def wrote (w : GcsWorld σ) (c : GcsCall) (r : Nat × σ) (content : GcsContent) (point : GcsPoint) :
    Option (GcsWorld σ) :=
  some ⟨r.2, w.calls.upsert { c with point }, ⟨c.request.target, r.1, c.id, content⟩ :: w.written⟩

/-- where a put goes on that has uploaded this -/
def uploadedPoint (generation : Nat) (size : Int) (bytes : List UInt8) : GcsPoint :=
  if size < 0 ∨ size ≠ bytes.length then .cleaning generation (.storage .integrity)
  else .labelling generation bytes.length (sha256 bytes)

/-- the upload of all chunks, if the stream does not fail -/
def writeObject (w : GcsWorld σ) (c : GcsCall) (contentType : String)
    (chunks : List (Except StorageError (List UInt8))) : GcsReply → Option (GcsWorld σ)
  | .refused e => w.failed c (S.refuse w.objects) (classifyProviderError e)
  | .uploaded size =>
    (delivered chunks).bind fun bytes =>
      if maxContentLength ≤ bytes.length then none
      else
        let r := S.write w.objects c.request.target ⟨contentType, bytes⟩ none
        w.wrote c r ⟨contentType, bytes⟩ (uploadedPoint sha256 r.1 size bytes)
  | .lost e =>
    (delivered chunks).bind fun bytes =>
      if maxContentLength ≤ bytes.length then none
      else
        w.wrote c (S.write w.objects c.request.target ⟨contentType, bytes⟩ none) ⟨contentType, bytes⟩
          (.answered (.failed (classifyProviderError e)))
  | _ => none

/-- the digest is written if the generation is still there -/
def updateObject (w : GcsWorld σ) (c : GcsCall) (generation contentLength : Nat) (digest : String) :
    GcsReply → Option (GcsWorld σ)
  | .refused e => w.goes c (S.refuse w.objects) (.cleaning generation (classifyProviderError e))
  | .done =>
    if ((S.view w.objects).get? c.request.target).any fun v => v.generation = generation then
      w.goes c (S.setLabel w.objects c.request.target generation (some digest))
        (.checking generation contentLength digest)
    else none
  | .lost e =>
    w.goes c (S.setLabel w.objects c.request.target generation (some digest))
      (.cleaning generation (classifyProviderError e))
  | _ => none

/-- what was put is described as it was sent -/
def checkObject (w : GcsWorld σ) (c : GcsCall) (store : GcsObjectStore) (key : String)
    (generation contentLength : Nat) (digest : String) : GcsReply → Option (GcsWorld σ)
  | .refused e => w.goes c (S.refuse w.objects) (.cleaning generation (classifyProviderError e))
  | .done =>
    match headObject (S.view w.objects) store key with
    | .error e => w.goes c w.objects (.cleaning generation e)
    | .ok metadata =>
      if metadata.contentLength ≠ contentLength ∨ metadata.sha256 ≠ digest then
        w.goes c w.objects (.cleaning generation (.storage .integrity))
      else w.goes c w.objects (.answered (.metadata metadata))
  | _ => none

/-- an object is described, and the operation goes on from there -/
def describeObject (w : GcsWorld σ) (c : GcsCall) (store : GcsObjectStore) (key : String)
    (next : ObjectMetadata → GcsPoint) : GcsReply → Option (GcsWorld σ)
  | .refused e => w.failed c (S.refuse w.objects) (classifyProviderError e)
  | .done =>
    match headObject (S.view w.objects) store key with
    | .error e => w.failed c w.objects e
    | .ok metadata => w.goes c w.objects (next metadata)
  | _ => none

def readObject (w : GcsWorld σ) (c : GcsCall) (metadata : ObjectMetadata) : GcsReply → Option (GcsWorld σ)
  | .refused e => w.failed c (S.refuse w.objects) (classifyProviderError e)
  | .done =>
    match S.read w.objects c.request.target with
    | none => w.failed c w.objects (.storage .notFound)
    | some content => w.goes c w.objects (.answered (.stream metadata content.bytes))
  | _ => none

/-- the rewrite of a source, with the object that it has made -/
def rewrites (w : GcsWorld σ) (c : GcsCall) (sourceName : GcsName) : Option ((Nat × σ) × GcsObject) :=
  (S.copy w.objects sourceName c.request.target).bind fun r =>
    ((S.view r.2).get? c.request.target).map fun object => (r, object)

/-- the check of a copy -/
def copyPoint (source : ObjectMetadata) (generation : Nat) : Except GcsError ObjectMetadata → GcsPoint
  | .error e => .cleaning generation e
  | .ok destination =>
    if destination.contentType ≠ source.contentType ∨ destination.contentLength ≠ source.contentLength ∨
        destination.sha256 ≠ source.sha256 then
      .cleaning generation (.storage .integrity)
    else .answered (.metadata destination)

def rewriteObject (w : GcsWorld σ) (c : GcsCall) (sourceName : GcsName) (store : GcsObjectStore) (key : String)
    (metadata : ObjectMetadata) : GcsReply → Option (GcsWorld σ)
  | .refused e => w.failed c (S.refuse w.objects) (classifyProviderError e)
  | .more rewriteToken =>
    if rewriteToken = "" then w.failed c w.objects (.storage .integrity)
    else w.goes c w.objects (.rewriting metadata (some rewriteToken))
  | .noResource =>
    (w.rewrites S c sourceName).bind fun p =>
      w.wrote c p.1 p.2.content (.answered (.failed (.storage .integrity)))
  | .lost e =>
    (w.rewrites S c sourceName).bind fun p =>
      w.wrote c p.1 p.2.content (.answered (.failed (classifyProviderError e)))
  | .done =>
    (w.rewrites S c sourceName).bind fun p =>
      w.wrote c p.1 p.2.content
        (copyPoint metadata p.2.generation (mapObjectMetadata key (store.physicalName key) p.2))
  | _ => none

/-- the generation is removed, if it is still there; a failure of that is only recorded -/
def cleanupFailedWrite (w : GcsWorld σ) (c : GcsCall) (generation : Nat) (e : GcsError) :
    GcsReply → Option (GcsWorld σ)
  | .refused _ => w.failed c (S.refuse w.objects) e
  | .done => w.failed c (S.removeIf w.objects c.request.target generation) e
  | .lost _ => w.failed c (S.removeIf w.objects c.request.target generation) e
  | _ => none

def deleteObject (w : GcsWorld σ) (c : GcsCall) : GcsReply → Option (GcsWorld σ)
  | .refused e => w.goes c (S.refuse w.objects) (.answered (deletedOr (classifyProviderError e)))
  | .done => w.goes c (S.remove w.objects c.request.target) (.answered .deleted)
  | .lost e => w.goes c (S.remove w.objects c.request.target) (.answered (deletedOr (classifyProviderError e)))
  | _ => none

/-- the reply to the request that the operation waits for -/
def replyStep (w : GcsWorld σ) (c : GcsCall) (reply : GcsReply) : Option (GcsWorld σ) :=
  match c.point, c.request with
  | .writing, .put _ _ contentType chunks => w.writeObject S sha256 c contentType chunks reply
  | .labelling g n digest, _ => w.updateObject S c g n digest reply
  | .checking g n digest, .put store key _ _ => w.checkObject S c store key g n digest reply
  | .heading, .get store key => w.describeObject S c store key .reading reply
  | .heading, .head store key => w.describeObject S c store key (fun m => .answered (.metadata m)) reply
  | .heading, .copy store source _ _ => w.describeObject S c store source (fun m => .rewriting m none) reply
  | .reading metadata, _ => w.readObject S c metadata reply
  | .rewriting metadata _, .copy store source destinationStore destination =>
    w.rewriteObject S c (store.name source) destinationStore destination metadata reply
  | .cleaning g e, _ => w.cleanupFailedWrite S c g e reply
  | .deleting, _ => w.deleteObject S c reply
  | _, _ => none

end GcsWorld

/-- an operation has an id of its own -/
def gcsStep {σ : Type} (S : CloudStorage σ) (sha256 : List UInt8 → String) (w : GcsWorld σ) :
    GcsEvent → Option (GcsWorld σ)
  | .calls id request =>
    if (w.calls.get? id).isSome then none
    else some { w with calls := w.calls.upsert ⟨id, request, request.start⟩ }
  | .replies id reply => (w.calls.get? id).bind fun c => w.replyStep S sha256 c reply

end Proofplane
