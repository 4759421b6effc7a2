import Proofplane.Domain.Ids

/-!
# Documents

The lifecycle of an uploaded document: it waits for its scan under a staged object key, is then
finalized under its final key, and may be archived at the end.  Every transition says whether it
changed the document and which message it asks for.

* `scanClean`, `scanMalicious`, `scanFailed`   one definition, `transition`, at three targets;
* `finalizeUploaded`, `archive`                the other two transitions;
* `scan_cases`, `finalizeUploaded_cases`, `archive_cases`   all that each of them can do.
-/

namespace Proofplane

inductive DocumentUploadStatus
  | pendingUpload | finalizing | uploaded | containsVirus | failedUpload
  deriving DecidableEq, Repr

inductive DocumentOwner
  | evidenceSubmission (id : EvidenceSubmissionId)
  | policy (id : PolicyId)
  deriving DecidableEq, Repr

inductive DocumentIdentity
  | evidence (evidenceSubmissionId : EvidenceSubmissionId) (documentId : DocumentId)
  | policy (policyId : PolicyId) (documentId : DocumentId)
  deriving DecidableEq, Repr

namespace DocumentIdentity

def documentId : DocumentIdentity → DocumentId
  | .evidence _ d => d
  | .policy _ d => d

def owner : DocumentIdentity → DocumentOwner
  | .evidence s _ => .evidenceSubmission s
  | .policy p _ => .policy p

/-- an identity is its owner with its document id -/
theorem ext_owner {a b : DocumentIdentity} (hd : a.documentId = b.documentId)
    (ho : a.owner = b.owner) : a = b := by
  cases a with
  | evidence s d =>
    cases b with
    | evidence s' d' =>
      cases hd
      cases ho
      rfl
    | policy p' d' => cases ho
  | policy p d =>
    cases b with
    | evidence s' d' => cases ho
    | policy p' d' =>
      cases hd
      cases ho
      rfl

end DocumentIdentity

structure Document where
  identity : DocumentIdentity
  workspaceId : WorkspaceId
  createdByUserId : UserId
  filename : String
  contentType : String
  contentLength : Int
  objectKey : String
  checksumSha256 : String
  checksumCrc32c : String
  uploadStatus : DocumentUploadStatus
  archived : Bool
  createdAt : Int
  deriving DecidableEq, Repr

inductive DocumentEvent
  | scanRequested (identity : DocumentIdentity) (objectKey : String)
  | finalizationRequested (identity : DocumentIdentity) (objectKey : String)
  deriving DecidableEq, Repr

inductive DocumentTransitionOutcome
  | created | scanned | finalized | archived | ignored | rejected
  deriving DecidableEq, Repr

structure DocumentTransition where
  outcome : DocumentTransitionOutcome
  event : Option DocumentEvent
  deriving DecidableEq, Repr

namespace DocumentTransition

def ignored : DocumentTransition := ⟨.ignored, none⟩

def rejected : DocumentTransition := ⟨.rejected, none⟩

def changed (t : DocumentTransition) : Bool :=
  match t.outcome with
  | .ignored | .rejected => false
  | _ => true

end DocumentTransition

inductive DocumentLifecycleError
  | ownerMismatch | negativeContentLength
  deriving DecidableEq, Repr

structure CreateDocumentPayload where
  owner : DocumentOwner
  filename : String
  contentType : String
  contentLength : Int
  objectKey : String
  checksumSha256 : String
  checksumCrc32c : String
  deriving DecidableEq, Repr

namespace Document

def id (d : Document) : DocumentId := d.identity.documentId

def owner (d : Document) : DocumentOwner := d.identity.owner

def create (identity : DocumentIdentity) (workspaceId : WorkspaceId) (createdByUserId : UserId)
    (payload : CreateDocumentPayload) (createdAt : Int) :
    Except DocumentLifecycleError (Document × DocumentTransition) :=
  if payload.owner ≠ identity.owner then .error .ownerMismatch
  else if payload.contentLength < 0 then .error .negativeContentLength
  else
    .ok
      ({ identity, workspaceId, createdByUserId
         filename := payload.filename
         contentType := payload.contentType
         contentLength := payload.contentLength
         objectKey := payload.objectKey
         checksumSha256 := payload.checksumSha256
         checksumCrc32c := payload.checksumCrc32c
         uploadStatus := .pendingUpload
         archived := false
         createdAt },
       ⟨.created, some (.scanRequested identity payload.objectKey)⟩)

/-- a scan result moves a waiting document that is not archived -/
def transition (d : Document) (expected next : DocumentUploadStatus) (event : Option DocumentEvent) :
    Document × DocumentTransition :=
  if d.archived ∨ d.uploadStatus ≠ expected then (d, .ignored)
  else ({ d with uploadStatus := next }, ⟨.scanned, event⟩)

def scanClean (d : Document) : Document × DocumentTransition :=
  d.transition .pendingUpload .finalizing (some (.finalizationRequested d.identity d.objectKey))

def scanMalicious (d : Document) : Document × DocumentTransition :=
  d.transition .pendingUpload .containsVirus none

def scanFailed (d : Document) : Document × DocumentTransition :=
  d.transition .pendingUpload .failedUpload none

def finalizeUploaded (d : Document) (finalObjectKey : String) : Document × DocumentTransition :=
  if d.archived ∨ d.uploadStatus ≠ .finalizing then (d, .ignored)
  else ({ d with objectKey := finalObjectKey, uploadStatus := .uploaded }, ⟨.finalized, none⟩)

/-- the states in which a document has come to its end -/
def terminal (d : Document) : Bool :=
  match d.uploadStatus with
  | .uploaded | .containsVirus | .failedUpload => true
  | _ => false

def archive (d : Document) : Document × DocumentTransition :=
  if d.archived then (d, .ignored)
  else if d.terminal = false then (d, .rejected)
  else ({ d with archived := true }, ⟨.archived, none⟩)

/-! ## What a transition can do -/

theorem create_ok {identity : DocumentIdentity} {workspaceId : WorkspaceId} {user : UserId}
    {payload : CreateDocumentPayload} {createdAt : Int} {d : Document} {t : DocumentTransition}
    (h : create identity workspaceId user payload createdAt = .ok (d, t)) :
    payload.owner = identity.owner ∧ 0 ≤ payload.contentLength ∧
      d = ⟨identity, workspaceId, user, payload.filename, payload.contentType,
            payload.contentLength, payload.objectKey, payload.checksumSha256,
            payload.checksumCrc32c, .pendingUpload, false, createdAt⟩ ∧
      t = ⟨.created, some (.scanRequested identity payload.objectKey)⟩ := by
  unfold create at h
  split at h
  · cases h
  · next ho =>
    split at h
    · cases h
    · next hl =>
      cases h
      exact ⟨not_not.mp ho, by omega, rfl, rfl⟩

theorem transition_cases (d : Document) (expected next : DocumentUploadStatus)
    (event : Option DocumentEvent) :
    d.transition expected next event = (d, .ignored) ∨
    d.archived = false ∧ d.uploadStatus = expected ∧
      d.transition expected next event = ({ d with uploadStatus := next }, ⟨.scanned, event⟩) := by
  unfold transition
  split
  · exact .inl rfl
  · next h =>
    simp only [not_or, Bool.not_eq_true, not_not] at h
    exact .inr ⟨h.1, h.2, rfl⟩

theorem finalizeUploaded_cases (d : Document) (key : String) :
    d.finalizeUploaded key = (d, .ignored) ∨
    d.archived = false ∧ d.uploadStatus = .finalizing ∧ d.finalizeUploaded key
      = ({ d with objectKey := key, uploadStatus := .uploaded }, ⟨.finalized, none⟩) := by
  unfold finalizeUploaded
  split
  · exact .inl rfl
  · next h =>
    simp only [not_or, Bool.not_eq_true, not_not] at h
    exact .inr ⟨h.1, h.2, rfl⟩

theorem archive_cases (d : Document) :
    d.archive = (d, .ignored) ∨ d.archive = (d, .rejected) ∨
    d.archived = false ∧ d.terminal = true ∧
      d.archive = ({ d with archived := true }, ⟨.archived, none⟩) := by
  unfold archive
  split
  · exact .inl rfl
  · next ha =>
    split
    · exact .inr (.inl rfl)
    · next ht => exact .inr (.inr ⟨by simpa using ha, by simpa using ht, rfl⟩)

end Document

end Proofplane
