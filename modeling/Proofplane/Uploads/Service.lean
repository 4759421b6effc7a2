import Proofplane.Documents.Runs
import Proofplane.Uploads.Staging

/-!
# The four upload paths

A person hands in the document of an evidence submission or of a policy, or an agent does with a
grant.  Each call first stages its file in quarantine, then runs its command as one unit of work,
and then decides from what it got whether to delete the staged object again.  Between any two of
these steps anything else may happen: other calls, scans, finalizations, archivings, a crash; and a
unit of work that returns an error may have committed, when only its acknowledgement was lost.

* `UploadTask`, `UploadAttempt`   a call of one of the four paths, and how far it has come;
* `openUpload`                    the checks of an agent's call before anything is staged;
* `runCompletion`                 the command of a path, `afterCompletion` what follows from its answer;
* `reconcileGrant`, `reconcileDocument`   how an agent's policy upload finds out whether its failed
                                  unit of work committed;
* `UploadWorld`, `uploadStep`     all calls at once, over one database and one quarantine.

Ids are random: the id of an attempt, an upload id, a document id and a submission id that is drawn is
one that was not drawn before, else the step is not one that can happen.
-/

namespace Proofplane
open Base

/-- what a call uploads for -/
inductive UploadTask
  | humanEvidence (connection : AgentConnectionContext) (submissionId : EvidenceSubmissionId)
      (evidenceId : EvidenceId) (coverage : CoverageWindow)
  | humanPolicy (connection : AgentConnectionContext) (policyId : PolicyId)
  | agentEvidence (grant : AgentEvidenceUploadGrant) (authority : AgentEvidenceUploadAuthority)
  | agentPolicy (grant : AgentPolicyDocumentUploadGrant)
      (authority : AgentPolicyDocumentUploadAuthority)

namespace UploadTask

def workspaceId : UploadTask → WorkspaceId
  | .humanEvidence connection _ _ _ => connection.workspaceId
  | .humanPolicy connection _ => connection.workspaceId
  | .agentEvidence grant _ => grant.workspaceId
  | .agentPolicy grant _ => grant.workspaceId

def owner : UploadTask → DocumentOwner
  | .humanEvidence _ submissionId _ _ => .evidenceSubmission submissionId
  | .humanPolicy _ policyId => .policy policyId
  | .agentEvidence grant _ => .evidenceSubmission grant.submissionId
  | .agentPolicy grant _ => .policy grant.policyId

/-- the file that was declared, where there is a grant -/
def declaration : UploadTask → Option DeclaredUploadFile
  | .humanEvidence _ _ _ _ => none
  | .humanPolicy _ _ => none
  | .agentEvidence grant _ => some grant.declaration
  | .agentPolicy grant _ => some grant.declaration

end UploadTask

/-- what a call answers; `failed` is any error of the infrastructure, `crashed` is no answer -/
inductive UploadResult
  | created (document : Document)
  | replayed (document : Document)
  | unavailable | currentDocument | payloadTooLarge
  | rejected (e : UploadGrantError)
  | failed | crashed
  deriving DecidableEq, Repr

inductive UploadPhase
  /-- an agent's policy upload has yet to ask whether the policy may have a document -/
  | checking
  /-- the file may be staged -/
  | admitted
  /-- the file is staged and is the declared one -/
  | staged
  /-- the grant was used before: read the document it names -/
  | loading (documentId : DocumentId)
  /-- the unit of work failed: read the grant again -/
  | reconciling
  | reconcilingDocument (documentId : DocumentId)
  /-- delete the staged object, then answer -/
  | deleting (result : UploadResult)
  | finished (result : UploadResult)
  deriving DecidableEq, Repr

structure UploadAttempt where
  id : Nat
  requestId : Uuid
  task : UploadTask
  staged : Option StagedDocument
  phase : UploadPhase

/-! ## Before staging -/

/-- the checks on a grant as it is read: the grant to upload with, and the document it names -/
def openUpload {K : UploadTarget} [DecidableEq K.Ref] (maxDocumentBytes : Nat)
    (get : Id K.idKind → WorkspaceId → Except RepositoryError (Option (UploadGrant K)))
    (uploadId : Id K.idKind) (authority : UploadAuthority K) (contentType : String)
    (contentLength : Nat) (now : Int) : Except UploadResult (UploadGrant K × Option DocumentId) :=
  if authority.uploadId ≠ uploadId then .error .unavailable
  else
    match get uploadId authority.workspaceId with
    | .error _ => .error .failed
    | .ok none => .error .unavailable
    | .ok (some grant) =>
      if grant.matchesAuthority authority ≠ .ok () then .error .unavailable
      else if maxDocumentBytes < contentLength then .error .payloadTooLarge
      else
        match grant.validateDeclaredFile contentType contentLength with
        | .error e => .error (.rejected e)
        | .ok () =>
          match grant.completedDocumentAt now with
          | .error _ => .error .unavailable
          | .ok documentId => .ok (grant, documentId)

/-- what the call does next: replay a used grant, else go on -/
def openedPhase (next : UploadPhase) : Option DocumentId → UploadPhase
  | some documentId => .loading documentId
  | none => next

/-- the answer of `ensure_policy_eligible` -/
def eligiblePhase (db : DocumentDb) (grant : AgentPolicyDocumentUploadGrant) : UploadPhase :=
  match db.lockDocumentUploadEligibility grant.workspaceId grant.policyId with
  | some .eligible => .admitted
  | some .currentDocument => .finished .currentDocument
  | none => .finished .unavailable

/-! ## Staging -/

/-- what comes in: the name and type that a form gives, and what was measured of the stream -/
structure ReceivedFile where
  filename : String
  contentType : String
  contentLength : Nat
  checksumSha256 : String
  checksumCrc32c : String

/-- what is stored: an agent's file has the declared name and type -/
def stageUpload (task : UploadTask) (uploadId : Uuid) (file : ReceivedFile) : Option StagedDocument :=
  let filename := (task.declaration.map DeclaredUploadFile.filename).getD file.filename
  let contentType := (task.declaration.map DeclaredUploadFile.contentType).getD file.contentType
  (stagedObjectKey task.workspaceId task.owner uploadId filename).bind fun objectKey =>
    if i64Max < file.contentLength then none
    else
      some ⟨filename, contentType, file.contentLength, objectKey, file.checksumSha256,
        file.checksumCrc32c⟩

/-- the check of a staged file against its declaration -/
def stagedPhase (task : UploadTask) (staged : StagedDocument) : UploadPhase :=
  match task.declaration with
  | none => .staged
  | some declaration =>
    match declaration.validateStaged staged.contentLength staged.checksumSha256 with
    | .error e => .deleting (.rejected (.file e))
    | .ok () => .staged

/-! ## The command -/

/-- the answer of a command, over all paths -/
inductive Completion
  | created (document : Document)
  | replayed (document : Document)
  | known (documentId : DocumentId)
  | refused (result : UploadResult)
  deriving DecidableEq, Repr

/-- the command that a call runs with its staged file; the document id is new -/
def runCompletion (db : DocumentDb) (a : UploadAttempt) (staged : StagedDocument)
    (documentId : DocumentId) (messageId : Uuid) (now : Int) :
    Except DocumentCommandError (Completion × DocumentDb) :=
  let metadata := ExecutionMetadata.forRequest a.requestId
  match a.task with
  | .humanEvidence connection submissionId evidenceId coverage =>
    match createEvidenceSubmissionDocument db metadata messageId
        ⟨connection, submissionId, evidenceId, coverage, documentId,
          staged.payload (.evidenceSubmission submissionId), now⟩ with
    | .error e => .error e
    | .ok (.created d, db) => .ok (.created d, db)
    | .ok (.replayed d, db) => .ok (.replayed d, db)
  | .humanPolicy connection policyId =>
    match createPolicyDocument db metadata messageId
        ⟨connection, policyId, documentId, staged.payload (.policy policyId), now⟩ with
    | .error e => .error e
    | .ok (.created d, db) => .ok (.created d, db)
    | .ok (.policyUnavailable, db) => .ok (.refused .unavailable, db)
    | .ok (.currentDocument, db) => .ok (.refused .currentDocument, db)
    | .ok (.replayed _, db) => .ok (.refused .currentDocument, db)
  | .agentEvidence grant authority =>
    match completeAgentEvidenceUpload db metadata messageId
        ⟨grant, authority, grant.submissionId, documentId,
          staged.payload (.evidenceSubmission grant.submissionId), now⟩ with
    | .error e => .error e
    | .ok (.created _ d, db) => .ok (.created d, db)
    | .ok (.replayed _ documentId, db) => .ok (.known documentId, db)
    | .ok (.unavailable, db) => .ok (.refused .unavailable, db)
  | .agentPolicy grant authority =>
    match completeAgentPolicyDocumentUpload db metadata messageId
        ⟨grant, authority, grant.policyId, documentId, staged.payload (.policy grant.policyId),
          now⟩ with
    | .error e => .error e
    | .ok (.created d, db) => .ok (.created d, db)
    | .ok (.replayed documentId, db) => .ok (.known documentId, db)
    | .ok (.currentDocument, db) => .ok (.refused .currentDocument, db)
    | .ok (.unavailable, db) => .ok (.refused .unavailable, db)

/-- what a call makes of the answer of its command -/
def afterCompletion (task : UploadTask) : Except DocumentCommandError Completion → UploadPhase
  | .ok (.created d) => .finished (.created d)
  | .ok (.replayed d) => .finished (.replayed d)
  | .ok (.known documentId) => .loading documentId
  | .ok (.refused result) => .deleting result
  | .error e =>
    match task, e with
    | .agentPolicy _ _, .repository _ => .reconciling
    | .humanPolicy _ _, _ => .deleting .failed
    | _, .repository _ => .deleting .failed
    | _, _ => .deleting .unavailable

/-! ## After the command -/

/-- the document that a used grant names -/
def loadCompleted (db : DocumentDb) (task : UploadTask) (documentId : DocumentId) :
    Option Document :=
  match task with
  | .agentEvidence grant _ =>
    db.getAgentEvidenceUploadDocument grant.workspaceId grant.submissionId documentId
  | .agentPolicy grant _ =>
    db.getAgentPolicyUploadDocument grant.workspaceId grant.policyId documentId
  | _ => none

/-- a replay answers with the document, after deleting what was staged for it -/
def loadedPhase (staged : Option StagedDocument) (document : Option Document) : UploadPhase :=
  let result : UploadResult := match document with
    | some d => .replayed d
    | none => .failed
  match staged with
  | none => .finished result
  | some _ => .deleting result

/-- the first read of a reconciliation; where nothing was committed, the staged object goes -/
def reconcileGrant (db : DocumentDb) (grant : AgentPolicyDocumentUploadGrant)
    (authority : AgentPolicyDocumentUploadAuthority) : UploadPhase :=
  match db.getPolicyGrant grant.id grant.workspaceId with
  | .error _ => .finished .failed
  | .ok none => .deleting .failed
  | .ok (some current) =>
    if current.matchesAuthority authority ≠ .ok () then .deleting .failed
    else
      match current.documentId with
      | none => .deleting .failed
      | some documentId => .reconcilingDocument documentId

/-- the second read: the staged object stays if it is the document's -/
def reconcileDocument (db : DocumentDb) (task : UploadTask) (staged : StagedDocument)
    (documentId : DocumentId) : UploadPhase :=
  match loadCompleted db task documentId with
  | none => .finished .failed
  | some d => if d.objectKey = staged.objectKey then .finished (.created d) else .deleting (.replayed d)

/-! ## All calls at once -/

/-- a document that was created, by which attempt and when -/
structure UploadCreation where
  attempt : Nat
  task : UploadTask
  document : Document
  completedAt : Int

structure UploadWorld where
  db : DocumentDb
  /-- the keys of the staged objects that are there -/
  quarantine : List String
  uploadIds : List Uuid
  submissionIds : List EvidenceSubmissionId
  attempts : Table UploadAttempt.id
  /-- the documents created so far -/
  created : List UploadCreation
  /-- the keys that a call has deleted so far -/
  cleaned : List String

def UploadWorld.empty : UploadWorld := ⟨.empty, [], [], [], .empty, [], []⟩

inductive UploadEvent
  | openHumanEvidence (attempt : Nat) (requestId : Uuid) (connection : AgentConnectionContext)
      (submissionId : EvidenceSubmissionId) (evidenceId : EvidenceId) (coverage : CoverageWindow)
  | openHumanPolicy (attempt : Nat) (requestId : Uuid) (connection : AgentConnectionContext)
      (policyId : PolicyId)
  | openAgentEvidence (attempt : Nat) (requestId : Uuid) (uploadId : AgentEvidenceUploadGrantId)
      (authority : AgentEvidenceUploadAuthority) (contentType : String) (contentLength : Nat)
      (now : Int)
  | openAgentPolicy (attempt : Nat) (requestId : Uuid) (uploadId : AgentPolicyDocumentUploadGrantId)
      (authority : AgentPolicyDocumentUploadAuthority) (contentType : String) (contentLength : Nat)
      (now : Int)
  | checkPolicy (attempt : Nat) (ok : Bool)
  | stage (attempt : Nat) (uploadId : Uuid) (file : ReceivedFile) (ok : Bool)
  | abandon (attempt : Nat)
  | complete (attempt : Nat) (documentId : DocumentId) (messageId : Uuid) (now : Int)
      (fault : CommitFault)
  | load (attempt : Nat) (ok : Bool)
  | reconcile (attempt : Nat) (ok : Bool)
  | delete (attempt : Nat) (ok : Bool)
  | crash (attempt : Nat)
  | scan (command : ScanDocument) (metadata : ExecutionMetadata) (messageId : Uuid) (commits : Bool)
  | finalize (command : FinalizeDocument) (commits : Bool)
  | archive (command : ArchiveDocument) (commits : Bool)
  | housekeeping (change : Housekeeping)

namespace UploadWorld

/-- a new attempt -/
def begin (w : UploadWorld) (a : UploadAttempt) : Option UploadWorld :=
  if (w.attempts.get? a.id).isSome then none else some { w with attempts := w.attempts.upsert a }

/-- an attempt goes on -/
def put (w : UploadWorld) (a : UploadAttempt) : UploadWorld :=
  { w with attempts := w.attempts.upsert a }

/-- a call that its first checks refuse does nothing -/
def beginOpened (w : UploadWorld) {α : Type} (attempt : Nat) (requestId : Uuid)
    (task : α → UploadTask) (next : UploadPhase)
    (r : Except UploadResult (α × Option DocumentId)) : Option UploadWorld :=
  match r with
  | .error _ => some w
  | .ok (grant, documentId) =>
    w.begin ⟨attempt, requestId, task grant, none, openedPhase next documentId⟩

/-- the staged object is put into quarantine -/
def stage (w : UploadWorld) (a : UploadAttempt) (uploadId : Uuid) (file : ReceivedFile) (ok : Bool) :
    UploadWorld :=
  let w := { w with uploadIds := uploadId :: w.uploadIds }
  match if ok then stageUpload a.task uploadId file else none with
  | none => w.put { a with phase := .finished .failed }
  | some staged =>
    { w.put { a with staged := some staged, phase := stagedPhase a.task staged } with
      quarantine := staged.objectKey :: w.quarantine }

/-- the document that a unit of work created, if it committed -/
def creation (a : UploadAttempt) (now : Int) (fault : CommitFault)
    (r : Except DocumentCommandError (Completion × DocumentDb)) : List UploadCreation :=
  match fault, r with
  | .beforeCommit, _ => []
  | _, .ok (.created d, _) => [⟨a.id, a.task, d, now⟩]
  | _, _ => []

def complete (w : UploadWorld) (a : UploadAttempt) (staged : StagedDocument)
    (documentId : DocumentId) (messageId : Uuid) (now : Int) (fault : CommitFault) : UploadWorld :=
  let r := runCompletion w.db a staged documentId messageId now
  let (answer, db) := committed fault w.db r
  { w.put { a with phase := afterCompletion a.task answer } with
    db := db
    created := w.created ++ creation a now fault r }

/-- a failed read of the document leaves a reconciling call with its object, a replaying one without
an answer -/
def loadStep (w : UploadWorld) (a : UploadAttempt) (ok : Bool) : Option UploadPhase :=
  match a.phase with
  | .loading documentId =>
    some (loadedPhase a.staged (if ok then loadCompleted w.db a.task documentId else none))
  | _ => none

def reconcileStep (w : UploadWorld) (a : UploadAttempt) (ok : Bool) : Option UploadPhase :=
  match a.phase, a.task, a.staged with
  | .reconciling, .agentPolicy grant authority, _ =>
    some (if ok then reconcileGrant w.db grant authority else .finished .failed)
  | .reconcilingDocument documentId, task, some staged =>
    some (if ok then reconcileDocument w.db task staged documentId else .finished .failed)
  | _, _, _ => none

/-- a failed deletion is only logged, but for the policy form, which reports it -/
def delete (w : UploadWorld) (a : UploadAttempt) (key : String) (result : UploadResult) (ok : Bool) :
    UploadWorld :=
  if ok then
    { w.put { a with phase := .finished result } with
      quarantine := w.quarantine.filter fun k => k ≠ key
      cleaned := key :: w.cleaned }
  else
    match a.task with
    | .humanPolicy _ _ => w.put { a with phase := .finished .failed }
    | _ => w.put { a with phase := .finished result }

/-- a command of the rest of the application -/
def command {α : Type} (w : UploadWorld) (commits : Bool)
    (r : Except DocumentCommandError (α × DocumentDb)) : UploadWorld :=
  match r with
  | .ok (_, db) => if commits then { w with db } else w
  | .error _ => w

end UploadWorld

/-- one step of one call, or of something else -/
def uploadStep (maxDocumentBytes : Nat) (w : UploadWorld) : UploadEvent → Option UploadWorld
  | .openHumanEvidence attempt requestId connection submissionId evidenceId coverage =>
    if submissionId ∈ w.submissionIds then none
    else
      ({ w with submissionIds := submissionId :: w.submissionIds }).begin
        ⟨attempt, requestId, .humanEvidence connection submissionId evidenceId coverage, none,
          .admitted⟩
  | .openHumanPolicy attempt requestId connection policyId =>
    w.begin ⟨attempt, requestId, .humanPolicy connection policyId, none, .admitted⟩
  | .openAgentEvidence attempt requestId uploadId authority contentType contentLength now =>
    w.beginOpened attempt requestId (fun grant => .agentEvidence grant authority) .admitted
      (openUpload maxDocumentBytes w.db.getEvidenceGrant uploadId authority contentType
        contentLength now)
  | .openAgentPolicy attempt requestId uploadId authority contentType contentLength now =>
    w.beginOpened attempt requestId (fun grant => .agentPolicy grant authority) .checking
      (openUpload maxDocumentBytes w.db.getPolicyGrant uploadId authority contentType
        contentLength now)
  | .checkPolicy attempt ok =>
    (w.attempts.get? attempt).bind fun a =>
      match a.phase, a.task with
      | .checking, .agentPolicy grant _ =>
        some (w.put { a with phase := if ok then eligiblePhase w.db grant else .finished .failed })
      | _, _ => none
  | .stage attempt uploadId file ok =>
    if uploadId ∈ w.uploadIds then none
    else
      (w.attempts.get? attempt).bind fun a =>
        if a.phase = .admitted then some (w.stage a uploadId file ok) else none
  | .abandon attempt =>
    (w.attempts.get? attempt).bind fun a =>
      match a.phase, a.task with
      | .staged, .humanEvidence _ _ _ _ =>
        some (w.put { a with phase := .deleting .failed })
      | .staged, .humanPolicy _ _ =>
        some (w.put { a with phase := .deleting .failed })
      | _, _ => none
  | .complete attempt documentId messageId now fault =>
    if (w.db.documents.get? documentId).isSome then none
    else
      (w.attempts.get? attempt).bind fun a =>
        match a.phase, a.staged with
        | .staged, some staged => some (w.complete a staged documentId messageId now fault)
        | _, _ => none
  | .load attempt ok =>
    (w.attempts.get? attempt).bind fun a =>
      (w.loadStep a ok).map fun phase => w.put { a with phase }
  | .reconcile attempt ok =>
    (w.attempts.get? attempt).bind fun a =>
      (w.reconcileStep a ok).map fun phase => w.put { a with phase }
  | .delete attempt ok =>
    (w.attempts.get? attempt).bind fun a =>
      match a.phase, a.staged with
      | .deleting result, some staged => some (w.delete a staged.objectKey result ok)
      | _, _ => none
  | .crash attempt =>
    (w.attempts.get? attempt).bind fun a =>
      match a.phase with
      | .finished _ => none
      | _ => some (w.put { a with phase := .finished .crashed })
  | .scan c metadata messageId commits =>
    some (w.command commits (scanDocument w.db metadata messageId c))
  | .finalize c commits => some (w.command commits (finalizeDocument w.db c))
  | .archive c commits => some (w.command commits (archiveDocument w.db c))
  | .housekeeping change =>
    match change with
    | .issueEvidenceGrant grant =>
      if grant.submissionId ∈ w.submissionIds then none
      else
        (w.db.housekeep change).map fun db =>
          { w with db, submissionIds := grant.submissionId :: w.submissionIds }
    | _ => (w.db.housekeep change).map fun db => { w with db }

end Proofplane
