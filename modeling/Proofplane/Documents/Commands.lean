import Proofplane.Documents.Store
import Proofplane.Domain.Permission

/-!
# The document commands

Seven commands, each one unit of work: four create a document (for an evidence submission, for a
policy, and the two completions of a machine upload), one records the result of a scan, one the
finalization, one archives.  A handler is a function of the tables at the time its locks are held;
it returns its outcome with the tables to commit, or an error, and then nothing is written.
-/

namespace Proofplane
open Base

structure ExecutionMetadata where
  requestId : Option Uuid
  correlationId : Option Uuid
  causationId : Option Uuid
  deriving DecidableEq, Repr

namespace ExecutionMetadata

def background : ExecutionMetadata := ⟨none, none, none⟩

def forRequest (requestId : Uuid) : ExecutionMetadata := ⟨some requestId, none, none⟩

end ExecutionMetadata

/-! ## Commands and outcomes -/

structure CreateEvidenceSubmissionDocument where
  connection : AgentConnectionContext
  submissionId : EvidenceSubmissionId
  evidenceId : EvidenceId
  coverage : CoverageWindow
  documentId : DocumentId
  document : CreateDocumentPayload
  receivedAt : Int

structure CreatePolicyDocument where
  connection : AgentConnectionContext
  policyId : PolicyId
  documentId : DocumentId
  document : CreateDocumentPayload
  createdAt : Int

structure ArchiveDocument where
  connection : AgentConnectionContext
  identity : DocumentIdentity

inductive ScanDocumentResult
  | clean | malicious | failed
  deriving DecidableEq, Repr

structure ScanDocument where
  identity : DocumentIdentity
  objectKey : String
  result : ScanDocumentResult
  deriving DecidableEq, Repr

structure FinalizeDocument where
  identity : DocumentIdentity
  quarantineObjectKey : String
  finalObjectKey : String
  deriving DecidableEq, Repr

structure CompleteAgentEvidenceUpload where
  grant : AgentEvidenceUploadGrant
  authority : AgentEvidenceUploadAuthority
  stagedSubmissionId : EvidenceSubmissionId
  documentId : DocumentId
  document : CreateDocumentPayload
  completedAt : Int

structure CompleteAgentPolicyDocumentUpload where
  grant : AgentPolicyDocumentUploadGrant
  authority : AgentPolicyDocumentUploadAuthority
  policyId : PolicyId
  documentId : DocumentId
  document : CreateDocumentPayload
  completedAt : Int

inductive CreatedDocument
  | created (document : Document)
  | replayed (document : Document)
  deriving DecidableEq, Repr

inductive CreatePolicyDocumentOutcome
  | created (document : Document)
  | replayed (document : Document)
  | policyUnavailable | currentDocument
  deriving DecidableEq, Repr

inductive ArchiveDocumentOutcome
  | archived | replayed | unavailable | notTerminal
  deriving DecidableEq, Repr

inductive CompleteAgentEvidenceUploadOutcome
  | created (submissionId : EvidenceSubmissionId) (document : Document)
  | replayed (submissionId : EvidenceSubmissionId) (documentId : DocumentId)
  | unavailable
  deriving DecidableEq, Repr

inductive CompleteAgentPolicyDocumentUploadOutcome
  | created (document : Document)
  | replayed (documentId : DocumentId)
  | currentDocument | unavailable
  deriving DecidableEq, Repr

inductive DocumentCommandOutcome
  | applied | ignored | rejected
  deriving DecidableEq, Repr

inductive DocumentCommandError
  | unavailable | invalid
  | repository (e : RepositoryError)
  deriving DecidableEq, Repr

/-! ## Messages -/

def messageBusTopic : String := "proof.message_bus"

def correlationOf (metadata : ExecutionMetadata) : Option Uuid :=
  metadata.correlationId.or metadata.requestId

/-- `messageId` is the random id of the message -/
def messageFor (event : Option DocumentEvent) (metadata : ExecutionMetadata) (messageId : Uuid) :
    Option NewOutboxMessage :=
  event.map fun event =>
    match event with
    | .scanRequested identity objectKey =>
      ⟨messageBusTopic, .newScanDocument identity objectKey (correlationOf metadata)
        metadata.causationId messageId⟩
    | .finalizationRequested identity objectKey =>
      ⟨messageBusTopic, .newFinalizeDocument identity objectKey (correlationOf metadata)
        metadata.causationId messageId⟩

def appendTransitionMessage (db : DocumentDb) (event : Option DocumentEvent)
    (metadata : ExecutionMetadata) (messageId : Uuid) : DocumentDb :=
  match messageFor event metadata messageId with
  | some message => db.appendOutboxMessage message
  | none => db

/-! ## Creation -/

section
variable (db : DocumentDb) (metadata : ExecutionMetadata) (messageId : Uuid)

/-- the end of every creating command: create the document, save it, ask for its scan -/
def insertDocument (identity : DocumentIdentity) (workspaceId : WorkspaceId) (userId : UserId)
    (document : CreateDocumentPayload) (createdAt : Int) (invalid : String) :
    Except RepositoryError (Document × DocumentDb) :=
  match Document.create identity workspaceId userId document createdAt with
  | .error _ => .error (.invariantViolation invalid)
  | .ok (document, transition) =>
    match db.saveDocument document with
    | .error e => .error e
    | .ok db => .ok (document, appendTransitionMessage db transition.event metadata messageId)

/-- the unit of work of `createEvidenceSubmissionDocument`; `none` is unavailable -/
def evidenceSubmissionDocumentWork (command : CreateEvidenceSubmissionDocument) :
    Except RepositoryError (Option CreatedDocument × DocumentDb) :=
  let workspaceId := command.connection.workspaceId
  let submittedBy := EvidenceSubmitter.agentConnection command.connection.connectionId
    command.connection.userId
  if db.getEvidence workspaceId command.evidenceId = none then .ok (none, db)
  else
    match db.getSubmission workspaceId command.submissionId with
    | some existing =>
      if existing.evidenceId ≠ command.evidenceId ∨ existing.coverage ≠ command.coverage ∨
          existing.submittedBy ≠ submittedBy then .ok (none, db)
      else
        .ok ((db.getWorkspaceDocument workspaceId command.documentId
          (.evidenceSubmission command.submissionId)).map .replayed, db)
    | none =>
      match db.saveSubmission (.create command.submissionId command.evidenceId submittedBy
          command.coverage command.receivedAt) with
      | .error e => .error e
      | .ok db =>
        match insertDocument db metadata messageId (.evidence command.submissionId command.documentId)
            workspaceId command.connection.userId command.document command.receivedAt
            "validated document creation is invalid" with
        | .error e => .error e
        | .ok (document, db) => .ok (some (.created document), db)

def createEvidenceSubmissionDocument (command : CreateEvidenceSubmissionDocument) :
    Except DocumentCommandError (CreatedDocument × DocumentDb) :=
  if command.connection.permissions.has .writeEvidenceSubmissions = false then .error .unavailable
  else if command.document.owner ≠ .evidenceSubmission command.submissionId then .error .invalid
  else
    match evidenceSubmissionDocumentWork db metadata messageId command with
    | .error e => .error (.repository e)
    | .ok (none, _) => .error .unavailable
    | .ok (some outcome, db) => .ok (outcome, db)

/-- the unit of work of `createPolicyDocument` -/
def policyDocumentWork (command : CreatePolicyDocument) :
    Except RepositoryError (CreatePolicyDocumentOutcome × DocumentDb) :=
  let workspaceId := command.connection.workspaceId
  match db.getWorkspaceDocument workspaceId command.documentId (.policy command.policyId) with
  | some document => .ok (.replayed document, db)
  | none =>
    match db.lockDocumentUploadEligibility workspaceId command.policyId with
    | some .currentDocument => .ok (.currentDocument, db)
    | none => .ok (.policyUnavailable, db)
    | some .eligible =>
      match insertDocument db metadata messageId (.policy command.policyId command.documentId)
          workspaceId command.connection.userId command.document command.createdAt
          "validated document creation is invalid" with
      | .error e => .error e
      | .ok (document, db) => .ok (.created document, db)

def createPolicyDocument (command : CreatePolicyDocument) :
    Except DocumentCommandError (CreatePolicyDocumentOutcome × DocumentDb) :=
  if command.connection.permissions.has .writeEvidence = false then .error .unavailable
  else if command.document.owner ≠ .policy command.policyId then .error .invalid
  else
    match policyDocumentWork db metadata messageId command with
    | .error e => .error (.repository e)
    | .ok (outcome, db) => .ok (outcome, db)

/-! ## Completion of a machine upload -/

/-- the unit of work of `completeAgentEvidenceUpload`, on the locked grant -/
def completeEvidenceGrant (grant : AgentEvidenceUploadGrant) (workspaceId : WorkspaceId)
    (userId : UserId) (connectionId : AgentConnectionId) (command : CompleteAgentEvidenceUpload) :
    Except RepositoryError (CompleteAgentEvidenceUploadOutcome × DocumentDb) :=
  if grant.matchesAuthority command.authority ≠ .ok () ∨
      grant.validateStagedFile command.document.contentLength command.document.checksumSha256
        ≠ .ok () ∨
      command.stagedSubmissionId ≠ grant.submissionId ∨
      command.document.owner ≠ .evidenceSubmission grant.submissionId then .ok (.unavailable, db)
  else
    match grant.completedDocumentAt command.completedAt with
    | .ok (some documentId) => .ok (.replayed grant.submissionId documentId, db)
    | .error _ => .ok (.unavailable, db)
    | .ok none =>
      if db.getEvidence workspaceId grant.evidenceId = none then .ok (.unavailable, db)
      else if db.submissionExists workspaceId grant.submissionId then .ok (.unavailable, db)
      else
        match db.saveSubmission (.create grant.submissionId grant.evidenceId
            (.agentConnection connectionId userId) grant.coverage command.completedAt) with
        | .error e => .error e
        | .ok db =>
          match insertDocument db metadata messageId
              (.evidence grant.submissionId command.documentId) workspaceId userId
              command.document command.completedAt
              "validated machine evidence document is invalid" with
          | .error e => .error e
          | .ok (document, db) =>
            match grant.complete document.id command.completedAt with
            | .error _ =>
              .error (.invariantViolation "machine upload grant changed during completion")
            | .ok completed =>
              match db.saveEvidenceGrant completed with
              | .error e => .error e
              | .ok db => .ok (.created completed.submissionId document, db)

def completeAgentEvidenceUpload (command : CompleteAgentEvidenceUpload) :
    Except DocumentCommandError (CompleteAgentEvidenceUploadOutcome × DocumentDb) :=
  let workspaceId := command.grant.workspaceId
  match db.getEvidenceGrant command.grant.id workspaceId with
  | .error e => .error (.repository e)
  | .ok none => .ok (.unavailable, db)
  | .ok (some grant) =>
    match completeEvidenceGrant db metadata messageId grant workspaceId command.grant.issuedByUserId
        command.grant.issuedViaAgentConnectionId command with
    | .error e => .error (.repository e)
    | .ok (outcome, db) => .ok (outcome, db)

/-- the unit of work of `completeAgentPolicyDocumentUpload`, on the locked grant -/
def completePolicyGrant (grant : AgentPolicyDocumentUploadGrant) (workspaceId : WorkspaceId)
    (userId : UserId) (command : CompleteAgentPolicyDocumentUpload) :
    Except RepositoryError (CompleteAgentPolicyDocumentUploadOutcome × DocumentDb) :=
  if grant.matchesAuthority command.authority ≠ .ok () ∨
      grant.validateStagedFile command.document.contentLength command.document.checksumSha256
        ≠ .ok () ∨
      command.policyId ≠ grant.policyId ∨
      command.document.owner ≠ .policy grant.policyId then .ok (.unavailable, db)
  else
    match grant.completedDocumentAt command.completedAt with
    | .ok (some documentId) => .ok (.replayed documentId, db)
    | .error _ => .ok (.unavailable, db)
    | .ok none =>
      match db.lockDocumentUploadEligibility workspaceId grant.policyId with
      | some .currentDocument => .ok (.currentDocument, db)
      | none => .ok (.unavailable, db)
      | some .eligible =>
        match insertDocument db metadata messageId (.policy grant.policyId command.documentId)
            workspaceId userId command.document command.completedAt
            "validated machine policy document is invalid" with
        | .error e => .error e
        | .ok (document, db) =>
          match grant.complete document.id command.completedAt with
          | .error _ =>
            .error (.invariantViolation "policy machine upload grant changed during completion")
          | .ok completed =>
            match db.savePolicyGrant completed with
            | .error e => .error e
            | .ok db => .ok (.created document, db)

def completeAgentPolicyDocumentUpload (command : CompleteAgentPolicyDocumentUpload) :
    Except DocumentCommandError (CompleteAgentPolicyDocumentUploadOutcome × DocumentDb) :=
  let workspaceId := command.grant.workspaceId
  match db.getPolicyGrant command.grant.id workspaceId with
  | .error e => .error (.repository e)
  | .ok none => .ok (.unavailable, db)
  | .ok (some grant) =>
    match completePolicyGrant db metadata messageId grant workspaceId command.grant.issuedByUserId
        command with
    | .error e => .error (.repository e)
    | .ok (outcome, db) => .ok (outcome, db)

/-! ## Transitions of a stored document -/

/-- what archiving a document of this owner needs -/
def archivePermission : DocumentOwner → WorkspacePermission
  | .evidenceSubmission _ => .writeEvidenceSubmissions
  | .policy _ => .writeEvidence

def archiveDocument (command : ArchiveDocument) :
    Except DocumentCommandError (ArchiveDocumentOutcome × DocumentDb) :=
  if command.connection.permissions.has (archivePermission command.identity.owner) = false then
    .error .unavailable
  else
    match db.getWorkspaceDocument command.connection.workspaceId command.identity.documentId
        command.identity.owner with
    | none => .ok (.unavailable, db)
    | some document =>
      let (document, transition) := document.archive
      match if transition.changed then db.saveDocument document else .ok db with
      | .error e => .error (.repository e)
      | .ok db =>
        match transition.outcome with
        | .archived => .ok (.archived, db)
        | .ignored => .ok (.replayed, db)
        | .rejected => .ok (.notTerminal, db)
        | _ =>
          .error (.repository (.invariantViolation "archive transition returned an unrelated outcome"))

def outcome : DocumentTransitionOutcome → DocumentCommandOutcome
  | .ignored => .ignored
  | .rejected => .rejected
  | _ => .applied

/-- the transition for the result of a scan -/
def Document.scanned (d : Document) : ScanDocumentResult → Document × DocumentTransition
  | .clean => d.scanClean
  | .malicious => d.scanMalicious
  | .failed => d.scanFailed

def scanDocument (command : ScanDocument) :
    Except DocumentCommandError (DocumentCommandOutcome × DocumentDb) :=
  match db.getDocument command.identity.documentId command.identity.owner with
  | none => .ok (.ignored, db)
  | some document =>
    if document.objectKey ≠ command.objectKey then .ok (.ignored, db)
    else
      let (document, transition) := document.scanned command.result
      if transition.changed then
        match db.saveDocument document with
        | .error e => .error (.repository e)
        | .ok db =>
          .ok (outcome transition.outcome,
            appendTransitionMessage db transition.event metadata messageId)
      else .ok (outcome transition.outcome, db)

def finalizeDocument (command : FinalizeDocument) :
    Except DocumentCommandError (DocumentCommandOutcome × DocumentDb) :=
  match db.getDocument command.identity.documentId command.identity.owner with
  | none => .ok (.ignored, db)
  | some document =>
    if document.objectKey ≠ command.quarantineObjectKey then .ok (.ignored, db)
    else
      let (document, transition) := document.finalizeUploaded command.finalObjectKey
      match if transition.changed then db.saveDocument document else .ok db with
      | .error e => .error (.repository e)
      | .ok db => .ok (outcome transition.outcome, db)

end

end Proofplane
