import Proofplane.Base.RowLocks
import Proofplane.Base.Run
import Proofplane.Documents.Moves

/-!
# Policies and their documents, statement by statement

The units of work that touch a policy or its document, as the database runs them: each statement sees
what was committed before it, and a statement that locks a row waits for whoever holds it.  Nothing that a
unit of work writes is seen before its commit, so its writes and its commit are one step; a unit of work
may also end without one.

* `ArchivePolicy`, `PolicyUpload`, `DocumentChange`   the units of work;
* `PolicyPoint`          where a unit of work is, with what it has read;
* `PolicyPoint.locks`    the rows that it holds there;
* `policyStep`           **one statement, or one commit**.
-/

namespace Proofplane
open Base

structure ArchivePolicy where
  connection : AgentConnectionContext
  policyId : PolicyId

/-- an upload that creates the document of a policy; that of an agent has locked its grant -/
inductive PolicyUpload
  | human (command : CreatePolicyDocument)
  | agent (command : CompleteAgentPolicyDocumentUpload) (grant : AgentPolicyDocumentUploadGrant)

/-- the commands that lock a document and change it -/
inductive DocumentChange
  | scan (command : ScanDocument)
  | finalize (command : FinalizeDocument)
  | archive (command : ArchiveDocument)

/-- the statuses of an upload that goes on -/
def DocumentUploadStatus.inProgress : DocumentUploadStatus → Bool
  | .pendingUpload => true
  | .finalizing => true
  | _ => false

namespace DocumentDb

/-- the row of a policy, as `get` locks it -/
def findPolicy (db : DocumentDb) (workspaceId : WorkspaceId) (id : PolicyId) : Option PolicyItem :=
  (db.policies.get? id).filter fun p => p.workspaceId = workspaceId

/-- the row of an active policy, as the first statement of `lock_document_upload_eligibility` locks it -/
def findActivePolicy (db : DocumentDb) (workspaceId : WorkspaceId) (id : PolicyId) :
    Option PolicyItem :=
  (db.policies.get? id).filter fun p => p.workspaceId = workspaceId ∧ p.archivedAt = none

/-- `document_in_progress`, which locks nothing -/
def documentInProgress (db : DocumentDb) (workspaceId : WorkspaceId) (id : PolicyId) : Bool :=
  db.documents.rows.any fun d =>
    d.owner = .policy id ∧ d.workspaceId = workspaceId ∧ d.archived = false ∧
      d.uploadStatus.inProgress = true

/-- the second statement of `lock_document_upload_eligibility`, which locks nothing -/
def hasCurrentDocument (db : DocumentDb) (workspaceId : WorkspaceId) (id : PolicyId) : Bool :=
  db.documents.rows.any fun d =>
    d.owner = .policy id ∧ d.workspaceId = workspaceId ∧ d.archived = false

end DocumentDb

/-! ## Units of work -/

namespace PolicyUpload

def policyId : PolicyUpload → PolicyId
  | human command => command.policyId
  | agent _ grant => grant.policyId

def workspaceId : PolicyUpload → WorkspaceId
  | human command => command.connection.workspaceId
  | agent command _ => command.grant.workspaceId

def documentId : PolicyUpload → DocumentId
  | human command => command.documentId
  | agent command _ => command.documentId

/-- the last statements: the document, its message, and the grant of an agent -/
def commit (db : DocumentDb) (metadata : ExecutionMetadata) (messageId : Uuid) :
    PolicyUpload → Except RepositoryError DocumentDb
  | human command =>
    match insertDocument db metadata messageId (.policy command.policyId command.documentId)
        command.connection.workspaceId command.connection.userId command.document command.createdAt
        "validated document creation is invalid" with
    | .error e => .error e
    | .ok (_, db) => .ok db
  | agent command grant =>
    match insertDocument db metadata messageId (.policy grant.policyId command.documentId)
        command.grant.workspaceId command.grant.issuedByUserId command.document command.completedAt
        "validated machine policy document is invalid" with
    | .error e => .error e
    | .ok (document, db) =>
      match grant.complete document.id command.completedAt with
      | .error _ =>
        .error (.invariantViolation "policy machine upload grant changed during completion")
      | .ok completed => db.savePolicyGrant completed

end PolicyUpload

namespace DocumentChange

/-- the document that the command locks -/
def find (db : DocumentDb) : DocumentChange → Option Document
  | scan command => db.getDocument command.identity.documentId command.identity.owner
  | finalize command => db.getDocument command.identity.documentId command.identity.owner
  | archive command =>
    db.getWorkspaceDocument command.connection.workspaceId command.identity.documentId
      command.identity.owner

def permitted : DocumentChange → Bool
  | scan _ => true
  | finalize _ => true
  | archive command => command.connection.permissions.has (archivePermission command.identity.owner)

/-- the last statements, on the document that was locked -/
def commit (db : DocumentDb) (metadata : ExecutionMetadata) (messageId : Uuid) (document : Document) :
    DocumentChange → Except RepositoryError DocumentDb
  | scan command =>
    if document.objectKey ≠ command.objectKey then .ok db
    else
      let (document, transition) := document.scanned command.result
      if transition.changed then
        match db.saveDocument document with
        | .error e => .error e
        | .ok db => .ok (appendTransitionMessage db transition.event metadata messageId)
      else .ok db
  | finalize command =>
    if document.objectKey ≠ command.quarantineObjectKey then .ok db
    else
      let (document, transition) := document.finalizeUploaded command.finalObjectKey
      if transition.changed then db.saveDocument document else .ok db
  | archive _ =>
    let (document, transition) := document.archive
    if transition.changed then db.saveDocument document else .ok db

end DocumentChange

/-! ## Points and locks -/

inductive PolicyPoint
  /-- the policy is locked and active; the documents in progress are read next -/
  | archiving (command : ArchivePolicy) (policy : PolicyItem)
  /-- none is in progress; the policy is archived next -/
  | archivable (command : ArchivePolicy) (policy : PolicyItem)
  /-- the policy is locked next -/
  | uploading (upload : PolicyUpload)
  /-- the policy is locked and active; its current document is read next -/
  | eligible (upload : PolicyUpload) (policy : PolicyItem)
  /-- there is none; the document is inserted next -/
  | inserting (upload : PolicyUpload) (policy : PolicyItem)
  /-- the document is locked; it is changed next -/
  | changing (change : DocumentChange) (document : Document)

inductive PolicyRow
  | policy (id : PolicyId)
  | document (id : DocumentId)
  | grant (id : AgentPolicyDocumentUploadGrantId)
  deriving DecidableEq, Repr

/-- the grant that an upload holds -/
def PolicyUpload.locks : PolicyUpload → List PolicyRow
  | .human _ => []
  | .agent _ grant => [.grant grant.id]

def PolicyPoint.locks : PolicyPoint → List PolicyRow
  | .archiving _ policy => [.policy policy.id]
  | .archivable _ policy => [.policy policy.id]
  | .uploading upload => upload.locks
  | .eligible upload policy => .policy policy.id :: upload.locks
  | .inserting upload policy => .policy policy.id :: upload.locks
  | .changing _ document => [.document document.id]

structure PolicyWorld where
  db : DocumentDb
  txs : Transactions PolicyPoint

inductive PolicyEvent
  | createPolicy (policy : PolicyItem)
  /-- a machine upload grant is issued -/
  | issueGrant (grant : AgentPolicyDocumentUploadGrant)
  /-- a document of a submission is created -/
  | createEvidenceDocument (document : Document)
  | archivePolicy (tx : Nat) (command : ArchivePolicy)
  | createPolicyDocument (tx : Nat) (command : CreatePolicyDocument)
  | completeAgentUpload (tx : Nat) (command : CompleteAgentPolicyDocumentUpload)
  | changeDocument (tx : Nat) (change : DocumentChange)
  | lockPolicy (tx : Nat)
  | readDocuments (tx : Nat)
  | commit (tx : Nat) (now : Int) (metadata : ExecutionMetadata) (messageId : Uuid)
  | rollback (tx : Nat)

namespace PolicyWorld

def empty : PolicyWorld := ⟨.empty, .empty⟩

/-- a unit of work begins, or goes on to the rows that it locks, if nobody else holds them -/
def moves (w : PolicyWorld) (tx : Nat) (point : PolicyPoint) : Option PolicyWorld :=
  if ∀ row ∈ point.locks, Transactions.Free PolicyPoint.locks w.txs tx row then
    some { w with txs := w.txs.moves tx point }
  else none

/-- a unit of work ends and leaves nothing -/
def ends (w : PolicyWorld) (tx : Nat) : PolicyWorld := { w with txs := w.txs.ends tx }

/-- a commit, or the failure of its last statements -/
def commits (w : PolicyWorld) (tx : Nat) (r : Except RepositoryError DocumentDb) : PolicyWorld :=
  match r with
  | .error _ => w.ends tx
  | .ok db => { db, txs := w.txs.ends tx }

/-- the first statement of an archive, which answers where there is no active policy -/
def archivePolicyStep (w : PolicyWorld) (tx : Nat) (command : ArchivePolicy) : Option PolicyWorld :=
  if command.connection.permissions.has .writeControls = false then some w
  else
    match w.db.findPolicy command.connection.workspaceId command.policyId with
    | none => some w
    | some policy =>
      if policy.archivedAt.isSome then
        if Transactions.Free PolicyPoint.locks w.txs tx (.policy policy.id) then some w else none
      else w.moves tx (.archiving command policy)

/-- the first statement of a human upload, which answers with the document if it is there -/
def createPolicyDocumentStep (w : PolicyWorld) (tx : Nat) (command : CreatePolicyDocument) :
    Option PolicyWorld :=
  if command.connection.permissions.has .writeEvidence = false then some w
  else if command.document.owner ≠ .policy command.policyId then some w
  else
    match w.db.getWorkspaceDocument command.connection.workspaceId command.documentId
        (.policy command.policyId) with
    | some document =>
      if Transactions.Free PolicyPoint.locks w.txs tx (.document document.id) then some w else none
    | none => w.moves tx (.uploading (.human command))

/-- the first statement of a completion, with the checks on the grant that it locks -/
def completeAgentUploadStep (w : PolicyWorld) (tx : Nat)
    (command : CompleteAgentPolicyDocumentUpload) : Option PolicyWorld :=
  match w.db.getPolicyGrant command.grant.id command.grant.workspaceId with
  | .error _ => some w
  | .ok none => some w
  | .ok (some grant) =>
    if Transactions.Free PolicyPoint.locks w.txs tx (.grant grant.id) then
      if grant.matchesAuthority command.authority ≠ .ok () ∨
          grant.validateStagedFile command.document.contentLength command.document.checksumSha256
            ≠ .ok () ∨
          command.policyId ≠ grant.policyId ∨ command.document.owner ≠ .policy grant.policyId then
        some w
      else
        match grant.completedDocumentAt command.completedAt with
        | .ok (some _) => some w
        | .error _ => some w
        | .ok none => w.moves tx (.uploading (.agent command grant))
    else none

def changeDocumentStep (w : PolicyWorld) (tx : Nat) (change : DocumentChange) : Option PolicyWorld :=
  if change.permitted = false then some w
  else
    match change.find w.db with
    | none => some w
    | some document => w.moves tx (.changing change document)

/-- the statement that locks the policy of an upload -/
def lockPolicyStep (w : PolicyWorld) (tx : Nat) (upload : PolicyUpload) : Option PolicyWorld :=
  match w.db.findActivePolicy upload.workspaceId upload.policyId with
  | none => some (w.ends tx)
  | some policy => w.moves tx (.eligible upload policy)

/-- the statements that read the documents of a locked policy -/
def readDocumentsStep (w : PolicyWorld) (tx : Nat) : PolicyPoint → Option PolicyWorld
  | .archiving command policy =>
    if w.db.documentInProgress command.connection.workspaceId command.policyId then some (w.ends tx)
    else w.moves tx (.archivable command policy)
  | .eligible upload policy =>
    if w.db.hasCurrentDocument upload.workspaceId upload.policyId then some (w.ends tx)
    else w.moves tx (.inserting upload policy)
  | _ => none

def commitStep (w : PolicyWorld) (tx : Nat) (now : Int) (metadata : ExecutionMetadata)
    (messageId : Uuid) : PolicyPoint → Option PolicyWorld
  | .archivable _ policy =>
    some (w.commits tx (.ok { w.db with
      policies := w.db.policies.upsert { policy with archivedAt := some (pgTimestamp now) } }))
  | .inserting upload _ =>
    -- an upsert waits for whoever holds a row of this id
    if Transactions.Free PolicyPoint.locks w.txs tx (.document upload.documentId) then
      some (w.commits tx (upload.commit w.db metadata messageId))
    else none
  | .changing change document => some (w.commits tx (change.commit w.db metadata messageId document))
  | _ => none

end PolicyWorld

/-- one statement or one commit; a transaction has an id of its own, and a random id is new -/
def policyStep (w : PolicyWorld) : PolicyEvent → Option PolicyWorld
  | .createPolicy policy =>
    if (w.db.policies.get? policy.id).isSome ∨ policy.archivedAt ≠ none then none
    else some { w with db := { w.db with policies := w.db.policies.upsert policy } }
  | .issueGrant grant =>
    if (w.db.policyGrants.get? grant.id).isSome then none
    else
      match w.db.savePolicyGrant grant with
      | .error _ => some w
      | .ok db => some { w with db }
  | .createEvidenceDocument document =>
    match document.owner with
    | .policy _ => none
    | .evidenceSubmission _ =>
      if (w.db.documents.get? document.id).isSome then none
      else
        match w.db.saveDocument document with
        | .error _ => some w
        | .ok db => some { w with db }
  | .archivePolicy tx command =>
    if (w.txs.get? tx).isSome then none else w.archivePolicyStep tx command
  | .createPolicyDocument tx command =>
    if (w.txs.get? tx).isSome then none else w.createPolicyDocumentStep tx command
  | .completeAgentUpload tx command =>
    if (w.txs.get? tx).isSome then none else w.completeAgentUploadStep tx command
  | .changeDocument tx change =>
    if (w.txs.get? tx).isSome then none else w.changeDocumentStep tx change
  | .lockPolicy tx =>
    match w.txs.point tx with
    | some (.uploading upload) => w.lockPolicyStep tx upload
    | _ => none
  | .readDocuments tx => (w.txs.point tx).bind (w.readDocumentsStep tx)
  | .commit tx now metadata messageId =>
    (w.txs.point tx).bind (w.commitStep tx now metadata messageId)
  | .rollback tx => if (w.txs.get? tx).isSome then some (w.ends tx) else none

end Proofplane
