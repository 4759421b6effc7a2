import Proofplane.Base.Grouping
import Proofplane.Documents.Single
import Proofplane.Finalization.Keys
import Proofplane.Mappings.Controls
import Proofplane.ObjectStorage.Operations

/-!
# What the auditor portal lists

The portal lists the controls and policies of a workspace, and the submissions of a review period with
their documents.  Each list comes from one query with joins; the rows are put together by a loop.  A
document is downloaded by a query of its own, which states the conditions again.

* `PortalDb`                  the tables that the portal reads, with their unique keys;
* `submissionRows`, `controlRows`, `policyRows`   the rows of the three queries, `…Row.rank` their order;
* `submissions`, `controlsFromJoinedRows`, `policiesFromRows`   the loops over the rows;
* `download`, `downloadForWorkspaceWithinPeriod`   the query behind a download, and the download.
-/

namespace Proofplane
open Base

/-! ## Tables -/

/-- the columns of `policies` that only reads look at -/
structure PolicyColumns where
  name : String
  description : Option String
  createdAt : Int
  updatedAt : Int
  deriving DecidableEq, Repr

/-- a row of `controls` with its instants -/
structure StoredControl extends ControlRecord where
  createdAt : Int
  updatedAt : Int
  deriving DecidableEq, Repr

/-- what is read of a row of `frameworks` -/
structure Framework where
  id : FrameworkId
  code : String
  name : String
  deriving DecidableEq, Repr

/-- a row of `framework_requirements` -/
structure FrameworkRequirement where
  id : FrameworkRequirementId
  frameworkId : FrameworkId
  code : String
  title : String
  description : String
  deriving DecidableEq, Repr

/-- a row of `control_framework_requirement_mappings` -/
structure RequirementMapping where
  controlId : ControlId
  frameworkRequirementId : FrameworkRequirementId
  deriving DecidableEq, Repr

/-- a row of `policy_control_mappings` -/
structure PolicyMapping where
  policyId : PolicyId
  controlId : ControlId
  deriving DecidableEq, Repr

structure PortalDb where
  documentDb : DocumentDb
  policyColumns : PolicyId → PolicyColumns
  controls : Table fun c : StoredControl => c.id
  /-- `UNIQUE (workspace_id, code)` -/
  controls_code : ∀ c ∈ controls.rows, ∀ c' ∈ controls.rows,
    c.workspaceId = c'.workspaceId → c.code = c'.code → c.id = c'.id
  frameworks : Table Framework.id
  frameworkRequirements : Table FrameworkRequirement.id
  /-- `framework_id` references `frameworks` -/
  frameworkRequirements_framework : ∀ r ∈ frameworkRequirements.rows,
    (frameworks.get? r.frameworkId).isSome
  requirementMappings : List RequirementMapping
  /-- `PRIMARY KEY (control_id, framework_requirement_id)` -/
  requirementMappings_nodup : requirementMappings.Nodup
  policyMappings : List PolicyMapping
  /-- `PRIMARY KEY (policy_id, control_id)` -/
  policyMappings_nodup : policyMappings.Nodup

/-! ## The order of an answer -/

section
variable {ω : Type} [LinearOrder ω] (collate : String ↪ ω) (lower : String → String)

/-- a column that may be NULL: NULLs come last -/
def nullsLast {α β : Type} (f : α → β) (o : Option α) : WithTop β := o.map f

/-! ## Submissions -/

/-- what is read of a row of `SUBMISSIONS_SQL`; the submission has its submitter, whose connection is never
NULL and is always there -/
structure SubmissionRow where
  submission : EvidenceSubmission
  document : Document
  deriving DecidableEq, Repr

/-- a submission joined to its evidence in the workspace and to its documents -/
def DocumentDb.rowsOfSubmission (db : DocumentDb) (workspaceId : WorkspaceId) (periodStart periodEnd : Int)
    (s : EvidenceSubmission) : List SubmissionRow :=
  (db.getEvidence workspaceId s.evidenceId).toList.flatMap fun e =>
    (db.documents.rows.filter fun d =>
      d.owner = .evidenceSubmission s.id ∧ d.workspaceId = e.workspaceId ∧ d.archived = false ∧
        s.validFrom ≤ pgTimestamp periodEnd ∧ pgTimestamp periodStart ≤ s.validUntil).map fun d => ⟨s, d⟩

/-- the rows of `SUBMISSIONS_SQL` -/
def DocumentDb.submissionRows (db : DocumentDb) (workspaceId : WorkspaceId) (periodStart periodEnd : Int) :
    List SubmissionRow :=
  db.submissions.rows.flatMap (db.rowsOfSubmission workspaceId periodStart periodEnd)

/-- `ORDER BY s.evidence_id, s.received_at DESC, s.id DESC` -/
def SubmissionRow.rank (r : SubmissionRow) : Nat ×ₗ (Intᵒᵈ ×ₗ Natᵒᵈ) :=
  toLex (r.submission.evidenceId.uuid.toNat,
    toLex (OrderDual.toDual r.submission.receivedAt, OrderDual.toDual r.submission.id.uuid.toNat))

structure AuditorPortalDocument where
  documentId : DocumentId
  filename : String
  downloadEligible : Bool
  deriving DecidableEq, Repr

structure AuditorPortalSubmission where
  submission : EvidenceSubmission
  document : AuditorPortalDocument
  deriving DecidableEq, Repr

def SubmissionRow.toSubmission (r : SubmissionRow) : AuditorPortalSubmission where
  submission := r.submission
  document := ⟨r.document.id, r.document.filename, r.document.uploadStatus == .uploaded⟩

/-- the map of `submissions`, from the rows of the answer -/
def submissionsFromRows (rows : List SubmissionRow) : EvidenceId → Option (List AuditorPortalSubmission) :=
  collectRows (fun r => r.submission.evidenceId) SubmissionRow.toSubmission rows

/-! ## Controls -/

/-- what is read of a row of `CONTROL_LIST_SQL` -/
structure ControlListRow where
  control : StoredControl
  requirement : Option FrameworkRequirement
  framework : Option Framework
  deriving DecidableEq, Repr

/-- a control joined to its mappings, and they to their requirements and frameworks -/
def PortalDb.rowsOfControl (p : PortalDb) (c : StoredControl) : List ControlListRow :=
  (leftJoin (p.requirementMappings.filter fun m => m.controlId = c.id)).map fun m =>
    let requirement := m.bind fun m => p.frameworkRequirements.get? m.frameworkRequirementId
    ⟨c, requirement, requirement.bind fun r => p.frameworks.get? r.frameworkId⟩

/-- the rows of `CONTROL_LIST_SQL` -/
def PortalDb.controlRows (p : PortalDb) (workspaceId : WorkspaceId) : List ControlListRow :=
  (p.controls.rows.filter fun c => c.workspaceId = workspaceId).flatMap p.rowsOfControl

/-- `ORDER BY c.code, fr.code` -/
def ControlListRow.rank (r : ControlListRow) : ω ×ₗ WithTop ω :=
  toLex (collate r.control.code, nullsLast (fun q : FrameworkRequirement => collate q.code) r.requirement)

structure FrameworkRequirementDetail where
  id : FrameworkRequirementId
  frameworkId : FrameworkId
  frameworkCode : String
  frameworkName : String
  code : String
  title : String
  description : String
  deriving DecidableEq, Repr

structure ControlDetail where
  id : ControlId
  workspaceId : WorkspaceId
  code : String
  title : String
  description : String
  frameworkRequirements : List FrameworkRequirementDetail
  createdAt : Int
  updatedAt : Int
  deriving DecidableEq, Repr

def controlFromRow (r : ControlListRow) : ControlDetail :=
  ⟨r.control.id, r.control.workspaceId, r.control.code, r.control.title, r.control.description, [],
    r.control.createdAt, r.control.updatedAt⟩

/-- the framework of a requirement is never NULL in a column that is read as text -/
def pushRequirement (control : ControlDetail) (r : ControlListRow) : Except RepositoryError ControlDetail :=
  match r.requirement with
  | none => .ok control
  | some q =>
    match r.framework with
    | none => .error .database
    | some f =>
      .ok { control with
        frameworkRequirements := control.frameworkRequirements ++
          [⟨q.id, q.frameworkId, f.code, f.name, q.code, q.title, q.description⟩] }

def controlsFromJoinedRows (rows : List ControlListRow) : Except RepositoryError (List ControlDetail) :=
  joinRows (fun r : ControlListRow => r.control.id) controlFromRow pushRequirement rows

/-! ## Policies -/

/-- what is read of a row of `POLICIES_SQL` -/
structure PolicyListRow where
  policyId : PolicyId
  columns : PolicyColumns
  document : Option Document
  control : Option StoredControl
  deriving DecidableEq, Repr

/-- a policy joined to its documents, and to its mappings and they to their controls -/
def PortalDb.rowsOfPolicy (p : PortalDb) (q : PolicyItem) : List PolicyListRow :=
  (leftJoin (p.documentDb.documents.rows.filter fun d =>
    d.owner = .policy q.id ∧ d.workspaceId = q.workspaceId ∧ d.archived = false)).flatMap fun d =>
    (leftJoin (p.policyMappings.filter fun m => m.policyId = q.id)).map fun m =>
      ⟨q.id, p.policyColumns q.id, d,
        (m.bind fun m => p.controls.get? m.controlId).filter fun c => c.workspaceId = q.workspaceId⟩

/-- the rows of `POLICIES_SQL` -/
def PortalDb.policyRows (p : PortalDb) (workspaceId : WorkspaceId) : List PolicyListRow :=
  (p.documentDb.policies.rows.filter fun q => q.workspaceId = workspaceId ∧ q.archivedAt = none).flatMap
    p.rowsOfPolicy

/-- `ORDER BY lower(p.name), p.id, lower(c.code), c.id` -/
def PolicyListRow.rank (r : PolicyListRow) : (ω ×ₗ Nat) ×ₗ WithTop (ω ×ₗ Nat) :=
  toLex (toLex (collate (lower r.columns.name), r.policyId.uuid.toNat),
    nullsLast (fun c : StoredControl => toLex (collate (lower c.code), c.id.uuid.toNat)) r.control)

structure ControlSummary where
  id : ControlId
  code : String
  title : String
  description : String
  deriving DecidableEq, Repr

structure AuditorPortalPolicyDocument where
  id : DocumentId
  policyId : PolicyId
  createdByUserId : UserId
  filename : String
  contentType : String
  contentLength : Int
  checksumSha256 : String
  checksumCrc32c : String
  uploadStatus : DocumentUploadStatus
  createdAt : Int
  downloadEligible : Bool
  deriving DecidableEq, Repr

structure AuditorPortalPolicy where
  id : PolicyId
  name : String
  description : Option String
  controls : List ControlSummary
  document : Option AuditorPortalPolicyDocument
  createdAt : Int
  updatedAt : Int
  deriving DecidableEq, Repr

def policyDocument (policyId : PolicyId) (d : Document) : AuditorPortalPolicyDocument :=
  ⟨d.id, policyId, d.createdByUserId, d.filename, d.contentType, d.contentLength, d.checksumSha256,
    d.checksumCrc32c, d.uploadStatus, d.createdAt, d.uploadStatus == .uploaded⟩

/-- a policy with the document of its first row -/
def policyFromRow (r : PolicyListRow) : AuditorPortalPolicy :=
  ⟨r.policyId, r.columns.name, r.columns.description, [], r.document.map (policyDocument r.policyId),
    r.columns.createdAt, r.columns.updatedAt⟩

def pushControl (policy : AuditorPortalPolicy) (r : PolicyListRow) : AuditorPortalPolicy :=
  match r.control with
  | none => policy
  | some c => { policy with controls := policy.controls ++ [⟨c.id, c.code, c.title, c.description⟩] }

def policiesFromRows (rows : List PolicyListRow) : Except RepositoryError (List AuditorPortalPolicy) :=
  joinRows PolicyListRow.policyId policyFromRow (fun policy r => .ok (pushControl policy r)) rows

end

/-! ## Downloads -/

/-- `DOWNLOAD_SQL`, with the period where there is one -/
def DocumentDb.download (db : DocumentDb) (workspaceId : WorkspaceId) (submissionId : EvidenceSubmissionId)
    (documentId : DocumentId) (period : Option (Int × Int)) : Option DocumentDownloadCandidate :=
  ((db.submissions.get? submissionId).bind fun s =>
    (db.getWorkspaceDocument workspaceId documentId (.evidenceSubmission submissionId)).filter fun a =>
      decide (a.archived = false) &&
        match period with
        | none => true
        | some (periodStart, periodEnd) =>
          decide (s.validFrom ≤ pgTimestamp periodEnd) && decide (pgTimestamp periodStart ≤ s.validUntil)).map
    Document.downloadCandidate

def DocumentDb.getDocumentForDownloadWithinPeriod (db : DocumentDb) (workspaceId : WorkspaceId)
    (submissionId : EvidenceSubmissionId) (documentId : DocumentId) (periodStart periodEnd : Int) :
    Option DocumentDownloadCandidate :=
  db.download workspaceId submissionId documentId (some (periodStart, periodEnd))

def validateMetadata (document : Document) (metadata : ObjectMetadata) : Except DownloadError Unit :=
  if document.contentLength < 0 then .error .metadataMismatch
  else if metadata.contentType ≠ document.contentType ∨
      metadata.contentLength ≠ document.contentLength.toNat ∨ metadata.sha256 ≠ document.checksumSha256 then
    .error .metadataMismatch
  else .ok ()

def storageDownloadError : StorageError → DownloadError
  | .notFound => .notFound
  | _ => .internal

/-- `getObject` is the store's answer for a key: an object of type `Object` with its description -/
def DocumentDb.downloadForWorkspaceWithinPeriod {Object : Type} (db : DocumentDb)
    (getObject : String → Except StorageError (ObjectMetadata × Object)) (workspaceId : WorkspaceId)
    (periodStart periodEnd : Int) (submissionId : EvidenceSubmissionId) (documentId : DocumentId) :
    Except DownloadError (Document × ObjectMetadata × Object) :=
  match db.getDocumentForDownloadWithinPeriod workspaceId submissionId documentId periodStart periodEnd with
  | none => .error .notFound
  | some candidate =>
    if candidate.document.uploadStatus ≠ .uploaded then .error .notFound
    else
      match finalizedObjectKey candidate with
      | .error e => .error e
      | .ok key =>
        match getObject key with
        | .error e => .error (storageDownloadError e)
        | .ok (metadata, object) =>
          match validateMetadata candidate.document metadata with
          | .error e => .error e
          | .ok () => .ok (candidate.document, metadata, object)

end Proofplane
