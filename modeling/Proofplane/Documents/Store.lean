import Proofplane.Domain.UploadGrant
import Proofplane.Outbox.Store
import Proofplane.Persistence.Workspaces

/-!
# The tables behind the document commands

Documents with what owns them (evidence submissions, policies), the machine upload grants, and the
messages that the commands append to the outbox.

* `getDocument`, `getWorkspaceDocument`, `lockDocumentUploadEligibility`, …   the reads, as locked;
* `saveSubmission`, `saveDocument`, `saveEvidenceGrant`, `savePolicyGrant`    the upserts of a whole
  snapshot, refused where a constraint of the table is broken;
* `saveDocument_ok`, `saveEvidenceGrant_ok`, …    what a save that is not refused does.

A statement may also fail for reasons that are not in these tables (a lost connection, a foreign key
to a table that is not here); it then fails the whole unit of work, which the callers model.
-/

namespace Proofplane
open Base

/-- what the commands read of a row of `evidence` -/
structure EvidenceItem where
  id : EvidenceId
  workspaceId : WorkspaceId
  deriving DecidableEq, Repr

/-- what the commands read of a row of `policies` -/
structure PolicyItem where
  id : PolicyId
  workspaceId : WorkspaceId
  archivedAt : Option Int
  deriving DecidableEq, Repr

structure DocumentDb where
  evidence : Table EvidenceItem.id
  policies : Table PolicyItem.id
  submissions : Table EvidenceSubmission.id
  documents : Table Document.id
  evidenceGrants : Table (UploadGrant.id (K := agentEvidenceUpload))
  policyGrants : Table (UploadGrant.id (K := agentPolicyDocumentUpload))
  /-- every message appended so far -/
  outbox : List NewOutboxMessage

inductive PolicyDocumentUploadEligibility
  | eligible | currentDocument
  deriving DecidableEq, Repr

/-- the row of a document: its instant in whole microseconds -/
def Document.toRow (d : Document) : Document := { d with createdAt := pgTimestamp d.createdAt }

@[simp] theorem Document.toRow_id (d : Document) : d.toRow.id = d.id := rfl

@[simp] theorem Document.toRow_toRow (d : Document) : d.toRow.toRow = d.toRow := by
  simp [Document.toRow]

namespace DocumentDb

def empty : DocumentDb := ⟨.empty, .empty, .empty, .empty, .empty, .empty, []⟩

/-! ## Reads -/

def getEvidence (db : DocumentDb) (workspaceId : WorkspaceId) (id : EvidenceId) :
    Option EvidenceItem :=
  (db.evidence.get? id).filter fun e => e.workspaceId = workspaceId

/-- the submission, if its evidence item is in the workspace -/
def getSubmission (db : DocumentDb) (workspaceId : WorkspaceId) (id : EvidenceSubmissionId) :
    Option EvidenceSubmission :=
  (db.submissions.get? id).filter fun s => (db.getEvidence workspaceId s.evidenceId).isSome

def submissionExists (db : DocumentDb) (workspaceId : WorkspaceId) (id : EvidenceSubmissionId) :
    Bool :=
  (db.getSubmission workspaceId id).isSome

/-- `WHERE id = … AND owner_type = … AND owner_id = … FOR UPDATE` -/
def getDocument (db : DocumentDb) (id : DocumentId) (owner : DocumentOwner) : Option Document :=
  (db.documents.get? id).filter fun d => d.owner = owner

def getWorkspaceDocument (db : DocumentDb) (workspaceId : WorkspaceId) (id : DocumentId)
    (owner : DocumentOwner) : Option Document :=
  (db.getDocument id owner).filter fun d => d.workspaceId = workspaceId

/-- `none` where there is no such active policy in the workspace -/
def lockDocumentUploadEligibility (db : DocumentDb) (workspaceId : WorkspaceId) (id : PolicyId) :
    Option PolicyDocumentUploadEligibility :=
  ((db.policies.get? id).filter fun p => p.workspaceId = workspaceId ∧ p.archivedAt = none).map
    fun _ =>
      if db.documents.rows.any
          (fun d => d.owner = .policy id ∧ d.workspaceId = workspaceId ∧ d.archived = false) then
        .currentDocument
      else .eligible

/-- a stored grant of the workspace; `inconsistent` is the message where it does not rehydrate -/
def getGrant {K : UploadTarget} (grants : Table (UploadGrant.id (K := K)))
    (inconsistent : String) (id : Id K.idKind) (workspaceId : WorkspaceId) :
    Except RepositoryError (Option (UploadGrant K)) :=
  match (grants.get? id).filter fun g => g.workspaceId = workspaceId with
  | none => .ok none
  | some row =>
    match row.rehydrate with
    | .error _ => .error (.invariantViolation inconsistent)
    | .ok g => .ok (some g)

def getEvidenceGrant (db : DocumentDb) (id : AgentEvidenceUploadGrantId)
    (workspaceId : WorkspaceId) : Except RepositoryError (Option AgentEvidenceUploadGrant) :=
  getGrant db.evidenceGrants "persisted machine upload grant is inconsistent" id workspaceId

def getPolicyGrant (db : DocumentDb) (id : AgentPolicyDocumentUploadGrantId)
    (workspaceId : WorkspaceId) : Except RepositoryError (Option AgentPolicyDocumentUploadGrant) :=
  getGrant db.policyGrants "persisted policy machine upload grant is inconsistent" id workspaceId

/-- the document that a completed grant names, archived or not -/
def getAgentEvidenceUploadDocument (db : DocumentDb) (workspaceId : WorkspaceId)
    (submissionId : EvidenceSubmissionId) (documentId : DocumentId) : Option Document :=
  if db.submissionExists workspaceId submissionId then
    db.getWorkspaceDocument workspaceId documentId (.evidenceSubmission submissionId)
  else none

def getAgentPolicyUploadDocument (db : DocumentDb) (workspaceId : WorkspaceId)
    (policyId : PolicyId) (documentId : DocumentId) : Option Document :=
  if ((db.policies.get? policyId).filter fun p => p.workspaceId = workspaceId).isSome then
    db.getWorkspaceDocument workspaceId documentId (.policy policyId)
  else none

/-! ## Saves -/

def saveSubmission (db : DocumentDb) (s : EvidenceSubmission) : Except RepositoryError DocumentDb :=
  if (db.evidence.get? s.evidenceId).isSome ∧ s.toRow.validFrom ≤ s.toRow.validUntil then
    .ok { db with submissions := db.submissions.upsert s.toRow }
  else .error .database

/-- the unique indexes of `documents`, for a row beside the others -/
def documentConflicts (d other : Document) : Bool :=
  decide (other.id ≠ d.id) &&
    (decide (other.objectKey = d.objectKey) ||
      match d.owner with
      | .evidenceSubmission _ => decide (other.owner = d.owner)
      | .policy _ => decide (other.owner = d.owner) && !d.archived && !other.archived)

def saveDocument (db : DocumentDb) (d : Document) : Except RepositoryError DocumentDb :=
  if d.contentLength < 0 ∨ db.documents.rows.any (documentConflicts d) then .error .database
  else .ok { db with documents := db.documents.upsert d.toRow }

/-- the `CHECK`s of a grant and the key of the document it names -/
def grantRowChecks {K : UploadTarget} (db : DocumentDb) (grants : Table (UploadGrant.id (K := K)))
    (g : UploadGrant K) : Bool :=
  g.valid &&
  match g.documentId with
  | none => true
  | some documentId =>
    (db.documents.get? documentId).isSome &&
    !grants.rows.any fun other => decide (other.id ≠ g.id) && other.documentId == some documentId

def saveEvidenceGrant (db : DocumentDb) (g : AgentEvidenceUploadGrant) :
    Except RepositoryError DocumentDb :=
  if db.grantRowChecks db.evidenceGrants g.toRow ∧ (db.evidence.get? g.evidenceId).isSome ∧
      ¬ db.evidenceGrants.rows.any
        (fun other => decide (other.id ≠ g.id) && decide (other.submissionId = g.submissionId)) then
    .ok { db with evidenceGrants := db.evidenceGrants.upsert g.toRow }
  else .error .database

def savePolicyGrant (db : DocumentDb) (g : AgentPolicyDocumentUploadGrant) :
    Except RepositoryError DocumentDb :=
  if db.grantRowChecks db.policyGrants g.toRow ∧ (db.policies.get? g.policyId).isSome then
    .ok { db with policyGrants := db.policyGrants.upsert g.toRow }
  else .error .database

def appendOutboxMessage (db : DocumentDb) (message : NewOutboxMessage) : DocumentDb :=
  { db with outbox := db.outbox ++ [message] }

/-! ## What a read finds and a save does -/

theorem getDocument_eq_some {db : DocumentDb} {id : DocumentId} {owner : DocumentOwner}
    {d : Document} :
    db.getDocument id owner = some d ↔ d ∈ db.documents.rows ∧ d.id = id ∧ d.owner = owner := by
  unfold getDocument
  rw [Option.filter_eq_some_iff, Table.get?_eq_some_iff, decide_eq_true_eq, and_assoc]

theorem getWorkspaceDocument_eq_some {db : DocumentDb} {workspaceId : WorkspaceId}
    {id : DocumentId} {owner : DocumentOwner} {d : Document} :
    db.getWorkspaceDocument workspaceId id owner = some d ↔
      db.getDocument id owner = some d ∧ d.workspaceId = workspaceId := by
  unfold getWorkspaceDocument
  rw [Option.filter_eq_some_iff, decide_eq_true_eq]

theorem getGrant_ok {K : UploadTarget} {grants : Table (UploadGrant.id (K := K))}
    {inconsistent : String} {id : Id K.idKind} {workspaceId : WorkspaceId} {g : UploadGrant K}
    (h : getGrant grants inconsistent id workspaceId = .ok (some g)) :
    g ∈ grants.rows ∧ g.id = id ∧ g.workspaceId = workspaceId ∧ g.valid = true := by
  unfold getGrant at h
  split at h
  · cases h
  · next row hrow =>
    split at h
    · cases h
    · next g' hg =>
      cases h
      obtain ⟨rfl, hv⟩ := UploadGrant.rehydrate_ok hg
      rw [Option.filter_eq_some_iff, Table.get?_eq_some_iff, decide_eq_true_eq] at hrow
      exact ⟨hrow.1.1, hrow.1.2, hrow.2, hv⟩

theorem getGrant_of_mem {K : UploadTarget} {grants : Table (UploadGrant.id (K := K))}
    (inconsistent : String) {g : UploadGrant K} (hg : g ∈ grants.rows) (hv : g.valid = true) :
    getGrant grants inconsistent g.id g.workspaceId = .ok (some g) := by
  unfold getGrant
  have hget : ((grants.get? g.id).filter fun x => x.workspaceId = g.workspaceId) = some g := by
    rw [Option.filter_eq_some_iff, decide_eq_true_eq]
    exact ⟨Table.get?_of_mem hg, rfl⟩
  rw [hget]
  dsimp only
  rw [UploadGrant.rehydrate_of_valid hv]

theorem saveSubmission_ok {db db' : DocumentDb} {s : EvidenceSubmission}
    (h : db.saveSubmission s = .ok db') :
    db' = { db with submissions := db.submissions.upsert s.toRow } := by
  unfold saveSubmission at h
  split at h
  · cases h
    rfl
  · cases h

theorem saveDocument_ok {db db' : DocumentDb} {d : Document} (h : db.saveDocument d = .ok db') :
    db' = { db with documents := db.documents.upsert d.toRow } ∧
      ∀ other ∈ db.documents.rows, other.id ≠ d.id → other.objectKey ≠ d.objectKey := by
  unfold saveDocument at h
  split at h
  · cases h
  · next hc =>
    cases h
    refine ⟨rfl, ?_⟩
    intro other hother hid hkey
    apply hc
    refine .inr (List.any_eq_true.mpr ⟨other, hother, ?_⟩)
    simp [documentConflicts, hid, hkey]

theorem saveEvidenceGrant_ok {db db' : DocumentDb} {g : AgentEvidenceUploadGrant}
    (h : db.saveEvidenceGrant g = .ok db') :
    db' = { db with evidenceGrants := db.evidenceGrants.upsert g.toRow } ∧
      g.toRow.valid = true := by
  unfold saveEvidenceGrant at h
  split at h
  · next hc =>
    cases h
    refine ⟨rfl, ?_⟩
    have := hc.1
    unfold grantRowChecks at this
    exact (Bool.and_eq_true_iff.mp this).1
  · cases h

theorem savePolicyGrant_ok {db db' : DocumentDb} {g : AgentPolicyDocumentUploadGrant}
    (h : db.savePolicyGrant g = .ok db') :
    db' = { db with policyGrants := db.policyGrants.upsert g.toRow } ∧ g.toRow.valid = true := by
  unfold savePolicyGrant at h
  split at h
  · next hc =>
    cases h
    refine ⟨rfl, ?_⟩
    have := hc.1
    unfold grantRowChecks at this
    exact (Bool.and_eq_true_iff.mp this).1
  · cases h

end DocumentDb

end Proofplane
