import Proofplane.Base.Uuid
import Proofplane.Domain.Document
import Proofplane.Domain.EvidenceSubmission

/-!
# Machine upload grants

An agent is granted one upload of one declared file, for an evidence submission or for a policy.
The two kinds of grants differ in what they are granted for, and in nothing else: `UploadGrant` is
both of them, over the id and the target of a kind.

* `UploadTarget`             what a kind of grant is for, and what of it an authority names;
* `UploadGrant.issue`, `matchesAuthority`, `completedDocumentAt`, `complete`   the operations;
* `UploadGrant.rehydrate`    a stored grant, refused where its instants do not fit;
* `complete_cases`           all that a completion can do.
-/

namespace Proofplane
open Base

/-- 64 lower-case hexadecimal digits -/
def Sha256Digest.hexEncode (d : Sha256Digest) : String :=
  String.ofList ((Uuid.nibbles 64 d.bits.toNat).map Uuid.hexDigit)

/-! ## The declared file -/

/-- the file that a grant was issued for -/
structure DeclaredUploadFile where
  filename : String
  contentType : String
  expectedContentLength : Nat
  expectedSha256 : Option Sha256Digest
  deriving DecidableEq, Repr

inductive DeclaredUploadFileError
  | invalidRehydration
  | contentTypeMismatch | declaredContentLengthMismatch | receivedContentLengthMismatch
  | checksumMismatch
  deriving DecidableEq, Repr

namespace DeclaredUploadFile

def validateDeclared (f : DeclaredUploadFile) (contentType : String) (contentLength : Nat) :
    Except DeclaredUploadFileError Unit :=
  if contentType ≠ f.contentType then .error .contentTypeMismatch
  else if contentLength ≠ f.expectedContentLength then .error .declaredContentLengthMismatch
  else .ok ()

def validateStaged (f : DeclaredUploadFile) (contentLength : Int) (checksumSha256 : String) :
    Except DeclaredUploadFileError Unit :=
  if contentLength < 0 then .error .receivedContentLengthMismatch
  else if contentLength.toNat ≠ f.expectedContentLength then .error .receivedContentLengthMismatch
  else
    match f.expectedSha256 with
    | some expected =>
      if expected.hexEncode ≠ checksumSha256 then .error .checksumMismatch else .ok ()
    | none => .ok ()

/-- what was received is what was declared -/
def Received (f : DeclaredUploadFile) (contentLength : Int) (checksumSha256 : String) : Prop :=
  contentLength = f.expectedContentLength ∧
    ∀ expected, f.expectedSha256 = some expected → checksumSha256 = expected.hexEncode

theorem validateStaged_ok {f : DeclaredUploadFile} {contentLength : Int} {checksum : String} :
    f.validateStaged contentLength checksum = .ok () ↔ f.Received contentLength checksum := by
  unfold validateStaged Received
  by_cases hneg : contentLength < 0
  · rw [if_pos hneg]
    constructor
    · intro h
      cases h
    · rintro ⟨hl, _⟩
      omega
  · rw [if_neg hneg]
    by_cases hl : contentLength.toNat = f.expectedContentLength
    · rw [if_neg (not_not.mpr hl)]
      have hlen : contentLength = f.expectedContentLength := by omega
      cases hs : f.expectedSha256 with
      | none => simp [hlen]
      | some expected =>
        dsimp only
        by_cases hc : expected.hexEncode = checksum
        · simp [hlen, hc]
        · rw [if_pos hc]
          constructor
          · intro h
            cases h
          · rintro ⟨_, h⟩
            exact absurd (h expected rfl).symm hc
    · rw [if_pos hl]
      constructor
      · intro h
        cases h
      · rintro ⟨h, _⟩
        omega

end DeclaredUploadFile

/-! ## Grants -/

/-- what a kind of grant is for (`Target`), what of it a credential names (`Ref`), what owns the
document, the target as the database keeps it, and the check on the target of a stored grant -/
structure UploadTarget where
  idKind : IdKind
  Target : Type
  Ref : Type
  ref : Target → Ref
  owner : Target → DocumentOwner
  toRow : Target → Target
  valid : Target → Bool
  ref_toRow : ∀ t, ref (toRow t) = ref t
  owner_toRow : ∀ t, owner (toRow t) = owner t
  toRow_toRow : ∀ t, toRow (toRow t) = toRow t

inductive UploadGrantLifecycle
  | pending
  | completed (documentId : DocumentId) (completedAt : Int)
  deriving DecidableEq, Repr

structure UploadAuthority (K : UploadTarget) where
  uploadId : Id K.idKind
  workspaceId : WorkspaceId
  ref : K.Ref
  issuedByUserId : UserId
  issuedViaAgentConnectionId : AgentConnectionId
  expiresAt : Int

structure UploadGrant (K : UploadTarget) where
  id : Id K.idKind
  workspaceId : WorkspaceId
  target : K.Target
  declaration : DeclaredUploadFile
  issuedByUserId : UserId
  issuedViaAgentConnectionId : AgentConnectionId
  issuedAt : Int
  expiresAt : Int
  lifecycle : UploadGrantLifecycle

inductive UploadGrantError
  | invalidIssuance | invalidRehydration | authorityMismatch | expired | alreadyCompleted
  | invalidCompletion
  | file (e : DeclaredUploadFileError)
  deriving DecidableEq, Repr

namespace UploadGrant
variable {K : UploadTarget}

/-- the authority that a credential of this grant carries -/
def authority (g : UploadGrant K) : UploadAuthority K where
  uploadId := g.id
  workspaceId := g.workspaceId
  ref := K.ref g.target
  issuedByUserId := g.issuedByUserId
  issuedViaAgentConnectionId := g.issuedViaAgentConnectionId
  expiresAt := g.expiresAt

def issue (id : Id K.idKind) (workspaceId : WorkspaceId) (target : K.Target)
    (declaration : DeclaredUploadFile) (issuedByUserId : UserId)
    (issuedViaAgentConnectionId : AgentConnectionId) (issuedAt expiresAt : Int) :
    Except UploadGrantError (UploadGrant K) :=
  if expiresAt ≤ issuedAt then .error .invalidIssuance
  else
    .ok
      { id, workspaceId, target, declaration, issuedByUserId, issuedViaAgentConnectionId
        issuedAt, expiresAt
        lifecycle := .pending }

def documentId (g : UploadGrant K) : Option DocumentId :=
  match g.lifecycle with
  | .pending => none
  | .completed documentId _ => some documentId

/-- the instants of a grant fit together -/
def valid (g : UploadGrant K) : Bool :=
  K.valid g.target && decide (g.issuedAt < g.expiresAt) &&
  match g.lifecycle with
  | .pending => true
  | .completed _ completedAt =>
    decide (g.issuedAt ≤ completedAt) && decide (completedAt < g.expiresAt)

def rehydrate (row : UploadGrant K) : Except UploadGrantError (UploadGrant K) :=
  if row.valid then .ok row else .error .invalidRehydration

def matchesAuthority [DecidableEq K.Ref] (g : UploadGrant K) (authority : UploadAuthority K) :
    Except UploadGrantError Unit :=
  if g.id = authority.uploadId ∧ g.workspaceId = authority.workspaceId ∧
      K.ref g.target = authority.ref ∧ g.issuedByUserId = authority.issuedByUserId ∧
      g.issuedViaAgentConnectionId = authority.issuedViaAgentConnectionId ∧
      g.expiresAt = authority.expiresAt then .ok ()
  else .error .authorityMismatch

def completedDocumentAt (g : UploadGrant K) (now : Int) :
    Except UploadGrantError (Option DocumentId) :=
  if g.expiresAt ≤ now then .error .expired else .ok g.documentId

def ensurePendingAt (g : UploadGrant K) (now : Int) : Except UploadGrantError Unit :=
  match g.completedDocumentAt now with
  | .error e => .error e
  | .ok (some _) => .error .alreadyCompleted
  | .ok none => .ok ()

def validateDeclaredFile (g : UploadGrant K) (contentType : String) (contentLength : Nat) :
    Except UploadGrantError Unit :=
  (g.declaration.validateDeclared contentType contentLength).mapError .file

def validateStagedFile (g : UploadGrant K) (contentLength : Int) (checksumSha256 : String) :
    Except UploadGrantError Unit :=
  (g.declaration.validateStaged contentLength checksumSha256).mapError .file

def complete (g : UploadGrant K) (documentId : DocumentId) (completedAt : Int) :
    Except UploadGrantError (UploadGrant K) :=
  match g.ensurePendingAt completedAt with
  | .error e => .error e
  | .ok () =>
    if completedAt < g.issuedAt then .error .invalidCompletion
    else .ok { g with lifecycle := .completed documentId completedAt }

/-- the row of a grant: every instant in whole microseconds -/
def toRow (g : UploadGrant K) : UploadGrant K :=
  { g with
    target := K.toRow g.target
    issuedAt := pgTimestamp g.issuedAt
    expiresAt := pgTimestamp g.expiresAt
    lifecycle :=
      match g.lifecycle with
      | .pending => .pending
      | .completed documentId completedAt => .completed documentId (pgTimestamp completedAt) }

/-! ## What the operations do -/

theorem matchesAuthority_ok [DecidableEq K.Ref] {g : UploadGrant K} {a : UploadAuthority K} :
    g.matchesAuthority a = .ok () ↔ a = g.authority := by
  unfold matchesAuthority
  constructor
  · intro h
    split at h
    · next hm =>
      obtain ⟨h1, h2, h3, h4, h5, h6⟩ := hm
      cases a
      simp only at h1 h2 h3 h4 h5 h6
      subst h1 h2 h4 h5 h6
      rw [← h3]
      rfl
    · cases h
  · rintro rfl
    rw [if_pos ⟨rfl, rfl, rfl, rfl, rfl, rfl⟩]

theorem validateStagedFile_ok {g : UploadGrant K} {contentLength : Int} {checksum : String} :
    g.validateStagedFile contentLength checksum = .ok () ↔
      g.declaration.Received contentLength checksum := by
  rw [← DeclaredUploadFile.validateStaged_ok]
  unfold validateStagedFile
  cases g.declaration.validateStaged contentLength checksum with
  | error e => simp [Except.mapError]
  | ok u => simp [Except.mapError]

theorem completedDocumentAt_ok {g : UploadGrant K} {now : Int} {d : Option DocumentId} :
    g.completedDocumentAt now = .ok d ↔ now < g.expiresAt ∧ g.documentId = d := by
  unfold completedDocumentAt
  split
  · next h =>
    constructor
    · intro hc
      cases hc
    · rintro ⟨hlt, _⟩
      omega
  · next h =>
    constructor
    · intro hc
      cases hc
      exact ⟨by omega, rfl⟩
    · rintro ⟨_, rfl⟩
      rfl

theorem complete_ok {g g' : UploadGrant K} {documentId : DocumentId} {completedAt : Int}
    (h : g.complete documentId completedAt = .ok g') :
    g.documentId = none ∧ g.issuedAt ≤ completedAt ∧ completedAt < g.expiresAt ∧
      g' = { g with lifecycle := .completed documentId completedAt } := by
  unfold complete at h
  split at h
  · cases h
  · next hp =>
    unfold ensurePendingAt at hp
    split at hp
    · cases hp
    · cases hp
    · next hc =>
      obtain ⟨hlt, hnone⟩ := completedDocumentAt_ok.mp hc
      split at h
      · cases h
      · next hi =>
        cases h
        exact ⟨hnone, by omega, hlt, rfl⟩

theorem rehydrate_ok {row g : UploadGrant K} (h : rehydrate row = .ok g) :
    g = row ∧ row.valid = true := by
  unfold rehydrate at h
  split at h
  · next hv =>
    cases h
    exact ⟨rfl, hv⟩
  · cases h

theorem rehydrate_of_valid {row : UploadGrant K} (h : row.valid = true) : rehydrate row = .ok row := by
  unfold rehydrate
  rw [if_pos h]

end UploadGrant

/-! ## The two kinds -/

structure EvidenceUploadTarget where
  submissionId : EvidenceSubmissionId
  evidenceId : EvidenceId
  coverage : CoverageWindow
  deriving DecidableEq, Repr

structure EvidenceUploadRef where
  evidenceId : EvidenceId
  submissionId : EvidenceSubmissionId
  deriving DecidableEq, Repr

/-- an agent's upload of the document of one evidence submission -/
def agentEvidenceUpload : UploadTarget where
  idKind := .agentEvidenceUploadGrant
  Target := EvidenceUploadTarget
  Ref := EvidenceUploadRef
  ref := fun t => ⟨t.evidenceId, t.submissionId⟩
  owner := fun t => .evidenceSubmission t.submissionId
  toRow := fun t => { t with coverage := t.coverage.toRow }
  valid := fun t => decide (t.coverage.validFrom ≤ t.coverage.validUntil)
  ref_toRow := fun _ => rfl
  owner_toRow := fun _ => rfl
  toRow_toRow := fun t => by simp [CoverageWindow.toRow]

theorem policyOwner_eq (p : PolicyId) : DocumentOwner.policy p = .policy p := rfl

/-- an agent's upload of the document of a policy -/
def agentPolicyDocumentUpload : UploadTarget where
  idKind := .agentPolicyDocumentUploadGrant
  Target := PolicyId
  Ref := PolicyId
  ref := fun p => p
  owner := fun p => .policy p
  toRow := fun p => p
  valid := fun _ => true
  ref_toRow := fun _ => rfl
  owner_toRow := policyOwner_eq
  toRow_toRow := fun _ => rfl

instance : DecidableEq agentEvidenceUpload.Ref := inferInstanceAs (DecidableEq EvidenceUploadRef)

instance : DecidableEq agentPolicyDocumentUpload.Ref := inferInstanceAs (DecidableEq PolicyId)

abbrev AgentEvidenceUploadGrant := UploadGrant agentEvidenceUpload
abbrev AgentEvidenceUploadAuthority := UploadAuthority agentEvidenceUpload
abbrev AgentPolicyDocumentUploadGrant := UploadGrant agentPolicyDocumentUpload
abbrev AgentPolicyDocumentUploadAuthority := UploadAuthority agentPolicyDocumentUpload

namespace UploadGrant

def submissionId (g : AgentEvidenceUploadGrant) : EvidenceSubmissionId :=
  EvidenceUploadTarget.submissionId g.target

def evidenceId (g : AgentEvidenceUploadGrant) : EvidenceId := EvidenceUploadTarget.evidenceId g.target

def coverage (g : AgentEvidenceUploadGrant) : CoverageWindow := EvidenceUploadTarget.coverage g.target

def policyId (g : AgentPolicyDocumentUploadGrant) : PolicyId := g.target

end UploadGrant

end Proofplane
