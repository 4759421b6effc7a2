import Proofplane.Authentication.Paseto
import Proofplane.Domain.UploadGrant

/-!
# The claims of an upload credential

The credentials of an agent's uploads and of a person's upload for a policy carry the ids of their grant
as texts, beside a version.  They differ in the ids of what they are for, and in nothing else.

* `GrantClaimKind`            the ids of a kind, their texts, and the version of its claims;
* `GrantClaimKind.new`, `tryFrom`   the claims of a grant, and what they are read as;
* `resolve_issued`            **a credential gives the ids of its grant and the expiry that was told**;
* `resolve_only`              at no instant does it give anything else.
-/

namespace Proofplane
open Base

/-- what the credentials of a kind are for: a target, written as texts -/
structure GrantClaimKind (Target : Type) where
  Texts : Type
  write : Target → Texts
  read : Texts → Option Target
  version : Nat
  read_write : ∀ t, read (write t) = some t

structure GrantClaims (Texts : Type) where
  version : Nat
  grantId : String
  workspaceId : String
  target : Texts
  issuedByUserId : String
  issuedViaAgentConnectionId : String
  deriving DecidableEq, Repr

structure VerifiedGrantClaims (Target : Type) where
  grantId : Uuid
  workspaceId : Uuid
  target : Target
  issuedByUserId : Uuid
  issuedViaAgentConnectionId : Uuid
  expiresAt : Int
  deriving DecidableEq, Repr

namespace GrantClaimKind
variable {Target : Type}

def new (K : GrantClaimKind Target) (grantId workspaceId : Uuid) (target : Target)
    (issuedByUserId issuedViaAgentConnectionId : Uuid) : GrantClaims K.Texts where
  version := K.version
  grantId := grantId.text
  workspaceId := workspaceId.text
  target := K.write target
  issuedByUserId := issuedByUserId.text
  issuedViaAgentConnectionId := issuedViaAgentConnectionId.text

/-- `try_from`: `none` where the claims are invalid -/
def tryFrom (K : GrantClaimKind Target) (token : VerifiedPasetoToken (GrantClaims K.Texts)) :
    Option (VerifiedGrantClaims Target) :=
  if token.claims.version ≠ K.version then none
  else do
    let grantId ← Uuid.parseStr token.claims.grantId
    let issuedByUserId ← Uuid.parseStr token.claims.issuedByUserId
    if grantId ≠ token.tokenId ∨ issuedByUserId ≠ token.subject then none
    else
      let workspaceId ← Uuid.parseStr token.claims.workspaceId
      let target ← K.read token.claims.target
      let issuedViaAgentConnectionId ← Uuid.parseStr token.claims.issuedViaAgentConnectionId
      some ⟨grantId, workspaceId, target, issuedByUserId, issuedViaAgentConnectionId, token.expiresAt⟩

/-- the claims of a grant pass every check -/
theorem tryFrom_new (K : GrantClaimKind Target) (grantId workspaceId : Uuid) (target : Target)
    (user connection : Uuid) (keyId : String) (expiresAt : Int) :
    K.tryFrom ⟨user, grantId, keyId, expiresAt, K.new grantId workspaceId target user connection⟩
      = some ⟨grantId, workspaceId, target, user, connection, expiresAt⟩ := by
  unfold tryFrom new
  simp [Uuid.parseStr_text, K.read_write]

/-! ## Credentials -/

variable {K : GrantClaimKind Target} {implicitAssertion : String} {Key Nonce : Type}

/-- the claims of a credential; why it is refused is not told -/
def resolve (K : GrantClaimKind Target)
    (T : PasetoTokens implicitAssertion (GrantClaims K.Texts) Key Nonce) (credential : String)
    (now : Int) : Option (VerifiedGrantClaims Target) :=
  match T.decrypt credential now with
  | .error _ => none
  | .ok verified => K.tryFrom verified

variable {T : PasetoTokens implicitAssertion (GrantClaims K.Texts) Key Nonce}
  {grantId workspaceId user connection : Uuid} {target : Target} {expiresAt sealedAt now : Int}
  {nonce : Nonce} {issued : IssuedPasetoToken}

/-- **A credential gives the ids of its grant and the expiry that was told, until then.** -/
theorem resolve_issued (hT : T.layer.Faithful)
    (h : T.encrypt ⟨user, grantId, expiresAt⟩ (K.new grantId workspaceId target user connection) nonce
      sealedAt = .ok issued)
    (hfrom : floorSec sealedAt ≤ now) (hto : now < issued.expiresAt) :
    K.resolve T issued.token now
      = some ⟨grantId, workspaceId, target, user, connection, issued.expiresAt⟩ := by
  unfold resolve
  rw [T.decrypt_encrypt hT h hfrom hto]
  exact K.tryFrom_new _ _ _ _ _ _ _

/-- at no instant does a credential give anything else -/
theorem resolve_only (hT : T.layer.Faithful)
    (h : T.encrypt ⟨user, grantId, expiresAt⟩ (K.new grantId workspaceId target user connection) nonce
      sealedAt = .ok issued)
    {v : VerifiedGrantClaims Target} (hv : K.resolve T issued.token now = some v) :
    v = ⟨grantId, workspaceId, target, user, connection, issued.expiresAt⟩ := by
  by_cases hnow : floorSec sealedAt ≤ now ∧ now < issued.expiresAt
  · rw [resolve_issued hT h hnow.1 hnow.2] at hv
    exact (Option.some.inj hv).symm
  · unfold resolve at hv
    rw [T.decrypt_issued hT h, if_neg hnow] at hv
    cases hv

end GrantClaimKind

/-! ## The three kinds -/

def agentEvidenceUploadGrantTokenVersion : Nat := 1
def agentPolicyDocumentUploadGrantTokenVersion : Nat := 1
def policyDocumentUploadGrantTokenVersion : Nat := 1

/-- the texts of an evidence item and of its submission -/
structure EvidenceUploadTexts where
  evidenceId : String
  submissionId : String
  deriving DecidableEq, Repr

def agentEvidenceUploadGrantClaims : GrantClaimKind EvidenceUploadRef where
  Texts := EvidenceUploadTexts
  write t := ⟨t.evidenceId.uuid.text, t.submissionId.uuid.text⟩
  read t := do
    let evidenceId ← Uuid.parseStr t.evidenceId
    let submissionId ← Uuid.parseStr t.submissionId
    some ⟨⟨evidenceId⟩, ⟨submissionId⟩⟩
  version := agentEvidenceUploadGrantTokenVersion
  read_write t := by simp [Uuid.parseStr_text]

/-- claims that name a policy -/
def policyClaims (version : Nat) : GrantClaimKind PolicyId where
  Texts := String
  write p := p.uuid.text
  read t := (Uuid.parseStr t).map Id.mk
  version := version
  read_write p := by simp [Uuid.parseStr_text]

def agentPolicyDocumentUploadGrantClaims : GrantClaimKind PolicyId :=
  policyClaims agentPolicyDocumentUploadGrantTokenVersion

def policyDocumentUploadGrantClaims : GrantClaimKind PolicyId :=
  policyClaims policyDocumentUploadGrantTokenVersion

instance : DecidableEq agentEvidenceUploadGrantClaims.Texts :=
  inferInstanceAs (DecidableEq EvidenceUploadTexts)

instance : DecidableEq agentPolicyDocumentUploadGrantClaims.Texts :=
  inferInstanceAs (DecidableEq String)

instance : DecidableEq policyDocumentUploadGrantClaims.Texts := inferInstanceAs (DecidableEq String)

end Proofplane
