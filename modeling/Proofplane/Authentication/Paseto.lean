import Proofplane.Base.Text
import Proofplane.Base.Time
import Proofplane.Base.Token
import Proofplane.Base.Uuid

/-!
# Tokens for one purpose

Every purpose has an encryptor and a decryptor of its own, which differ in their custom claims and in
the implicit assertion, and in nothing else.  The registered instants are RFC 3339 texts without a
fraction in the source and the whole seconds that these texts denote here, and a payload that does not
parse does not open.

* `TokenPurpose`       the eight purposes and their implicit assertions, no two of them the same;
* `PasetoTokens`       the keys, issuer and audience of one purpose;
* `encrypt`, `decrypt`   sealing and checking a token;
* `decrypt_issued`     when an issued token opens, and to what: **until it expires, to what was sealed
                       in it** (`decrypt_encrypt`).
-/

namespace Proofplane
open Base

/-! ## Purposes -/

def downloadImplicitAssertion : String := "proofplane:document-download:v1"
def uploadGrantImplicitAssertion : String := "proofplane:document-upload-grant:v1"
def agentEvidenceUploadGrantImplicitAssertion : String := "proofplane:agent-evidence-upload-grant:v1"
def agentPolicyDocumentUploadGrantImplicitAssertion : String :=
  "proofplane:agent-policy-document-upload-grant:v1"
def uploadSessionImplicitAssertion : String := "proofplane:document-upload-session:v1"
def policyUploadGrantImplicitAssertion : String := "proofplane:policy-document-upload-grant:v1"
def policyUploadSessionImplicitAssertion : String := "proofplane:policy-document-upload-session:v1"
def mcpOAuthImplicitAssertion : String := "proofplane:mcp-oauth-access:v1"

/-- what a token is for: each purpose has an encryptor and a decryptor -/
inductive TokenPurpose
  | downloadGrant | uploadGrant | agentEvidenceUploadGrant | agentPolicyDocumentUploadGrant
  | uploadSession | policyUploadGrant | policyUploadSession | mcpOAuth
  deriving DecidableEq, Repr

def TokenPurpose.implicitAssertion : TokenPurpose → String
  | .downloadGrant => downloadImplicitAssertion
  | .uploadGrant => uploadGrantImplicitAssertion
  | .agentEvidenceUploadGrant => agentEvidenceUploadGrantImplicitAssertion
  | .agentPolicyDocumentUploadGrant => agentPolicyDocumentUploadGrantImplicitAssertion
  | .uploadSession => uploadSessionImplicitAssertion
  | .policyUploadGrant => policyUploadGrantImplicitAssertion
  | .policyUploadSession => policyUploadSessionImplicitAssertion
  | .mcpOAuth => mcpOAuthImplicitAssertion

theorem TokenPurpose.implicitAssertion_injective {p q : TokenPurpose}
    (h : p.implicitAssertion = q.implicitAssertion) : p = q := by
  cases p <;> cases q <;> first | rfl | exact absurd h (by decide)

/-! ## Tokens -/

structure RegisteredClaims where
  subject : Uuid
  tokenId : Uuid
  expiresAt : Int
  deriving DecidableEq, Repr

/-- the registered claims and the others, in one object -/
structure PasetoPayload (Claims : Type) where
  iss : String
  aud : String
  sub : Uuid
  jti : Uuid
  iat : Int
  nbf : Int
  exp : Int
  claims : Claims
  deriving DecidableEq, Repr

structure TokenFooter where
  kid : String
  deriving DecidableEq, Repr

structure IssuedPasetoToken where
  token : String
  tokenId : Uuid
  keyId : String
  expiresAt : Int
  deriving DecidableEq, Repr

structure VerifiedPasetoToken (Claims : Type) where
  subject : Uuid
  tokenId : Uuid
  keyId : String
  expiresAt : Int
  claims : Claims
  deriving DecidableEq, Repr

inductive PasetoError
  | issue | verify
  deriving DecidableEq, Repr

/-- encryptor and decryptor of one configuration, which has been validated: none of its texts is blank -/
structure PasetoTokens (implicitAssertion : String) (Claims Key Nonce : Type) where
  layer : TokenLayer Key Nonce (PasetoPayload Claims) TokenFooter String
  issuer : String
  audience : String
  keys : Keyring Key
  issuer_ne : issuer ≠ ""
  audience_ne : audience ≠ ""
  keyId : isBlank keys.activeKeyId = false

theorem sampleIssuer_ne : "https://api.proofplane.example/" ≠ "" := by decide

theorem sampleKey_not_blank : isBlank (Keyring.single "k1" ()).activeKeyId = false := by decide

namespace PasetoTokens
variable {implicitAssertion : String} {Claims Key Nonce : Type}

def encrypt (T : PasetoTokens implicitAssertion Claims Key Nonce) (registered : RegisteredClaims)
    (claims : Claims) (nonce : Nonce) (issuedAt : Int) : Except PasetoError IssuedPasetoToken :=
  if registered.expiresAt ≤ issuedAt then .error .issue
  else
    let payload : PasetoPayload Claims :=
      { iss := T.issuer
        aud := T.audience
        sub := registered.subject
        jti := registered.tokenId
        iat := unixSec issuedAt
        nbf := unixSec issuedAt
        exp := unixSec registered.expiresAt
        claims }
    match T.layer.encrypt T.keys.activeKey nonce payload ⟨T.keys.activeKeyId⟩ implicitAssertion with
    | none => .error .issue
    | some token =>
      .ok ⟨token, registered.tokenId, T.keys.activeKeyId, floorSec registered.expiresAt⟩

/-- what `verified_payload` checks -/
def verifiedPayload (T : PasetoTokens implicitAssertion Claims Key Nonce)
    (payload : PasetoPayload Claims) (keyId : String) (now : Int) :
    Except PasetoError (VerifiedPasetoToken Claims) :=
  if payload.iss = "" ∨ payload.iss ≠ T.issuer ∨ payload.aud = "" ∨ payload.aud ≠ T.audience then
    .error .verify
  else
    let issuedAt := ofUnixSec payload.iat
    let notBefore := ofUnixSec payload.nbf
    let expiresAt := ofUnixSec payload.exp
    if now < issuedAt ∨ now < notBefore ∨ expiresAt ≤ now ∨ expiresAt ≤ issuedAt then .error .verify
    else .ok ⟨payload.sub, payload.jti, keyId, expiresAt, payload.claims⟩

def decrypt (T : PasetoTokens implicitAssertion Claims Key Nonce) (token : String) (now : Int) :
    Except PasetoError (VerifiedPasetoToken Claims) :=
  match T.layer.untrustedFooter token with
  | none => .error .verify
  | some footer =>
    if isBlank footer.kid then .error .verify
    else
      match T.keys.get? footer.kid with
      | none => .error .verify
      | some key =>
        match T.layer.decrypt key token implicitAssertion with
        | none => .error .verify
        | some payload => T.verifiedPayload payload footer.kid now

variable {T : PasetoTokens implicitAssertion Claims Key Nonce} {registered : RegisteredClaims}
  {claims : Claims} {nonce : Nonce} {issuedAt now : Int} {issued : IssuedPasetoToken}

theorem encrypt_ok (h : T.encrypt registered claims nonce issuedAt = .ok issued) :
    issuedAt < registered.expiresAt ∧ issued.tokenId = registered.tokenId ∧
      issued.expiresAt = floorSec registered.expiresAt ∧
      T.layer.encrypt T.keys.activeKey nonce
        ⟨T.issuer, T.audience, registered.subject, registered.tokenId, unixSec issuedAt,
          unixSec issuedAt, unixSec registered.expiresAt, claims⟩ ⟨T.keys.activeKeyId⟩
        implicitAssertion = some issued.token := by
  unfold encrypt at h
  split at h
  · cases h
  · next hlt =>
    dsimp only at h
    split at h
    · cases h
    · next token henc =>
      cases h
      exact ⟨by omega, rfl, rfl, henc⟩

/-- a token that opens has not expired -/
theorem decrypt_unexpired {token : String} {verified : VerifiedPasetoToken Claims}
    (h : T.decrypt token now = .ok verified) : now < verified.expiresAt := by
  unfold decrypt at h
  split at h
  · cases h
  · split at h
    · cases h
    · split at h
      · cases h
      · split at h
        · cases h
        · unfold verifiedPayload at h
          split at h
          · cases h
          · dsimp only at h
            split at h
            · cases h
            · next hc =>
              cases h
              show now < ofUnixSec _
              omega

/-- **What an issued token opens to**: what was sealed in it, from the second of its sealing until it
expires, and nothing at other times. -/
theorem decrypt_issued (hT : T.layer.Faithful)
    (h : T.encrypt registered claims nonce issuedAt = .ok issued) :
    T.decrypt issued.token now
      = if floorSec issuedAt ≤ now ∧ now < issued.expiresAt then
          .ok ⟨registered.subject, registered.tokenId, T.keys.activeKeyId, issued.expiresAt, claims⟩
        else .error .verify := by
  obtain ⟨hlt, -, hexp, henc⟩ := encrypt_ok h
  unfold decrypt
  rw [hT.footer henc]
  dsimp only
  rw [T.keyId, T.keys.get?_active]
  simp only [Bool.false_eq_true, if_false]
  rw [hT.payload henc]
  dsimp only
  unfold verifiedPayload
  rw [if_neg (by simp [T.issuer_ne, T.audience_ne]), hexp]
  have hiat : ofUnixSec (unixSec issuedAt) = floorSec issuedAt := rfl
  have hexp' : ofUnixSec (unixSec registered.expiresAt) = floorSec registered.expiresAt := rfl
  dsimp only
  rw [hiat, hexp']
  by_cases hnow : floorSec issuedAt ≤ now ∧ now < floorSec registered.expiresAt
  · rw [if_pos hnow, if_neg (by omega)]
  · rw [if_neg hnow, if_pos (by omega)]

theorem decrypt_encrypt (hT : T.layer.Faithful)
    (h : T.encrypt registered claims nonce issuedAt = .ok issued)
    (hissued : floorSec issuedAt ≤ now) (hnow : now < issued.expiresAt) :
    T.decrypt issued.token now
      = .ok ⟨registered.subject, registered.tokenId, T.keys.activeKeyId, issued.expiresAt, claims⟩ := by
  rw [decrypt_issued hT h, if_pos ⟨hissued, hnow⟩]

end PasetoTokens

end Proofplane
