import Proofplane.Base.Token
import Proofplane.Domain.WorkspaceInvitation

/-!
# The authority behind an invitation link

A link carries a token for one generation of one invitation.  The token is sealed under the active
key; its instants are RFC 3339 texts without a fraction in the source and the whole seconds that
these texts denote here.

* `issueAt`, `verifyAt`      building and checking a token;
* `issueAt_ok`               what a built token contains;
* `verifyAt_issueAt`         **a token verifies to what was issued, with the expiry cut to seconds**.
-/

namespace Proofplane
open Base

/-- the payload of a link token -/
structure InvitationClaims where
  invitationId : Uuid
  generation : Int
  purpose : String
  iat : Int
  exp : Int
  deriving DecidableEq, Repr

structure InvitationFooter where
  kid : String
  deriving DecidableEq, Repr

def invitationPurpose : String := "workspace-invitation"

def invitationImplicitAssertion : String := "proofplane:workspace-invitation:v1"

structure VerifiedWorkspaceInvitationAuthority where
  invitationId : WorkspaceInvitationId
  generation : Int
  issuedAt : Int
  expiresAt : Int
  deriving DecidableEq, Repr

structure WorkspaceInvitationAuthoritySource where
  invitationId : WorkspaceInvitationId
  generation : Int
  expiresAt : Int
  deriving DecidableEq, Repr

inductive WorkspaceInvitationAuthorityError
  | configuration | issue | unavailable
  deriving DecidableEq, Repr

/-- the link `{landingPortalBaseUrl}/join#token={token}` -/
structure IssuedWorkspaceInvitationLink (Token : Type*) where
  landingPortalBaseUrl : String
  path : String
  token : Token
  deriving DecidableEq, Repr

structure WorkspaceInvitationAuthority (Key Nonce Token : Type*) where
  layer : TokenLayer Key Nonce InvitationClaims InvitationFooter Token
  landingPortalBaseUrl : String
  keys : Keyring Key

/-- the part of an invitation that a link is issued for -/
def WorkspaceInvitation.authoritySource (i : WorkspaceInvitation) :
    WorkspaceInvitationAuthoritySource :=
  ⟨i.id, i.generation, i.expiresAt⟩

namespace WorkspaceInvitationAuthority
variable {Key Nonce Token : Type*}

def issueAt (A : WorkspaceInvitationAuthority Key Nonce Token)
    (source : WorkspaceInvitationAuthoritySource) (nonce : Nonce) (issuedAt : Int) :
    Except WorkspaceInvitationAuthorityError (IssuedWorkspaceInvitationLink Token) :=
  if source.expiresAt ≤ issuedAt then .error .unavailable
  else
    let claims : InvitationClaims :=
      { invitationId := source.invitationId.uuid
        generation := source.generation
        purpose := invitationPurpose
        iat := unixSec issuedAt
        exp := unixSec source.expiresAt }
    match A.layer.encrypt A.keys.activeKey nonce claims ⟨A.keys.activeKeyId⟩
        invitationImplicitAssertion with
    | none => .error .issue
    | some token => .ok ⟨A.landingPortalBaseUrl, "/join", token⟩

def verifyAt (A : WorkspaceInvitationAuthority Key Nonce Token) (token : Token) (now : Int) :
    Except WorkspaceInvitationAuthorityError VerifiedWorkspaceInvitationAuthority :=
  match A.layer.untrustedFooter token with
  | none => .error .unavailable
  | some footer =>
    match A.keys.get? footer.kid with
    | none => .error .unavailable
    | some key =>
      match A.layer.decrypt key token invitationImplicitAssertion with
      | none => .error .unavailable
      | some claims =>
        let issuedAt := ofUnixSec claims.iat
        let expiresAt := ofUnixSec claims.exp
        if claims.purpose ≠ invitationPurpose ∨ claims.generation ≤ 0 ∨ now < issuedAt ∨
            expiresAt ≤ now ∨ expiresAt ≤ issuedAt then .error .unavailable
        else .ok ⟨⟨claims.invitationId⟩, claims.generation, issuedAt, expiresAt⟩

variable {A : WorkspaceInvitationAuthority Key Nonce Token}

theorem issueAt_ok {source : WorkspaceInvitationAuthoritySource} {nonce : Nonce} {issuedAt : Int}
    {link : IssuedWorkspaceInvitationLink Token} (h : A.issueAt source nonce issuedAt = .ok link) :
    issuedAt < source.expiresAt ∧
      A.layer.encrypt A.keys.activeKey nonce
        ⟨source.invitationId.uuid, source.generation, invitationPurpose, unixSec issuedAt,
          unixSec source.expiresAt⟩ ⟨A.keys.activeKeyId⟩ invitationImplicitAssertion
        = some link.token := by
  unfold issueAt at h
  split at h
  · cases h
  · next hlt =>
    dsimp only at h
    split at h
    · cases h
    · next token henc =>
      cases h
      exact ⟨by omega, henc⟩

/-- only an expired source is refused with `unavailable` -/
theorem issueAt_ne_unavailable {source : WorkspaceInvitationAuthoritySource} (nonce : Nonce)
    {issuedAt : Int} (h : issuedAt < source.expiresAt) :
    A.issueAt source nonce issuedAt ≠ .error .unavailable := by
  unfold issueAt
  rw [if_neg (by omega)]
  dsimp only
  split
  · intro hc
    cases hc
  · intro hc
    cases hc

/-- **A token verifies to what it was issued for, with both instants cut to whole seconds**, as long
as the source has a generation and both seconds lie around `now`. -/
theorem verifyAt_issueAt (hP : A.layer.Faithful) {source : WorkspaceInvitationAuthoritySource}
    {nonce : Nonce} {issuedAt : Int} {link : IssuedWorkspaceInvitationLink Token}
    (h : A.issueAt source nonce issuedAt = .ok link) (now : Int) :
    A.verifyAt link.token now
      = if source.generation ≤ 0 ∨ now < floorSec issuedAt ∨ floorSec source.expiresAt ≤ now ∨
          floorSec source.expiresAt ≤ floorSec issuedAt then .error .unavailable
        else .ok ⟨source.invitationId, source.generation, floorSec issuedAt,
          floorSec source.expiresAt⟩ := by
  obtain ⟨-, henc⟩ := issueAt_ok h
  have hfoot := hP.footer henc
  have hpay := hP.payload henc
  unfold verifyAt
  rw [hfoot]
  dsimp only
  rw [A.keys.get?_active]
  dsimp only
  rw [hpay]
  simp only [ne_eq, not_true, false_or]
  rfl

/-- whatever a token verifies to, it is the generation and the second of expiry it was issued for -/
theorem verifyAt_issueAt_ok (hP : A.layer.Faithful) {source : WorkspaceInvitationAuthoritySource}
    {nonce : Nonce} {issuedAt : Int} {link : IssuedWorkspaceInvitationLink Token}
    (h : A.issueAt source nonce issuedAt = .ok link) {now : Int}
    {claims : VerifiedWorkspaceInvitationAuthority} (hv : A.verifyAt link.token now = .ok claims) :
    claims = ⟨source.invitationId, source.generation, floorSec issuedAt,
      floorSec source.expiresAt⟩ := by
  rw [verifyAt_issueAt hP h now] at hv
  split at hv
  · cases hv
  · cases hv
    rfl

end WorkspaceInvitationAuthority

end Proofplane
