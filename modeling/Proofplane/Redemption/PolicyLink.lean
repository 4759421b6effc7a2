import Proofplane.Authentication.GrantClaims
import Proofplane.Redemption.Commands

/-!
# Links for policy documents

A link for a policy carries ids and its expiry, and no window: what the database keeps of its grant is all
that the link says.

* `issuePolicyDocumentUploadGrant`   the command behind a link;
* `resolvePolicyDocumentUploadGrantAuthority`   what a link says;
* `issuePolicyDocumentUploadGrant_ok`   **what is sealed, stored and answered**;
* `resolve_policy_sealed`            a link resolves to the authority of its grant, and to no other.
-/

namespace Proofplane
open Base

structure IssuePolicyDocumentUploadGrant where
  connection : AgentConnectionContext
  policyId : PolicyId
  deriving DecidableEq, Repr

structure PolicyDocumentUploadGrantAuditContext where
  workspaceId : WorkspaceId
  policyId : PolicyId
  issuedByUserId : UserId
  issuedViaAgentConnectionId : AgentConnectionId
  deriving DecidableEq, Repr

structure IssuedPolicyDocumentUploadGrant where
  url : UploadLink
  expiresAt : Int
  policyId : PolicyId
  audit : PolicyDocumentUploadGrantAuditContext
  deriving DecidableEq, Repr

/-- the keys of the links, and the base of their addresses -/
structure PolicyUploadLinks (Key Nonce : Type) where
  tokens : PasetoTokens policyUploadGrantImplicitAssertion
    (GrantClaims policyDocumentUploadGrantClaims.Texts) Key Nonce
  publicApiBaseUrl : String
  join : String → String → Option String

namespace PolicyUploadLinks
variable {Key Nonce : Type}

def grantTtl : Int := minutes 5

/-- the grant of an issuance -/
def newGrant (command : IssuePolicyDocumentUploadGrant) (grantId : PolicyDocumentUploadGrantId)
    (issuedAt expiresAt : Int) : PolicyDocumentUploadGrant where
  id := grantId
  workspaceId := command.connection.workspaceId
  target := command.policyId
  issuedByUserId := command.connection.userId
  issuedViaAgentConnectionId := command.connection.connectionId
  issuedAt := issuedAt
  expiresAt := expiresAt
  redeemedAt := none

inductive PolicyIssueOutcome
  | issued (grant : IssuedPolicyDocumentUploadGrant)
  | unavailable | internal
  deriving DecidableEq, Repr

/-- the unit of work of an issuance; the clock is read for the grant and again for the token -/
def issueWork (ttl : Int) (S : PolicyUploadLinks Key Nonce) (db : RedemptionDb)
    (command : IssuePolicyDocumentUploadGrant) (grantId : PolicyDocumentUploadGrantId)
    (issuedAt sealedAt : Int) (nonce : Nonce) :
    Except RepositoryError (PolicyIssueOutcome × RedemptionDb) :=
  match db.lockDocumentUploadEligibility command.connection.workspaceId command.policyId with
  | none => .ok (.unavailable, db)
  | some _ =>
    match S.tokens.encrypt ⟨command.connection.userId.uuid, grantId.uuid, issuedAt + ttl⟩
        (policyDocumentUploadGrantClaims.new grantId.uuid command.connection.workspaceId.uuid
          command.policyId command.connection.userId.uuid command.connection.connectionId.uuid)
        nonce sealedAt with
    | .error _ => .ok (.internal, db)
    | .ok issued =>
      match HumanUploadGrant.issue (K := policyDocumentUpload) grantId
          command.connection.workspaceId command.policyId command.connection.userId
          command.connection.connectionId issuedAt issued.expiresAt with
      | .error _ => .ok (.internal, db)
      | .ok grant =>
        match S.join S.publicApiBaseUrl "policy-document-uploads" with
        | none => .ok (.internal, db)
        | some address =>
          match grant.saveIssued db.policyDocumentUploadGrants with
          | .error e => .error e
          | .ok (grant, grants) =>
            .ok (.issued ⟨⟨address, issued.token⟩, issued.expiresAt, grant.target,
              ⟨grant.workspaceId, grant.target, grant.issuedByUserId,
                grant.issuedViaAgentConnectionId⟩⟩, { db with policyDocumentUploadGrants := grants })

/-- the command with any lifetime -/
def issuePolicyDocumentUploadGrantFor (ttl : Int) (S : PolicyUploadLinks Key Nonce) (db : RedemptionDb)
    (command : IssuePolicyDocumentUploadGrant) (grantId : PolicyDocumentUploadGrantId)
    (issuedAt sealedAt : Int) (nonce : Nonce) :
    Except HumanUploadGrantHandlerError IssuedPolicyDocumentUploadGrant × RedemptionDb :=
  if command.connection.permissions.has .writeControls = false then (.error .unavailable, db)
  else
    match S.issueWork ttl db command grantId issuedAt sealedAt nonce with
    | .error e => (.error (.repository e), db)
    | .ok (.unavailable, db) => (.error .unavailable, db)
    | .ok (.internal, db) => (.error .internal, db)
    | .ok (.issued grant, db) => (.ok grant, db)

def issuePolicyDocumentUploadGrant (S : PolicyUploadLinks Key Nonce) (db : RedemptionDb)
    (command : IssuePolicyDocumentUploadGrant) (grantId : PolicyDocumentUploadGrantId)
    (issuedAt sealedAt : Int) (nonce : Nonce) :
    Except HumanUploadGrantHandlerError IssuedPolicyDocumentUploadGrant × RedemptionDb :=
  S.issuePolicyDocumentUploadGrantFor grantTtl db command grantId issuedAt sealedAt nonce

/-- `none` where the link is unavailable -/
def resolvePolicyDocumentUploadGrantAuthority (S : PolicyUploadLinks Key Nonce) (credential : String)
    (now : Int) : Option PolicyDocumentUploadGrantAuthority :=
  (policyDocumentUploadGrantClaims.resolve S.tokens credential now).map fun claims =>
    { id := ⟨claims.grantId⟩
      workspaceId := ⟨claims.workspaceId⟩
      target := claims.target
      issuedByUserId := ⟨claims.issuedByUserId⟩
      issuedViaAgentConnectionId := ⟨claims.issuedViaAgentConnectionId⟩
      expiresAt := claims.expiresAt }

/-! ## What an issuance does -/

variable {S : PolicyUploadLinks Key Nonce} {db db' : RedemptionDb}
  {command : IssuePolicyDocumentUploadGrant} {grantId : PolicyDocumentUploadGrantId}
  {ttl issuedAt sealedAt now : Int} {nonce : Nonce} {issued : IssuedPolicyDocumentUploadGrant}
  {token : IssuedPasetoToken}

/-- **What is sealed, stored and answered.** -/
theorem issuePolicyDocumentUploadGrant_ok
    (h : S.issuePolicyDocumentUploadGrantFor ttl db command grantId issuedAt sealedAt nonce
      = (.ok issued, db')) :
    ∃ token, S.tokens.encrypt ⟨command.connection.userId.uuid, grantId.uuid, issuedAt + ttl⟩
        (policyDocumentUploadGrantClaims.new grantId.uuid command.connection.workspaceId.uuid
          command.policyId command.connection.userId.uuid command.connection.connectionId.uuid)
        nonce sealedAt = .ok token ∧
      issued.url.token = token.token ∧ issued.expiresAt = token.expiresAt ∧
      db' = { db with policyDocumentUploadGrants :=
        db.policyDocumentUploadGrants.upsert (newGrant command grantId issuedAt token.expiresAt).toRow } ∧
      (newGrant command grantId issuedAt token.expiresAt).toRow.Stored := by
  unfold issuePolicyDocumentUploadGrantFor at h
  split at h
  · cases h
  · split at h
    · cases h
    · cases h
    · cases h
    · next grant db'' hwork =>
      cases h
      unfold issueWork at hwork
      split at hwork
      · cases hwork
      · split at hwork
        · cases hwork
        · next token hencrypt =>
          split at hwork
          · cases hwork
          · next g hissue =>
            split at hwork
            · cases hwork
            · split at hwork
              · cases hwork
              · next g' grants hsave =>
                cases hwork
                obtain ⟨-, rfl⟩ := HumanUploadGrant.issue_ok hissue
                obtain ⟨rfl, hstored⟩ := HumanUploadGrant.saveIssued_ok hsave
                exact ⟨token, hencrypt, rfl, rfl, rfl, hstored⟩

/-- **Until the expiry that was told, a link resolves to the authority of its grant.** -/
theorem resolve_policy_sealed (hT : S.tokens.layer.Faithful)
    (h : S.tokens.encrypt ⟨command.connection.userId.uuid, grantId.uuid, issuedAt + ttl⟩
      (policyDocumentUploadGrantClaims.new grantId.uuid command.connection.workspaceId.uuid
        command.policyId command.connection.userId.uuid command.connection.connectionId.uuid)
      nonce sealedAt = .ok token)
    (hfrom : floorSec sealedAt ≤ now) (hto : now < token.expiresAt) :
    S.resolvePolicyDocumentUploadGrantAuthority token.token now
      = some (newGrant command grantId issuedAt token.expiresAt).authority := by
  unfold resolvePolicyDocumentUploadGrantAuthority
  rw [GrantClaimKind.resolve_issued hT h hfrom hto]
  rfl

/-- at no instant does a link resolve to another authority -/
theorem resolve_policy_sealed_only (hT : S.tokens.layer.Faithful)
    (h : S.tokens.encrypt ⟨command.connection.userId.uuid, grantId.uuid, issuedAt + ttl⟩
      (policyDocumentUploadGrantClaims.new grantId.uuid command.connection.workspaceId.uuid
        command.policyId command.connection.userId.uuid command.connection.connectionId.uuid)
      nonce sealedAt = .ok token)
    {authority : PolicyDocumentUploadGrantAuthority}
    (hv : S.resolvePolicyDocumentUploadGrantAuthority token.token now = some authority) :
    authority = (newGrant command grantId issuedAt token.expiresAt).authority := by
  unfold resolvePolicyDocumentUploadGrantAuthority at hv
  obtain ⟨claims, hclaims, rfl⟩ := Option.map_eq_some_iff.mp hv
  rw [GrantClaimKind.resolve_only hT h hclaims]
  rfl

/-- the expiry of a sealed grant is in whole seconds, which the database keeps -/
theorem newGrant_authority_toRow {registered : RegisteredClaims}
    {claims : GrantClaims policyDocumentUploadGrantClaims.Texts}
    (h : S.tokens.encrypt registered claims nonce sealedAt = .ok token) :
    (newGrant command grantId issuedAt token.expiresAt).toRow.authority
      = (newGrant command grantId issuedAt token.expiresAt).authority := by
  obtain ⟨-, -, hfloor, -⟩ := PasetoTokens.encrypt_ok h
  have hexpires : pgTimestamp token.expiresAt = token.expiresAt := by
    rw [hfloor]
    exact (wholeSec_floorSec _).pgTimestamp_eq
  exact HumanUploadAuthority.ext rfl rfl rfl rfl rfl hexpires

end PolicyUploadLinks

end Proofplane
