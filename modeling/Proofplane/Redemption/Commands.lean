import Proofplane.Authentication.Paseto
import Proofplane.Base.Rfc3339
import Proofplane.Domain.Permission
import Proofplane.Redemption.Store

/-!
# The commands on human upload grants

* `saveIssued`                                  a grant saved and read back;
* `issueEvidenceDocumentUploadGrant`            the command behind a link for an evidence item;
* `resolveEvidenceDocumentUploadGrantAuthority`   what a link says;
* `redeemEvidenceDocumentUploadGrant`, `redeemPolicyDocumentUploadGrant`   a link used;
* `RedeemCase`                                  how that can end.
-/

namespace Proofplane
open Base

inductive HumanUploadGrantHandlerError
  | unavailable | internal
  | repository (e : RepositoryError)
  deriving DecidableEq, Repr

/-! ## Redeeming -/

/-- the answer of a redemption, and the table after it -/
def HumanUploadGrant.redeemOutcome {K : HumanUploadTarget} (grants : HumanUploadGrants K)
    (r : Except RepositoryError (RedeemOutcome K × HumanUploadGrants K)) :
    Except HumanUploadGrantHandlerError (RedeemedUploadGrant K) × HumanUploadGrants K :=
  match r with
  | .error e => (.error (.repository e), grants)
  | .ok (.unavailable, grants) => (.error .unavailable, grants)
  | .ok (.redeemed grant, grants) => (.ok grant, grants)

namespace RedemptionDb

def redeemEvidenceDocumentUploadGrant (db : RedemptionDb)
    (authority : EvidenceDocumentUploadGrantAuthority) (now : Int) :
    Except HumanUploadGrantHandlerError (RedeemedUploadGrant evidenceDocumentUpload) ×
      RedemptionDb :=
  let r := HumanUploadGrant.redeemOutcome db.documentUploadGrants
    (HumanUploadGrant.redeemUnit db.documentUploadGrants authority now)
  (r.1, { db with documentUploadGrants := r.2 })

/-- `WHERE id = … AND workspace_id = … AND archived_at IS NULL` -/
def policyIsActive (db : RedemptionDb) (workspaceId : WorkspaceId) (id : PolicyId) : Bool :=
  ((db.policies.get? id).filter fun p => p.workspaceId = workspaceId ∧ p.archivedAt = none).isSome

def redeemPolicyDocumentUploadGrant (db : RedemptionDb)
    (authority : PolicyDocumentUploadGrantAuthority) (now : Int) :
    Except HumanUploadGrantHandlerError (RedeemedUploadGrant policyDocumentUpload) × RedemptionDb :=
  if db.policyIsActive authority.workspaceId authority.target then
    let r := HumanUploadGrant.redeemOutcome db.policyDocumentUploadGrants
      (HumanUploadGrant.redeemUnit db.policyDocumentUploadGrants authority now)
    (r.1, { db with policyDocumentUploadGrants := r.2 })
  else (.error .unavailable, db)

end RedemptionDb

/-! ## How a redemption ends -/

section
variable {K : HumanUploadTarget} {grants : HumanUploadGrants K} {authority : HumanUploadAuthority K}
  {now : Int}

/-- how a redeem command can end: the table is as it was, or the grant of the authority, which was not
redeemed before and has not expired, is redeemed at this instant -/
inductive RedeemCase (grants : HumanUploadGrants K) (authority : HumanUploadAuthority K) (now : Int) :
    Except HumanUploadGrantHandlerError (RedeemedUploadGrant K) → HumanUploadGrants K → Prop
  | refused (e : HumanUploadGrantHandlerError) : RedeemCase grants authority now (.error e) grants
  | redeemed (g : HumanUploadGrant K) (hg : g ∈ grants.rows)
      (hredeemable : g.Redeemable authority now) (hstored : (g.redeemedRow now).Stored) :
      RedeemCase grants authority now (.ok (g.redeemedAnswer now))
        (grants.upsert (g.redeemedRow now))

theorem redeemOutcome_case (hrow : ∀ g, grants.get? authority.id = some g → g.toRow = g) :
    RedeemCase grants authority now
      (HumanUploadGrant.redeemOutcome grants (HumanUploadGrant.redeemUnit grants authority now)).1
      (HumanUploadGrant.redeemOutcome grants
        (HumanUploadGrant.redeemUnit grants authority now)).2 := by
  have hunit : HumanUploadGrant.Redeems grants authority now
      (HumanUploadGrant.redeemUnit grants authority now) :=
    HumanUploadGrant.redeemUnit_cases hrow
  revert hunit
  generalize HumanUploadGrant.redeemUnit grants authority now = r
  intro hunit
  cases hunit with
  | failed e => exact .refused (.repository e)
  | unavailable => exact .refused .unavailable
  | redeemed g hg hredeemable hstored => exact .redeemed g hg hredeemable hstored

end

/-- a command for an evidence item changes nothing but its grants -/
theorem redeemEvidence_case {db : RedemptionDb}
    {authority : EvidenceDocumentUploadGrantAuthority}
    (hrow : ∀ g, db.documentUploadGrants.get? authority.id = some g → g.toRow = g) (now : Int) :
    ∃ grants, (db.redeemEvidenceDocumentUploadGrant authority now).2
        = { db with documentUploadGrants := grants } ∧
      RedeemCase db.documentUploadGrants authority now
        (db.redeemEvidenceDocumentUploadGrant authority now).1 grants :=
  ⟨_, rfl, redeemOutcome_case hrow⟩

/-- and one for a policy nothing but its own -/
theorem redeemPolicy_case {db : RedemptionDb}
    {authority : PolicyDocumentUploadGrantAuthority}
    (hrow : ∀ g, db.policyDocumentUploadGrants.get? authority.id = some g → g.toRow = g)
    (now : Int) :
    ∃ grants, (db.redeemPolicyDocumentUploadGrant authority now).2
        = { db with policyDocumentUploadGrants := grants } ∧
      RedeemCase db.policyDocumentUploadGrants authority now
        (db.redeemPolicyDocumentUploadGrant authority now).1 grants := by
  unfold RedemptionDb.redeemPolicyDocumentUploadGrant
  split
  · exact ⟨_, rfl, redeemOutcome_case hrow⟩
  · exact ⟨_, rfl, .refused .unavailable⟩

/-! ## Issuing -/

/-- an issued grant saved and read back -/
def HumanUploadGrant.saveIssued {K : HumanUploadTarget} (grants : HumanUploadGrants K)
    (grant : HumanUploadGrant K) :
    Except RepositoryError (HumanUploadGrant K × HumanUploadGrants K) :=
  match save grants grant with
  | .error e => .error e
  | .ok grants =>
    match find grants grant.id grant.workspaceId with
    | .error e => .error e
    | .ok none =>
      .error (.invariantViolation ("saved " ++ K.noun ++ " human upload grant must be readable"))
    | .ok (some grant) => .ok (grant, grants)

theorem HumanUploadGrant.saveIssued_ok {K : HumanUploadTarget} {grants grants' : HumanUploadGrants K}
    {g g' : HumanUploadGrant K} (h : g.saveIssued grants = .ok (g', grants')) :
    grants' = grants.upsert g.toRow ∧ g.toRow.Stored := by
  unfold HumanUploadGrant.saveIssued at h
  split at h
  · cases h
  · next saved hsave =>
    obtain ⟨rfl, hstored⟩ := HumanUploadGrant.save_ok hsave
    split at h
    · cases h
    · cases h
    · cases h
      exact ⟨rfl, hstored⟩

/-! ## Links for an evidence item -/

def evidenceDocumentUploadGrantTokenVersion : Nat := 1

/-- the claims of a link, its instants as texts with all of their digits -/
structure EvidenceDocumentUploadGrantClaims where
  version : Nat
  grantId : String
  workspaceId : String
  evidenceId : String
  validFrom : String
  validUntil : String
  issuedByUserId : String
  issuedViaApiTokenId : Option String
  issuedViaAgentConnectionId : Option String
  deriving DecidableEq, Repr

structure VerifiedEvidenceDocumentUploadGrantClaims where
  grantId : Uuid
  workspaceId : Uuid
  evidenceId : Uuid
  validFrom : ClockInstant
  validUntil : ClockInstant
  issuedByUserId : Uuid
  issuedViaAgentConnectionId : Uuid
  expiresAt : Int
  deriving DecidableEq, Repr

def EvidenceDocumentUploadGrantClaims.new (W : InstantText)
    (grantId workspaceId evidenceId : Uuid) (validFrom validUntil : ClockInstant)
    (issuedByUserId issuedViaAgentConnectionId : Uuid) : EvidenceDocumentUploadGrantClaims where
  version := evidenceDocumentUploadGrantTokenVersion
  grantId := grantId.text
  workspaceId := workspaceId.text
  evidenceId := evidenceId.text
  validFrom := W.toRfc3339 validFrom
  validUntil := W.toRfc3339 validUntil
  issuedByUserId := issuedByUserId.text
  issuedViaApiTokenId := none
  issuedViaAgentConnectionId := some issuedViaAgentConnectionId.text

/-- `try_from`: `none` where the claims are invalid -/
def VerifiedEvidenceDocumentUploadGrantClaims.tryFrom (W : InstantText)
    (token : VerifiedPasetoToken EvidenceDocumentUploadGrantClaims) :
    Option VerifiedEvidenceDocumentUploadGrantClaims :=
  if token.claims.version ≠ evidenceDocumentUploadGrantTokenVersion then none
  else do
    let grantId ← Uuid.parseStr token.claims.grantId
    let issuedByUserId ← Uuid.parseStr token.claims.issuedByUserId
    if grantId ≠ token.tokenId ∨ issuedByUserId ≠ token.subject then none
    else
      let issuedViaAgentConnectionId ←
        match token.claims.issuedViaApiTokenId, token.claims.issuedViaAgentConnectionId with
        | none, some id => Uuid.parseStr id
        | _, _ => none
      let workspaceId ← Uuid.parseStr token.claims.workspaceId
      let evidenceId ← Uuid.parseStr token.claims.evidenceId
      let validFrom ← W.parseFromRfc3339 token.claims.validFrom
      let validUntil ← W.parseFromRfc3339 token.claims.validUntil
      some ⟨grantId, workspaceId, evidenceId, validFrom, validUntil, issuedByUserId,
        issuedViaAgentConnectionId, token.expiresAt⟩

/-- the address of the page, and the token that follows it -/
structure UploadLink where
  address : String
  token : String
  deriving DecidableEq, Repr

structure IssueEvidenceDocumentUploadGrant where
  connection : AgentConnectionContext
  evidenceId : EvidenceId
  coverage : ClockWindow
  deriving DecidableEq, Repr

structure IssuedEvidenceDocumentUploadGrant where
  url : UploadLink
  expiresAt : Int
  evidenceId : EvidenceId
  coverage : ClockWindow
  deriving DecidableEq, Repr

/-- the keys of the links, the texts of their instants, and the base of their addresses -/
structure UploadLinks (Key Nonce : Type) where
  text : InstantText
  tokens : PasetoTokens uploadGrantImplicitAssertion EvidenceDocumentUploadGrantClaims Key Nonce
  publicApiBaseUrl : String
  join : String → String → Option String

namespace UploadLinks
variable {Key Nonce : Type}

def grantTtl : Int := minutes 5

inductive IssueOutcome
  | issued (grant : IssuedEvidenceDocumentUploadGrant)
  | unavailable | internal
  deriving DecidableEq, Repr

/-- the unit of work of an issuance; the clock is read for the grant and again for the token -/
def issueWork (S : UploadLinks Key Nonce) (db : RedemptionDb)
    (command : IssueEvidenceDocumentUploadGrant) (issuedAt sealedAt : Int)
    (grantId : DocumentUploadGrantId) (nonce : Nonce) :
    Except RepositoryError (IssueOutcome × RedemptionDb) :=
  match db.getEvidence command.connection.workspaceId command.evidenceId with
  | none => .ok (.unavailable, db)
  | some _ =>
    let expiresAt := issuedAt + grantTtl
    match S.tokens.encrypt ⟨command.connection.userId.uuid, grantId.uuid, expiresAt⟩
        (.new S.text grantId.uuid command.connection.workspaceId.uuid command.evidenceId.uuid
          command.coverage.validFrom command.coverage.validUntil command.connection.userId.uuid
          command.connection.connectionId.uuid) nonce sealedAt with
    | .error _ => .ok (.internal, db)
    | .ok issued =>
      match HumanUploadGrant.issue (K := evidenceDocumentUpload) grantId
          command.connection.workspaceId ⟨command.evidenceId, command.coverage⟩
          command.connection.userId command.connection.connectionId issuedAt issued.expiresAt with
      | .error _ => .ok (.internal, db)
      | .ok grant =>
        match S.join S.publicApiBaseUrl "evidence-document-uploads" with
        | none => .ok (.internal, db)
        | some address =>
          match grant.saveIssued db.documentUploadGrants with
          | .error e => .error e
          | .ok (grant, grants) =>
            let target : EvidenceDocumentTarget := grant.target
            .ok (.issued ⟨⟨address, issued.token⟩, issued.expiresAt, target.evidenceId,
              target.coverage⟩, { db with documentUploadGrants := grants })

def issueEvidenceDocumentUploadGrant (S : UploadLinks Key Nonce) (db : RedemptionDb)
    (command : IssueEvidenceDocumentUploadGrant) (issuedAt sealedAt : Int)
    (grantId : DocumentUploadGrantId) (nonce : Nonce) :
    Except HumanUploadGrantHandlerError IssuedEvidenceDocumentUploadGrant × RedemptionDb :=
  if command.connection.permissions.has .writeEvidenceSubmissions = false then
    (.error .unavailable, db)
  else
    match S.issueWork db command issuedAt sealedAt grantId nonce with
    | .error e => (.error (.repository e), db)
    | .ok (.unavailable, db) => (.error .unavailable, db)
    | .ok (.internal, db) => (.error .internal, db)
    | .ok (.issued grant, db) => (.ok grant, db)

/-- `none` where the link is unavailable -/
def resolveEvidenceDocumentUploadGrantAuthority (S : UploadLinks Key Nonce) (credential : String)
    (now : Int) : Option EvidenceDocumentUploadGrantAuthority :=
  match S.tokens.decrypt credential now with
  | .error _ => none
  | .ok verified => do
    let claims ← VerifiedEvidenceDocumentUploadGrantClaims.tryFrom S.text verified
    let coverage ← ClockWindow.new claims.validFrom claims.validUntil
    some
      { id := ⟨claims.grantId⟩
        workspaceId := ⟨claims.workspaceId⟩
        target := (⟨⟨claims.evidenceId⟩, coverage⟩ : EvidenceDocumentTarget)
        issuedByUserId := ⟨claims.issuedByUserId⟩
        issuedViaAgentConnectionId := ⟨claims.issuedViaAgentConnectionId⟩
        expiresAt := claims.expiresAt }

end UploadLinks

end Proofplane
