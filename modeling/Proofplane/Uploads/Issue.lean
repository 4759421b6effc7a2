import Proofplane.Authentication.GrantClaims
import Proofplane.Documents.Store
import Proofplane.Domain.Permission

/-!
# Issuing machine upload grants

An agent asks for a grant and gets a credential for it: the expiry is cut to whole seconds for the
credential, and the grant is stored with that expiry, not with the one that was asked for.

* `sealGrant`        the credential and the grant of one issuance;
* `verify`           the authority of a credential;
* `issueAgentEvidenceUploadGrant`, `issueAgentPolicyDocumentUploadGrant`   the two commands;
* `issueAgentEvidenceUploadGrant_ok`, `issueAgentPolicyDocumentUploadGrant_ok`   **what they seal, store and
                     answer**.
-/

namespace Proofplane
open Base

inductive AgentUploadGrantError
  | unavailable | currentDocument | internal
  | repository (e : RepositoryError)
  deriving DecidableEq, Repr

/-- a grant as it was stored and read back, and its credential -/
structure IssuedUploadGrant (K : UploadTarget) where
  grant : UploadGrant K
  credential : String

abbrev IssuedAgentEvidenceUploadGrant := IssuedUploadGrant agentEvidenceUpload
abbrev IssuedAgentPolicyDocumentUploadGrant := IssuedUploadGrant agentPolicyDocumentUpload

/-- encryptor and decryptor of the credentials of one kind -/
abbrev AgentEvidenceUploadGrantTokens (Key Nonce : Type) :=
  PasetoTokens agentEvidenceUploadGrantImplicitAssertion
    (GrantClaims agentEvidenceUploadGrantClaims.Texts) Key Nonce
abbrev AgentPolicyDocumentUploadGrantTokens (Key Nonce : Type) :=
  PasetoTokens agentPolicyDocumentUploadGrantImplicitAssertion
    (GrantClaims agentPolicyDocumentUploadGrantClaims.Texts) Key Nonce

/-- how long a grant lives, of either kind -/
def agentUploadGrantTtl : Int := minutes 5

/-! ## Credentials -/

section
variable {K : UploadTarget} {implicitAssertion : String} {Key Nonce : Type}

/-- the grant of an issuance -/
def UploadGrant.new (connection : AgentConnectionContext) (uploadId : Id K.idKind) (target : K.Target)
    (declaration : DeclaredUploadFile) (issuedAt expiresAt : Int) : UploadGrant K where
  id := uploadId
  workspaceId := connection.workspaceId
  target := target
  declaration := declaration
  issuedByUserId := connection.userId
  issuedViaAgentConnectionId := connection.connectionId
  issuedAt := issuedAt
  expiresAt := expiresAt
  lifecycle := .pending

/-- the token of an issuance and its grant; the clock is read for the grant and again for the token -/
def sealGrant (C : GrantClaimKind K.Ref)
    (T : PasetoTokens implicitAssertion (GrantClaims C.Texts) Key Nonce)
    (connection : AgentConnectionContext) (uploadId : Id K.idKind) (target : K.Target)
    (declaration : DeclaredUploadFile) (ttl issuedAt sealedAt : Int) (nonce : Nonce) :
    Option (IssuedPasetoToken × UploadGrant K) :=
  match T.encrypt ⟨connection.userId.uuid, uploadId.uuid, issuedAt + ttl⟩
      (C.new uploadId.uuid connection.workspaceId.uuid (K.ref target) connection.userId.uuid
        connection.connectionId.uuid) nonce sealedAt with
  | .error _ => none
  | .ok issued =>
    match UploadGrant.issue uploadId connection.workspaceId target declaration connection.userId
        connection.connectionId issuedAt issued.expiresAt with
    | .error _ => none
    | .ok grant => some (issued, grant)

/-- the authority of a credential; why it is refused is not told -/
def UploadAuthority.verify (C : GrantClaimKind K.Ref)
    (T : PasetoTokens implicitAssertion (GrantClaims C.Texts) Key Nonce) (credential : String)
    (now : Int) : Option (UploadAuthority K) :=
  (C.resolve T credential now).map fun claims =>
    { uploadId := ⟨claims.grantId⟩
      workspaceId := ⟨claims.workspaceId⟩
      ref := claims.target
      issuedByUserId := ⟨claims.issuedByUserId⟩
      issuedViaAgentConnectionId := ⟨claims.issuedViaAgentConnectionId⟩
      expiresAt := claims.expiresAt }

variable {C : GrantClaimKind K.Ref}
  {T : PasetoTokens implicitAssertion (GrantClaims C.Texts) Key Nonce}
  {connection : AgentConnectionContext} {uploadId : Id K.idKind} {target : K.Target}
  {declaration : DeclaredUploadFile} {ttl issuedAt sealedAt now : Int} {nonce : Nonce}
  {token : IssuedPasetoToken} {grant : UploadGrant K}

theorem sealGrant_ok
    (h : sealGrant C T connection uploadId target declaration ttl issuedAt sealedAt nonce
      = some (token, grant)) :
    T.encrypt ⟨connection.userId.uuid, uploadId.uuid, issuedAt + ttl⟩
        (C.new uploadId.uuid connection.workspaceId.uuid (K.ref target) connection.userId.uuid
          connection.connectionId.uuid) nonce sealedAt = .ok token ∧
      issuedAt < token.expiresAt ∧
      grant = .new connection uploadId target declaration issuedAt token.expiresAt := by
  unfold sealGrant at h
  split at h
  · cases h
  · next issued hencrypt =>
    split at h
    · cases h
    · next g hissue =>
      cases h
      unfold UploadGrant.issue at hissue
      split at hissue
      · cases hissue
      · next hlt =>
        cases hissue
        exact ⟨hencrypt, not_le.mp hlt, rfl⟩

/-- **A grant that is to live for two seconds or more is issued**, where the encryption works and the clock
stays within a second between its two readings. -/
theorem sealGrant_of_ttl (httl : seconds 2 ≤ ttl) (hclock : sealedAt ≤ issuedAt + seconds 1)
    (hencrypt : ∀ payload footer,
      (T.layer.encrypt T.keys.activeKey nonce payload footer implicitAssertion).isSome = true) :
    ∃ token grant, sealGrant C T connection uploadId target declaration ttl issuedAt sealedAt nonce
      = some (token, grant) ∧ floorSec sealedAt < token.expiresAt := by
  have hlt : sealedAt < issuedAt + ttl := by
    unfold seconds at *
    omega
  have hfloor : issuedAt < floorSec (issuedAt + ttl) := by
    unfold floorSec ofUnixSec unixSec seconds at *
    omega
  have hwindow : floorSec sealedAt < floorSec (issuedAt + ttl) := by
    apply floorSec_lt
    unfold seconds at *
    omega
  unfold sealGrant PasetoTokens.encrypt
  rw [if_neg (not_le.mpr hlt)]
  dsimp only
  split
  · next e herror =>
    split at herror
    · next hnone => exact absurd (hencrypt _ _) (by rw [hnone]; simp)
    · cases herror
  · next issued hok =>
    split at hok
    · cases hok
    · cases hok
      unfold UploadGrant.issue
      rw [if_neg (not_le.mpr hfloor)]
      exact ⟨_, _, rfl, hwindow⟩

/-- **Until the expiry that was told, a credential verifies to the authority of its grant.** -/
theorem verify_sealed (hT : T.layer.Faithful)
    (h : sealGrant C T connection uploadId target declaration ttl issuedAt sealedAt nonce
      = some (token, grant))
    (hfrom : floorSec sealedAt ≤ now) (hto : now < token.expiresAt) :
    UploadAuthority.verify C T token.token now = some grant.authority := by
  obtain ⟨hencrypt, -, rfl⟩ := sealGrant_ok h
  unfold UploadAuthority.verify
  rw [GrantClaimKind.resolve_issued hT hencrypt hfrom hto]
  rfl

/-- at no instant does a credential verify to another authority -/
theorem verify_sealed_only (hT : T.layer.Faithful)
    (h : sealGrant C T connection uploadId target declaration ttl issuedAt sealedAt nonce
      = some (token, grant))
    {authority : UploadAuthority K}
    (hv : UploadAuthority.verify C T token.token now = some authority) : authority = grant.authority := by
  obtain ⟨hencrypt, -, rfl⟩ := sealGrant_ok h
  unfold UploadAuthority.verify at hv
  obtain ⟨claims, hclaims, rfl⟩ := Option.map_eq_some_iff.mp hv
  rw [GrantClaimKind.resolve_only hT hencrypt hclaims]
  rfl

/-- the expiry of a sealed grant is in whole seconds, which the database keeps -/
theorem sealGrant_authority_toRow
    (h : sealGrant C T connection uploadId target declaration ttl issuedAt sealedAt nonce
      = some (token, grant)) :
    grant.toRow.authority = grant.authority ∧ grant.toRow.expiresAt = token.expiresAt := by
  obtain ⟨hencrypt, -, rfl⟩ := sealGrant_ok h
  obtain ⟨-, -, hfloor, -⟩ := PasetoTokens.encrypt_ok hencrypt
  have hexpires : pgTimestamp token.expiresAt = token.expiresAt := by
    rw [hfloor]
    exact (wholeSec_floorSec _).pgTimestamp_eq
  refine ⟨?_, hexpires⟩
  unfold UploadGrant.authority UploadGrant.toRow UploadGrant.new
  simp only [K.ref_toRow, hexpires]

end

def verifyAgentEvidenceUpload {Key Nonce : Type} (T : AgentEvidenceUploadGrantTokens Key Nonce) :
    String → Int → Option AgentEvidenceUploadAuthority :=
  UploadAuthority.verify (K := agentEvidenceUpload) agentEvidenceUploadGrantClaims T

def verifyAgentPolicyDocumentUpload {Key Nonce : Type}
    (T : AgentPolicyDocumentUploadGrantTokens Key Nonce) :
    String → Int → Option AgentPolicyDocumentUploadAuthority :=
  UploadAuthority.verify (K := agentPolicyDocumentUpload) agentPolicyDocumentUploadGrantClaims T

/-! ## The commands -/

inductive AgentIssueOutcome (K : UploadTarget)
  | issued (grant : IssuedUploadGrant K)
  | unavailable | currentDocument | internal

/-- the answer to an issuance, and the tables after it -/
def settleIssue {K : UploadTarget} (db : DocumentDb)
    (work : Except RepositoryError (AgentIssueOutcome K × DocumentDb)) :
    Except AgentUploadGrantError (IssuedUploadGrant K) × DocumentDb :=
  match work with
  | .error e => (.error (.repository e), db)
  | .ok (.unavailable, db) => (.error .unavailable, db)
  | .ok (.currentDocument, db) => (.error .currentDocument, db)
  | .ok (.internal, db) => (.error .internal, db)
  | .ok (.issued grant, db) => (.ok grant, db)

/-- a grant saved and read back; `unreadable` is the message where it cannot be read -/
def saveIssuedGrant {K : UploadTarget} (unreadable credential : String) (grant : UploadGrant K)
    (save : Except RepositoryError DocumentDb)
    (get : DocumentDb → Id K.idKind → WorkspaceId → Except RepositoryError (Option (UploadGrant K))) :
    Except RepositoryError (AgentIssueOutcome K × DocumentDb) :=
  match save with
  | .error e => .error e
  | .ok db =>
    match get db grant.id grant.workspaceId with
    | .error e => .error e
    | .ok none => .error (.invariantViolation unreadable)
    | .ok (some grant) => .ok (.issued ⟨grant, credential⟩, db)

structure IssueAgentEvidenceUploadGrant where
  connection : AgentConnectionContext
  evidenceId : EvidenceId
  coverage : CoverageWindow
  declaration : DeclaredUploadFile
  deriving DecidableEq, Repr

structure IssueAgentPolicyDocumentUploadGrant where
  connection : AgentConnectionContext
  policyId : PolicyId
  declaration : DeclaredUploadFile
  deriving DecidableEq, Repr

section
variable {Key Nonce : Type}

/-- the command with any lifetime; the ids are the random ones that it draws -/
def issueAgentEvidenceUploadGrantFor (ttl : Int) (T : AgentEvidenceUploadGrantTokens Key Nonce)
    (db : DocumentDb) (command : IssueAgentEvidenceUploadGrant)
    (uploadId : AgentEvidenceUploadGrantId) (submissionId : EvidenceSubmissionId)
    (issuedAt sealedAt : Int) (nonce : Nonce) :
    Except AgentUploadGrantError IssuedAgentEvidenceUploadGrant × DocumentDb :=
  if command.connection.permissions.has .writeEvidenceSubmissions = false then
    (.error .unavailable, db)
  else
    settleIssue db
      (match db.getEvidence command.connection.workspaceId command.evidenceId with
      | none => .ok (.unavailable, db)
      | some _ =>
        match sealGrant (K := agentEvidenceUpload) agentEvidenceUploadGrantClaims T command.connection
            uploadId ⟨submissionId, command.evidenceId, command.coverage⟩ command.declaration ttl
            issuedAt sealedAt nonce with
        | none => .ok (.internal, db)
        | some (issued, grant) =>
          saveIssuedGrant "saved machine upload grant must be readable" issued.token grant
            (db.saveEvidenceGrant grant) fun db => db.getEvidenceGrant)

def issueAgentEvidenceUploadGrant (T : AgentEvidenceUploadGrantTokens Key Nonce) (db : DocumentDb)
    (command : IssueAgentEvidenceUploadGrant) (uploadId : AgentEvidenceUploadGrantId)
    (submissionId : EvidenceSubmissionId) (issuedAt sealedAt : Int) (nonce : Nonce) :
    Except AgentUploadGrantError IssuedAgentEvidenceUploadGrant × DocumentDb :=
  issueAgentEvidenceUploadGrantFor agentUploadGrantTtl T db command uploadId submissionId issuedAt
    sealedAt nonce

/-- the credential is sealed before the policy is looked at -/
def issueAgentPolicyDocumentUploadGrantFor (ttl : Int)
    (T : AgentPolicyDocumentUploadGrantTokens Key Nonce) (db : DocumentDb)
    (command : IssueAgentPolicyDocumentUploadGrant) (uploadId : AgentPolicyDocumentUploadGrantId)
    (issuedAt sealedAt : Int) (nonce : Nonce) :
    Except AgentUploadGrantError IssuedAgentPolicyDocumentUploadGrant × DocumentDb :=
  if command.connection.permissions.has .writeControls = false then (.error .unavailable, db)
  else
    match sealGrant (K := agentPolicyDocumentUpload) agentPolicyDocumentUploadGrantClaims T
        command.connection uploadId command.policyId command.declaration ttl issuedAt sealedAt
        nonce with
    | none => (.error .internal, db)
    | some (issued, grant) =>
      settleIssue db
        (match db.lockDocumentUploadEligibility command.connection.workspaceId grant.policyId with
        | none => .ok (.unavailable, db)
        | some .currentDocument => .ok (.currentDocument, db)
        | some .eligible =>
          saveIssuedGrant "saved policy machine upload grant must be readable" issued.token grant
            (db.savePolicyGrant grant) fun db => db.getPolicyGrant)

def issueAgentPolicyDocumentUploadGrant (T : AgentPolicyDocumentUploadGrantTokens Key Nonce)
    (db : DocumentDb) (command : IssueAgentPolicyDocumentUploadGrant)
    (uploadId : AgentPolicyDocumentUploadGrantId) (issuedAt sealedAt : Int) (nonce : Nonce) :
    Except AgentUploadGrantError IssuedAgentPolicyDocumentUploadGrant × DocumentDb :=
  issueAgentPolicyDocumentUploadGrantFor agentUploadGrantTtl T db command uploadId issuedAt sealedAt
    nonce

/-! ## What an issuance does -/

theorem settleIssue_ok {K : UploadTarget} {db db' : DocumentDb} {issued : IssuedUploadGrant K}
    {work : Except RepositoryError (AgentIssueOutcome K × DocumentDb)}
    (h : settleIssue db work = (.ok issued, db')) : work = .ok (.issued issued, db') := by
  unfold settleIssue at h
  split at h
  · cases h
  · cases h
  · cases h
  · cases h
  · cases h
    rfl

/-- what is answered is what was stored -/
theorem saveIssuedGrant_ok {K : UploadTarget} {unreadable credential inconsistent : String}
    {grant : UploadGrant K} {db' : DocumentDb} {issued : IssuedUploadGrant K}
    {save : Except RepositoryError DocumentDb} (db : DocumentDb)
    (grants : DocumentDb → Table (UploadGrant.id (K := K)))
    (hsave : ∀ saved, save = .ok saved → grants saved = (grants db).upsert grant.toRow)
    (h : saveIssuedGrant unreadable credential grant save
      (fun db => DocumentDb.getGrant (grants db) inconsistent) = .ok (.issued issued, db')) :
    save = .ok db' ∧ issued = ⟨grant.toRow, credential⟩ := by
  unfold saveIssuedGrant at h
  split at h
  · cases h
  · next saved =>
    split at h
    · cases h
    · cases h
    · next g hget =>
      cases h
      obtain ⟨hmem, hid, -, -⟩ := DocumentDb.getGrant_ok hget
      rw [hsave _ rfl] at hmem
      have hg : g = grant.toRow :=
        Table.eq_of_key _ hmem (Table.mem_upsert.mpr (.inl rfl)) hid
      rw [hg]
      exact ⟨rfl, rfl⟩

variable {db db' : DocumentDb} {ttl issuedAt sealedAt : Int} {nonce : Nonce}

/-- **What the evidence command seals, stores and answers.** -/
theorem issueAgentEvidenceUploadGrant_ok {T : AgentEvidenceUploadGrantTokens Key Nonce}
    {command : IssueAgentEvidenceUploadGrant} {uploadId : AgentEvidenceUploadGrantId}
    {submissionId : EvidenceSubmissionId} {issued : IssuedAgentEvidenceUploadGrant}
    (h : issueAgentEvidenceUploadGrantFor ttl T db command uploadId submissionId issuedAt sealedAt nonce
      = (.ok issued, db')) :
    ∃ token grant, sealGrant (K := agentEvidenceUpload) agentEvidenceUploadGrantClaims T
        command.connection uploadId ⟨submissionId, command.evidenceId, command.coverage⟩
        command.declaration ttl issuedAt sealedAt nonce = some (token, grant) ∧
      db.saveEvidenceGrant grant = .ok db' ∧ issued = ⟨grant.toRow, token.token⟩ := by
  unfold issueAgentEvidenceUploadGrantFor at h
  split at h
  · cases h
  · have hwork := settleIssue_ok h
    split at hwork
    · cases hwork
    · split at hwork
      · cases hwork
      · next token grant hsealed =>
        refine ⟨token, grant, hsealed, ?_⟩
        apply saveIssuedGrant_ok db DocumentDb.evidenceGrants _ hwork
        intro saved hsaved
        rw [(DocumentDb.saveEvidenceGrant_ok hsaved).1]

/-- **What the policy command seals, stores and answers.** -/
theorem issueAgentPolicyDocumentUploadGrant_ok {T : AgentPolicyDocumentUploadGrantTokens Key Nonce}
    {command : IssueAgentPolicyDocumentUploadGrant} {uploadId : AgentPolicyDocumentUploadGrantId}
    {issued : IssuedAgentPolicyDocumentUploadGrant}
    (h : issueAgentPolicyDocumentUploadGrantFor ttl T db command uploadId issuedAt sealedAt nonce
      = (.ok issued, db')) :
    ∃ token grant, sealGrant (K := agentPolicyDocumentUpload) agentPolicyDocumentUploadGrantClaims T
        command.connection uploadId command.policyId command.declaration ttl issuedAt sealedAt nonce
        = some (token, grant) ∧
      db.savePolicyGrant grant = .ok db' ∧ issued = ⟨grant.toRow, token.token⟩ := by
  unfold issueAgentPolicyDocumentUploadGrantFor at h
  split at h
  · cases h
  · split at h
    · cases h
    · next token grant hsealed =>
      have hwork := settleIssue_ok h
      refine ⟨token, grant, hsealed, ?_⟩
      split at hwork
      · cases hwork
      · cases hwork
      · apply saveIssuedGrant_ok db DocumentDb.policyGrants _ hwork
        intro saved hsaved
        rw [(DocumentDb.savePolicyGrant_ok hsaved).1]

end

end Proofplane
