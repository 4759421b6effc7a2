import Proofplane.Auditor.Store
import Proofplane.Authentication.Email
import Proofplane.Domain.Permission

/-!
# The commands behind the auditor portal

Each command is one unit of work, which answers and leaves tables behind, or fails and leaves nothing.

* `issueAuditorAccessGrant`, `revokeAuditorAccessGrant`   an agent gives access, and takes it back;
* `startAuditorAuthTransaction`, `claimAuditorAuthTransaction`, `createAuthenticatedAuditorSession`
                              the steps of an auditor to a session;
* `revokeAuditorSession`      and out of it.

Each has a lemma `…_ok` on all that it does when it succeeds.
-/

namespace Proofplane
open Base

def auditorSessionTtl : Int := days 7

def auditorTransactionTtl : Int := minutes 10

def defaultGrantTtl : Int := days 30

structure IssueAuditorAccessGrant where
  connection : AgentConnectionContext
  auditorEmail : String
  expiresAt : Option Int
  period : AuditReviewPeriod

inductive IssueAuditorAccessGrantError
  | denied | expiresAtInPast | invalidEmail
  | repository (error : RepositoryError)
  deriving DecidableEq, Repr

inductive RevokeAuditorAccessGrantError
  | unavailable | denied
  | repository (error : RepositoryError)
  deriving DecidableEq, Repr

inductive StartAuditorAuthTransactionError
  | unavailable
  | repository (error : RepositoryError)
  deriving DecidableEq, Repr

inductive ClaimAuditorAuthTransactionError
  | unavailable
  | repository (error : RepositoryError)
  deriving DecidableEq, Repr

inductive CreateAuthenticatedAuditorSessionError
  | unavailable | random
  | repository (error : RepositoryError)
  deriving DecidableEq, Repr

inductive RevokeAuditorSessionError
  | unavailable
  | repository (error : RepositoryError)
  deriving DecidableEq, Repr

structure ClaimedAuditorAuthTransaction where
  id : AuditorAuthTransactionId
  grantId : AuditorAccessGrantId
  nonceDigest : Sha256Digest
  pkceVerifier : String
  expiresAt : Int
  consumedAt : Int
  deriving DecidableEq, Repr

structure CreateAuthenticatedAuditorSession where
  workspaceId : WorkspaceId
  grantId : AuditorAccessGrantId
  auth0Subject : String

/-- the claim of a transaction at an instant -/
def AuditorAuthTransaction.claimed (t : AuditorAuthTransaction) (consumedAt : Int) :
    ClaimedAuditorAuthTransaction :=
  ⟨t.id, t.grantId, t.nonceDigest, t.pkceVerifier, t.expiresAt, consumedAt⟩

/-- the row of a transaction after its claim -/
def AuditorAuthTransaction.claimedRow (t : AuditorAuthTransaction) (consumedAt : Int) :
    AuditorAuthTransaction :=
  ({ t with consumedAt := some consumedAt, updatedAt := consumedAt } : AuditorAuthTransaction).toRow

namespace AuditorDb

/-! ## Grants -/

def issueAuditorAccessGrant (isValid : String → Bool) (lowerTrim : String → String) (db : AuditorDb)
    (command : IssueAuditorAccessGrant) (grantId : AuditorAccessGrantId) (secretDigest : Sha256Digest)
    (issuedAt : Int) : Except IssueAuditorAccessGrantError (AuditorAccessGrant × AuditorDb) :=
  if command.connection.permissions.has .manageAuditorAccess = false then .error .denied
  else
    match normalizeEmail isValid command.auditorEmail with
    | none => .error .invalidEmail
    | some auditorEmail =>
      let expiresAt := command.expiresAt.getD (issuedAt + defaultGrantTtl)
      if expiresAt ≤ issuedAt then .error .expiresAtInPast
      else
        match AuditorAccessGrant.issue grantId command.connection.workspaceId auditorEmail secretDigest
            command.connection.userId command.connection.connectionId issuedAt expiresAt
            command.period with
        | .error _ =>
          .error (.repository (.invariantViolation "auditor access grant issuance must be valid"))
        | .ok grant =>
          match db.saveGrant lowerTrim grant with
          | .error e => .error (.repository e)
          | .ok db =>
            match db.getGrant grant.id command.connection.workspaceId with
            | .error e => .error (.repository e)
            | .ok none =>
              .error (.repository (.invariantViolation "saved auditor access grant must be readable"))
            | .ok (some grant) => .ok (grant, db)

def revokeAuditorAccessGrant (lowerTrim : String → String) (db : AuditorDb)
    (connection : AgentConnectionContext) (grantId : AuditorAccessGrantId) (now : Int) :
    Except RevokeAuditorAccessGrantError (AuditorAccessGrant × AuditorDb) :=
  if connection.permissions.has .manageAuditorAccess = false then .error .denied
  else
    match db.getGrant grantId connection.workspaceId with
    | .error e => .error (.repository e)
    | .ok none => .error .unavailable
    | .ok (some grant) =>
      match grant.revoke now with
      | .error _ =>
        .error (.repository (.invariantViolation "auditor access grant revocation must be valid"))
      | .ok (.alreadyRevoked, grant) => .ok (grant, db)
      | .ok (.revoked, grant) =>
        match db.saveGrant lowerTrim grant with
        | .error e => .error (.repository e)
        | .ok db => .ok (grant, db)

/-! ## Transactions -/

/-- the answer is the address, which goes into the redirect as a hint -/
def startAuditorAuthTransaction (sha256 : String → Sha256Digest) (db : AuditorDb)
    (workspaceId : WorkspaceId) (grantId : AuditorAccessGrantId)
    (transactionId : AuditorAuthTransactionId) (state nonce verifier : String) (now : Int) :
    Except StartAuditorAuthTransactionError (String × AuditorDb) :=
  match db.activeGrant grantId workspaceId now with
  | none => .error .unavailable
  | some grant =>
    match AuditorAuthTransaction.start transactionId grant.id (sha256 state) (sha256 nonce) verifier now
        (now + auditorTransactionTtl) with
    | .error _ =>
      .error (.repository
        (.invariantViolation "auditor authentication transaction creation is invalid"))
    | .ok transaction =>
      match db.saveTransaction transaction with
      | .error e => .error (.repository e)
      | .ok db => .ok (grant.auditorEmail, db)

def claimAuditorAuthTransaction (sha256 : String → Sha256Digest) (db : AuditorDb) (state : String)
    (now : Int) : Except ClaimAuditorAuthTransactionError (ClaimedAuditorAuthTransaction × AuditorDb) :=
  if isBlank state = true then .error .unavailable
  else
    match db.resolveIdByStateDigest (sha256 state) with
    | none => .error .unavailable
    | some transactionId =>
      match db.getTransaction transactionId with
      | .error e => .error (.repository e)
      | .ok none => .error .unavailable
      | .ok (some transaction) =>
        match transaction.claim now with
        | .error _ => .error .unavailable
        | .ok transaction =>
          match db.saveTransaction transaction with
          | .error e => .error (.repository e)
          | .ok db =>
            match transaction.consumedAt with
            | none =>
              .error (.repository
                (.invariantViolation "claimed transaction must record consumption"))
            | some consumedAt => .ok (transaction.claimed consumedAt, db)

/-! ## Sessions -/

/-- `rawSession` is `none` where no random value is to be had -/
def createAuthenticatedAuditorSession (sha256 : String → Sha256Digest) (lowerTrim : String → String)
    (db : AuditorDb) (command : CreateAuthenticatedAuditorSession) (sessionId : AuditorSessionId)
    (rawSession : Option String) (now : Int) :
    Except CreateAuthenticatedAuditorSessionError ((AuditorSession × String) × AuditorDb) :=
  if isBlank command.auth0Subject = true then .error .unavailable
  else
    match rawSession with
    | none => .error .random
    | some rawSession =>
      match db.activeGrant command.grantId command.workspaceId now with
      | none => .error .unavailable
      | some grant =>
        match AuditorSession.create sessionId grant.id command.workspaceId grant.auditorEmail
            (sha256 rawSession) command.auth0Subject (now + auditorSessionTtl) grant.period now with
        | .error _ =>
          .error (.repository (.invariantViolation "auditor session creation is invalid"))
        | .ok session =>
          match db.saveSession lowerTrim session with
          | .error e => .error (.repository e)
          | .ok db => .ok ((session, rawSession), db)

def revokeAuditorSession (sha256 : String → Sha256Digest) (lowerTrim : String → String) (db : AuditorDb)
    (rawSession : String) (now : Int) :
    Except RevokeAuditorSessionError ((AuditorSession × AuditorSessionTransition) × AuditorDb) :=
  match db.resolveIdBySessionDigest (sha256 rawSession) with
  | none => .error .unavailable
  | some sessionId =>
    match db.getSession sessionId with
    | .error e => .error (.repository e)
    | .ok none => .error .unavailable
    | .ok (some session) =>
      match session.revoke now with
      | .error _ =>
        .error (.repository (.invariantViolation "auditor session revocation is invalid"))
      | .ok (transition, session) =>
        match db.saveSession lowerTrim session with
        | .error e => .error (.repository e)
        | .ok db => .ok ((session, transition), db)

end AuditorDb

/-! ## What they do -/

namespace AuditorDb
variable {isValid : String → Bool} {lowerTrim : String → String} {sha256 : String → Sha256Digest}
  {db db' : AuditorDb}

/-- a new row of a grant that nobody has revoked -/
theorem issueAuditorAccessGrant_ok {command : IssueAuditorAccessGrant} {grantId : AuditorAccessGrantId}
    {digest : Sha256Digest} {now : Int} {answer : AuditorAccessGrant}
    (h : db.issueAuditorAccessGrant isValid lowerTrim command grantId digest now = .ok (answer, db')) :
    ∃ row : AuditorAccessGrant, row.id = grantId ∧ row.revokedAt = none ∧ row.toRow = row ∧
      db' = { db with grants := db.grants.upsert row } := by
  unfold issueAuditorAccessGrant at h
  split at h
  · cases h
  · split at h
    · cases h
    · dsimp only at h
      split at h
      · cases h
      · split at h
        · cases h
        · next grant hissue =>
          split at h
          · cases h
          · next saved hsave =>
            split at h
            · cases h
            · cases h
            · cases h
              refine ⟨grant.toRow, ?_, ?_, grant.toRow_toRow, saveGrant_ok hsave⟩
              · rw [AuditorAccessGrant.issue_ok hissue]
                rfl
              · rw [AuditorAccessGrant.issue_ok hissue]
                rfl

/-- the grant is revoked, and was so before or is from now on -/
theorem revokeAuditorAccessGrant_ok {connection : AgentConnectionContext}
    {grantId : AuditorAccessGrantId} {now : Int} {answer : AuditorAccessGrant}
    (h : db.revokeAuditorAccessGrant lowerTrim connection grantId now = .ok (answer, db')) :
    ∃ g, db.grants.get? grantId = some g ∧ answer.id = grantId ∧
      (g.revokedAt.isSome = true ∧ db' = db ∨
        db' = { db with grants := db.grants.upsert (g.revokedRow now) }) := by
  unfold revokeAuditorAccessGrant at h
  split at h
  · cases h
  · split at h
    · cases h
    · cases h
    · next g hget =>
      obtain ⟨hrow, -⟩ := getGrant_ok hget
      have hid : g.id = grantId := Table.get?_key hrow
      split at h
      · cases h
      · next g' hrevoke =>
        cases h
        rcases AuditorAccessGrant.revoke_ok hrevoke with ⟨-, hsome, rfl⟩ | ⟨hr, -⟩
        · exact ⟨answer, hrow, hid, .inl ⟨hsome, rfl⟩⟩
        · cases hr
      · next g' hrevoke =>
        rcases AuditorAccessGrant.revoke_ok hrevoke with ⟨hr, -⟩ | ⟨-, -, rfl⟩
        · cases hr
        · split at h
          · cases h
          · next saved hsave =>
            cases h
            exact ⟨g, hrow, hid, .inr (saveGrant_ok hsave)⟩

/-- a new transaction on a stored grant, not yet claimed -/
theorem startAuditorAuthTransaction_ok {workspaceId : WorkspaceId} {grantId : AuditorAccessGrantId}
    {transactionId : AuditorAuthTransactionId} {state nonce verifier email : String} {now : Int}
    (h : db.startAuditorAuthTransaction sha256 workspaceId grantId transactionId state nonce verifier
      now = .ok (email, db')) :
    ∃ row : AuditorAuthTransaction, row.id = transactionId ∧ row.consumedAt = none ∧
      db' = { db with transactions := db.transactions.upsert row } := by
  unfold startAuditorAuthTransaction at h
  split at h
  · cases h
  · split at h
    · cases h
    · next transaction hstart =>
      split at h
      · cases h
      · next saved hsave =>
        cases h
        refine ⟨transaction.toRow, ?_, ?_, (saveTransaction_ok hsave).1⟩
        · rw [AuditorAuthTransaction.start_ok hstart]
          rfl
        · rw [AuditorAuthTransaction.start_ok hstart]
          rfl

/-- **A claim is of a stored transaction that is neither claimed nor expired, and marks it.** -/
theorem claimAuditorAuthTransaction_ok {state : String} {now : Int}
    {claimed : ClaimedAuditorAuthTransaction}
    (h : db.claimAuditorAuthTransaction sha256 state now = .ok (claimed, db')) :
    ∃ t, db.transactions.get? t.id = some t ∧ t.stateDigest = sha256 state ∧ t.consumedAt = none ∧
      now < t.expiresAt ∧ claimed = t.claimed now ∧
      db' = { db with transactions := db.transactions.upsert (t.claimedRow now) } := by
  unfold claimAuditorAuthTransaction at h
  split at h
  · cases h
  · split at h
    · cases h
    · next id hid =>
      split at h
      · cases h
      · cases h
      · next t hget =>
        have hrow := getTransaction_ok hget
        obtain ⟨u, hu, hdigest, huid⟩ := resolveIdByStateDigest_some hid
        have htid : t.id = id := Table.get?_key hrow
        have heq : u = t :=
          db.transactions.eq_of_key hu (Table.get?_mem hrow) (huid.trans htid.symm)
        subst heq
        split at h
        · cases h
        · next t' hclaim =>
          obtain ⟨hopen, -, hexpires, rfl⟩ := AuditorAuthTransaction.claim_ok hclaim
          split at h
          · cases h
          · next saved hsave =>
            cases h
            exact ⟨u, Table.get?_of_mem hu, hdigest, hopen, hexpires, rfl, (saveTransaction_ok hsave).1⟩

/-- **A session is created on a grant that is active then, for the address of the grant.** -/
theorem createAuthenticatedAuditorSession_ok {command : CreateAuthenticatedAuditorSession}
    {sessionId : AuditorSessionId} {rawSession : Option String} {now : Int} {session : AuditorSession}
    {raw : String}
    (h : db.createAuthenticatedAuditorSession sha256 lowerTrim command sessionId rawSession now
      = .ok ((session, raw), db')) :
    ∃ g, db.grants.get? command.grantId = some g ∧ g.workspaceId = command.workspaceId ∧
      g.revokedAt = none ∧ pgTimestamp now < g.expiresAt ∧
      session = ⟨sessionId, g.id, command.workspaceId, g.auditorEmail, command.auth0Subject,
        now + auditorSessionTtl, g.period, none, now, now, now, sha256 raw⟩ ∧
      (∀ r ∈ db.sessions.rows, r.id ≠ session.id → r.sessionDigest ≠ session.sessionDigest) ∧
      db' = { db with sessions := db.sessions.upsert session.toRow } := by
  unfold createAuthenticatedAuditorSession at h
  split at h
  · cases h
  · split at h
    · cases h
    · split at h
      · cases h
      · next summary hactive =>
        obtain ⟨g, hget, hws, hopen, hexpires, rfl⟩ := activeGrant_some hactive
        split at h
        · cases h
        · next s hcreate =>
          split at h
          · cases h
          · next saved hsave =>
            cases h
            obtain ⟨hdb, hdistinct⟩ := saveSession_ok hsave
            exact ⟨g, hget, hws, hopen, hexpires, AuditorSession.create_ok hcreate, hdistinct, hdb⟩

/-- **The session with this secret is revoked**, and keeps what else it has. -/
theorem revokeAuditorSession_ok {rawSession : String} {now : Int}
    {answer : AuditorSession × AuditorSessionTransition}
    (h : db.revokeAuditorSession sha256 lowerTrim rawSession now = .ok (answer, db')) :
    ∃ row row' : AuditorSessionRow, db.sessions.get? answer.1.id = some row ∧
      row.sessionDigest = sha256 rawSession ∧ row.SameSession row' ∧ row'.revokedAt.isSome = true ∧
      (∀ r ∈ db.sessions.rows, r.id ≠ row'.id → r.sessionDigest ≠ row'.sessionDigest) ∧
      db' = { db with sessions := db.sessions.upsert row' } := by
  unfold revokeAuditorSession at h
  split at h
  · cases h
  · next sessionId hfind =>
    split at h
    · cases h
    · cases h
    · next session hget =>
      obtain ⟨row, grant, hrow, -, rfl⟩ := getSession_ok hget
      -- the row that the digest was found in is the one that was read
      obtain ⟨found, hfound, hfoundId⟩ := Option.map_eq_some_iff.mp hfind
      have htest := List.find?_some hfound
      have hdigest : found.sessionDigest = sha256 rawSession := of_decide_eq_true htest
      have hsameRow := Table.get?_of_mem (List.mem_of_find?_eq_some hfound)
      rw [hfoundId, hrow, Option.some.injEq] at hsameRow
      subst hsameRow
      have hself : db.sessions.get? row.id = some row := Table.get?_of_mem (Table.get?_mem hrow)
      split at h
      · cases h
      · next transition s hrevoke =>
        split at h
        · cases h
        · next saved hsave =>
          cases h
          obtain ⟨hdb, hdistinct⟩ := saveSession_ok hsave
          have hrevoked : s.id = row.id ∧ row.SameSession s.toRow ∧ s.toRow.revokedAt.isSome = true := by
            rcases AuditorSession.revoke_ok hrevoke with ⟨-, hsome, rfl⟩ | ⟨-, -, rfl⟩
            · exact ⟨rfl, ⟨rfl, rfl, rfl, rfl, rfl⟩, Option.isSome_map.trans hsome⟩
            · exact ⟨rfl, ⟨rfl, rfl, rfl, rfl, rfl⟩, rfl⟩
          obtain ⟨hid, hsame, hsome⟩ := hrevoked
          rw [← hid] at hself
          exact ⟨row, s.toRow, hself, hdigest, hsame, hsome, hdistinct, hdb⟩

end AuditorDb

end Proofplane
