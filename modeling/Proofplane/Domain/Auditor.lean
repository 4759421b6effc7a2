import Proofplane.Base.Text
import Proofplane.Base.Time
import Proofplane.Domain.Ids

/-!
# Auditor access

An agent grants an auditor access to a workspace for a review period.  The auditor authenticates in a
transaction of ten minutes, which leads to a session.

* `AuditReviewPeriod`        a period, which ends no earlier than it starts;
* `AuditorAccessGrant`       `issue`, `rehydrate`, `revoke`;
* `AuditorAuthTransaction`   `start`, `rehydrate`, `claim`;
* `AuditorSession`           `create`, `rehydrate`, `touch`, `revoke`;
* `claim_ok`                 **only a transaction that is neither claimed nor expired is claimed**.
-/

namespace Proofplane
open Base

/-- a period that `AuditReviewPeriod::new` accepts -/
@[ext] structure AuditReviewPeriod where
  periodStart : Int
  periodEnd : Int
  ordered : periodStart ≤ periodEnd
  deriving DecidableEq, Repr

/-- the two columns of a period -/
def AuditReviewPeriod.toRow (p : AuditReviewPeriod) : AuditReviewPeriod :=
  ⟨pgTimestamp p.periodStart, pgTimestamp p.periodEnd, pgTimestamp_mono p.ordered⟩

/-- an address that `normalize_email` may have written -/
def validNormalizedEmail (value : String) : Bool :=
  match value.toList.dropWhile (· ≠ '@') with
  | [] => false
  | _ :: domain =>
    !(value.toList.takeWhile (· ≠ '@')).isEmpty && !domain.isEmpty && !domain.contains '@' &&
      value == trim value && value.toList.all fun c => !c.isUpper

/-! ## Grants -/

structure AuditorAccessGrant where
  id : AuditorAccessGrantId
  workspaceId : WorkspaceId
  auditorEmail : String
  createdByUserId : UserId
  createdViaAgentConnectionId : AgentConnectionId
  createdAt : Int
  expiresAt : Int
  period : AuditReviewPeriod
  revokedAt : Option Int
  secretDigest : Sha256Digest
  deriving DecidableEq, Repr

inductive AuditorAccessGrantRevocation
  | revoked | alreadyRevoked
  deriving DecidableEq, Repr

inductive AuditorAccessGrantLifecycleError
  | invalidIssuance | invalidRehydration | invalidRevocation
  deriving DecidableEq, Repr

namespace AuditorAccessGrant

def issue (id : AuditorAccessGrantId) (workspaceId : WorkspaceId) (auditorEmail : String)
    (secretDigest : Sha256Digest) (createdByUserId : UserId)
    (createdViaAgentConnectionId : AgentConnectionId) (createdAt expiresAt : Int)
    (period : AuditReviewPeriod) : Except AuditorAccessGrantLifecycleError AuditorAccessGrant :=
  if expiresAt ≤ createdAt ∨ validNormalizedEmail auditorEmail = false then .error .invalidIssuance
  else
    .ok
      { id, workspaceId, auditorEmail, createdByUserId, createdViaAgentConnectionId, createdAt
        expiresAt, period, revokedAt := none, secretDigest }

def rehydrate (row : AuditorAccessGrant) :
    Except AuditorAccessGrantLifecycleError AuditorAccessGrant :=
  match issue row.id row.workspaceId row.auditorEmail row.secretDigest row.createdByUserId
      row.createdViaAgentConnectionId row.createdAt row.expiresAt row.period with
  | .error _ => .error .invalidRehydration
  | .ok grant =>
    if row.revokedAt.any fun t => decide (t < row.createdAt) then .error .invalidRehydration
    else .ok { grant with revokedAt := row.revokedAt }

def revoke (g : AuditorAccessGrant) (revokedAt : Int) :
    Except AuditorAccessGrantLifecycleError (AuditorAccessGrantRevocation × AuditorAccessGrant) :=
  if g.revokedAt.isSome then .ok (.alreadyRevoked, g)
  else if revokedAt < g.createdAt then .error .invalidRevocation
  else .ok (.revoked, { g with revokedAt := some revokedAt })

/-- the row of a grant: every instant in whole microseconds -/
def toRow (g : AuditorAccessGrant) : AuditorAccessGrant :=
  { g with
    createdAt := pgTimestamp g.createdAt
    expiresAt := pgTimestamp g.expiresAt
    period := g.period.toRow
    revokedAt := g.revokedAt.map pgTimestamp }

/-- what no operation changes of a stored grant -/
structure SameGrant (g g' : AuditorAccessGrant) : Prop where
  id : g'.id = g.id
  workspaceId : g'.workspaceId = g.workspaceId
  auditorEmail : g'.auditorEmail = g.auditorEmail
  expiresAt : g'.expiresAt = g.expiresAt
  period : g'.period = g.period

theorem toRow_toRow (g : AuditorAccessGrant) : g.toRow.toRow = g.toRow := by
  have hperiod : g.period.toRow.toRow = g.period.toRow :=
    AuditReviewPeriod.ext (pgTimestamp_idem _) (pgTimestamp_idem _)
  have hrevoked : (g.revokedAt.map pgTimestamp).map pgTimestamp = g.revokedAt.map pgTimestamp := by
    cases g.revokedAt with
    | none => rfl
    | some t => exact congrArg some (pgTimestamp_idem t)
  unfold toRow
  dsimp only
  rw [pgTimestamp_idem, pgTimestamp_idem, hperiod, hrevoked]

/-- the row of a stored grant after its revocation -/
def revokedRow (g : AuditorAccessGrant) (t : Int) : AuditorAccessGrant :=
  ({ g with revokedAt := some t } : AuditorAccessGrant).toRow

theorem sameGrant_revokedRow {g : AuditorAccessGrant} (hstored : g.toRow = g) (t : Int) :
    g.SameGrant (g.revokedRow t) := by
  have hexpires : g.toRow.expiresAt = g.expiresAt := congrArg AuditorAccessGrant.expiresAt hstored
  have hperiod : g.toRow.period = g.period := congrArg AuditorAccessGrant.period hstored
  exact ⟨rfl, rfl, rfl, hexpires, hperiod⟩

theorem rehydrate_ok {row g : AuditorAccessGrant} (h : row.rehydrate = .ok g) : g = row := by
  unfold rehydrate issue at h
  split at h
  · cases h
  · next grant hissue =>
    split at hissue
    · cases hissue
    · cases hissue
      split at h
      · cases h
      · cases h
        rfl

theorem issue_ok {id : AuditorAccessGrantId} {workspaceId : WorkspaceId} {auditorEmail : String}
    {digest : Sha256Digest} {user : UserId} {connection : AgentConnectionId}
    {createdAt expiresAt : Int} {period : AuditReviewPeriod} {g : AuditorAccessGrant}
    (h : issue id workspaceId auditorEmail digest user connection createdAt expiresAt period = .ok g) :
    g = ⟨id, workspaceId, auditorEmail, user, connection, createdAt, expiresAt, period, none,
      digest⟩ := by
  unfold issue at h
  split at h
  · cases h
  · cases h
    rfl

/-- what a revocation answers, and what it leaves -/
theorem revoke_ok {g g' : AuditorAccessGrant} {t : Int} {r : AuditorAccessGrantRevocation}
    (h : g.revoke t = .ok (r, g')) :
    (r = .alreadyRevoked ∧ g.revokedAt.isSome = true ∧ g' = g) ∨
    (r = .revoked ∧ g.revokedAt = none ∧ g' = { g with revokedAt := some t }) := by
  unfold revoke at h
  split at h
  · next hsome =>
    cases h
    exact .inl ⟨rfl, hsome, rfl⟩
  · next hnone =>
    split at h
    · cases h
    · cases h
      exact .inr ⟨rfl, Option.not_isSome_iff_eq_none.mp hnone, rfl⟩

end AuditorAccessGrant

/-! ## Authentication transactions -/

structure AuditorAuthTransaction where
  id : AuditorAuthTransactionId
  grantId : AuditorAccessGrantId
  stateDigest : Sha256Digest
  nonceDigest : Sha256Digest
  pkceVerifier : String
  expiresAt : Int
  consumedAt : Option Int
  createdAt : Int
  updatedAt : Int
  deriving DecidableEq, Repr

inductive AuditorAuthTransactionLifecycleError
  | invalidCreation | invalidRehydration | unavailable
  deriving DecidableEq, Repr

namespace AuditorAuthTransaction

def start (id : AuditorAuthTransactionId) (grantId : AuditorAccessGrantId)
    (stateDigest nonceDigest : Sha256Digest) (pkceVerifier : String) (createdAt expiresAt : Int) :
    Except AuditorAuthTransactionLifecycleError AuditorAuthTransaction :=
  if expiresAt ≤ createdAt ∨ ¬ (43 ≤ pkceVerifier.utf8ByteSize ∧ pkceVerifier.utf8ByteSize ≤ 128) then
    .error .invalidCreation
  else
    .ok
      { id, grantId, stateDigest, nonceDigest, pkceVerifier, expiresAt, consumedAt := none
        createdAt, updatedAt := createdAt }

def rehydrate (row : AuditorAuthTransaction) :
    Except AuditorAuthTransactionLifecycleError AuditorAuthTransaction :=
  match start row.id row.grantId row.stateDigest row.nonceDigest row.pkceVerifier row.createdAt
      row.expiresAt with
  | .error _ => .error .invalidRehydration
  | .ok transaction =>
    if (row.consumedAt.any fun t => decide (t < row.createdAt) || decide (row.expiresAt ≤ t)) = true ∨
        row.updatedAt < row.createdAt ∨
        (row.consumedAt.any fun t => decide (row.updatedAt < t)) = true then
      .error .invalidRehydration
    else .ok { transaction with consumedAt := row.consumedAt, updatedAt := row.updatedAt }

def claim (t : AuditorAuthTransaction) (consumedAt : Int) :
    Except AuditorAuthTransactionLifecycleError AuditorAuthTransaction :=
  if t.consumedAt.isSome = true ∨ consumedAt < t.createdAt ∨ t.expiresAt ≤ consumedAt then
    .error .unavailable
  else .ok { t with consumedAt := some consumedAt, updatedAt := consumedAt }

def toRow (t : AuditorAuthTransaction) : AuditorAuthTransaction :=
  { t with
    expiresAt := pgTimestamp t.expiresAt
    consumedAt := t.consumedAt.map pgTimestamp
    createdAt := pgTimestamp t.createdAt
    updatedAt := pgTimestamp t.updatedAt }

theorem rehydrate_ok {row t : AuditorAuthTransaction} (h : row.rehydrate = .ok t) : t = row := by
  unfold rehydrate start at h
  split at h
  · cases h
  · next transaction hstart =>
    split at hstart
    · cases hstart
    · cases hstart
      split at h
      · cases h
      · cases h
        rfl

theorem start_ok {id : AuditorAuthTransactionId} {grantId : AuditorAccessGrantId}
    {stateDigest nonceDigest : Sha256Digest} {pkceVerifier : String} {createdAt expiresAt : Int}
    {t : AuditorAuthTransaction}
    (h : start id grantId stateDigest nonceDigest pkceVerifier createdAt expiresAt = .ok t) :
    t = ⟨id, grantId, stateDigest, nonceDigest, pkceVerifier, expiresAt, none, createdAt,
      createdAt⟩ := by
  unfold start at h
  split at h
  · cases h
  · cases h
    rfl

/-- **Only a transaction that is neither claimed nor expired is claimed.** -/
theorem claim_ok {t t' : AuditorAuthTransaction} {now : Int} (h : t.claim now = .ok t') :
    t.consumedAt = none ∧ t.createdAt ≤ now ∧ now < t.expiresAt ∧
      t' = { t with consumedAt := some now, updatedAt := now } := by
  unfold claim at h
  split at h
  · cases h
  · next hopen =>
    cases h
    push Not at hopen
    obtain ⟨hnone, hcreated, hexpires⟩ := hopen
    exact ⟨Option.not_isSome_iff_eq_none.mp hnone, hcreated, hexpires, rfl⟩

end AuditorAuthTransaction

/-! ## Sessions -/

structure AuditorSession where
  id : AuditorSessionId
  grantId : AuditorAccessGrantId
  workspaceId : WorkspaceId
  auditorEmail : String
  auth0Subject : String
  expiresAt : Int
  period : AuditReviewPeriod
  revokedAt : Option Int
  lastUsedAt : Int
  createdAt : Int
  updatedAt : Int
  sessionDigest : Sha256Digest
  deriving DecidableEq, Repr

inductive AuditorSessionTransition
  | used | revoked | alreadyRevoked
  deriving DecidableEq, Repr

inductive AuditorSessionLifecycleError
  | invalidCreation | invalidRehydration | unavailable | invalidTransition
  deriving DecidableEq, Repr

namespace AuditorSession

def create (id : AuditorSessionId) (grantId : AuditorAccessGrantId) (workspaceId : WorkspaceId)
    (auditorEmail : String) (sessionDigest : Sha256Digest) (auth0Subject : String) (expiresAt : Int)
    (period : AuditReviewPeriod) (createdAt : Int) :
    Except AuditorSessionLifecycleError AuditorSession :=
  if expiresAt ≤ createdAt ∨ isBlank auth0Subject = true ∨ validNormalizedEmail auditorEmail = false then
    .error .invalidCreation
  else
    .ok
      { id, grantId, workspaceId, auditorEmail, auth0Subject, expiresAt, period, revokedAt := none
        lastUsedAt := createdAt, createdAt, updatedAt := createdAt, sessionDigest }

def rehydrate (row : AuditorSession) : Except AuditorSessionLifecycleError AuditorSession :=
  match create row.id row.grantId row.workspaceId row.auditorEmail row.sessionDigest row.auth0Subject
      row.expiresAt row.period row.createdAt with
  | .error _ => .error .invalidRehydration
  | .ok session =>
    if row.lastUsedAt < row.createdAt ∨ (row.revokedAt.any fun t => decide (t < row.createdAt)) = true ∨
        row.updatedAt < row.createdAt ∨ row.updatedAt < row.lastUsedAt ∨
        (row.revokedAt.any fun t => decide (row.updatedAt < t)) = true then
      .error .invalidRehydration
    else
      .ok
        { session with
          revokedAt := row.revokedAt
          lastUsedAt := row.lastUsedAt
          updatedAt := row.updatedAt }

def ensureActiveAt (s : AuditorSession) (now : Int) : Except AuditorSessionLifecycleError Unit :=
  if s.revokedAt.isSome = true ∨ s.expiresAt ≤ now then .error .unavailable else .ok ()

def touch (s : AuditorSession) (usedAt : Int) :
    Except AuditorSessionLifecycleError (AuditorSessionTransition × AuditorSession) :=
  match s.ensureActiveAt usedAt with
  | .error e => .error e
  | .ok () =>
    if usedAt < s.createdAt ∨ usedAt < s.lastUsedAt then .error .invalidTransition
    else .ok (.used, { s with lastUsedAt := usedAt, updatedAt := usedAt })

def revoke (s : AuditorSession) (revokedAt : Int) :
    Except AuditorSessionLifecycleError (AuditorSessionTransition × AuditorSession) :=
  if s.revokedAt.isSome then .ok (.alreadyRevoked, s)
  else if revokedAt < s.createdAt then .error .invalidTransition
  else .ok (.revoked, { s with revokedAt := some revokedAt, updatedAt := revokedAt })

theorem create_ok {id : AuditorSessionId} {grantId : AuditorAccessGrantId} {workspaceId : WorkspaceId}
    {auditorEmail : String} {digest : Sha256Digest} {auth0Subject : String} {expiresAt createdAt : Int}
    {period : AuditReviewPeriod} {s : AuditorSession}
    (h : create id grantId workspaceId auditorEmail digest auth0Subject expiresAt period createdAt
      = .ok s) :
    s = ⟨id, grantId, workspaceId, auditorEmail, auth0Subject, expiresAt, period, none, createdAt,
      createdAt, createdAt, digest⟩ := by
  unfold create at h
  split at h
  · cases h
  · cases h
    rfl

theorem rehydrate_ok {row s : AuditorSession} (h : row.rehydrate = .ok s) : s = row := by
  unfold rehydrate at h
  split at h
  · cases h
  · next session hcreate =>
    split at h
    · cases h
    · cases h
      rw [create_ok hcreate]

theorem revoke_ok {s s' : AuditorSession} {t : Int} {r : AuditorSessionTransition}
    (h : s.revoke t = .ok (r, s')) :
    (r = .alreadyRevoked ∧ s.revokedAt.isSome = true ∧ s' = s) ∨
    (r = .revoked ∧ s.revokedAt = none ∧
      s' = { s with revokedAt := some t, updatedAt := t }) := by
  unfold revoke at h
  split at h
  · next hsome =>
    cases h
    exact .inl ⟨rfl, hsome, rfl⟩
  · next hnone =>
    split at h
    · cases h
    · cases h
      exact .inr ⟨rfl, Option.not_isSome_iff_eq_none.mp hnone, rfl⟩

end AuditorSession

end Proofplane
