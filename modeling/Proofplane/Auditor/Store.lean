import Proofplane.Base.Table
import Proofplane.Domain.Auditor
import Proofplane.Persistence.Workspaces

/-!
# Auditor access in the database

The tables `auditor_access_grants`, `auditor_auth_transactions` and `auditor_sessions`.  A save writes the
complete snapshot and is refused where a constraint of the table fails.

* `saveGrant`, `saveTransaction`, `saveSession`   the repositories, with a lemma on what each save does;
* `getGrant`, `getTransaction`, `getSession`      the locked reads of a snapshot;
* `activeGrant`, `resolveActiveGrant`, `resolveSession`   the reads that look for what is active.
-/

namespace Proofplane
open Base

/-- a row of `auditor_sessions`; the workspace and the period are those of its grant -/
structure AuditorSessionRow where
  id : AuditorSessionId
  grantId : AuditorAccessGrantId
  sessionDigest : Sha256Digest
  auditorEmail : String
  auth0Subject : String
  expiresAt : Int
  revokedAt : Option Int
  lastUsedAt : Int
  createdAt : Int
  updatedAt : Int
  deriving DecidableEq, Repr

structure AuditorDb where
  grants : Table AuditorAccessGrant.id
  transactions : Table AuditorAuthTransaction.id
  sessions : Table AuditorSessionRow.id

def AuditorDb.empty : AuditorDb := ⟨.empty, .empty, .empty⟩

/-! ## Constraints -/

/-- `position('@' IN …) > 1` -/
def startsBeforeAt (email : String) : Bool :=
  match email.toList with
  | [] => false
  | c :: rest => c != '@' && rest.contains '@'

/-- the `CHECK`s of `auditor_access_grants`; `lowerTrim` is `lower(trim(·))` -/
def AuditorAccessGrant.rowChecks (lowerTrim : String → String) (g : AuditorAccessGrant) : Bool :=
  g.auditorEmail == lowerTrim g.auditorEmail && startsBeforeAt g.auditorEmail &&
    decide (g.createdAt < g.expiresAt) && g.revokedAt.all fun t => decide (g.createdAt ≤ t)

/-- the `CHECK`s of `auditor_auth_transactions` -/
def AuditorAuthTransaction.rowChecks (t : AuditorAuthTransaction) : Bool :=
  decide (43 ≤ t.pkceVerifier.length) && decide (t.pkceVerifier.length ≤ 128)

/-- `btrim(…) <> ''`, which trims spaces only -/
def hasText (s : String) : Bool := s.toList.any (· ≠ ' ')

/-- the `CHECK`s of `auditor_sessions` -/
def AuditorSessionRow.rowChecks (lowerTrim : String → String) (s : AuditorSessionRow) : Bool :=
  s.auditorEmail == lowerTrim s.auditorEmail && hasText s.auth0Subject &&
    decide (s.createdAt < s.expiresAt) && s.revokedAt.all fun t => decide (s.createdAt ≤ t)

/-- the row of a session: every instant in whole microseconds -/
def AuditorSession.toRow (s : AuditorSession) : AuditorSessionRow where
  id := s.id
  grantId := s.grantId
  sessionDigest := s.sessionDigest
  auditorEmail := s.auditorEmail
  auth0Subject := s.auth0Subject
  expiresAt := pgTimestamp s.expiresAt
  revokedAt := s.revokedAt.map pgTimestamp
  lastUsedAt := pgTimestamp s.lastUsedAt
  createdAt := pgTimestamp s.createdAt
  updatedAt := pgTimestamp s.updatedAt

/-- the session that a row holds, with what it has of its grant -/
def AuditorSessionRow.withGrant (s : AuditorSessionRow) (g : AuditorAccessGrant) : AuditorSession where
  id := s.id
  grantId := s.grantId
  workspaceId := g.workspaceId
  auditorEmail := s.auditorEmail
  auth0Subject := s.auth0Subject
  expiresAt := s.expiresAt
  period := g.period
  revokedAt := s.revokedAt
  lastUsedAt := s.lastUsedAt
  createdAt := s.createdAt
  updatedAt := s.updatedAt
  sessionDigest := s.sessionDigest

/-- what no operation changes of a stored session -/
structure AuditorSessionRow.SameSession (r r' : AuditorSessionRow) : Prop where
  id : r'.id = r.id
  grantId : r'.grantId = r.grantId
  sessionDigest : r'.sessionDigest = r.sessionDigest
  auditorEmail : r'.auditorEmail = r.auditorEmail
  auth0Subject : r'.auth0Subject = r.auth0Subject

theorem AuditorSessionRow.SameSession.trans {r r' r'' : AuditorSessionRow} (h : r.SameSession r')
    (h' : r'.SameSession r'') : r.SameSession r'' :=
  ⟨h'.id.trans h.id, h'.grantId.trans h.grantId, h'.sessionDigest.trans h.sessionDigest,
    h'.auditorEmail.trans h.auditorEmail, h'.auth0Subject.trans h.auth0Subject⟩

/-- what a reader of grants is told -/
structure AuditorAccessGrantSummary where
  id : AuditorAccessGrantId
  auditorEmail : String
  createdAt : Int
  expiresAt : Int
  period : AuditReviewPeriod
  revokedAt : Option Int
  deriving DecidableEq, Repr

structure ResolvedActiveAuditorGrant where
  id : AuditorAccessGrantId
  workspaceId : WorkspaceId
  auditorEmail : String
  expiresAt : Int
  period : AuditReviewPeriod
  deriving DecidableEq, Repr

structure ResolvedAuditorSession where
  id : AuditorSessionId
  grantId : AuditorAccessGrantId
  workspaceId : WorkspaceId
  auditorEmail : String
  auth0Subject : String
  expiresAt : Int
  period : AuditReviewPeriod
  lastUsedAt : Int
  createdAt : Int
  deriving DecidableEq, Repr

namespace AuditorAccessGrant

/-- `revoked_at IS NULL AND expires_at > …` -/
def active (g : AuditorAccessGrant) (now : Int) : Bool := g.revokedAt.isNone && decide (now < g.expiresAt)

theorem active_iff (g : AuditorAccessGrant) (now : Int) :
    g.active now = true ↔ g.revokedAt = none ∧ now < g.expiresAt := by
  unfold active
  rw [Bool.and_eq_true, Option.isNone_iff_eq_none, decide_eq_true_eq]

def summary (g : AuditorAccessGrant) : AuditorAccessGrantSummary :=
  ⟨g.id, g.auditorEmail, g.createdAt, g.expiresAt, g.period, g.revokedAt⟩

def resolved (g : AuditorAccessGrant) : ResolvedActiveAuditorGrant :=
  ⟨g.id, g.workspaceId, g.auditorEmail, g.expiresAt, g.period⟩

end AuditorAccessGrant

namespace AuditorSessionRow

def active (s : AuditorSessionRow) (now : Int) : Bool := s.revokedAt.isNone && decide (now < s.expiresAt)

theorem active_iff (s : AuditorSessionRow) (now : Int) :
    s.active now = true ↔ s.revokedAt = none ∧ now < s.expiresAt := by
  unfold active
  rw [Bool.and_eq_true, Option.isNone_iff_eq_none, decide_eq_true_eq]

def resolved (s : AuditorSessionRow) (g : AuditorAccessGrant) : ResolvedAuditorSession :=
  ⟨s.id, s.grantId, g.workspaceId, s.auditorEmail, s.auth0Subject, s.expiresAt, g.period, s.lastUsedAt,
    s.createdAt⟩

end AuditorSessionRow

/-! ## Repositories -/

namespace AuditorDb

def getGrant (db : AuditorDb) (id : AuditorAccessGrantId) (workspaceId : WorkspaceId) :
    Except RepositoryError (Option AuditorAccessGrant) :=
  match (db.grants.get? id).filter fun g => g.workspaceId = workspaceId with
  | none => .ok none
  | some row =>
    match row.rehydrate with
    | .error _ => .error (.invariantViolation "persisted auditor access grant is inconsistent")
    | .ok g => .ok (some g)

def saveGrant (lowerTrim : String → String) (db : AuditorDb) (g : AuditorAccessGrant) :
    Except RepositoryError AuditorDb :=
  let row := g.toRow
  if row.rowChecks lowerTrim = false then .error .database
  else if (db.grants.rows.any fun h =>
      decide (h.id ≠ row.id) && decide (h.secretDigest = row.secretDigest)) = true then
    .error .database
  else .ok { db with grants := db.grants.upsert row }

def getTransaction (db : AuditorDb) (id : AuditorAuthTransactionId) :
    Except RepositoryError (Option AuditorAuthTransaction) :=
  match db.transactions.get? id with
  | none => .ok none
  | some row =>
    match row.rehydrate with
    | .error _ =>
      .error (.invariantViolation "persisted auditor authentication transaction is inconsistent")
    | .ok t => .ok (some t)

def saveTransaction (db : AuditorDb) (t : AuditorAuthTransaction) : Except RepositoryError AuditorDb :=
  let row := t.toRow
  if row.rowChecks = false ∨ (db.grants.get? row.grantId).isNone = true then .error .database
  else if (db.transactions.rows.any fun u =>
      decide (u.id ≠ row.id) && decide (u.stateDigest = row.stateDigest)) = true then
    .error .database
  else .ok { db with transactions := db.transactions.upsert row }

def getSession (db : AuditorDb) (id : AuditorSessionId) : Except RepositoryError (Option AuditorSession) :=
  match db.sessions.get? id with
  | none => .ok none
  | some row =>
    match db.grants.get? row.grantId with
    | none => .ok none
    | some grant =>
      match (row.withGrant grant).rehydrate with
      | .error _ => .error (.invariantViolation "persisted auditor session is inconsistent")
      | .ok s => .ok (some s)

def saveSession (lowerTrim : String → String) (db : AuditorDb) (s : AuditorSession) :
    Except RepositoryError AuditorDb :=
  let row := s.toRow
  if row.rowChecks lowerTrim = false ∨ (db.grants.get? row.grantId).isNone = true then .error .database
  else if (db.sessions.rows.any fun r =>
      decide (r.id ≠ row.id) && decide (r.sessionDigest = row.sessionDigest)) = true then
    .error .database
  else .ok { db with sessions := db.sessions.upsert row }

/-! ## Reads -/

/-- `get_active`, which locks the row of the grant -/
def activeGrant (db : AuditorDb) (id : AuditorAccessGrantId) (workspaceId : WorkspaceId) (now : Int) :
    Option AuditorAccessGrantSummary :=
  ((db.grants.get? id).filter fun g =>
    decide (g.workspaceId = workspaceId) && g.active (pgTimestamp now)).map AuditorAccessGrant.summary

/-- `ResolveActiveAuditorGrant`, at an instant of the database -/
def resolveActiveGrant (db : AuditorDb) (id : AuditorAccessGrantId) (now : Int) :
    Option ResolvedActiveAuditorGrant :=
  ((db.grants.get? id).filter fun g => g.active now).map AuditorAccessGrant.resolved

/-- a digest is in one row at most -/
def resolveIdByStateDigest (db : AuditorDb) (digest : Sha256Digest) : Option AuditorAuthTransactionId :=
  (db.transactions.rows.find? fun t => t.stateDigest = digest).map AuditorAuthTransaction.id

def resolveIdBySessionDigest (db : AuditorDb) (digest : Sha256Digest) : Option AuditorSessionId :=
  (db.sessions.rows.find? fun s => s.sessionDigest = digest).map AuditorSessionRow.id

/-- `ResolveAuditorSessionByDigest`, at an instant of the database -/
def resolveSession (db : AuditorDb) (digest : Sha256Digest) (now : Int) :
    Option ResolvedAuditorSession :=
  db.sessions.rows.findSome? fun s =>
    if s.sessionDigest = digest ∧ s.active now = true then
      ((db.grants.get? s.grantId).filter fun g => g.active now).map s.resolved
    else none

/-! ## What they do -/

variable {lowerTrim : String → String} {db db' : AuditorDb}

theorem getGrant_ok {id : AuditorAccessGrantId} {workspaceId : WorkspaceId} {g : AuditorAccessGrant}
    (h : db.getGrant id workspaceId = .ok (some g)) :
    db.grants.get? id = some g ∧ g.workspaceId = workspaceId := by
  unfold getGrant at h
  split at h
  · cases h
  · next row hrow =>
    obtain ⟨hget, hws⟩ := Option.filter_eq_some_iff.mp hrow
    split at h
    · cases h
    · next g' hg =>
      cases h
      have heq := AuditorAccessGrant.rehydrate_ok hg
      subst heq
      exact ⟨hget, of_decide_eq_true hws⟩

theorem saveGrant_ok {g : AuditorAccessGrant} (h : db.saveGrant lowerTrim g = .ok db') :
    db' = { db with grants := db.grants.upsert g.toRow } := by
  unfold saveGrant at h
  dsimp only at h
  split at h
  · cases h
  · split at h
    · cases h
    · cases h
      rfl

theorem getTransaction_ok {id : AuditorAuthTransactionId} {t : AuditorAuthTransaction}
    (h : db.getTransaction id = .ok (some t)) : db.transactions.get? id = some t := by
  unfold getTransaction at h
  split at h
  · cases h
  · next row hrow =>
    split at h
    · cases h
    · next t' ht =>
      cases h
      rw [hrow, AuditorAuthTransaction.rehydrate_ok ht]

theorem saveTransaction_ok {t : AuditorAuthTransaction} (h : db.saveTransaction t = .ok db') :
    db' = { db with transactions := db.transactions.upsert t.toRow } ∧
      (db.grants.get? t.grantId).isSome = true := by
  unfold saveTransaction at h
  dsimp only at h
  split at h
  · cases h
  · next hchecks =>
    split at h
    · cases h
    · cases h
      push Not at hchecks
      exact ⟨rfl, Option.isSome_iff_ne_none.mpr fun hnone => hchecks.2 (by
        rw [show t.toRow.grantId = t.grantId from rfl, hnone]
        rfl)⟩

theorem getSession_ok {id : AuditorSessionId} {s : AuditorSession}
    (h : db.getSession id = .ok (some s)) :
    ∃ row grant, db.sessions.get? id = some row ∧ db.grants.get? row.grantId = some grant ∧
      s = row.withGrant grant := by
  unfold getSession at h
  split at h
  · cases h
  · next row hrow =>
    split at h
    · cases h
    · next grant hgrant =>
      split at h
      · cases h
      · next s' hs =>
        cases h
        exact ⟨row, grant, hrow, hgrant, AuditorSession.rehydrate_ok hs⟩

theorem saveSession_ok {s : AuditorSession} (h : db.saveSession lowerTrim s = .ok db') :
    db' = { db with sessions := db.sessions.upsert s.toRow } ∧
      ∀ r ∈ db.sessions.rows, r.id ≠ s.id → r.sessionDigest ≠ s.sessionDigest := by
  unfold saveSession at h
  dsimp only at h
  split at h
  · cases h
  · split at h
    · cases h
    · next hdigest =>
      cases h
      refine ⟨rfl, fun r hr hne heq => hdigest ?_⟩
      have hclash : (decide (r.id ≠ s.id) && decide (r.sessionDigest = s.sessionDigest)) = true := by
        rw [decide_eq_true hne, decide_eq_true heq]
        rfl
      exact List.any_eq_true.mpr ⟨r, hr, hclash⟩

theorem activeGrant_some {id : AuditorAccessGrantId} {workspaceId : WorkspaceId} {now : Int}
    {summary : AuditorAccessGrantSummary} (h : db.activeGrant id workspaceId now = some summary) :
    ∃ g, db.grants.get? id = some g ∧ g.workspaceId = workspaceId ∧ g.revokedAt = none ∧
      pgTimestamp now < g.expiresAt ∧ summary = g.summary := by
  obtain ⟨g, hg, rfl⟩ := Option.map_eq_some_iff.mp h
  obtain ⟨hget, hactive⟩ := Option.filter_eq_some_iff.mp hg
  obtain ⟨hws, hactive⟩ := Bool.and_eq_true_iff.mp hactive
  obtain ⟨hopen, hexpires⟩ := (AuditorAccessGrant.active_iff g _).mp hactive
  exact ⟨g, hget, of_decide_eq_true hws, hopen, hexpires, rfl⟩

theorem resolveActiveGrant_some {id : AuditorAccessGrantId} {now : Int}
    {resolved : ResolvedActiveAuditorGrant} (h : db.resolveActiveGrant id now = some resolved) :
    ∃ g, db.grants.get? id = some g ∧ resolved = g.resolved := by
  obtain ⟨g, hg, rfl⟩ := Option.map_eq_some_iff.mp h
  exact ⟨g, (Option.filter_eq_some_iff.mp hg).1, rfl⟩

/-- no two sessions have the same digest -/
def DigestsDistinct (db : AuditorDb) : Prop :=
  ∀ r ∈ db.sessions.rows, ∀ s ∈ db.sessions.rows, r.sessionDigest = s.sessionDigest → r = s

theorem DigestsDistinct.upsert (h : db.DigestsDistinct) {row : AuditorSessionRow}
    (hrow : ∀ r ∈ db.sessions.rows, r.id ≠ row.id → r.sessionDigest ≠ row.sessionDigest) :
    DigestsDistinct { db with sessions := db.sessions.upsert row } := by
  intro r hr s hs hdigest
  rcases Table.mem_upsert.mp hr with rfl | ⟨hr', hrne⟩
  · rcases Table.mem_upsert.mp hs with rfl | ⟨hs', hsne⟩
    · rfl
    · exact absurd hdigest.symm (hrow s hs' hsne)
  · rcases Table.mem_upsert.mp hs with rfl | ⟨hs', hsne⟩
    · exact absurd hdigest (hrow r hr' hrne)
    · exact h r hr' s hs' hdigest

/-- **A session resolves while it and its grant are active, and it tells of both.** -/
theorem resolveSession_iff (hdistinct : db.DigestsDistinct) {digest : Sha256Digest} {now : Int}
    {resolved : ResolvedAuditorSession} :
    db.resolveSession digest now = some resolved ↔
      ∃ s ∈ db.sessions.rows, ∃ g, s.sessionDigest = digest ∧ s.active now = true ∧
        db.grants.get? s.grantId = some g ∧ g.active now = true ∧ resolved = s.resolved g := by
  -- what one row of the join gives
  have hrow : ∀ s : AuditorSessionRow, ∀ a,
      (if s.sessionDigest = digest ∧ s.active now = true then
        ((db.grants.get? s.grantId).filter fun g => g.active now).map s.resolved
      else none) = some a ↔
      ∃ g, s.sessionDigest = digest ∧ s.active now = true ∧ db.grants.get? s.grantId = some g ∧
        g.active now = true ∧ a = s.resolved g := by
    intro s a
    constructor
    · intro h
      split at h
      · next hs =>
        obtain ⟨g, hg, rfl⟩ := Option.map_eq_some_iff.mp h
        obtain ⟨hget, hactive⟩ := Option.filter_eq_some_iff.mp hg
        exact ⟨g, hs.1, hs.2, hget, hactive, rfl⟩
      · cases h
    · rintro ⟨g, hdigest, hactive, hget, hgrant, rfl⟩
      rw [if_pos ⟨hdigest, hactive⟩, hget, Option.filter_some, if_pos hgrant]
      rfl
  unfold resolveSession
  constructor
  · intro h
    obtain ⟨s, hs, hsome⟩ := List.exists_of_findSome?_eq_some h
    obtain ⟨g, hg⟩ := (hrow s resolved).mp hsome
    exact ⟨s, hs, g, hg⟩
  · rintro ⟨s, hs, g, hg⟩
    have hsome := (hrow s resolved).mpr ⟨g, hg⟩
    cases hfind : db.sessions.rows.findSome? fun s =>
        if s.sessionDigest = digest ∧ s.active now = true then
          ((db.grants.get? s.grantId).filter fun g => g.active now).map s.resolved
        else none with
    | none =>
      rw [List.findSome?_eq_none_iff.mp hfind s hs] at hsome
      cases hsome
    | some a =>
      obtain ⟨r, hr, hra⟩ := List.exists_of_findSome?_eq_some hfind
      obtain ⟨g', hg'⟩ := (hrow r a).mp hra
      have heq : r = s := hdistinct r hr s hs (hg'.1.trans hg.1.symm)
      rw [heq, hsome] at hra
      exact hra.symm

theorem resolveIdByStateDigest_some {digest : Sha256Digest} {id : AuditorAuthTransactionId}
    (h : db.resolveIdByStateDigest digest = some id) :
    ∃ t ∈ db.transactions.rows, t.stateDigest = digest ∧ t.id = id := by
  obtain ⟨t, ht, rfl⟩ := Option.map_eq_some_iff.mp h
  exact ⟨t, List.mem_of_find?_eq_some ht, by simpa using List.find?_some ht, rfl⟩

end AuditorDb

end Proofplane
