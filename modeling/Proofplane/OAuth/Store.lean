import Proofplane.Domain.OAuth
import Proofplane.Persistence.Workspaces

/-!
# Connections and flows in the database

The tables behind the authorization server.  A row of `connections` is that of `agent_connections` with
its transaction and its permissions; a row of `flows` is that of `oauth_authorization_requests` with its
code.  A save writes the complete snapshot and is refused where a constraint of the tables fails.

* `toRow`, `rowChecks`               what a row keeps of a snapshot, and its CHECK constraints;
* `getConnection`, `saveConnection`  the repository of connections, `saveConnection_ok` what a save does;
* `getFlow`, `saveFlow`              the repository of flows, `saveFlow_ok` what a save does;
* `findReusable`, `consentContext`, `continuationConnection`   the reads.
-/

namespace Proofplane
open Base

/-- a row of `users` -/
structure User where
  id : UserId
  auth0Sub : String
  deriving DecidableEq, Repr

structure OAuthDb where
  users : Table User.id
  workspaces : WorkspaceTables
  connections : Table AgentConnection.id
  flows : Table OAuthAuthorizationFlow.id

namespace OAuthDb

def empty : OAuthDb := ⟨.empty, ⟨.empty, .empty⟩, .empty, .empty⟩

def auth0Sub (db : OAuthDb) (id : UserId) : Option String := (db.users.get? id).map User.auth0Sub

/-- `get_membership_role`, which locks the row -/
def getMembershipRole (db : OAuthDb) (workspaceId : WorkspaceId) (userId : UserId) :
    Option WorkspaceRole :=
  db.workspaces.roleFor workspaceId userId

/-- the user still has the subject of the connection and is a member of its workspace -/
def userIsEligible (db : OAuthDb) (c : AgentConnection) : Bool :=
  (db.auth0Sub c.userId).any (fun sub => decide (sub = c.auth0Subject)) &&
    (db.getMembershipRole c.workspaceId c.userId).isSome

end OAuthDb

/-! ## Connections -/

namespace AgentConnection

/-- what a row keeps: instants in whole microseconds, permissions in their fixed order -/
def toRow (c : AgentConnection) : AgentConnection :=
  { c with
    permissions := WorkspacePermission.all.filter fun p => decide (p ∈ c.permissions)
    pendingExpiresAt := pgTimestamp c.pendingExpiresAt
    activatedAt := c.activatedAt.map pgTimestamp
    lastUsedAt := c.lastUsedAt.map pgTimestamp
    revokedAt := c.revokedAt.map pgTimestamp
    createdAt := pgTimestamp c.createdAt
    authorization :=
      { c.authorization with consumedAt := c.authorization.consumedAt.map pgTimestamp } }

/-- `agent_connections_lifecycle` -/
def lifecycleCheck (c : AgentConnection) : Bool :=
  match c.status with
  | .pending => c.activatedAt.isNone && c.revokedAt.isNone
  | .authorized => c.activatedAt.isNone && c.revokedAt.isNone
  | .active => c.activatedAt.isSome && c.revokedAt.isNone
  | .revoked => c.revokedAt.isSome

def rowChecks (c : AgentConnection) : Bool :=
  c.lifecycleCheck && decide (c.createdAt < c.pendingExpiresAt) &&
    notBefore c.createdAt c.activatedAt && notBefore c.createdAt c.lastUsedAt &&
    notBefore c.createdAt c.revokedAt && notBefore c.createdAt c.authorization.consumedAt

def live (c : AgentConnection) : Bool :=
  match c.status with
  | .revoked => false
  | _ => true

/-- `agent_connections_live_tuple_key` -/
def sameLiveTuple (c d : AgentConnection) : Bool :=
  c.live && d.live && decide (c.userId = d.userId) && decide (c.auth0ClientId = d.auth0ClientId) &&
    decide (c.resource = d.resource)

/-- the unique columns of `agent_authorization_transactions` -/
def sharesTransaction (c d : AgentConnection) : Bool :=
  decide (c.authorization.id = d.authorization.id) ||
    decide (c.authorization.continuationDigest = d.authorization.continuationDigest) ||
    decide (c.authorization.nonceDigest = d.authorization.nonceDigest)

end AgentConnection

namespace OAuthDb

def getConnection (db : OAuthDb) (id : AgentConnectionId) :
    Except RepositoryError (Option AgentConnection) :=
  match db.connections.get? id with
  | none => .ok none
  | some row =>
    match row.rehydrate with
    | .error _ => .error (.invariantViolation "persisted agent connection is inconsistent")
    | .ok c => .ok (some c)

def saveConnection (db : OAuthDb) (c : AgentConnection) : Except RepositoryError OAuthDb :=
  let row := c.toRow
  if ¬ c.permissions.Nodup ∨ row.rowChecks = false then .error .database
  else if (db.connections.rows.any fun d => decide (d.id ≠ row.id) && row.sameLiveTuple d) = true then
    .error (.conflict .agentConnectionExists)
  else if (db.connections.rows.any fun d => decide (d.id ≠ row.id) && row.sharesTransaction d) = true then
    .error .database
  else .ok { db with connections := db.connections.upsert row }

theorem saveConnection_ok {db db' : OAuthDb} {c : AgentConnection}
    (h : db.saveConnection c = .ok db') :
    db' = { db with connections := db.connections.upsert c.toRow } ∧ c.toRow.rowChecks = true ∧
      ∀ d ∈ db.connections.rows, d.id ≠ c.id →
        c.toRow.sameLiveTuple d = false ∧ c.toRow.sharesTransaction d = false := by
  unfold saveConnection at h
  dsimp only at h
  split at h
  · cases h
  · next hchecks =>
    split at h
    · cases h
    · next hlive =>
      split at h
      · cases h
      · next htransaction =>
        cases h
        push Not at hchecks
        refine ⟨rfl, by simpa using hchecks.2, ?_⟩
        intro d hd hne
        have hne' : decide (d.id ≠ c.toRow.id) = true := decide_eq_true hne
        rw [Bool.not_eq_true, List.any_eq_false] at hlive htransaction
        have h1 := hlive d hd
        have h2 := htransaction d hd
        rw [hne', Bool.true_and, Bool.not_eq_true] at h1 h2
        exact ⟨h1, h2⟩

/-- a save that no constraint refuses -/
theorem saveConnection_eq {db : OAuthDb} {c : AgentConnection} (hnodup : c.permissions.Nodup)
    (hchecks : c.toRow.rowChecks = true)
    (hothers : ∀ d ∈ db.connections.rows, d.id ≠ c.id →
      c.toRow.sameLiveTuple d = false ∧ c.toRow.sharesTransaction d = false) :
    db.saveConnection c = .ok { db with connections := db.connections.upsert c.toRow } := by
  unfold saveConnection
  dsimp only
  rw [if_neg (by simp [hnodup, hchecks])]
  have hlive : (db.connections.rows.any fun d =>
      decide (d.id ≠ c.toRow.id) && c.toRow.sameLiveTuple d) = false := by
    rw [List.any_eq_false]
    intro d hd hcond
    obtain ⟨hne, hc⟩ := Bool.and_eq_true_iff.mp hcond
    rw [(hothers d hd (of_decide_eq_true hne)).1] at hc
    cases hc
  have htransaction : (db.connections.rows.any fun d =>
      decide (d.id ≠ c.toRow.id) && c.toRow.sharesTransaction d) = false := by
    rw [List.any_eq_false]
    intro d hd hcond
    obtain ⟨hne, hc⟩ := Bool.and_eq_true_iff.mp hcond
    rw [(hothers d hd (of_decide_eq_true hne)).2] at hc
    cases hc
  rw [hlive, htransaction]
  rfl

theorem getConnection_some {db : OAuthDb} {id : AgentConnectionId} {c : AgentConnection}
    (h : db.getConnection id = .ok (some c)) : c ∈ db.connections.rows ∧ c.id = id ∧ c.Valid := by
  unfold getConnection at h
  split at h
  · cases h
  · next row hrow =>
    split at h
    · cases h
    · next c' hok =>
      cases h
      obtain ⟨rfl, hvalid⟩ := AgentConnection.rehydrate_ok hok
      exact ⟨Table.get?_mem hrow, Table.get?_key hrow, hvalid⟩

theorem getConnection_eq {db : OAuthDb} {c : AgentConnection} (h : c ∈ db.connections.rows)
    (hvalid : c.Valid) : db.getConnection c.id = .ok (some c) := by
  unfold getConnection
  rw [Table.get?_of_mem h]
  dsimp only
  rw [AgentConnection.rehydrate_eq hvalid]

end OAuthDb

/-! ## Flows -/

namespace OAuthAuthorizationFlowCode

def toRow (code : OAuthAuthorizationFlowCode) : OAuthAuthorizationFlowCode :=
  { code with
    expiresAt := pgTimestamp code.expiresAt
    consumedAt := code.consumedAt.map pgTimestamp
    createdAt := pgTimestamp code.createdAt }

end OAuthAuthorizationFlowCode

namespace OAuthAuthorizationFlow

def toRow (f : OAuthAuthorizationFlow) : OAuthAuthorizationFlow :=
  { f with
    expiresAt := pgTimestamp f.expiresAt
    createdAt := pgTimestamp f.createdAt
    consumedAt := f.consumedAt.map pgTimestamp
    authorizationCode := f.authorizationCode.map OAuthAuthorizationFlowCode.toRow }

def rowChecks (f : OAuthAuthorizationFlow) : Bool :=
  decide (f.scopes ≠ []) && decide (f.createdAt < f.expiresAt) &&
    f.authorizationCode.all fun code => decide (code.createdAt < code.expiresAt)

def codeDigest (f : OAuthAuthorizationFlow) : Option Sha256Digest :=
  f.authorizationCode.map OAuthAuthorizationFlowCode.codeDigest

/-- the unique columns of the request and of its code -/
def sharesDigest (f g : OAuthAuthorizationFlow) : Bool :=
  decide (f.csrfDigest = g.csrfDigest) ||
    (f.codeDigest.isSome && decide (f.codeDigest = g.codeDigest))

end OAuthAuthorizationFlow

namespace OAuthDb

def getFlow (db : OAuthDb) (id : OAuthAuthorizationRequestId) :
    Except RepositoryError (Option OAuthAuthorizationFlow) :=
  match db.flows.get? id with
  | none => .ok none
  | some row =>
    match row.rehydrate with
    | .error _ => .error (.invariantViolation "persisted OAuth authorization flow is inconsistent")
    | .ok f => .ok (some f)

def saveFlow (db : OAuthDb) (f : OAuthAuthorizationFlow) : Except RepositoryError OAuthDb :=
  let row := f.toRow
  if row.rowChecks = false then .error .database
  else if (db.flows.rows.any fun g => decide (g.id ≠ row.id) && row.sharesDigest g) = true then
    .error .database
  else .ok { db with flows := db.flows.upsert row }

theorem saveFlow_ok {db db' : OAuthDb} {f : OAuthAuthorizationFlow} (h : db.saveFlow f = .ok db') :
    db' = { db with flows := db.flows.upsert f.toRow } ∧ f.toRow.rowChecks = true ∧
      ∀ g ∈ db.flows.rows, g.id ≠ f.id → f.toRow.sharesDigest g = false := by
  unfold saveFlow at h
  dsimp only at h
  split at h
  · cases h
  · next hchecks =>
    split at h
    · cases h
    · next hdigest =>
      cases h
      refine ⟨rfl, by simpa using hchecks, ?_⟩
      intro g hg hne
      have hne' : decide (g.id ≠ f.toRow.id) = true := decide_eq_true hne
      rw [Bool.not_eq_true, List.any_eq_false] at hdigest
      have h1 := hdigest g hg
      rw [hne', Bool.true_and, Bool.not_eq_true] at h1
      exact h1

/-- a save that no constraint refuses -/
theorem saveFlow_eq {db : OAuthDb} {f : OAuthAuthorizationFlow} (hchecks : f.toRow.rowChecks = true)
    (hothers : ∀ g ∈ db.flows.rows, g.id ≠ f.id → f.toRow.sharesDigest g = false) :
    db.saveFlow f = .ok { db with flows := db.flows.upsert f.toRow } := by
  unfold saveFlow
  dsimp only
  rw [if_neg (by simp [hchecks])]
  have hdigest : (db.flows.rows.any fun g =>
      decide (g.id ≠ f.toRow.id) && f.toRow.sharesDigest g) = false := by
    rw [List.any_eq_false]
    intro g hg hcond
    obtain ⟨hne, hc⟩ := Bool.and_eq_true_iff.mp hcond
    rw [hothers g hg (of_decide_eq_true hne)] at hc
    cases hc
  rw [hdigest]
  rfl

theorem getFlow_some {db : OAuthDb} {id : OAuthAuthorizationRequestId} {f : OAuthAuthorizationFlow}
    (h : db.getFlow id = .ok (some f)) : f ∈ db.flows.rows ∧ f.id = id ∧ f.Valid := by
  unfold getFlow at h
  split at h
  · cases h
  · next row hrow =>
    split at h
    · cases h
    · next f' hok =>
      cases h
      obtain ⟨rfl, hvalid⟩ := OAuthAuthorizationFlow.rehydrate_ok hok
      exact ⟨Table.get?_mem hrow, Table.get?_key hrow, hvalid⟩

theorem getFlow_eq {db : OAuthDb} {f : OAuthAuthorizationFlow} (h : f ∈ db.flows.rows)
    (hvalid : f.Valid) : db.getFlow f.id = .ok (some f) := by
  unfold getFlow
  rw [Table.get?_of_mem h]
  dsimp only
  rw [OAuthAuthorizationFlow.rehydrate_eq hvalid]

/-! ## Reads -/

def resolveIdByCsrfDigest (db : OAuthDb) (digest : Sha256Digest) :
    Option OAuthAuthorizationRequestId :=
  (db.flows.rows.find? fun f => decide (f.csrfDigest = digest)).map OAuthAuthorizationFlow.id

def resolveIdByCodeDigest (db : OAuthDb) (digest : Sha256Digest) :
    Option OAuthAuthorizationRequestId :=
  (db.flows.rows.find? fun f => decide (f.codeDigest = some digest)).map OAuthAuthorizationFlow.id

end OAuthDb

structure ReusableAgentConnection where
  id : AgentConnectionId
  userId : UserId
  workspaceId : WorkspaceId
  permissions : List WorkspacePermission
  deriving DecidableEq, Repr

structure OAuthConsentContext where
  requestId : OAuthAuthorizationRequestId
  clientName : String
  clientId : String
  redirectUri : String
  state : String
  resource : String
  scopes : List WorkspacePermission
  auth0Subject : String
  userId : UserId
  workspaceId : WorkspaceId
  expiresAt : Int
  deriving DecidableEq, Repr

namespace OAuthDb

/-- the condition of `REUSABLE_SQL`: no instant of the connection is looked at -/
def reusable (db : OAuthDb) (auth0Subject auth0ClientId resource : String) (c : AgentConnection) :
    Bool :=
  db.userIsEligible c && decide (c.auth0Subject = auth0Subject) &&
    decide (c.auth0ClientId = auth0ClientId) && decide (c.resource = resource) &&
    (decide (c.status = .authorized) || decide (c.status = .active))

def findReusable (db : OAuthDb) (auth0Subject auth0ClientId resource : String)
    (requested : List WorkspacePermission) :
    Except RepositoryError (Option ReusableAgentConnection) :=
  match canonicalPermissions requested with
  | none => .error (.invariantViolation "invalid requested agent connection permissions")
  | some expected =>
    match db.connections.rows.filter (db.reusable auth0Subject auth0ClientId resource) with
    | [] => .ok none
    | [c] =>
      if c.permissions ≠ expected then .ok none
      else .ok (some ⟨c.id, c.userId, c.workspaceId, c.permissions⟩)
    | _ => .error .database

/-- `CONSENT_CONTEXT_SQL` -/
def consentContext (db : OAuthDb) (requestId : OAuthAuthorizationRequestId) (now : Int) :
    Option OAuthConsentContext :=
  (db.flows.get? requestId).bind fun r =>
    match r.auth0Subject, r.userId.bind db.workspaces.memberships.get? with
    | some auth0Subject, some m =>
      if r.consumedAt = none ∧ pgTimestamp now < r.expiresAt then
        some ⟨r.id, r.clientName, r.clientId, r.redirectUri, r.state, r.resource, r.scopes,
          auth0Subject, m.userId, m.workspaceId, r.expiresAt⟩
      else none
    | _, _ => none

/-- the connection of a transaction, by the continuation and, if one is given, the nonce -/
def continuationConnection (db : OAuthDb) (continuation : Sha256Digest) (nonce : Option Sha256Digest) :
    Option AgentConnectionId :=
  (db.connections.rows.find? fun c =>
    decide (c.authorization.continuationDigest = continuation) &&
      nonce.all fun n => decide (c.authorization.nonceDigest = n)).map AgentConnection.id

theorem findReusable_some {db : OAuthDb} {auth0Subject auth0ClientId resource : String}
    {requested : List WorkspacePermission} {found : ReusableAgentConnection}
    (h : db.findReusable auth0Subject auth0ClientId resource requested = .ok (some found)) :
    ∃ c ∈ db.connections.rows, canonicalPermissions requested = some c.permissions ∧
      db.reusable auth0Subject auth0ClientId resource c = true ∧
      found = ⟨c.id, c.userId, c.workspaceId, c.permissions⟩ := by
  unfold findReusable at h
  split at h
  · cases h
  · next expected hexpected =>
    split at h
    · cases h
    · next c hfilter =>
      split at h
      · cases h
      · next hperms =>
        cases h
        rw [not_not] at hperms
        have hmem : c ∈ db.connections.rows.filter (db.reusable auth0Subject auth0ClientId resource) := by
          rw [hfilter]
          exact List.mem_singleton_self c
        obtain ⟨hrow, hreusable⟩ := List.mem_filter.mp hmem
        exact ⟨c, hrow, by rw [hexpected, hperms], hreusable, rfl⟩
    · cases h

/-- the context was read from this flow -/
structure ContextOf (r : OAuthAuthorizationFlow) (context : OAuthConsentContext) : Prop where
  requestId : context.requestId = r.id
  clientName : context.clientName = r.clientName
  clientId : context.clientId = r.clientId
  redirectUri : context.redirectUri = r.redirectUri
  state : context.state = r.state
  resource : context.resource = r.resource
  scopes : context.scopes = r.scopes
  expiresAt : context.expiresAt = r.expiresAt
  auth0Subject : r.auth0Subject = some context.auth0Subject
  userId : r.userId = some context.userId

theorem consentContext_some {db : OAuthDb} {requestId : OAuthAuthorizationRequestId} {now : Int}
    {context : OAuthConsentContext} (h : db.consentContext requestId now = some context) :
    ∃ r ∈ db.flows.rows, r.id = requestId ∧ ContextOf r context := by
  unfold consentContext at h
  obtain ⟨r, hget, hr⟩ := Option.bind_eq_some_iff.mp h
  split at hr
  · next auth0Subject m hsubject hm =>
    split at hr
    · cases hr
      obtain ⟨userId, huser, hmember⟩ := Option.bind_eq_some_iff.mp hm
      have hid : m.userId = userId := Table.get?_key hmember
      exact ⟨r, Table.get?_mem hget, Table.get?_key hget, rfl, rfl, rfl, rfl, rfl, rfl, rfl, rfl,
        hsubject, by rw [huser, hid]⟩
    · cases hr
  · cases hr

end OAuthDb

end Proofplane
