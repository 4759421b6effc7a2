import Proofplane.OAuth.Store

/-!
# Commands of the authorization server

Each command is one unit of work on the tables.  The instants at which its code reads the clock and the
ids that it draws are arguments; the digest of a secret is a parameter.

* `requestAgentConnection`, `consumeAgentConnectionContinuation`, `activateAgentConnection`,
  `authorizeAgentConnection`, `useAgentConnection`, `denyAgentConnection`, `revokeAgentConnection`
* `requestOAuthAuthorization`, `attachOAuthAuthorizationSubject`, `cancelOAuthAuthorization`,
  `approveOAuthAuthorization`, `consumeOAuthAuthorizationCode`
-/

namespace Proofplane
open Base

/-! ## Commands and errors -/

structure RequestAgentConnection where
  userId : UserId
  workspaceId : WorkspaceId
  auth0Subject : String
  auth0ClientId : String
  clientDisplayName : String
  resource : String
  permissions : List WorkspacePermission
  expiresAt : Int
  continuationToken : String
  nonce : String

structure AuthorizeAgentConnection where
  connectionId : AgentConnectionId
  workspaceId : WorkspaceId
  auth0Subject : String
  auth0ClientId : String
  resource : String
  permissions : List WorkspacePermission
  deriving DecidableEq, Repr

structure RevokeAgentConnection where
  connectionId : AgentConnectionId
  userId : Option UserId

inductive ConsumeAgentConnectionOutcome
  | approved (connection : AgentConnection)
  | invalid

inductive ActivateAgentConnectionOutcome
  | activated (connection : AgentConnection)
  | rejected

inductive AgentConnectionCommandError
  | denied | alreadyExists | unavailable | invalid
  | repository (error : RepositoryError)
  deriving DecidableEq, Repr

structure RequestOAuthAuthorization where
  requestId : OAuthAuthorizationRequestId
  clientId : String
  clientName : String
  redirectUri : String
  codeChallenge : String
  state : String
  resource : String
  scopes : List WorkspacePermission
  csrfToken : String
  createdAt : Int
  expiresAt : Int

structure AttachOAuthAuthorizationSubject where
  csrfToken : String
  auth0Subject : String
  userId : UserId
  attachedAt : Int

structure CancelOAuthAuthorization where
  requestId : OAuthAuthorizationRequestId
  cancelledAt : Int

structure ApproveOAuthAuthorization where
  requestId : OAuthAuthorizationRequestId
  code : String
  agentConnectionId : AgentConnectionId
  workspaceId : WorkspaceId
  approvedAt : Int
  codeExpiresAt : Int

structure ConsumeOAuthAuthorizationCode where
  code : String
  clientId : String
  redirectUri : String
  consumedAt : Int

structure OAuthAuthorizationCodeGrant where
  requestId : OAuthAuthorizationRequestId
  agentConnectionId : AgentConnectionId
  workspaceId : WorkspaceId
  clientId : String
  redirectUri : String
  codeChallenge : String
  resource : String
  scopes : List WorkspacePermission
  auth0Subject : String
  userId : UserId
  expiresAt : Int
  deriving DecidableEq, Repr

inductive OAuthAuthorizationCommandError
  | unavailable | invalid
  | repository (error : RepositoryError)
  deriving DecidableEq, Repr

namespace OAuthDb
variable {α : Type}

/-! ## Connections -/

/-- loads a connection and goes on with it -/
def withConnection (db : OAuthDb) (id : AgentConnectionId) (missing : α)
    (change : AgentConnection → Except RepositoryError (α × OAuthDb)) :
    Except AgentConnectionCommandError (α × OAuthDb) :=
  match db.getConnection id with
  | .error e => .error (.repository e)
  | .ok none => .ok (missing, db)
  | .ok (some c) => (change c).mapError .repository

def savedConnection (db : OAuthDb) (c : AgentConnection) (answer : α) :
    Except RepositoryError (α × OAuthDb) :=
  (db.saveConnection c).map fun db' => (answer, db')

def requestAgentConnection (digest : String → Sha256Digest) (db : OAuthDb)
    (command : RequestAgentConnection) (id : AgentConnectionId)
    (transactionId : AgentConnectionAuthorizationId) (now : Int) :
    Except AgentConnectionCommandError (AgentConnection × OAuthDb) :=
  match canonicalPermissions command.permissions with
  | none => .error .invalid
  | some permissions =>
    if permissions = [] then .error .invalid
    else
      match AgentConnection.request id transactionId command.userId command.workspaceId
          command.auth0Subject command.auth0ClientId command.clientDisplayName command.resource
          permissions command.expiresAt (digest command.continuationToken) (digest command.nonce)
          now with
      | .error _ => .error .invalid
      | .ok connection =>
        match db.auth0Sub connection.userId with
        | none => .error .denied
        | some auth0Sub =>
          if auth0Sub ≠ connection.auth0Subject ∨
              (db.getMembershipRole connection.workspaceId connection.userId).isNone = true then
            .error .denied
          else
            match db.saveConnection connection with
            | .error (.conflict .agentConnectionExists) => .error .alreadyExists
            | .error e => .error (.repository e)
            | .ok db' => .ok (connection, db')

/-- the unit of work of `DenyAgentConnectionHandler` -/
def denyAgentConnection (db : OAuthDb) (id : AgentConnectionId) (now : Int) :
    Except AgentConnectionCommandError (Bool × OAuthDb) :=
  db.withConnection id false fun c =>
    if c.status ≠ .pending then .ok (false, db)
    else
      match c.revoke now with
      | .error _ => .error (.invariantViolation "agent connection denial must be valid")
      | .ok (_, c') => db.savedConnection c' true

/-- the unit of work of `ConsumeAgentConnectionContinuationHandler` -/
def consumeAgentConnectionContinuation (db : OAuthDb) (id : AgentConnectionId)
    (continuation nonce : Sha256Digest) (now : Int) :
    Except AgentConnectionCommandError (ConsumeAgentConnectionOutcome × OAuthDb) :=
  db.withConnection id .invalid fun c =>
    if db.userIsEligible c = false then .ok (.invalid, db)
    else
      match c.consumeContinuation continuation nonce now with
      | (.unavailable, _) => .ok (.invalid, db)
      | (.authorized, c') => db.savedConnection c' (.approved c')

def activateAgentConnection (db : OAuthDb) (id : AgentConnectionId) (now : Int) :
    Except AgentConnectionCommandError (ActivateAgentConnectionOutcome × OAuthDb) :=
  db.withConnection id .rejected fun c =>
    if (db.getMembershipRole c.workspaceId c.userId).isNone = true then .ok (.rejected, db)
    else
      match c.activate now with
      | (.activated, c') => db.savedConnection c' (.activated c')
      | _ => .ok (.rejected, db)

/-- the connection is the one that a token or a code speaks of -/
def matchesAuthorization (command : AuthorizeAgentConnection) (expected : List WorkspacePermission)
    (c : AgentConnection) : Bool :=
  decide (c.workspaceId = command.workspaceId) && decide (c.auth0Subject = command.auth0Subject) &&
    decide (c.auth0ClientId = command.auth0ClientId) && decide (c.resource = command.resource) &&
    decide (c.permissions = expected)

def authorizeAgentConnection (db : OAuthDb) (command : AuthorizeAgentConnection)
    (activatedAt usedAt : Int) :
    Except AgentConnectionCommandError (Option AgentConnectionContext × OAuthDb) :=
  match canonicalPermissions command.permissions with
  | none => .error .invalid
  | some expected =>
    db.withConnection command.connectionId none fun c =>
      if matchesAuthorization command expected c = false then .ok (none, db)
      else if db.userIsEligible c = false then .ok (none, db)
      else
        match c.activate activatedAt with
        | (.unavailable, _) => .ok (none, db)
        | (_, c') =>
          match c'.useAt usedAt with
          | (.unavailable, _) => .ok (none, db)
          | (.used, c'') =>
            db.savedConnection c''
              (some ⟨c''.userId, c''.id, c''.workspaceId, .fromIter c''.permissions⟩)

def useAgentConnection (db : OAuthDb) (id : AgentConnectionId) (now : Int) :
    Except AgentConnectionCommandError (Bool × OAuthDb) :=
  db.withConnection id false fun c =>
    match c.useAt now with
    | (.unavailable, _) => .ok (false, db)
    | (.used, c') => db.savedConnection c' true

def revokeAgentConnection (db : OAuthDb) (command : RevokeAgentConnection) (now : Int) :
    Except AgentConnectionCommandError (Bool × OAuthDb) :=
  db.withConnection command.connectionId false fun c =>
    if (command.userId.any fun u => decide (u ≠ c.userId)) = true ∨
        (command.userId.isSome = true ∧ c.status ≠ .authorized ∧ c.status ≠ .active) then
      .ok (false, db)
    else
      match c.revoke now with
      | .error _ => .error (.invariantViolation "agent connection revocation must be valid")
      | .ok (.alreadyRevoked, _) => .ok (false, db)
      | .ok (.revoked, c') => db.savedConnection c' true

/-! ## Flows -/

/-- loads a flow, changes it and saves it; what is missing or not possible is unavailable -/
def changeFlow (db : OAuthDb) (id : OAuthAuthorizationRequestId)
    (change : OAuthAuthorizationFlow → Except OAuthAuthorizationFlowError OAuthAuthorizationFlow) :
    Except OAuthAuthorizationCommandError (OAuthAuthorizationFlow × OAuthDb) :=
  match db.getFlow id with
  | .error e => .error (.repository e)
  | .ok none => .error .unavailable
  | .ok (some f) =>
    match change f with
    | .error _ => .error .unavailable
    | .ok f' =>
      match db.saveFlow f' with
      | .error e => .error (.repository e)
      | .ok db' => .ok (f', db')

def requestOAuthAuthorization (digest : String → Sha256Digest) (db : OAuthDb)
    (command : RequestOAuthAuthorization) :
    Except OAuthAuthorizationCommandError (OAuthAuthorizationFlow × OAuthDb) :=
  match canonicalPermissions command.scopes with
  | none => .error .invalid
  | some scopes =>
    match OAuthAuthorizationFlow.request command.requestId command.clientId command.clientName
        command.redirectUri command.codeChallenge command.state command.resource scopes
        (digest command.csrfToken) command.createdAt command.expiresAt with
    | .error _ => .error .invalid
    | .ok flow =>
      match db.getFlow flow.id with
      | .error e => .error (.repository e)
      | .ok (some existing) =>
        if existing = flow then .ok (existing, db)
        else
          .error (.repository
            (.invariantViolation "OAuth authorization request replay changed its intent"))
      | .ok none =>
        match db.saveFlow flow with
        | .error e => .error (.repository e)
        | .ok db' => .ok (flow, db')

def attachOAuthAuthorizationSubject (digest : String → Sha256Digest) (db : OAuthDb)
    (command : AttachOAuthAuthorizationSubject) :
    Except OAuthAuthorizationCommandError (OAuthAuthorizationFlow × OAuthDb) :=
  match db.resolveIdByCsrfDigest (digest command.csrfToken) with
  | none => .error .unavailable
  | some id =>
    db.changeFlow id fun f => f.attachSubject command.auth0Subject command.userId command.attachedAt

def cancelOAuthAuthorization (db : OAuthDb) (command : CancelOAuthAuthorization) :
    Except OAuthAuthorizationCommandError (OAuthAuthorizationFlow × OAuthDb) :=
  db.changeFlow command.requestId fun f => f.cancel command.cancelledAt

def approveOAuthAuthorization (digest : String → Sha256Digest) (db : OAuthDb)
    (command : ApproveOAuthAuthorization) :
    Except OAuthAuthorizationCommandError (OAuthAuthorizationFlow × OAuthDb) :=
  db.changeFlow command.requestId fun f =>
    f.approveAndIssueCode (digest command.code) command.agentConnectionId command.workspaceId
      command.approvedAt command.codeExpiresAt

/-- the grant of a flow whose code has been consumed -/
def codeGrant (f : OAuthAuthorizationFlow) : Except RepositoryError OAuthAuthorizationCodeGrant :=
  match f.authorizationCode with
  | none => .error (.invariantViolation "consumed OAuth flow must contain a code")
  | some code =>
    match f.auth0Subject with
    | none => .error (.invariantViolation "OAuth code missing subject")
    | some auth0Subject =>
      match f.userId with
      | none => .error (.invariantViolation "OAuth code missing user")
      | some userId =>
        .ok ⟨f.id, code.agentConnectionId, code.workspaceId, f.clientId, f.redirectUri,
          f.codeChallenge, f.resource, f.scopes, auth0Subject, userId, code.expiresAt⟩

def consumeOAuthAuthorizationCode (digest : String → Sha256Digest) (db : OAuthDb)
    (command : ConsumeOAuthAuthorizationCode) :
    Except OAuthAuthorizationCommandError (OAuthAuthorizationCodeGrant × OAuthDb) :=
  match db.resolveIdByCodeDigest (digest command.code) with
  | none => .error .unavailable
  | some id =>
    match db.getFlow id with
    | .error e => .error (.repository e)
    | .ok none => .error .unavailable
    | .ok (some f) =>
      match f.consumeCode command.clientId command.redirectUri command.consumedAt with
      | .error _ => .error .unavailable
      | .ok f' =>
        match codeGrant f' with
        | .error e => .error (.repository e)
        | .ok grant =>
          match db.saveFlow f' with
          | .error e => .error (.repository e)
          | .ok db' => .ok (grant, db')

end OAuthDb

end Proofplane
