import Proofplane.Base.Run
import Proofplane.Base.Transaction
import Proofplane.OAuth.Commands
import Proofplane.OAuth.Token

/-!
# The authorization server at work

The OAuth service and the authentication of MCP requests, over one database.  A call of the service is a
sequence of reads and units of work; between two of them any other call may take its steps, and a call
that has lost its process takes no more.

* `OAuthServer`              what the server is built from: digests, URLs, sealing of tokens;
* `prepareAuthorization`, `issueTokenForCode`, `issueAccessToken`, `authenticateRequest`   the parts of
  the service;
* `OAuthWorld`, `oauthStep`  **all of it at once**: the tables, the calls under way, the clock, which does
  not go back, and a history that no step reads.
-/

namespace Proofplane
open Base

structure Url where
  scheme : String
  host : Option String
  path : String
  query : Option String
  deriving DecidableEq, Repr

/-- the digests, the parser of URLs and the tokens are those of libraries -/
structure OAuthServer (Key Nonce : Type) where
  digest : String → Sha256Digest
  pkceChallenge : String → String
  parseUrl : String → Option Url
  tokens : McpOAuthTokens Key Nonce

def authorizationCodeTtl : Int := minutes 5

def authorizationRequestTtl : Int := minutes 10

def accessTokenTtl : Int := hours 24

inductive OAuthError
  | invalidRequest | invalidGrant | clientResolution
  | repository (error : RepositoryError)
  | agentConnection (error : AgentConnectionCommandError)
  | token (error : PasetoError)
  deriving DecidableEq, Repr

structure AuthorizePayload where
  clientId : String
  redirectUri : String
  codeChallenge : String
  scopes : List WorkspacePermission
  state : Option String

/-- what is known of a client -/
structure RegisteredClient where
  clientName : String
  redirectUris : List String

structure TokenPayload where
  clientId : String
  redirectUri : String
  code : String
  codeVerifier : String
  deriving DecidableEq, Repr

/-! ## Errors and redirects -/

def requestAuthorizationError : OAuthAuthorizationCommandError → OAuthError
  | .unavailable => .invalidRequest
  | .invalid => .invalidRequest
  | .repository error => .repository error

def authorizationGrantError : OAuthAuthorizationCommandError → OAuthError
  | .unavailable => .invalidGrant
  | .invalid => .invalidGrant
  | .repository error => .repository error

def isLoopbackRedirect (url : Url) : Bool :=
  decide (url.scheme = "http") && url.host.any fun host =>
    decide (host = "127.0.0.1") || decide (host = "localhost") || decide (host = "::1") ||
      decide (host = "[::1]")

/-- the same text, or two loopback redirects that differ in their port only -/
def redirectUriMatches (parseUrl : String → Option Url) (declared requested : String) : Bool :=
  if declared = requested then true
  else
    match parseUrl declared, parseUrl requested with
    | some d, some r =>
      isLoopbackRedirect d && isLoopbackRedirect r && decide (d.scheme = r.scheme) &&
        decide (d.host = r.host) && decide (d.path = r.path) && decide (d.query = r.query)
    | _, _ => false

/-! ## Bearer tokens -/

/-- the `Authorization` header without the scheme; `none` too where it is not text -/
def bearerToken (authorization : Option String) : Option String :=
  (authorization.bind fun value =>
    if "Bearer ".toList.isPrefixOf value.toList then some (String.ofList (value.toList.drop 7))
    else none).filter fun token => token ≠ "" ∧ trim token = token

inductive McpResponse
  | unauthorized
  | internalServerError
  | admitted (principal : AgentConnectionContext)
  deriving DecidableEq, Repr

/-- the readings of the clock of a token exchange, in order -/
structure IssueInstants where
  activatedAt : Int
  usedAt : Int
  expiresFrom : Int
  issuedAt : Int

/-- one reading of the clock for all -/
def IssueInstants.once (now : Int) : IssueInstants := ⟨now, now, now, now⟩

/-! ## The service -/

namespace OAuthServer
variable {Key Nonce : Type} (S : OAuthServer Key Nonce)

/-- the resource is the audience of the tokens: one setting is both -/
def resource : String := S.tokens.audience

def prepareAuthorization (db : OAuthDb) (payload : AuthorizePayload) (client : Option RegisteredClient)
    (requestId : OAuthAuthorizationRequestId) (csrfToken : String) (now : Int) :
    Except OAuthError (OAuthAuthorizationFlow × OAuthDb) :=
  match client with
  | none => .error .clientResolution
  | some client =>
    if (client.redirectUris.any fun uri => redirectUriMatches S.parseUrl uri payload.redirectUri)
        = false then
      .error .invalidRequest
    else
      (db.requestOAuthAuthorization S.digest
        { requestId
          clientId := payload.clientId
          clientName := client.clientName
          redirectUri := payload.redirectUri
          codeChallenge := payload.codeChallenge
          state := payload.state.getD ""
          resource := S.resource
          scopes := payload.scopes
          csrfToken
          createdAt := now
          expiresAt := now + authorizationRequestTtl }).mapError requestAuthorizationError

def consumeCommand (payload : TokenPayload) (now : Int) : ConsumeOAuthAuthorizationCode :=
  ⟨payload.code, payload.clientId, payload.redirectUri, now⟩

def verifierMatches (payload : TokenPayload) (grant : OAuthAuthorizationCodeGrant) : Bool :=
  decide (S.pkceChallenge payload.codeVerifier = grant.codeChallenge)

def authorizeCommand (grant : OAuthAuthorizationCodeGrant) : AuthorizeAgentConnection :=
  ⟨grant.agentConnectionId, grant.workspaceId, grant.auth0Subject, grant.clientId, grant.resource,
    grant.scopes⟩

def grantClaims (grant : OAuthAuthorizationCodeGrant) (context : AgentConnectionContext) :
    McpOAuthClaims where
  auth0Subject := grant.auth0Subject
  clientId := grant.clientId
  connectionId := context.connectionId.uuid
  workspaceId := context.workspaceId.uuid
  resource := grant.resource
  scopes := grant.scopes.map WorkspacePermission.asStr

/-- the token is sealed once the unit of work has committed, from what it has answered -/
def issueTokenForCode (db : OAuthDb) (grant : OAuthAuthorizationCodeGrant) (instants : IssueInstants)
    (tokenId : Uuid) (nonce : Nonce) (fault : CommitFault) :
    Except OAuthError IssuedPasetoToken × OAuthDb :=
  let (answer, db) := settle (.repository .database) fault db
    (db.authorizeAgentConnection (authorizeCommand grant) instants.activatedAt instants.usedAt)
  (match answer with
    | .error e => .error (.agentConnection e)
    | .ok none => .error .invalidGrant
    | .ok (some context) =>
      (S.tokens.encrypt ⟨context.userId.uuid, tokenId, instants.expiresFrom + accessTokenTtl⟩
        (grantClaims grant context) nonce instants.issuedAt).mapError .token,
    db)

/-- the whole exchange at one instant, with nothing in between -/
def issueAccessToken (db : OAuthDb) (payload : TokenPayload) (now : Int) (tokenId : Uuid)
    (nonce : Nonce) : Except OAuthError IssuedPasetoToken × OAuthDb :=
  match db.consumeOAuthAuthorizationCode S.digest (consumeCommand payload now) with
  | .error e => (.error (authorizationGrantError e), db)
  | .ok (grant, db) =>
    if S.verifierMatches payload grant = false then (.error .invalidGrant, db)
    else S.issueTokenForCode db grant (.once now) tokenId nonce .none

/-- the connection that verified claims speak of -/
def requestCommand (claims : VerifiedMcpClaims) : Option AuthorizeAgentConnection :=
  match claims.connectionId, claims.workspaceId with
  | some connectionId, some workspaceId =>
    some ⟨connectionId, workspaceId, claims.subject, claims.clientId, S.resource, claims.scopes⟩
  | _, _ => none

def authenticateRequest (db : OAuthDb) (authorization : Option String)
    (verifiedAt activatedAt usedAt : Int) (fault : CommitFault) : McpResponse × OAuthDb :=
  match bearerToken authorization with
  | none => (.unauthorized, db)
  | some token =>
    match S.tokens.verifyAccessToken token verifiedAt with
    | .error _ => (.unauthorized, db)
    | .ok claims =>
      match S.requestCommand claims with
      | none => (.unauthorized, db)
      | some command =>
        let (answer, db) := settle (.repository .database) fault db
          (db.authorizeAgentConnection command activatedAt usedAt)
        (match answer with
          | .error _ => .internalServerError
          | .ok none => .unauthorized
          | .ok (some context) => .admitted context,
          db)

end OAuthServer

/-! ## All calls at once -/

/-- what a call does next -/
inductive OAuthTask
  /-- `complete_upstream_login` has attached the subject and looks for a connection -/
  | reusing (flow : OAuthAuthorizationFlow) (auth0Subject : String)
  /-- `approve_consent` has read the context: it makes a connection, looks it up, consumes it -/
  | requesting (context : OAuthConsentContext)
  | consuming (context : OAuthConsentContext) (continuationToken nonce : String)
  | consumingConnection (context : OAuthConsentContext) (continuationToken nonce : String)
      (connectionId : AgentConnectionId)
  /-- both go on to issue a code -/
  | approving (requestId : OAuthAuthorizationRequestId) (redirectUri state : String)
      (connectionId : AgentConnectionId) (workspaceId : WorkspaceId)
  /-- `issue_access_token` has consumed the code, and is done -/
  | exchanging (payload : TokenPayload) (grant : OAuthAuthorizationCodeGrant)
  | exchanged (payload : TokenPayload) (grant : OAuthAuthorizationCodeGrant)
      (token : Option IssuedPasetoToken)
  | finished
  deriving DecidableEq, Repr

structure OAuthCall where
  id : Nat
  task : OAuthTask
  deriving DecidableEq, Repr

/-- what has happened -/
inductive OAuthRecord
  | attached (requestId : OAuthAuthorizationRequestId) (auth0Subject : String) (userId : UserId)
  | approved (requestId : OAuthAuthorizationRequestId) (codeDigest : Sha256Digest)
  /-- a redirect with a code was returned -/
  | redirected (requestId : OAuthAuthorizationRequestId) (code : String)
  | issued (payload : TokenPayload) (grant : OAuthAuthorizationCodeGrant) (token : IssuedPasetoToken)
  | admitted (principal : AgentConnectionContext)
  deriving DecidableEq, Repr

structure OAuthWorld where
  clock : Int
  db : OAuthDb
  calls : Table OAuthCall.id
  log : List OAuthRecord

inductive OAuthEvent (Nonce : Type)
  | prepare (payload : AuthorizePayload) (client : Option RegisteredClient)
      (requestId : OAuthAuthorizationRequestId) (csrfToken : String) (now : Int) (fault : CommitFault)
  | callback (call : Nat) (csrfToken auth0Subject : String) (userId : UserId) (now : Int)
      (fault : CommitFault)
  | findReusable (call : Nat) (ok : Bool)
  | approveConsent (call : Nat) (requestId : OAuthAuthorizationRequestId) (now : Int) (ok : Bool)
  | requestConnection (call : Nat) (connectionId : AgentConnectionId)
      (transactionId : AgentConnectionAuthorizationId) (continuationToken nonce : String) (now : Int)
      (fault : CommitFault)
  | findContinuation (call : Nat) (ok : Bool)
  | consumeContinuation (call : Nat) (now : Int) (fault : CommitFault)
  | approve (call : Nat) (code : String) (now : Int) (fault : CommitFault)
  | cancel (requestId : OAuthAuthorizationRequestId) (now : Int) (fault : CommitFault)
  | exchange (call : Nat) (payload : TokenPayload) (now : Int) (fault : CommitFault)
  | authorize (call : Nat) (instants : IssueInstants) (tokenId : Uuid) (nonce : Nonce)
      (fault : CommitFault)
  | request (authorization : Option String) (verifiedAt activatedAt usedAt : Int) (fault : CommitFault)
  | deny (connectionId : AgentConnectionId) (now : Int) (fault : CommitFault)
  | activate (connectionId : AgentConnectionId) (now : Int) (fault : CommitFault)
  | use (connectionId : AgentConnectionId) (now : Int) (fault : CommitFault)
  | revoke (command : RevokeAgentConnection) (now : Int) (fault : CommitFault)
  /-- users sign up, members come and go: the rest of the application may leave these tables in any way -/
  | accounts (users : Table User.id) (workspaces : WorkspaceTables)

namespace OAuthWorld

/-- no connection and no flow; every instant the server reads comes after the epoch of the database -/
def empty : OAuthWorld := ⟨pgEpoch, .empty, .empty, []⟩

def tick (w : OAuthWorld) (now : Int) : Option OAuthWorld :=
  if w.clock ≤ now then some { w with clock := now } else none

def goesOn (w : OAuthWorld) (call : Nat) (task : OAuthTask) : OAuthWorld :=
  { w with calls := w.calls.upsert ⟨call, task⟩ }

def record (w : OAuthWorld) (r : Option OAuthRecord) : OAuthWorld := { w with log := r.toList ++ w.log }

/-- the call, if it is at this point -/
def task (w : OAuthWorld) (call : Nat) : Option OAuthTask := (w.calls.get? call).map OAuthCall.task

/-- a unit of work whose answer nobody waits for -/
def detached {α ε : Type} (w : OAuthWorld) (lost : ε) (fault : CommitFault)
    (r : Except ε (α × OAuthDb)) : OAuthWorld :=
  { w with db := (settle lost fault w.db r).2 }

end OAuthWorld

namespace OAuthServer
variable {Key Nonce : Type} (S : OAuthServer Key Nonce)

def callbackStep (w : OAuthWorld) (call : Nat) (command : AttachOAuthAuthorizationSubject)
    (fault : CommitFault) : OAuthWorld :=
  let r := w.db.attachOAuthAuthorizationSubject S.digest command
  let (answer, db) := settle (.repository .database) fault w.db r
  let w := { w with db }.record
    ((landed fault r).map fun flow : OAuthAuthorizationFlow => .attached flow.id command.auth0Subject command.userId)
  match answer with
  | .error _ => w.goesOn call .finished
  | .ok flow => w.goesOn call (.reusing flow command.auth0Subject)

def findReusableStep (w : OAuthWorld) (call : Nat) (flow : OAuthAuthorizationFlow)
    (auth0Subject : String) : OAuthWorld :=
  match w.db.findReusable auth0Subject flow.clientId flow.resource flow.scopes with
  | .error _ => w.goesOn call .finished
  | .ok none => w.goesOn call .finished
  | .ok (some connection) =>
    w.goesOn call
      (.approving flow.id flow.redirectUri flow.state connection.id connection.workspaceId)

def requestConnectionStep (w : OAuthWorld) (call : Nat) (context : OAuthConsentContext)
    (connectionId : AgentConnectionId) (transactionId : AgentConnectionAuthorizationId)
    (continuationToken nonce : String) (fault : CommitFault) : OAuthWorld :=
  let (answer, db) := settle (.repository .database) fault w.db
    (w.db.requestAgentConnection S.digest
      { userId := context.userId
        workspaceId := context.workspaceId
        auth0Subject := context.auth0Subject
        auth0ClientId := context.clientId
        clientDisplayName := context.clientName
        resource := context.resource
        permissions := context.scopes
        expiresAt := context.expiresAt
        continuationToken, nonce } connectionId transactionId w.clock)
  match answer with
  | .error _ => { w with db }.goesOn call .finished
  | .ok _ => { w with db }.goesOn call (.consuming context continuationToken nonce)

def consumeContinuationStep (w : OAuthWorld) (call : Nat) (context : OAuthConsentContext)
    (continuationToken nonce : String) (connectionId : AgentConnectionId) (fault : CommitFault) :
    OAuthWorld :=
  let (answer, db) := settle (.repository .database) fault w.db
    (w.db.consumeAgentConnectionContinuation connectionId (S.digest continuationToken)
      (S.digest nonce) w.clock)
  match answer with
  | .ok (.approved c) =>
    { w with db }.goesOn call
      (.approving context.requestId context.redirectUri context.state c.id c.workspaceId)
  | _ => { w with db }.goesOn call .finished

/-- a code is handed out once its unit of work has answered, in a URL that parses -/
def approveStep (w : OAuthWorld) (call : Nat) (command : ApproveOAuthAuthorization)
    (redirectUri : String) (fault : CommitFault) : OAuthWorld :=
  let r := w.db.approveOAuthAuthorization S.digest command
  let (answer, db) := settle (.repository .database) fault w.db r
  let w := ({ w with db }.record
    ((landed fault r).map fun flow : OAuthAuthorizationFlow => .approved flow.id (S.digest command.code))).goesOn call .finished
  match answer with
  | .error _ => w
  | .ok _ =>
    if (S.parseUrl redirectUri).isSome then
      w.record (some (.redirected command.requestId command.code))
    else w

def exchangeStep (w : OAuthWorld) (call : Nat) (payload : TokenPayload) (fault : CommitFault) :
    OAuthWorld :=
  let (answer, db) := settle (.repository .database) fault w.db
    (w.db.consumeOAuthAuthorizationCode S.digest (consumeCommand payload w.clock))
  match answer with
  | .error _ => { w with db }.goesOn call .finished
  | .ok grant =>
    if S.verifierMatches payload grant = false then
      { w with db }.goesOn call (.exchanged payload grant none)
    else { w with db }.goesOn call (.exchanging payload grant)

def authorizeStep (w : OAuthWorld) (call : Nat) (payload : TokenPayload)
    (grant : OAuthAuthorizationCodeGrant) (instants : IssueInstants) (tokenId : Uuid) (nonce : Nonce)
    (fault : CommitFault) : OAuthWorld :=
  let (answer, db) := S.issueTokenForCode w.db grant instants tokenId nonce fault
  match answer with
  | .error _ => { w with db }.goesOn call (.exchanged payload grant none)
  | .ok token =>
    ({ w with db }.goesOn call (.exchanged payload grant (some token))).record
      (some (.issued payload grant token))

def requestStep (w : OAuthWorld) (authorization : Option String) (verifiedAt activatedAt usedAt : Int)
    (fault : CommitFault) : OAuthWorld :=
  let (response, db) := S.authenticateRequest w.db authorization verifiedAt activatedAt usedAt fault
  match response with
  | .admitted principal => { w with db }.record (some (.admitted principal))
  | _ => { w with db }

end OAuthServer

/-- one step of the server -/
def oauthStep {Key Nonce : Type} (S : OAuthServer Key Nonce) (w : OAuthWorld) :
    OAuthEvent Nonce → Option OAuthWorld
  | .prepare payload client requestId csrfToken now fault =>
    (w.tick now).map fun w =>
      w.detached (.repository .database) fault
        (S.prepareAuthorization w.db payload client requestId csrfToken now)
  | .callback call csrfToken auth0Subject userId now fault =>
    if (w.calls.get? call).isSome then none
    else (w.tick now).map fun w => S.callbackStep w call ⟨csrfToken, auth0Subject, userId, now⟩ fault
  | .findReusable call ok =>
    match w.task call with
    | some (.reusing flow auth0Subject) =>
      some (if ok then OAuthServer.findReusableStep w call flow auth0Subject else w.goesOn call .finished)
    | _ => none
  | .approveConsent call requestId now ok =>
    if (w.calls.get? call).isSome then none
    else
      (w.tick now).map fun w =>
        match if ok then w.db.consentContext requestId now else none with
        | none => w.goesOn call .finished
        | some context => w.goesOn call (.requesting context)
  | .requestConnection call connectionId transactionId continuationToken nonce now fault =>
    match w.task call with
    | some (.requesting context) =>
      -- a random id is new
      if (w.db.connections.get? connectionId).isSome then none
      else
        (w.tick now).map fun w =>
          S.requestConnectionStep w call context connectionId transactionId continuationToken nonce fault
    | _ => none
  | .findContinuation call ok =>
    match w.task call with
    | some (.consuming context continuationToken nonce) =>
      match if ok then w.db.continuationConnection (S.digest continuationToken) (some (S.digest nonce))
        else none with
      | none => some (w.goesOn call .finished)
      | some connectionId =>
        some (w.goesOn call (.consumingConnection context continuationToken nonce connectionId))
    | _ => none
  | .consumeContinuation call now fault =>
    match w.task call with
    | some (.consumingConnection context continuationToken nonce connectionId) =>
      (w.tick now).map fun w =>
        S.consumeContinuationStep w call context continuationToken nonce connectionId fault
    | _ => none
  | .approve call code now fault =>
    match w.task call with
    | some (.approving requestId redirectUri _ connectionId workspaceId) =>
      (w.tick now).map fun w =>
        S.approveStep w call
          ⟨requestId, code, connectionId, workspaceId, now, now + authorizationCodeTtl⟩ redirectUri fault
    | _ => none
  | .cancel requestId now fault =>
    (w.tick now).map fun w =>
      w.detached (.repository .database) fault (w.db.cancelOAuthAuthorization ⟨requestId, now⟩)
  | .exchange call payload now fault =>
    if (w.calls.get? call).isSome then none
    else (w.tick now).map fun w => S.exchangeStep w call payload fault
  | .authorize call instants tokenId nonce fault =>
    match w.task call with
    | some (.exchanging payload grant) =>
      if w.clock ≤ instants.activatedAt ∧ instants.activatedAt ≤ instants.usedAt ∧
          instants.usedAt ≤ instants.expiresFrom then
        ({ w with clock := instants.expiresFrom }.tick instants.issuedAt).map fun w =>
          S.authorizeStep w call payload grant instants tokenId nonce fault
      else none
    | _ => none
  | .request authorization verifiedAt activatedAt usedAt fault =>
    if w.clock ≤ verifiedAt ∧ verifiedAt ≤ activatedAt then
      ({ w with clock := activatedAt }.tick usedAt).map fun w =>
        S.requestStep w authorization verifiedAt activatedAt usedAt fault
    else none
  | .deny connectionId now fault =>
    (w.tick now).map fun w =>
      w.detached (.repository .database) fault (w.db.denyAgentConnection connectionId now)
  | .activate connectionId now fault =>
    (w.tick now).map fun w =>
      w.detached (.repository .database) fault (w.db.activateAgentConnection connectionId now)
  | .use connectionId now fault =>
    (w.tick now).map fun w =>
      w.detached (.repository .database) fault (w.db.useAgentConnection connectionId now)
  | .revoke command now fault =>
    (w.tick now).map fun w =>
      w.detached (.repository .database) fault (w.db.revokeAgentConnection command now)
  | .accounts users workspaces => some { w with db := { w.db with users, workspaces } }

/-! ## A server on new year -/

def newYearClient : String := "https://client.example/metadata.json"

def newYearRedirect : String := "http://127.0.0.1:8080/callback"

/-- a server with one key, which can seal one token and no other -/
def newYearServer : OAuthServer Unit Unit where
  digest text := ⟨BitVec.ofNat 256 (text.toList.foldl (fun n c => 256 * n + c.toNat) 0)⟩
  pkceChallenge verifier := verifier
  parseUrl _ := some ⟨"http", some "127.0.0.1", "/callback", none⟩
  tokens :=
    { layer := TokenLayer.only Unit Unit "token"
        ⟨"https://api.proofplane.example/", "https://mcp.proofplane.example/mcp", 4, 30, 1767225605,
          1767225605, 1767312005,
          ⟨"auth0|user", newYearClient, 20, 1, "https://mcp.proofplane.example/mcp",
            ["read_evidence"]⟩⟩
        ⟨"k1"⟩ mcpOAuthImplicitAssertion
      issuer := "https://api.proofplane.example/"
      audience := "https://mcp.proofplane.example/mcp"
      keys := .single "k1" ()
      issuer_ne := sampleIssuer_ne
      audience_ne := by decide
      keyId := sampleKey_not_blank }

/-- an instant so many seconds into the year 2026 -/
def newYear (second : Int) : Int := 1767225600000000000 + seconds second

/-- the user with a workspace -/
def newYearAccounts : OAuthEvent Unit :=
  .accounts ⟨[⟨⟨4⟩, "auth0|user"⟩], by decide⟩ ⟨.empty, ⟨[⟨⟨4⟩, ⟨1⟩, .owner, 0⟩], by decide⟩⟩

/-- a flow as far as the login of the user, without a connection to use again -/
def newYearLogin (requestId : Uuid) (csrfToken : String) (call : Nat) (second : Int) :
    List (OAuthEvent Unit) :=
  [.prepare ⟨newYearClient, newYearRedirect, "challenge", [.readEvidence], some "state"⟩
      (some ⟨"Client", [newYearRedirect]⟩) ⟨requestId⟩ csrfToken (newYear second) .none,
    .callback call csrfToken "auth0|user" ⟨4⟩ (newYear (second + 1)) .none,
    .findReusable call true]

/-- a consent up to its redirect, after the login -/
def newYearConsent : List (OAuthEvent Unit) :=
  newYearAccounts :: newYearLogin 10 "csrf-1" 0 0 ++
    [.approveConsent 1 ⟨10⟩ (newYear 2) true,
      .requestConnection 1 ⟨20⟩ ⟨21⟩ "continuation-1" "nonce-1" (newYear 3) .none,
      .findContinuation 1 true, .consumeContinuation 1 (newYear 3) .none,
      .approve 1 "code-1" (newYear 3) .none]

def newYearPayload : TokenPayload := ⟨newYearClient, newYearRedirect, "code-1", "challenge"⟩

end Proofplane
