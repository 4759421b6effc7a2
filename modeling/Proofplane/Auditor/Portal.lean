import Proofplane.Auditor.Commands
import Proofplane.Base.Log
import Proofplane.Base.Run
import Proofplane.Base.Transaction

/-!
# The auditor portal at work

All auditors and agents at once.  `CompleteAuditorAuthentication` claims a transaction, asks the identity
provider, looks up the grant and creates a session; between two of these any other call may take its
steps, and a call that has lost its process takes no more.

* `AuditorPortal`            what the portal is built from;
* `callbackStep`, `exchangeStep`, `resolveGrantStep`, `createSessionStep`   the authentication;
* `AuditorWorld`, `auditorStep`   the tables, the calls under way, and a history that no step reads.

A session is resolved by `AuditorDb.resolveSession`, which only reads.
-/

namespace Proofplane
open Base

structure VerifiedAuditorIdentity where
  subject : String
  email : String
  emailVerified : Bool
  deriving DecidableEq, Repr

structure AuditorIdentityExchange where
  authorizationCode : String
  redirectUri : String
  pkceVerifier : String
  expectedNonceDigest : Sha256Digest
  deriving DecidableEq, Repr

inductive AuditorIdentityProviderError
  | rejected | unavailable
  deriving DecidableEq, Repr

/-- `verified` says which identities the provider has verified in an exchange: it returns no others -/
structure AuditorPortal where
  sha256 : String → Sha256Digest
  isValid : String → Bool
  lowerTrim : String → String
  callbackUrl : String
  verified : AuditorIdentityExchange → VerifiedAuditorIdentity → Bool

inductive CompleteAuditorAuthenticationError
  | rejected | grantUnavailable | providerUnavailable | persistenceUnavailable
  deriving DecidableEq, Repr

structure CompletedAuditorAuthentication where
  transactionId : AuditorAuthTransactionId
  grant : ResolvedActiveAuditorGrant
  identity : VerifiedAuditorIdentity
  session : AuditorSession
  rawSession : String
  deriving DecidableEq, Repr

/-- what a call does next -/
inductive AuditorTask
  | exchanging (claimed : ClaimedAuditorAuthTransaction) (authorizationCode : String)
  | resolving (claimed : ClaimedAuditorAuthTransaction) (authorizationCode : String)
      (identity : VerifiedAuditorIdentity)
  | creating (claimed : ClaimedAuditorAuthTransaction) (authorizationCode : String)
      (identity : VerifiedAuditorIdentity) (grant : ResolvedActiveAuditorGrant)
  | failed (error : CompleteAuditorAuthenticationError)
  | completed (result : CompletedAuditorAuthentication)
  deriving DecidableEq, Repr

structure AuditorCall where
  id : Nat
  task : AuditorTask
  deriving DecidableEq, Repr

/-- a session, and what has led to it -/
structure CreatedAuditorSession where
  call : Nat
  claimed : ClaimedAuditorAuthTransaction
  authorizationCode : String
  identity : VerifiedAuditorIdentity
  session : AuditorSession
  deriving DecidableEq, Repr

/-- what has happened -/
inductive AuditorRecord
  | grantRevoked (grantId : AuditorAccessGrantId)
  /-- by whoever has the secret with this digest -/
  | sessionRevoked (sessionId : AuditorSessionId) (sessionDigest : Sha256Digest)
  /-- by a call, or by a callback that reports an error -/
  | claimed (call : Option Nat) (claimed : ClaimedAuditorAuthTransaction)
  | sessionCreated (created : CreatedAuditorSession)
  deriving DecidableEq, Repr

structure AuditorWorld where
  db : AuditorDb
  calls : Table AuditorCall.id
  log : List AuditorRecord

inductive AuditorEvent
  | issueGrant (command : IssueAuditorAccessGrant) (grantId : AuditorAccessGrantId)
      (secretDigest : Sha256Digest) (now : Int) (fault : CommitFault)
  | revokeGrant (connection : AgentConnectionContext) (grantId : AuditorAccessGrantId) (now : Int)
      (fault : CommitFault)
  | start (workspaceId : WorkspaceId) (grantId : AuditorAccessGrantId)
      (transactionId : AuditorAuthTransactionId) (state nonce verifier : String) (now : Int)
      (fault : CommitFault)
  /-- a callback that reports an error, or brings no code -/
  | claim (state : String) (now : Int) (fault : CommitFault)
  | callback (call : Nat) (state authorizationCode : String) (now : Int) (fault : CommitFault)
  | exchange (call : Nat) (result : Except AuditorIdentityProviderError VerifiedAuditorIdentity)
  | resolveGrant (call : Nat) (now : Int) (ok : Bool)
  | createSession (call : Nat) (sessionId : AuditorSessionId) (rawSession : Option String) (now : Int)
      (fault : CommitFault)
  | revokeSession (rawSession : String) (now : Int) (fault : CommitFault)

namespace AuditorWorld

def empty : AuditorWorld := ⟨.empty, .empty, []⟩

def task (w : AuditorWorld) (call : Nat) : Option AuditorTask := (w.calls.get? call).map AuditorCall.task

def goesOn (w : AuditorWorld) (call : Nat) (task : AuditorTask) : AuditorWorld :=
  { w with calls := w.calls.upsert ⟨call, task⟩ }

def record (w : AuditorWorld) (r : Option AuditorRecord) : AuditorWorld := { w with log := r.toList ++ w.log }

/-- a unit of work whose answer nobody waits for -/
def detached {α ε : Type} (w : AuditorWorld) (lost : ε) (fault : CommitFault)
    (r : Except ε (α × AuditorDb)) (tells : α → Option AuditorRecord) : AuditorWorld :=
  { w with db := (settle lost fault w.db r).2 }.record ((landed fault r).bind tells)

end AuditorWorld

def claimFailure : ClaimAuditorAuthTransactionError → CompleteAuditorAuthenticationError
  | .unavailable => .rejected
  | .repository _ => .persistenceUnavailable

def providerFailure : AuditorIdentityProviderError → CompleteAuditorAuthenticationError
  | .rejected => .rejected
  | .unavailable => .providerUnavailable

def sessionFailure : CreateAuthenticatedAuditorSessionError → CompleteAuditorAuthenticationError
  | .unavailable => .grantUnavailable
  | .random => .persistenceUnavailable
  | .repository _ => .persistenceUnavailable

namespace AuditorPortal
variable (P : AuditorPortal)

def callbackStep (w : AuditorWorld) (call : Nat) (state authorizationCode : String) (now : Int)
    (fault : CommitFault) : AuditorWorld :=
  if isBlank authorizationCode = true then w.goesOn call (.failed .rejected)
  else
    let r := w.db.claimAuditorAuthTransaction P.sha256 state now
    let (answer, db) := settle (.repository .database) fault w.db r
    let w := { w with db }.record ((landed fault r).map (.claimed (some call)))
    match answer with
    | .error e => w.goesOn call (.failed (claimFailure e))
    | .ok claimed => w.goesOn call (.exchanging claimed authorizationCode)

/-- what the provider is asked -/
def identityExchange (claimed : ClaimedAuditorAuthTransaction) (authorizationCode : String) :
    AuditorIdentityExchange :=
  ⟨authorizationCode, P.callbackUrl, claimed.pkceVerifier, claimed.nonceDigest⟩

def exchangeStep (w : AuditorWorld) (call : Nat) (claimed : ClaimedAuditorAuthTransaction)
    (authorizationCode : String)
    (result : Except AuditorIdentityProviderError VerifiedAuditorIdentity) : Option AuditorWorld :=
  match result with
  | .error e => some (w.goesOn call (.failed (providerFailure e)))
  | .ok identity =>
    if P.verified (P.identityExchange claimed authorizationCode) identity = true then
      some (w.goesOn call (.resolving claimed authorizationCode identity))
    else none

def resolveGrantStep (w : AuditorWorld) (call : Nat) (claimed : ClaimedAuditorAuthTransaction)
    (authorizationCode : String) (identity : VerifiedAuditorIdentity) (now : Int) (ok : Bool) :
    AuditorWorld :=
  if ok = false then w.goesOn call (.failed .persistenceUnavailable)
  else
    match w.db.resolveActiveGrant claimed.grantId now with
    | none => w.goesOn call (.failed .grantUnavailable)
    | some grant =>
      match normalizeEmail P.isValid identity.email with
      | none => w.goesOn call (.failed .rejected)
      | some identityEmail =>
        if identity.emailVerified = false ∨ identityEmail ≠ grant.auditorEmail then
          w.goesOn call (.failed .rejected)
        else w.goesOn call (.creating claimed authorizationCode identity grant)

def createSessionStep (w : AuditorWorld) (call : Nat) (claimed : ClaimedAuditorAuthTransaction)
    (authorizationCode : String) (identity : VerifiedAuditorIdentity)
    (grant : ResolvedActiveAuditorGrant) (sessionId : AuditorSessionId) (rawSession : Option String)
    (now : Int) (fault : CommitFault) : AuditorWorld :=
  let r := w.db.createAuthenticatedAuditorSession P.sha256 P.lowerTrim
    ⟨grant.workspaceId, grant.id, identity.subject⟩ sessionId rawSession now
  let (answer, db) := settle (.repository .database) fault w.db r
  let w := { w with db }.record ((landed fault r).map fun created : AuditorSession × String =>
    .sessionCreated ⟨call, claimed, authorizationCode, identity, created.1⟩)
  match answer with
  | .error e => w.goesOn call (.failed (sessionFailure e))
  | .ok (session, rawSession) =>
    w.goesOn call (.completed ⟨claimed.id, grant, identity, session, rawSession⟩)

end AuditorPortal

/-- one step of the portal; a random id is new -/
def auditorStep (P : AuditorPortal) (w : AuditorWorld) : AuditorEvent → Option AuditorWorld
  | .issueGrant command grantId secretDigest now fault =>
    if (w.db.grants.get? grantId).isSome then none
    else
      some (w.detached (.repository .database) fault
        (w.db.issueAuditorAccessGrant P.isValid P.lowerTrim command grantId secretDigest now)
        fun _ => none)
  | .revokeGrant connection grantId now fault =>
    some (w.detached (.repository .database) fault
      (w.db.revokeAuditorAccessGrant P.lowerTrim connection grantId now)
      fun grant => some (.grantRevoked grant.id))
  | .start workspaceId grantId transactionId state nonce verifier now fault =>
    if (w.db.transactions.get? transactionId).isSome then none
    else
      some (w.detached (.repository .database) fault
        (w.db.startAuditorAuthTransaction P.sha256 workspaceId grantId transactionId state nonce verifier
          now)
        fun _ => none)
  | .claim state now fault =>
    some (w.detached (.repository .database) fault
      (w.db.claimAuditorAuthTransaction P.sha256 state now)
      fun claimed => some (.claimed none claimed))
  | .callback call state authorizationCode now fault =>
    if (w.calls.get? call).isSome then none
    else some (P.callbackStep w call state authorizationCode now fault)
  | .exchange call result =>
    match w.task call with
    | some (.exchanging claimed authorizationCode) =>
      P.exchangeStep w call claimed authorizationCode result
    | _ => none
  | .resolveGrant call now ok =>
    match w.task call with
    | some (.resolving claimed authorizationCode identity) =>
      some (P.resolveGrantStep w call claimed authorizationCode identity now ok)
    | _ => none
  | .createSession call sessionId rawSession now fault =>
    match w.task call with
    | some (.creating claimed authorizationCode identity grant) =>
      if (w.db.sessions.get? sessionId).isSome then none
      else
        some (P.createSessionStep w call claimed authorizationCode identity grant sessionId rawSession
          now fault)
    | _ => none
  | .revokeSession rawSession now fault =>
    some (w.detached (.repository .database) fault
      (w.db.revokeAuditorSession P.sha256 P.lowerTrim rawSession now)
      fun answer => some (.sessionRevoked answer.1.id (P.sha256 rawSession)))

end Proofplane
