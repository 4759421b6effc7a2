import Proofplane.Base.Html
import Proofplane.Base.Transaction
import Proofplane.Documents.Commands
import Proofplane.Invitation.Store
import Proofplane.Messaging.Worker

/-!
# The invitation service

The commands of the management plane on invitations and the handler that mails them, over one database.
A command reads who acts, changes one invitation and appends the message that has it mailed; the handler
locks the invitation of a message, hands a mail to the provider and records what became of it, all in one
unit of work.

* `createInvitation`, `resendInvitation`, `revokeInvitation`   the units of work of the commands;
* `createWorkspaceInvitation`, `resendWorkspaceInvitation`, `revokeWorkspaceInvitation`   the commands;
* `deliveryUnit`, `deliverWorkspaceInvitation`   the handler, with the mail it has sent;
* `InvitationWorld`, `InvitationEvent`, `peopleStep`   the service as a system of steps.
-/

namespace Proofplane
open Base

/-- what the service is configured with; `lowerTrim` is `lower(trim(·))`, `urlText` writes a link out -/
structure InvitationServer (Key Nonce Token : Type*) where
  authority : WorkspaceInvitationAuthority Key Nonce Token
  isValid : String → Bool
  lowerTrim : String → String
  urlText : IssuedWorkspaceInvitationLink Token → String
  maxDeliveryAttempts : Int

/-- `INVITATION_LIFETIME` -/
def invitationLifetime : Int := days 7

structure WorkspaceInvitationMetadata where
  id : WorkspaceInvitationId
  invitedEmail : String
  role : WorkspaceRole
  generation : Int
  expiresAt : Int
  deliveryState : WorkspaceInvitationDeliveryState
  deriving DecidableEq, Repr

def WorkspaceInvitation.metadata (i : WorkspaceInvitation) : WorkspaceInvitationMetadata :=
  ⟨i.id, i.invitedEmail, i.role, i.generation, i.expiresAt, i.deliveryState⟩

def CurrentWorkspaceInvitation.metadata (i : CurrentWorkspaceInvitation) :
    WorkspaceInvitationMetadata :=
  ⟨i.id, i.invitedEmail, i.role, i.generation, i.expiresAt, i.deliveryState⟩

/-! ## Commands -/

structure CreateWorkspaceInvitation where
  invitationId : WorkspaceInvitationId
  actorUserId : UserId
  email : String
  createdAt : Int
  deriving DecidableEq, Repr

structure ResendWorkspaceInvitation where
  invitationId : WorkspaceInvitationId
  actorUserId : UserId
  expectedGeneration : Int
  sentAt : Int
  deriving DecidableEq, Repr

structure RevokeWorkspaceInvitation where
  invitationId : WorkspaceInvitationId
  actorUserId : UserId
  expectedGeneration : Int
  revokedAt : Int
  deriving DecidableEq, Repr

/-- the answer of a creation and of a resend -/
structure InvitationWithLink (Token : Type*) where
  invitation : WorkspaceInvitationMetadata
  link : IssuedWorkspaceInvitationLink Token
  workspaceId : WorkspaceId
  deriving DecidableEq, Repr

structure RevokedWorkspaceInvitation where
  invitationId : WorkspaceInvitationId
  workspaceId : WorkspaceId
  deriving DecidableEq, Repr

inductive CreateOutcome
  | created (invitation : WorkspaceInvitation)
  | unavailable | existingMember
  | duplicate (metadata : WorkspaceInvitationMetadata)
  deriving DecidableEq, Repr

inductive ResendOutcome
  | resent (invitation : WorkspaceInvitation)
  | stale | unavailable
  deriving DecidableEq, Repr

inductive RevokeOutcome
  | revoked (workspaceId : WorkspaceId)
  | staleGeneration | unavailable
  deriving DecidableEq, Repr

inductive CreateWorkspaceInvitationError
  | invalidEmail | unavailable | existingMember
  | duplicate (metadata : WorkspaceInvitationMetadata)
  | repository (e : RepositoryError)
  | authority (e : WorkspaceInvitationAuthorityError)
  deriving DecidableEq, Repr

inductive ResendWorkspaceInvitationError
  | unavailable | staleGeneration
  | repository (e : RepositoryError)
  | authority (e : WorkspaceInvitationAuthorityError)
  deriving DecidableEq, Repr

inductive RevokeWorkspaceInvitationError
  | unavailable | staleGeneration
  | repository (e : RepositoryError)
  deriving DecidableEq, Repr

/-- `append_delivery_command` -/
def PeopleDb.appendDeliveryCommand (db : PeopleDb) (i : WorkspaceInvitation)
    (metadata : ExecutionMetadata) (messageId : Uuid) : PeopleDb :=
  { db with
    outbox := db.outbox ++ [⟨messageBusTopic, .newSendWorkspaceInvitation i.id.uuid i.generation
      (correlationOf metadata) metadata.causationId messageId⟩] }

/-- the unit of work of a creation -/
def createInvitation (lowerTrim : String → String) (db : PeopleDb) (email : String)
    (command : CreateWorkspaceInvitation) (metadata : ExecutionMetadata) (messageId : Uuid) :
    Except RepositoryError (CreateOutcome × PeopleDb) :=
  match db.resolveIdForMember command.actorUserId with
  | none => .ok (.unavailable, db)
  | some workspaceId =>
    match db.getWorkspace workspaceId with
    | .error e => .error e
    | .ok none => .ok (.unavailable, db)
    | .ok (some workspace) =>
      -- both roles may invite
      if (workspace.roleFor command.actorUserId).isNone then .ok (.unavailable, db)
      else if (db.memberIdByEmail lowerTrim workspaceId email).isSome then .ok (.existingMember, db)
      else
        match db.lockPendingForEmail workspaceId email command.createdAt with
        | some existing => .ok (.duplicate existing.metadata, db)
        | none =>
          match WorkspaceInvitation.create command.invitationId workspaceId command.actorUserId email
              command.createdAt (command.createdAt + invitationLifetime) with
          | .error _ => .error (.invariantViolation "new workspace invitation must be valid")
          | .ok invitation =>
            match invitation.queueDelivery invitation.generation command.createdAt with
            | .error _ => .error (.invariantViolation "new invitation delivery must queue")
            | .ok invitation =>
              match db.saveInvitation invitation with
              | .error e => .error e
              | .ok db =>
                .ok (.created invitation, db.appendDeliveryCommand invitation metadata messageId)

/-- the unit of work of a resend -/
def resendInvitation (db : PeopleDb) (command : ResendWorkspaceInvitation)
    (metadata : ExecutionMetadata) (messageId : Uuid) :
    Except RepositoryError (ResendOutcome × PeopleDb) :=
  match db.resolveIdForMember command.actorUserId with
  | none => .ok (.unavailable, db)
  | some workspaceId =>
    if (db.roleFor workspaceId command.actorUserId).isNone then .ok (.unavailable, db)
    else
      match db.getInvitationForWorkspace command.invitationId workspaceId with
      | .error e => .error e
      | .ok none => .ok (.unavailable, db)
      | .ok (some invitation) =>
        match invitation.resend command.expectedGeneration command.sentAt
            (command.sentAt + invitationLifetime) with
        | .error .staleGeneration => .ok (.stale, db)
        | .error _ => .ok (.unavailable, db)
        | .ok invitation =>
          match db.saveInvitation invitation with
          | .error e => .error e
          | .ok db => .ok (.resent invitation, db.appendDeliveryCommand invitation metadata messageId)

/-- the unit of work of a revocation -/
def revokeInvitation (db : PeopleDb) (command : RevokeWorkspaceInvitation) :
    Except RepositoryError (RevokeOutcome × PeopleDb) :=
  match db.resolveIdForMember command.actorUserId with
  | none => .ok (.unavailable, db)
  | some workspaceId =>
    if (db.roleFor workspaceId command.actorUserId).isNone then .ok (.unavailable, db)
    else
      match db.getInvitationForWorkspace command.invitationId workspaceId with
      | .error e => .error e
      | .ok none => .ok (.unavailable, db)
      | .ok (some invitation) =>
        match invitation.revoke command.expectedGeneration command.revokedAt with
        | .error .staleGeneration => .ok (.staleGeneration, db)
        | .error _ => .ok (.unavailable, db)
        | .ok invitation =>
          match db.saveInvitation invitation with
          | .error e => .error e
          | .ok db => .ok (.revoked workspaceId, db)

section
variable {Key Nonce Token : Type*}

/-- the link of an invitation that has just been saved; `issuedAt` is read after the commit -/
def InvitationServer.withLink (S : InvitationServer Key Nonce Token) (i : WorkspaceInvitation)
    (nonce : Nonce) (issuedAt : Int) :
    Except WorkspaceInvitationAuthorityError (InvitationWithLink Token) :=
  (S.authority.issueAt i.authoritySource nonce issuedAt).map fun link =>
    ⟨i.metadata, link, i.workspaceId⟩

def createWorkspaceInvitation (S : InvitationServer Key Nonce Token) (db : PeopleDb)
    (command : CreateWorkspaceInvitation) (metadata : ExecutionMetadata) (messageId : Uuid)
    (nonce : Nonce) (issuedAt : Int) :
    Except CreateWorkspaceInvitationError (InvitationWithLink Token) × PeopleDb :=
  match normalizeEmail S.isValid command.email with
  | none => (.error .invalidEmail, db)
  | some email =>
    match createInvitation S.lowerTrim db email command metadata messageId with
    | .error e => (.error (.repository e), db)
    | .ok (.unavailable, db) => (.error .unavailable, db)
    | .ok (.existingMember, db) => (.error .existingMember, db)
    | .ok (.duplicate metadata, db) => (.error (.duplicate metadata), db)
    | .ok (.created invitation, db) =>
      match S.withLink invitation nonce issuedAt with
      | .error e => (.error (.authority e), db)
      | .ok created => (.ok created, db)

def resendWorkspaceInvitation (S : InvitationServer Key Nonce Token) (db : PeopleDb)
    (command : ResendWorkspaceInvitation) (metadata : ExecutionMetadata) (messageId : Uuid)
    (nonce : Nonce) (issuedAt : Int) :
    Except ResendWorkspaceInvitationError (InvitationWithLink Token) × PeopleDb :=
  match resendInvitation db command metadata messageId with
  | .error e => (.error (.repository e), db)
  | .ok (.stale, db) => (.error .staleGeneration, db)
  | .ok (.unavailable, db) => (.error .unavailable, db)
  | .ok (.resent invitation, db) =>
    match S.withLink invitation nonce issuedAt with
    | .error e => (.error (.authority e), db)
    | .ok resent => (.ok resent, db)

end

def revokeWorkspaceInvitation (db : PeopleDb) (command : RevokeWorkspaceInvitation) :
    Except RevokeWorkspaceInvitationError RevokedWorkspaceInvitation × PeopleDb :=
  match revokeInvitation db command with
  | .error e => (.error (.repository e), db)
  | .ok (.staleGeneration, db) => (.error .staleGeneration, db)
  | .ok (.unavailable, db) => (.error .unavailable, db)
  | .ok (.revoked workspaceId, db) => (.ok ⟨command.invitationId, workspaceId⟩, db)

/-! ## The delivery handler -/

structure MailMessage where
  toAddress : String
  subject : String
  text : String
  html : String
  idempotencyKey : String
  deriving DecidableEq, Repr

inductive MailFailureClass
  | retryable | permanent
  deriving DecidableEq, Repr

structure MailError where
  failureClass : MailFailureClass
  statusClass : String
  deriving DecidableEq, Repr

inductive DeliveryOutcome
  | acknowledged | delivered
  | failed (failureClass : MailFailureClass) (statusClass : String)
  | retry (statusClass : String)
  deriving DecidableEq, Repr

/-- an error after which the message is delivered again -/
inductive RetryableWorkerError
  | repository (e : RepositoryError)
  | message (text : String)
  deriving DecidableEq, Repr

/-- what happens to the handler while it runs: three instants, what the provider answers, and how the
unit of work ends -/
structure DeliveryAttempt (Nonce : Type*) where
  now : Int
  nonce : Nonce
  issuedAt : Int
  answer : Except MailError Unit
  recordedAt : Int
  fault : CommitFault

/-- five passes over the whole text, the ampersand first -/
def escapeHtml (value : String) : String :=
  let value := replaceChar '&' "&amp;" value
  let value := replaceChar '<' "&lt;" value
  let value := replaceChar '>' "&gt;" value
  let value := replaceChar '"' "&quot;" value
  replaceChar '\'' "&#39;" value

def invitationMail (i : WorkspaceInvitation) (workspaceName url idempotencyKey : String) :
    MailMessage where
  toAddress := i.invitedEmail
  subject := "Join " ++ workspaceName ++ " on Proofplane"
  text := "You have been invited to join " ++ workspaceName ++
    " as an administrator.\n\nOpen this invitation: " ++ url ++
    "\n\nThis link expires in seven days."
  html := "<p>You have been invited to join " ++ escapeHtml workspaceName ++
    " as an administrator.</p><p><a href=\"" ++ escapeHtml url ++
    "\">Open invitation</a></p><p>This link expires in seven days.</p>"
  idempotencyKey := idempotencyKey

def deliveryIdempotencyKey (work : WorkspaceInvitationDeliveryWork) : String :=
  "workspace-invitation/" ++ work.invitationId.text ++ "/" ++ toString work.generation

/-- how a failure of the provider is classified -/
def deliveryFailure (finalDelivery : Bool) (error : MailError) : WorkspaceInvitationDeliveryFailure :=
  if finalDelivery then .exhausted
  else if error.failureClass = .permanent then .permanent
  else .retryable

/-- the part after the mail: record what the provider answered -/
def recordDelivery (db : PeopleDb) (i : WorkspaceInvitation) (generation : Int) (finalDelivery : Bool)
    (answer : Except MailError Unit) (recordedAt : Int) :
    Except RepositoryError (DeliveryOutcome × PeopleDb) :=
  match answer with
  | .ok () =>
    match i.recordDeliverySuccess generation recordedAt with
    | (i, .applied) => (db.saveInvitation i).map fun db => (.delivered, db)
    | (_, .ignored) => .ok (.acknowledged, db)
  | .error error =>
    match i.recordDeliveryFailure generation (deliveryFailure finalDelivery error) recordedAt with
    | (i, .applied) => (db.saveInvitation i).map fun db =>
      (if error.failureClass = .retryable ∧ finalDelivery = false then .retry error.statusClass
        else .failed error.failureClass error.statusClass, db)
    | (_, .ignored) => .ok (.acknowledged, db)

section
variable {Key Nonce Token : Type*}

/-- the unit of work of the handler, with the mail that it hands to the provider -/
def deliveryUnit (S : InvitationServer Key Nonce Token) (db : PeopleDb)
    (work : WorkspaceInvitationDeliveryWork) (finalDelivery : Bool) (a : DeliveryAttempt Nonce) :
    Option MailMessage × Except RepositoryError (DeliveryOutcome × PeopleDb) :=
  match db.getInvitation ⟨work.invitationId⟩ with
  | .error e => (none, .error e)
  | .ok none => (none, .ok (.acknowledged, db))
  | .ok (some i) =>
    if i.generation ≠ work.generation ∨ i.statusAt a.now ≠ .pending ∨
        i.deliveredGeneration = some work.generation then (none, .ok (.acknowledged, db))
    else
      match db.workspaces.get? i.workspaceId with
      | none => (none, .ok (.acknowledged, db))
      | some workspace =>
        match S.authority.issueAt i.authoritySource a.nonce a.issuedAt with
        | .error _ => (none, .error (.invariantViolation "current invitation authority must issue"))
        | .ok link =>
          (some (invitationMail i workspace.name (S.urlText link) (deliveryIdempotencyKey work)),
            recordDelivery db i work.generation finalDelivery a.answer a.recordedAt)

/-- what one delivery of a message has come to -/
structure DeliveryRun where
  answer : Except RetryableWorkerError Unit
  mail : Option MailMessage
  /-- the outcome of the unit of work, if it has committed -/
  landed : Option DeliveryOutcome
  db : PeopleDb

def deliverWorkspaceInvitation (S : InvitationServer Key Nonce Token) (db : PeopleDb)
    (message : WorkerMessage) (a : DeliveryAttempt Nonce) : DeliveryRun :=
  match invitationDelivery message with
  | none => ⟨.ok (), none, none, db⟩
  | some work =>
    let finalDelivery := message.deliveryAttempt.any fun attempt => S.maxDeliveryAttempts ≤ attempt
    let r := deliveryUnit S db work finalDelivery a
    let settled := settle (.database : RepositoryError) a.fault db r.2
    { answer :=
        match settled.1 with
        | .error e => .error (.repository e)
        | .ok (.retry _) => .error (.message "mail provider returned a retryable failure")
        | .ok _ => .ok ()
      mail := r.1
      landed := Base.landed a.fault r.2
      db := settled.2 }

/-! ## The service as a system -/

/-- a mail that was handed to the provider: for which generation of which invitation, whether the
provider took it, and the outcome of the unit of work if it has committed -/
structure SentMail where
  invitationId : WorkspaceInvitationId
  generation : Int
  message : MailMessage
  delivered : Bool
  landed : Option DeliveryOutcome

/-- the database, the clock, and the mails so far with the latest first -/
structure InvitationWorld where
  clock : Int
  db : PeopleDb
  mails : List SentMail

inductive InvitationEvent (Nonce Token : Type*)
  | tick (now : Int)
  /-- whatever else changes workspaces, memberships and users -/
  | people (tables : WorkspaceTables) (users : Table UserEmail.id)
  | create (command : CreateWorkspaceInvitation) (metadata : ExecutionMetadata) (messageId : Uuid)
      (nonce : Nonce)
  | resend (command : ResendWorkspaceInvitation) (metadata : ExecutionMetadata) (messageId : Uuid)
      (nonce : Nonce)
  | revoke (command : RevokeWorkspaceInvitation)
  /-- the link is verified at an instant of its own -/
  | accept (command : AcceptWorkspaceInvitation Token) (verifiedAt : Int)
  | deliver (message : WorkerMessage) (attempt : DeliveryAttempt Nonce)

/-- the clock starts in 2000; an invitation id is drawn afresh -/
def InvitationWorld.empty : InvitationWorld where
  clock := pgEpoch
  db :=
    { workspaces := .empty
      memberships := .empty
      invitations := .empty
      users := .empty
      outbox := [] }
  mails := []

/-- the mail of a delivery, as it is remembered -/
def DeliveryRun.sent (r : DeliveryRun) (message : WorkerMessage) (answer : Except MailError Unit) :
    List SentMail :=
  match invitationDelivery message, r.mail with
  | some work, some mail =>
    [⟨⟨work.invitationId⟩, work.generation, mail, answer.isOk, r.landed⟩]
  | _, _ => []

/-- an instant that a route has read by now: it reads the clock before it waits for the row -/
def InvitationWorld.HasRead (w : InvitationWorld) (t : Int) : Prop := pgEpoch ≤ t ∧ t ≤ w.clock

instance (w : InvitationWorld) (t : Int) : Decidable (w.HasRead t) := inferInstanceAs (Decidable (_ ∧ _))

def peopleStep (S : InvitationServer Key Nonce Token) (w : InvitationWorld) :
    InvitationEvent Nonce Token → Option InvitationWorld
  | .tick now => if w.clock ≤ now then some { w with clock := now } else none
  | .people tables users =>
    some { w with db := { w.db with toWorkspaceTables := tables, users := users } }
  | .create command metadata messageId nonce =>
    if w.HasRead command.createdAt ∧ w.db.invitations.get? command.invitationId = none then
      some { w with
        db := (createWorkspaceInvitation S w.db command metadata messageId nonce w.clock).2 }
    else none
  | .resend command metadata messageId nonce =>
    if w.HasRead command.sentAt then
      some { w with
        db := (resendWorkspaceInvitation S w.db command metadata messageId nonce w.clock).2 }
    else none
  | .revoke command =>
    if w.HasRead command.revokedAt then
      some { w with db := (revokeWorkspaceInvitation w.db command).2 }
    else none
  | .accept command verifiedAt =>
    if w.HasRead command.acceptedAt ∧ w.HasRead verifiedAt then
      some { w with
        db :=
          { w.db with
            toInvitationDb := (acceptWorkspaceInvitation S.authority S.isValid
              w.db.toInvitationDb verifiedAt command).2 } }
    else none
  | .deliver message a =>
    if w.clock ≤ a.now ∧ a.now ≤ a.issuedAt ∧ a.issuedAt ≤ a.recordedAt then
      let r := deliverWorkspaceInvitation S w.db message a
      some
        { clock := a.recordedAt
          db := r.db
          mails := r.sent message a.answer ++ w.mails }
    else none

end

end Proofplane
