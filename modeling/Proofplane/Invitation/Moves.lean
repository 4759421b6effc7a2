import Proofplane.Invitation.Lifecycle
import Proofplane.Invitation.Acceptance
import Proofplane.Invitation.Service

/-!
# What the service does to the invitations

Every event of the service leaves the table of invitations alone, adds a new invitation, or saves one call
of the state machine on a stored invitation.

* `freshInvitation`       the invitation that a creation saves;
* `InvitationsMove`       the three things that can happen to the table in a step;
* `DeliveryCase`          how a delivery can go, with its mail;
* `peopleStep_move`       **every step is a move, and the clock does not go back**.
-/

namespace Proofplane
open Base

/-- the invitation that a creation at `t` saves -/
def freshInvitation (id : WorkspaceInvitationId) (workspaceId : WorkspaceId) (inviter : UserId)
    (email : String) (t : Int) : WorkspaceInvitation where
  id := id
  workspaceId := workspaceId
  inviterUserId := inviter
  invitedEmail := email
  role := .admin
  generation := 1
  createdAt := floorSec t
  expiresAt := floorSec (t + invitationLifetime)
  acceptedAt := none
  revokedAt := none
  acceptingUserId := none
  queuedGeneration := some 1
  queuedAt := some t
  deliveredGeneration := none
  deliveredAt := none
  lastDeliveryFailure := none
  deliveryFailedAt := none

/-- a creation builds the fresh invitation -/
theorem create_queueDelivery {id : WorkspaceInvitationId} {workspaceId : WorkspaceId}
    {inviter : UserId} {email : String} {t : Int} {i j : WorkspaceInvitation}
    (hcreate : WorkspaceInvitation.create id workspaceId inviter email t (t + invitationLifetime)
      = .ok i)
    (hqueue : i.queueDelivery i.generation t = .ok j) :
    j = freshInvitation id workspaceId inviter email t ∧ j.Valid := by
  obtain ⟨rfl, hvalid⟩ := WorkspaceInvitation.rehydrate_ok hcreate
  obtain ⟨-, hpending, rfl⟩ := WorkspaceInvitation.queueDelivery_ok hqueue
  refine ⟨rfl, (InvitationChange.queued t hpending).valid hvalid ?_⟩
  exact floorSec_le t

/-- the instant of a resend -/
def InvitationEvent.resentAt {Nonce Token : Type*} : InvitationEvent Nonce Token → Option Int
  | .resend command _ _ _ => some command.sentAt
  | _ => none

/-- when the service makes a call on a stored invitation: a resend sets the lifetime, and a failure is
not recorded over a success -/
structure CalledBy (resentAt : Option Int) (row : WorkspaceInvitation) (op : InvitationOp) : Prop where
  resend : ∀ g t expiresAt, op = .resend g t expiresAt →
    resentAt = some t ∧ expiresAt = t + invitationLifetime
  failure : ∀ g classification t, op = .recordDeliveryFailure g classification t →
    row.deliveredGeneration ≠ some row.generation

/-- what can happen to the invitations until an instant; `resentAt` is the instant of a resend -/
inductive InvitationsMove (resentAt : Option Int) (now : Int) (db db' : PeopleDb) : Prop
  | same (h : db'.invitations = db.invitations) : InvitationsMove resentAt now db db'
  | created (id : WorkspaceInvitationId) (workspaceId : WorkspaceId) (inviter : UserId)
      (email : String) (t : Int) (ht : t ≤ now)
      (hfresh : db.invitations.get? id = none)
      (hlock : db.lockPendingForEmail workspaceId email t = none)
      (hfree : db.violates (freshInvitation id workspaceId inviter email t).toRow = false)
      (h : db'.invitations
        = db.invitations.upsert (freshInvitation id workspaceId inviter email t).toRow) :
      InvitationsMove resentAt now db db'
  | changed (row j : WorkspaceInvitation) (op : InvitationOp) (a : InvitationAnswer)
      (hrow : row ∈ db.invitations.rows) (hchange : InvitationChange row op a j)
      (hcall : CalledBy resentAt row op) (hfree : db.violates j.toRow = false)
      (h : db'.invitations = db.invitations.upsert j.toRow) : InvitationsMove resentAt now db db'

section
variable {db db' : PeopleDb} {metadata : ExecutionMetadata} {messageId : Uuid}

/-! ## The commands -/

theorem createInvitation_move {lowerTrim : String → String} {email : String}
    {command : CreateWorkspaceInvitation} {o : CreateOutcome}
    (hfresh : db.invitations.get? command.invitationId = none)
    {now : Int} (hnow : command.createdAt ≤ now)
    (h : createInvitation lowerTrim db email command metadata messageId = .ok (o, db')) :
    InvitationsMove none now db db' := by
  unfold createInvitation at h
  split at h
  · cases h
    exact .same rfl
  · next workspaceId hmember =>
    split at h
    · cases h
    · cases h
      exact .same rfl
    · split at h
      · cases h
        exact .same rfl
      · split at h
        · cases h
          exact .same rfl
        · split at h
          · cases h
            exact .same rfl
          · next hlock =>
            split at h
            · cases h
            · next i hcreate =>
              split at h
              · cases h
              · next j hqueue =>
                split at h
                · cases h
                · next saved hsave =>
                  cases h
                  obtain ⟨-, hfree, rfl⟩ := PeopleDb.saveInvitation_ok hsave
                  obtain ⟨rfl, -⟩ := create_queueDelivery hcreate hqueue
                  exact .created command.invitationId workspaceId command.actorUserId email
                    command.createdAt hnow hfresh hlock hfree rfl

theorem resendInvitation_move {command : ResendWorkspaceInvitation} {o : ResendOutcome}
    (now : Int) (h : resendInvitation db command metadata messageId = .ok (o, db')) :
    InvitationsMove (some command.sentAt) now db db' := by
  unfold resendInvitation at h
  split at h
  · cases h
    exact .same rfl
  · split at h
    · cases h
      exact .same rfl
    · split at h
      · cases h
      · cases h
        exact .same rfl
      · next i hget =>
        split at h
        · cases h
          exact .same rfl
        · cases h
          exact .same rfl
        · next j hresend =>
          split at h
          · cases h
          · next saved hsave =>
            cases h
            obtain ⟨hrow, -, -⟩ := PeopleDb.getInvitationForWorkspace_ok hget
            obtain ⟨-, hfree, rfl⟩ := PeopleDb.saveInvitation_ok hsave
            obtain ⟨-, hpending, hlater, -, rfl⟩ := WorkspaceInvitation.resend_ok hresend
            refine .changed i _ _ _ (Table.get?_mem hrow) (.resent _ _ hpending hlater)
              ⟨fun g t expiresAt hop => ?_, fun _ _ _ hop => (by cases hop)⟩ hfree rfl
            cases hop
            exact ⟨rfl, rfl⟩

theorem revokeInvitation_move {command : RevokeWorkspaceInvitation} {o : RevokeOutcome}
    (now : Int) (h : revokeInvitation db command = .ok (o, db')) : InvitationsMove none now db db' := by
  unfold revokeInvitation at h
  split at h
  · cases h
    exact .same rfl
  · split at h
    · cases h
      exact .same rfl
    · split at h
      · cases h
      · cases h
        exact .same rfl
      · next i hget =>
        split at h
        · cases h
          exact .same rfl
        · cases h
          exact .same rfl
        · next j hrevoke =>
          split at h
          · cases h
          · next saved hsave =>
            cases h
            obtain ⟨hrow, -, -⟩ := PeopleDb.getInvitationForWorkspace_ok hget
            obtain ⟨-, hfree, rfl⟩ := PeopleDb.saveInvitation_ok hsave
            exact .changed i _ _ _ (Table.get?_mem hrow) (revoke_change hrevoke)
              ⟨fun _ _ _ hop => (by cases hop), fun _ _ _ hop => (by cases hop)⟩ hfree rfl

end

section
variable {Key Nonce Token : Type*} {S : InvitationServer Key Nonce Token} {db : PeopleDb}

theorem createWorkspaceInvitation_move {command : CreateWorkspaceInvitation}
    (metadata : ExecutionMetadata) (messageId : Uuid) (nonce : Nonce) (issuedAt : Int)
    (hfresh : db.invitations.get? command.invitationId = none) {now : Int}
    (hnow : command.createdAt ≤ now) :
    InvitationsMove none now db
      (createWorkspaceInvitation S db command metadata messageId nonce issuedAt).2 := by
  unfold createWorkspaceInvitation
  split
  · exact .same rfl
  · split
    · exact .same rfl
    · next h => exact createInvitation_move hfresh hnow h
    · next h => exact createInvitation_move hfresh hnow h
    · next h => exact createInvitation_move hfresh hnow h
    · next h =>
      split
      · exact createInvitation_move hfresh hnow h
      · exact createInvitation_move hfresh hnow h

theorem resendWorkspaceInvitation_move (command : ResendWorkspaceInvitation)
    (metadata : ExecutionMetadata) (messageId : Uuid) (nonce : Nonce) (issuedAt now : Int) :
    InvitationsMove (some command.sentAt) now db
      (resendWorkspaceInvitation S db command metadata messageId nonce issuedAt).2 := by
  unfold resendWorkspaceInvitation
  split
  · exact .same rfl
  · next h => exact resendInvitation_move now h
  · next h => exact resendInvitation_move now h
  · next h =>
    split
    · exact resendInvitation_move now h
    · exact resendInvitation_move now h

theorem revokeWorkspaceInvitation_move (command : RevokeWorkspaceInvitation) (now : Int) :
    InvitationsMove none now db (revokeWorkspaceInvitation db command).2 := by
  unfold revokeWorkspaceInvitation
  split
  · exact .same rfl
  · next h => exact revokeInvitation_move now h
  · next h => exact revokeInvitation_move now h
  · next h => exact revokeInvitation_move now h

theorem acceptWorkspaceInvitation_move (command : AcceptWorkspaceInvitation Token) (clock now : Int) :
    InvitationsMove none now db
      { db with
        toInvitationDb := (acceptWorkspaceInvitation S.authority S.isValid db.toInvitationDb clock
          command).2 } := by
  rcases acceptWorkspaceInvitation_cases S.authority S.isValid db.toInvitationDb clock command with
    ⟨e, h⟩ | ⟨claims, email, o, db', hverify, hemail, haccepts, h⟩
  · rw [h]
    exact .same rfl
  · rw [h]
    cases haccepts with
    | refused => exact .same rfl
    | replayed => exact .same rfl
    | first row workspace role tables hrow hvalid hgeneration hexpires hpending hmail hworkspace
        hjoined =>
      refine .changed row (row.acceptedBy command.userId command.acceptedAt) _ _
        (Table.get?_mem hrow) (.accepted command.userId command.acceptedAt hpending)
        ⟨fun _ _ _ hop => (by cases hop), fun _ _ _ hop => (by cases hop)⟩ ?_ rfl
      -- an accepted row is outside the exclusion constraint
      rw [PeopleDb.violates_eq_false_iff]
      intro r hr
      rw [← Bool.not_eq_true, WorkspaceInvitation.clashes_iff]
      rintro ⟨-, hopen, -⟩
      cases hopen

/-! ## The handler -/

/-- how recording the answer of the provider can end, for an invitation of the recorded generation -/
inductive Records (db : PeopleDb) (i : WorkspaceInvitation) (answer : Except MailError Unit)
    (t : Int) : DeliveryOutcome → PeopleDb → Prop
  | ignored (hstatus : i.statusAt t ≠ .pending) : Records db i answer t .acknowledged db
  | success (j : WorkspaceInvitation)
      (hchange : InvitationChange i (.recordDeliverySuccess i.generation t) (.delivery .applied) j)
      (hdelivered : j.deliveredGeneration = some i.generation)
      (hclean : j.lastDeliveryFailure = none) (hfree : db.violates j.toRow = false) :
      Records db i answer t .delivered
        { db with invitations := db.invitations.upsert j.toRow }
  | failure (o : DeliveryOutcome) (classification : WorkspaceInvitationDeliveryFailure)
      (j : WorkspaceInvitation)
      (hchange : InvitationChange i (.recordDeliveryFailure i.generation classification t)
        (.delivery .applied) j)
      (hanswer : answer.isOk = false) (ho : o ≠ .delivered) (hfree : db.violates j.toRow = false) :
      Records db i answer t o { db with invitations := db.invitations.upsert j.toRow }

theorem recordDelivery_records {i : WorkspaceInvitation} {generation : Int} {finalDelivery : Bool}
    {answer : Except MailError Unit} {t : Int} {o : DeliveryOutcome} {db' : PeopleDb}
    (hgeneration : i.generation = generation)
    (h : recordDelivery db i generation finalDelivery answer t = .ok (o, db')) :
    Records db i answer t o db' := by
  subst hgeneration
  cases answer with
  | ok u =>
    unfold recordDelivery WorkspaceInvitation.recordDeliverySuccess at h
    dsimp only at h
    by_cases hp : i.statusAt t = .pending
    · rw [if_neg (by simp [hp])] at h
      dsimp only at h
      cases hsave : db.saveInvitation
          { i with
            deliveredGeneration := some i.generation
            deliveredAt := some t
            lastDeliveryFailure := none
            deliveryFailedAt := none } with
      | error e =>
        rw [hsave] at h
        cases h
      | ok saved =>
        rw [hsave] at h
        cases h
        obtain ⟨-, hfree, rfl⟩ := PeopleDb.saveInvitation_ok hsave
        exact .success _ (.delivered t hp) rfl rfl hfree
    · rw [if_pos (.inr hp)] at h
      cases h
      exact .ignored hp
  | error error =>
    unfold recordDelivery WorkspaceInvitation.recordDeliveryFailure at h
    dsimp only at h
    by_cases hp : i.statusAt t = .pending
    · rw [if_neg (by simp [hp])] at h
      dsimp only at h
      cases hsave : db.saveInvitation
          { i with
            lastDeliveryFailure := some (deliveryFailure finalDelivery error)
            deliveryFailedAt := some t } with
      | error e =>
        rw [hsave] at h
        cases h
      | ok saved =>
        rw [hsave] at h
        cases h
        obtain ⟨-, hfree, rfl⟩ := PeopleDb.saveInvitation_ok hsave
        refine .failure _ _ _ (.failed (deliveryFailure finalDelivery error) t hp) rfl ?_ hfree
        split
        · exact fun hc => by cases hc
        · exact fun hc => by cases hc
    · rw [if_pos (.inr hp)] at h
      cases h
      exact .ignored hp

/-- how the unit of work of the handler can go: it sends nothing and writes nothing, or it mails the
locked invitation and records the answer -/
inductive Delivers (S : InvitationServer Key Nonce Token) (db : PeopleDb)
    (work : WorkspaceInvitationDeliveryWork) (finalDelivery : Bool) (a : DeliveryAttempt Nonce) :
    Option MailMessage → Except RepositoryError (DeliveryOutcome × PeopleDb) → Prop
  | silent (r : Except RepositoryError (DeliveryOutcome × PeopleDb))
      (hr : ∀ o db', r = .ok (o, db') → db' = db) : Delivers S db work finalDelivery a none r
  | mailed (i : WorkspaceInvitation) (workspace : WorkspaceDetails)
      (link : IssuedWorkspaceInvitationLink Token)
      (hrow : db.invitations.get? ⟨work.invitationId⟩ = some i)
      (hgeneration : i.generation = work.generation) (hpending : i.statusAt a.now = .pending)
      (hundelivered : i.deliveredGeneration ≠ some work.generation)
      (hworkspace : db.workspaces.get? i.workspaceId = some workspace)
      (hlink : S.authority.issueAt i.authoritySource a.nonce a.issuedAt = .ok link) :
      Delivers S db work finalDelivery a
        (some (invitationMail i workspace.name (S.urlText link) (deliveryIdempotencyKey work)))
        (recordDelivery db i work.generation finalDelivery a.answer a.recordedAt)

theorem deliveryUnit_delivers (S : InvitationServer Key Nonce Token) (db : PeopleDb)
    (work : WorkspaceInvitationDeliveryWork) (finalDelivery : Bool) (a : DeliveryAttempt Nonce) :
    Delivers S db work finalDelivery a (deliveryUnit S db work finalDelivery a).1
      (deliveryUnit S db work finalDelivery a).2 := by
  have hsame : ∀ o db', (Except.ok (DeliveryOutcome.acknowledged, db) : Except RepositoryError _)
      = .ok (o, db') → db' = db := by
    intro o db' h
    cases h
    rfl
  unfold deliveryUnit
  split
  · exact .silent _ (fun _ _ h => by cases h)
  · exact .silent _ hsame
  · next i hget =>
    obtain ⟨hrow, -⟩ := PeopleDb.getInvitation_ok hget
    split
    · exact .silent _ hsame
    · next hcurrent =>
      simp only [not_or, ne_eq, not_not] at hcurrent
      obtain ⟨hgeneration, hpending, hundelivered⟩ := hcurrent
      split
      · exact .silent _ hsame
      · next workspace hworkspace =>
        split
        · exact .silent _ (fun _ _ h => by cases h)
        · next link hlink =>
          exact .mailed i workspace link hrow hgeneration hpending hundelivered hworkspace hlink

/-- recording writes the invitation at most once -/
theorem Records.move {i : WorkspaceInvitation} {answer : Except MailError Unit} {t : Int}
    {o : DeliveryOutcome} {db' : PeopleDb} (h : Records db i answer t o db')
    (hrow : i ∈ db.invitations.rows) (hundelivered : i.deliveredGeneration ≠ some i.generation)
    (now : Int) : InvitationsMove none now db db' := by
  cases h with
  | ignored => exact .same rfl
  | success j hchange hdelivered hclean hfree =>
    exact .changed i j _ _ hrow hchange ⟨fun _ _ _ hop => (by cases hop), fun _ _ _ hop => (by cases hop)⟩
      hfree rfl
  | failure o classification j hchange hanswer ho hfree =>
    exact .changed i j _ _ hrow hchange ⟨fun _ _ _ hop => (by cases hop), fun _ _ _ _ => hundelivered⟩
      hfree rfl

/-- how a delivery can go: it sends nothing and writes nothing, or it mails the locked invitation, and
then its unit of work is lost or has recorded the answer -/
inductive DeliveryCase (S : InvitationServer Key Nonce Token) (db : PeopleDb) (message : WorkerMessage)
    (a : DeliveryAttempt Nonce) (r : DeliveryRun) : Prop
  | silent (hmail : r.mail = none) (hdb : r.db = db) : DeliveryCase S db message a r
  | mailed (work : WorkspaceInvitationDeliveryWork) (i : WorkspaceInvitation)
      (workspace : WorkspaceDetails) (link : IssuedWorkspaceInvitationLink Token)
      (hwork : invitationDelivery message = some work)
      (hrow : db.invitations.get? ⟨work.invitationId⟩ = some i)
      (hgeneration : i.generation = work.generation) (hpending : i.statusAt a.now = .pending)
      (hundelivered : i.deliveredGeneration ≠ some i.generation)
      (hlink : S.authority.issueAt i.authoritySource a.nonce a.issuedAt = .ok link)
      (hmail : r.mail = some (invitationMail i workspace.name (S.urlText link)
        (deliveryIdempotencyKey work)))
      (hdb : (r.landed = none ∧ r.db = db) ∨
        ∃ o, r.landed = some o ∧ Records db i a.answer a.recordedAt o r.db) :
      DeliveryCase S db message a r

theorem deliverWorkspaceInvitation_delivered (S : InvitationServer Key Nonce Token) (db : PeopleDb)
    (message : WorkerMessage) (a : DeliveryAttempt Nonce) :
    DeliveryCase S db message a (deliverWorkspaceInvitation S db message a) := by
  unfold deliverWorkspaceInvitation
  split
  · exact .silent rfl rfl
  · next work hwork =>
    dsimp only
    have hd := deliveryUnit_delivers S db work
      (message.deliveryAttempt.any fun attempt => decide (S.maxDeliveryAttempts ≤ attempt)) a
    revert hd
    generalize deliveryUnit S db work
      (message.deliveryAttempt.any fun attempt => decide (S.maxDeliveryAttempts ≤ attempt)) a = r
    obtain ⟨mail, r⟩ := r
    intro hd
    cases hd with
    | silent r hsame =>
      refine .silent rfl ?_
      cases settle_cases (.database : RepositoryError) a.fault db r with
      | nothing e hstate hanswer hlanded => exact hstate
      | committed o db' hr hstate hanswer hlanded => exact hstate.trans (hsame o db' hr)
    | mailed i workspace link hrow hgeneration hpending hundelivered hworkspace hlink =>
      refine .mailed work i workspace link hwork hrow hgeneration hpending ?_ hlink rfl ?_
      · rw [hgeneration]
        exact hundelivered
      · cases settle_cases (.database : RepositoryError) a.fault db (recordDelivery db i
          work.generation
          (message.deliveryAttempt.any fun attempt => decide (S.maxDeliveryAttempts ≤ attempt))
          a.answer a.recordedAt) with
        | nothing e hstate hanswer hlanded => exact .inl ⟨hlanded, hstate⟩
        | committed o db' hr hstate hanswer hlanded =>
          have hrecords := recordDelivery_records hgeneration hr
          rw [← hstate] at hrecords
          exact .inr ⟨o, hlanded, hrecords⟩

theorem DeliveryCase.move {message : WorkerMessage} {a : DeliveryAttempt Nonce} {r : DeliveryRun}
    (h : DeliveryCase S db message a r) (now : Int) : InvitationsMove none now db r.db := by
  cases h with
  | silent hmail hdb =>
    rw [hdb]
    exact .same rfl
  | mailed work i workspace link hwork hrow hgeneration hpending hundelivered hlink hmail hdb =>
    rcases hdb with ⟨-, hdb⟩ | ⟨o, -, hrecords⟩
    · rw [hdb]
      exact .same rfl
    · exact hrecords.move (Table.get?_mem hrow) hundelivered now

/-- **Every step is a move, and the clock does not go back.** -/
theorem peopleStep_move {w w' : InvitationWorld} {e : InvitationEvent Nonce Token}
    (h : peopleStep S w e = some w') :
    w.clock ≤ w'.clock ∧ InvitationsMove e.resentAt w'.clock w.db w'.db := by
  unfold peopleStep at h
  split at h
  · split at h
    · next hnow =>
      cases h
      exact ⟨hnow, .same rfl⟩
    · cases h
  · cases h
    exact ⟨le_refl _, .same rfl⟩
  · next command metadata messageId nonce =>
    split at h
    · next hg =>
      cases h
      exact ⟨le_refl _, createWorkspaceInvitation_move metadata messageId nonce _ hg.2 hg.1.2⟩
    · cases h
  · next command metadata messageId nonce =>
    split at h
    · cases h
      exact ⟨le_refl _, resendWorkspaceInvitation_move command metadata messageId nonce _ _⟩
    · cases h
  · next command =>
    split at h
    · cases h
      exact ⟨le_refl _, revokeWorkspaceInvitation_move command _⟩
    · cases h
  · next command verifiedAt =>
    split at h
    · cases h
      exact ⟨le_refl _, acceptWorkspaceInvitation_move command _ _⟩
    · cases h
  · next message a =>
    split at h
    · next hg =>
      cases h
      have ht : w.clock ≤ a.recordedAt := le_trans hg.1 (le_trans hg.2.1 hg.2.2)
      exact ⟨ht, (deliverWorkspaceInvitation_delivered S w.db message a).move _⟩
    · cases h

end

end Proofplane
