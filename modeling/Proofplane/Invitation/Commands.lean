import Proofplane.Authentication.Email
import Proofplane.Invitation.Authority
import Proofplane.Persistence.Workspaces

/-!
# Storing, previewing and accepting an invitation

* `WorkspaceInvitation.toRow`, `save`   what the database keeps of an invitation, if its checks pass;
* `previewWorkspaceInvitation`    the preview behind a link;
* `acceptInvitation`              the unit of work of an acceptance, every exit of it;
* `acceptWorkspaceInvitation`     the command: verify the token, normalise the email, run the unit of
                                  work and turn its outcome into the answer.

`acceptInvitation_ne_unavailable` lists all that keeps an acceptance from being reported
unavailable.
-/

namespace Proofplane
open Base

namespace WorkspaceInvitation

/-- the row of an invitation: every instant in whole microseconds -/
def toRow (i : WorkspaceInvitation) : WorkspaceInvitation :=
  { i with
    createdAt := pgTimestamp i.createdAt
    expiresAt := pgTimestamp i.expiresAt
    acceptedAt := i.acceptedAt.map pgTimestamp
    revokedAt := i.revokedAt.map pgTimestamp
    queuedAt := i.queuedAt.map pgTimestamp
    deliveredAt := i.deliveredAt.map pgTimestamp
    deliveryFailedAt := i.deliveryFailedAt.map pgTimestamp }

/-- the `CHECK`s of `workspace_invitations` on instants, generations and terminal fields -/
def rowChecks (r : WorkspaceInvitation) : Bool :=
  r.role == .admin && decide (0 < r.generation) && decide (r.createdAt < r.expiresAt) &&
  r.acceptedAt.isNone == r.acceptingUserId.isNone &&
  (r.acceptedAt.isNone || r.revokedAt.isNone) &&
  r.deliveryValid

/-- the upsert of the snapshot -/
def save (i : WorkspaceInvitation) : Except RepositoryError WorkspaceInvitation :=
  if rowChecks i.toRow then .ok i.toRow else .error .database

/-- the aggregate of a row -/
def load (row : WorkspaceInvitation) : Except RepositoryError WorkspaceInvitation :=
  match rehydrate row with
  | .error _ => .error (.invariantViolation "persisted workspace invitation is inconsistent")
  | .ok i => .ok i

theorem save_ok {i row : WorkspaceInvitation} (h : save i = .ok row) :
    row = i.toRow ∧ rowChecks i.toRow = true := by
  unfold save at h
  split at h
  · next hc =>
    cases h
    exact ⟨rfl, hc⟩
  · cases h

theorem load_ok {row i : WorkspaceInvitation} (h : load row = .ok i) : i = row ∧ row.Valid := by
  unfold load at h
  split at h
  · cases h
  · next j hj =>
    cases h
    exact rehydrate_ok hj

theorem load_of_valid {row : WorkspaceInvitation} (h : row.Valid) : load row = .ok row := by
  unfold load
  rw [rehydrate_eq, if_pos h]

end WorkspaceInvitation

/-- the tables that the invitation commands read and write -/
structure InvitationDb extends WorkspaceTables where
  invitations : Table WorkspaceInvitation.id

/-! ## Preview -/

structure PreviewWorkspaceInvitation (Token : Type*) where
  token : Token
  now : Int

structure WorkspaceInvitationPreview where
  workspaceName : String
  invitedEmail : String
  role : WorkspaceRole
  expiresAt : Int
  deriving DecidableEq, Repr

inductive PreviewWorkspaceInvitationError
  | unavailable
  | repository (e : RepositoryError)
  deriving DecidableEq, Repr

/-- an invitation joined with the name of its workspace -/
structure WorkspaceInvitationPreviewSource where
  invitationId : WorkspaceInvitationId
  workspaceId : WorkspaceId
  workspaceName : String
  invitedEmail : String
  role : WorkspaceRole
  generation : Int
  expiresAt : Int
  acceptedAt : Option Int
  revokedAt : Option Int
  deriving DecidableEq, Repr

def InvitationDb.invitationPreviewSource (db : InvitationDb) (id : WorkspaceInvitationId) :
    Option WorkspaceInvitationPreviewSource :=
  (db.invitations.get? id).bind fun i =>
    (db.workspaces.get? i.workspaceId).map fun w =>
      ⟨i.id, i.workspaceId, w.name, i.invitedEmail, i.role, i.generation, i.expiresAt,
        i.acceptedAt, i.revokedAt⟩

section
variable {Key Nonce Token : Type*}

/-- `clock` is the instant at which the token is verified -/
def previewWorkspaceInvitation (A : WorkspaceInvitationAuthority Key Nonce Token)
    (db : InvitationDb) (clock : Int) (query : PreviewWorkspaceInvitation Token) :
    Except PreviewWorkspaceInvitationError WorkspaceInvitationPreview :=
  match A.verifyAt query.token clock with
  | .error _ => .error .unavailable
  | .ok claims =>
    match db.invitationPreviewSource claims.invitationId with
    | none => .error .unavailable
    | some source =>
      let status : WorkspaceInvitationStatus :=
        if source.acceptedAt.isSome then .accepted
        else if source.revokedAt.isSome then .revoked
        else if source.expiresAt ≤ query.now then .expired
        else .pending
      if source.invitationId ≠ claims.invitationId ∨ source.generation ≠ claims.generation ∨
          source.expiresAt ≠ claims.expiresAt ∨ status ≠ .pending then .error .unavailable
      else .ok ⟨source.workspaceName, source.invitedEmail, source.role, source.expiresAt⟩

/-! ## Acceptance -/

structure AcceptWorkspaceInvitation (Token : Type*) where
  token : Token
  userId : UserId
  verifiedEmail : String
  acceptedAt : Int

structure WorkspaceWithRole where
  workspace : WorkspaceDetails
  role : WorkspaceRole
  deriving DecidableEq, Repr

inductive AcceptOutcome
  | accepted (workspace : WorkspaceWithRole) (acceptance : InvitationAcceptance)
  | unavailable | emailMismatch | existingWorkspace
  deriving DecidableEq, Repr

inductive AcceptWorkspaceInvitationError
  | unavailable | emailMismatch | existingWorkspace
  | repository (e : RepositoryError)
  deriving DecidableEq, Repr

structure AcceptedWorkspaceInvitation where
  workspace : WorkspaceWithRole
  invitationId : WorkspaceInvitationId
  acceptance : InvitationAcceptance
  deriving DecidableEq, Repr

/-- the same user follows the link again -/
def replayAcceptance (db : InvitationDb) (invitation : WorkspaceInvitation) (userId : UserId) :
    AcceptOutcome :=
  if db.resolveIdForMember userId ≠ some invitation.workspaceId then .unavailable
  else
    match db.workspaces.get? invitation.workspaceId,
        db.roleFor invitation.workspaceId userId with
    | some workspace, some role => .accepted ⟨workspace, role⟩ .replay
    | _, _ => .unavailable

/-- the last part: accept, save and answer with the workspace -/
def recordAcceptance (db : InvitationDb) (invitation : WorkspaceInvitation) (workspace : Workspace)
    (userId : UserId) (acceptedAt : Int) : Except RepositoryError (AcceptOutcome × InvitationDb) :=
  match invitation.accept userId acceptedAt with
  | .error _ => .ok (.unavailable, db)
  | .ok (accepted, acceptance) =>
    match accepted.save with
    | .error e => .error e
    | .ok row =>
      let db := { db with invitations := db.invitations.upsert row }
      match workspace.roleFor userId with
      | none => .ok (.unavailable, db)
      | some role =>
        .ok (.accepted ⟨⟨workspace.id, workspace.slug, workspace.name, workspace.createdAt⟩, role⟩
          acceptance, db)

/-- the part on the workspace: the user becomes an admin unless they are a member already -/
def joinWorkspace (db : InvitationDb) (invitation : WorkspaceInvitation) (workspace : Workspace)
    (userId : UserId) (acceptedAt : Int) : Except RepositoryError (AcceptOutcome × InvitationDb) :=
  match workspace.roleFor userId with
  | some _ => recordAcceptance db invitation workspace userId acceptedAt
  | none =>
    match workspace.addMember userId .admin acceptedAt with
    | .error _ => .ok (.unavailable, db)
    | .ok workspace =>
      match db.toWorkspaceTables.saveWorkspace workspace with
      | .error e => .error e
      | .ok tables =>
        recordAcceptance { db with toWorkspaceTables := tables } invitation workspace userId acceptedAt

/-- the unit of work of an acceptance -/
def acceptInvitation (db : InvitationDb) (claims : VerifiedWorkspaceInvitationAuthority)
    (email : String) (userId : UserId) (acceptedAt : Int) :
    Except RepositoryError (AcceptOutcome × InvitationDb) :=
  match db.invitations.get? claims.invitationId with
  | none => .ok (.unavailable, db)
  | some row =>
    match row.load with
    | .error e => .error e
    | .ok invitation =>
      if invitation.generation ≠ claims.generation ∨ invitation.expiresAt ≠ claims.expiresAt then
        .ok (.unavailable, db)
      else if invitation.acceptingUserId = some userId ∧ invitation.acceptedAt.isSome then
        .ok (replayAcceptance db invitation userId, db)
      else
        match invitation.ensureCurrent claims.generation claims.expiresAt acceptedAt with
        | .error _ => .ok (.unavailable, db)
        | .ok () =>
          if invitation.invitedEmail ≠ email then .ok (.emailMismatch, db)
          else if (db.resolveIdForMember userId).any (fun id => id ≠ invitation.workspaceId) then
            .ok (.existingWorkspace, db)
          else
            match db.getWorkspace invitation.workspaceId with
            | .error e => .error e
            | .ok none => .ok (.unavailable, db)
            | .ok (some workspace) => joinWorkspace db invitation workspace userId acceptedAt

/-- the answer of an outcome -/
def AcceptOutcome.answer (id : WorkspaceInvitationId) :
    AcceptOutcome → Except AcceptWorkspaceInvitationError AcceptedWorkspaceInvitation
  | .accepted workspace acceptance => .ok ⟨workspace, id, acceptance⟩
  | .unavailable => .error .unavailable
  | .emailMismatch => .error .emailMismatch
  | .existingWorkspace => .error .existingWorkspace

/-- the command with the database after it; a unit of work that fails changes nothing -/
def acceptWorkspaceInvitation (A : WorkspaceInvitationAuthority Key Nonce Token)
    (isValid : String → Bool) (db : InvitationDb) (clock : Int)
    (command : AcceptWorkspaceInvitation Token) :
    Except AcceptWorkspaceInvitationError AcceptedWorkspaceInvitation × InvitationDb :=
  match A.verifyAt command.token clock with
  | .error _ => (.error .unavailable, db)
  | .ok claims =>
    match normalizeEmail isValid command.verifiedEmail with
    | none => (.error .emailMismatch, db)
    | some email =>
      match acceptInvitation db claims email command.userId command.acceptedAt with
      | .error e => (.error (.repository e), db)
      | .ok (outcome, db) => (outcome.answer claims.invitationId, db)

/-! ## When a link is reported unavailable -/

theorem ensureCurrent_ok {i : WorkspaceInvitation} {generation expiresAt now : Int}
    (hg : i.generation = generation) (he : i.expiresAt = expiresAt)
    (hp : i.statusAt now = .pending) : i.ensureCurrent generation expiresAt now = .ok () := by
  unfold WorkspaceInvitation.ensureCurrent
  rw [if_pos ⟨hg, he, hp⟩]

theorem AcceptOutcome.answer_ne_unavailable {id : WorkspaceInvitationId} {o : AcceptOutcome}
    (h : o ≠ .unavailable) : o.answer id ≠ .error .unavailable := by
  cases o with
  | unavailable => exact absurd rfl h
  | accepted workspace acceptance => exact fun hc => by cases hc
  | emailMismatch => exact fun hc => by cases hc
  | existingWorkspace => exact fun hc => by cases hc

theorem recordAcceptance_ne_unavailable {db db' : InvitationDb} {i : WorkspaceInvitation}
    {w : Workspace} {userId : UserId} {acceptedAt : Int} {o : AcceptOutcome}
    (hp : i.statusAt acceptedAt = .pending) (hr : w.roleFor userId ≠ none)
    (h : recordAcceptance db i w userId acceptedAt = .ok (o, db')) : o ≠ .unavailable := by
  unfold recordAcceptance at h
  rw [WorkspaceInvitation.accept_of_pending hp] at h
  dsimp only at h
  split at h
  · cases h
  · cases hrole : w.roleFor userId with
    | none => exact absurd hrole hr
    | some role =>
      rw [hrole] at h
      cases h
      exact fun hc => by cases hc

theorem joinWorkspace_ne_unavailable {db db' : InvitationDb} {i : WorkspaceInvitation}
    {w : Workspace} {userId : UserId} {acceptedAt : Int} {o : AcceptOutcome}
    (hp : i.statusAt acceptedAt = .pending)
    (h : joinWorkspace db i w userId acceptedAt = .ok (o, db')) : o ≠ .unavailable := by
  unfold joinWorkspace at h
  cases hrole : w.roleFor userId with
  | some role =>
    rw [hrole] at h
    refine recordAcceptance_ne_unavailable hp ?_ h
    rw [hrole]
    exact Option.some_ne_none role
  | none =>
    have hadd := Workspace.addMember_eq_ok .admin acceptedAt hrole
    have hnew := Workspace.addMember_roleFor hadd
    rw [hrole, hadd] at h
    dsimp only at h
    split at h
    · cases h
    · refine recordAcceptance_ne_unavailable hp ?_ h
      rw [hnew]
      exact Option.some_ne_none _

/-- **Claims that agree with a pending invitation of an existing workspace are never answered with
`unavailable`.** -/
theorem acceptInvitation_ne_unavailable {db db' : InvitationDb} {row : WorkspaceInvitation}
    {claims : VerifiedWorkspaceInvitationAuthority} {email : String} {userId : UserId}
    {acceptedAt : Int} {o : AcceptOutcome}
    (hrow : db.invitations.get? claims.invitationId = some row) (hv : row.Valid)
    (hg : row.generation = claims.generation) (he : row.expiresAt = claims.expiresAt)
    (hp : row.statusAt acceptedAt = .pending) (hw : db.workspaces.get? row.workspaceId ≠ none)
    (h : acceptInvitation db claims email userId acceptedAt = .ok (o, db')) :
    o ≠ .unavailable := by
  have hacc : row.acceptedAt = none := ((row.statusAt_eq_pending_iff acceptedAt).mp hp).1
  unfold acceptInvitation at h
  rw [hrow] at h
  dsimp only at h
  rw [WorkspaceInvitation.load_of_valid hv] at h
  dsimp only at h
  rw [if_neg (by rw [hg, he]; simp), if_neg (by rw [hacc]; simp), ensureCurrent_ok hg he hp] at h
  dsimp only at h
  split at h
  · cases h
    exact fun hc => by cases hc
  · split at h
    · cases h
      exact fun hc => by cases hc
    · split at h
      · cases h
      · next hnone => exact absurd hnone (WorkspaceTables.getWorkspace_ne_none hw)
      · exact joinWorkspace_ne_unavailable hp h

/-- claims of another generation are answered with `unavailable` -/
theorem acceptInvitation_of_ne {db : InvitationDb} {row : WorkspaceInvitation}
    {claims : VerifiedWorkspaceInvitationAuthority} (email : String) (userId : UserId)
    (acceptedAt : Int) (hrow : db.invitations.get? claims.invitationId = some row)
    (hv : row.Valid)
    (hne : row.generation ≠ claims.generation ∨ row.expiresAt ≠ claims.expiresAt) :
    acceptInvitation db claims email userId acceptedAt = .ok (.unavailable, db) := by
  unfold acceptInvitation
  rw [hrow]
  dsimp only
  rw [WorkspaceInvitation.load_of_valid hv]
  dsimp only
  rw [if_pos hne]

/-- **The preview succeeds exactly on claims that agree with a pending invitation.** -/
theorem previewWorkspaceInvitation_eq {A : WorkspaceInvitationAuthority Key Nonce Token}
    {db : InvitationDb} {clock : Int} {query : PreviewWorkspaceInvitation Token}
    {claims : VerifiedWorkspaceInvitationAuthority} {row : WorkspaceInvitation}
    {w : WorkspaceDetails} (hverify : A.verifyAt query.token clock = .ok claims)
    (hrow : db.invitations.get? claims.invitationId = some row)
    (hw : db.workspaces.get? row.workspaceId = some w) :
    previewWorkspaceInvitation A db clock query
      = if row.generation = claims.generation ∧ row.expiresAt = claims.expiresAt ∧
          row.statusAt query.now = .pending then
          .ok ⟨w.name, row.invitedEmail, row.role, row.expiresAt⟩
        else .error .unavailable := by
  have hid : row.id = claims.invitationId := Table.get?_key hrow
  have hsource : db.invitationPreviewSource claims.invitationId
      = some ⟨row.id, row.workspaceId, w.name, row.invitedEmail, row.role, row.generation,
          row.expiresAt, row.acceptedAt, row.revokedAt⟩ := by
    unfold InvitationDb.invitationPreviewSource
    rw [hrow, Option.bind_some, hw]
    rfl
  unfold previewWorkspaceInvitation
  rw [hverify]
  dsimp only
  rw [hsource]
  dsimp only
  by_cases h : row.generation = claims.generation ∧ row.expiresAt = claims.expiresAt ∧
      row.statusAt query.now = .pending
  · rw [if_pos h]
    obtain ⟨h1, h2, h3⟩ := h
    refine if_neg ?_
    -- the last comparison is on the status of the read model, which is that of the aggregate
    rintro (hc | hc | hc | hc)
    · exact hc hid
    · exact hc h1
    · exact hc h2
    · exact hc h3
  · rw [if_neg h]
    refine if_pos ?_
    by_contra hc
    simp only [not_or, not_not, ne_eq] at hc
    exact h hc.2

end

end Proofplane
