import Proofplane.Invitation.Link

/-!
# Accepting an invitation is all or nothing

The unit of work of an acceptance has eight exits, and commits at each of them but an error.  Between the
first write and the last exit it looks at the invitation and the workspace twice more; neither look can
fail any longer, so a commit without an acceptance has written nothing.

* `Joined`, `Accepts`        what an acceptance does to the memberships, and how it can end;
* `acceptInvitation_accepts`   **every exit is one of three**;
* `AtRest`                   a database whose instants are what its columns hold;
* `acceptInvitation_replay`, `acceptInvitation_removed`   the same user again, as a member and removed;
* `acceptStep`, `AcceptInv`  acceptances by any users, one after the other;
* `accept_all_or_nothing`    **the command, and every run of it**.
-/

namespace Proofplane
open Base

/-- the memberships after the user has joined, with the role they have then -/
inductive Joined (db : WorkspaceTables) (workspaceId : WorkspaceId) (userId : UserId) (t : Int) :
    WorkspaceRole → WorkspaceTables → Prop
  | already (role : WorkspaceRole) (hrole : db.roleFor workspaceId userId = some role) :
      Joined db workspaceId userId t role db
  | added (db' : WorkspaceTables) (row : WorkspaceDetails)
      (hnone : db.roleFor workspaceId userId = none)
      (hrow : db.workspaces.get? workspaceId = some row)
      (hworkspaces : db'.workspaces
        = db.workspaces.upsert { row with createdAt := pgTimestamp row.createdAt })
      (hmemberships : ∀ x, x ∈ db'.memberships.rows ↔
        (x ∈ db.memberships.rows ∧ x.workspaceId ≠ workspaceId) ∨
        (∃ m ∈ db.memberships.rows, m.workspaceId = workspaceId ∧
          x = WorkspaceTables.storedMembership m) ∨
        x = ⟨userId, workspaceId, .admin, pgTimestamp t⟩) :
      Joined db workspaceId userId t .admin db'

/-- the invitation as accepted by a user -/
def WorkspaceInvitation.acceptedBy (i : WorkspaceInvitation) (userId : UserId) (t : Int) :
    WorkspaceInvitation :=
  { i with acceptedAt := some t, acceptingUserId := some userId }

/-- its row -/
def WorkspaceInvitation.acceptedRow (i : WorkspaceInvitation) (userId : UserId) (t : Int) :
    WorkspaceInvitation :=
  (i.acceptedBy userId t).toRow

/-- how an acceptance can end, with the database after it -/
inductive Accepts (db : InvitationDb) (claims : VerifiedWorkspaceInvitationAuthority)
    (email : String) (userId : UserId) (t : Int) : AcceptOutcome → InvitationDb → Prop
  | refused (o : AcceptOutcome) (ho : ∀ workspace acceptance, o ≠ .accepted workspace acceptance) :
      Accepts db claims email userId t o db
  | replayed (row : WorkspaceInvitation) (workspace : WorkspaceDetails) (role : WorkspaceRole)
      (hrow : db.invitations.get? claims.invitationId = some row) (hvalid : row.Valid)
      (hgeneration : row.generation = claims.generation)
      (hexpires : row.expiresAt = claims.expiresAt) (haccepted : row.acceptedAt.isSome = true)
      (huser : row.acceptingUserId = some userId)
      (hworkspace : db.workspaces.get? row.workspaceId = some workspace)
      (hrole : db.roleFor row.workspaceId userId = some role) :
      Accepts db claims email userId t (.accepted ⟨workspace, role⟩ .replay) db
  | first (row : WorkspaceInvitation) (workspace : WorkspaceDetails) (role : WorkspaceRole)
      (tables : WorkspaceTables) (hrow : db.invitations.get? claims.invitationId = some row)
      (hvalid : row.Valid) (hgeneration : row.generation = claims.generation)
      (hexpires : row.expiresAt = claims.expiresAt) (hpending : row.statusAt t = .pending)
      (hemail : row.invitedEmail = email)
      (hworkspace : db.workspaces.get? row.workspaceId = some workspace)
      (hjoined : Joined db.toWorkspaceTables row.workspaceId userId t role tables) :
      Accepts db claims email userId t (.accepted ⟨workspace, role⟩ .applied)
        { toWorkspaceTables := tables
          invitations := db.invitations.upsert (row.acceptedRow userId t) }

/-! ## Every exit -/

section
variable {db db' : InvitationDb} {claims : VerifiedWorkspaceInvitationAuthority} {email : String}
  {userId : UserId} {t : Int} {o : AcceptOutcome} {i : WorkspaceInvitation} {w : Workspace}

/-- the last part, of a pending invitation and a workspace that the user is in -/
theorem recordAcceptance_ok {role : WorkspaceRole} (hp : i.statusAt t = .pending)
    (hrole : w.roleFor userId = some role)
    (h : recordAcceptance db i w userId t = .ok (o, db')) :
    o = .accepted ⟨⟨w.id, w.slug, w.name, w.createdAt⟩, role⟩ .applied ∧
      db' = { db with invitations := db.invitations.upsert (i.acceptedRow userId t) } := by
  unfold recordAcceptance at h
  rw [WorkspaceInvitation.accept_of_pending hp] at h
  dsimp only at h
  split at h
  · cases h
  · next row hsave =>
    obtain ⟨rfl, -⟩ := WorkspaceInvitation.save_ok hsave
    rw [hrole] at h
    cases h
    exact ⟨rfl, rfl⟩

theorem joinWorkspace_ok (hp : i.statusAt t = .pending)
    (hw : db.getWorkspace i.workspaceId = .ok (some w))
    (h : joinWorkspace db i w userId t = .ok (o, db')) :
    ∃ workspace role tables, db.workspaces.get? i.workspaceId = some workspace ∧
      Joined db.toWorkspaceTables i.workspaceId userId t role tables ∧
      o = .accepted ⟨workspace, role⟩ .applied ∧
      db' = { toWorkspaceTables := tables
              invitations := db.invitations.upsert (i.acceptedRow userId t) } := by
  obtain ⟨row, hrow, hweq⟩ := WorkspaceTables.getWorkspace_ok hw
  have hrowid : row.id = i.workspaceId := Table.get?_key hrow
  have hdetails : (⟨w.id, w.slug, w.name, w.createdAt⟩ : WorkspaceDetails) = row := by
    rw [hweq, ← hrowid]
  have hroles := WorkspaceTables.getWorkspace_roleFor hw userId
  unfold joinWorkspace at h
  cases hrole : w.roleFor userId with
  | some role =>
    rw [hrole] at h
    obtain ⟨rfl, rfl⟩ := recordAcceptance_ok hp hrole h
    rw [hdetails]
    exact ⟨row, role, _, hrow, .already role (hroles.symm.trans hrole), rfl, rfl⟩
  | none =>
    have hadd := Workspace.addMember_eq_ok .admin t hrole
    have hnew := Workspace.addMember_roleFor hadd
    rw [hrole, hadd] at h
    dsimp only at h
    split at h
    · cases h
    · next tables hsave =>
      obtain ⟨hworkspaces, hmemberships⟩ := WorkspaceTables.saveWorkspace_ok hsave
      obtain ⟨rfl, rfl⟩ := recordAcceptance_ok hp hnew h
      refine ⟨row, .admin, tables, hrow, .added tables row (hroles.symm.trans hrole) hrow ?_ ?_,
        ?_, rfl⟩
      · rw [hworkspaces, hweq, ← hrowid]
      · intro x
        rw [hmemberships x, hweq]
        dsimp only
        constructor
        · rintro (hx | ⟨m, hm, rfl⟩)
          · exact .inl hx
          · rcases List.mem_append.mp hm with hm | hm
            · obtain ⟨hm, hin⟩ := List.mem_filter.mp hm
              exact .inr (.inl ⟨m, hm, of_decide_eq_true hin, rfl⟩)
            · rw [List.mem_singleton] at hm
              subst hm
              exact .inr (.inr rfl)
        · rintro (hx | ⟨m, hm, hin, rfl⟩ | rfl)
          · exact .inl hx
          · exact .inr ⟨m, List.mem_append.mpr
              (.inl (List.mem_filter.mpr ⟨hm, decide_eq_true hin⟩)), rfl⟩
          · exact .inr ⟨_, List.mem_append.mpr (.inr (List.mem_singleton.mpr rfl)), rfl⟩
      · rw [← hdetails]

/-- **Every exit of an acceptance that commits is a refusal that has written nothing, a replay, or a
first acceptance.** -/
theorem acceptInvitation_accepts
    (h : acceptInvitation db claims email userId t = .ok (o, db')) :
    Accepts db claims email userId t o db' := by
  unfold acceptInvitation at h
  split at h
  · cases h
    exact .refused _ (fun _ _ hc => by cases hc)
  · next row hrow =>
    split at h
    · cases h
    · next i hload =>
      obtain ⟨rfl, hvalid⟩ := WorkspaceInvitation.load_ok hload
      split at h
      · cases h
        exact .refused _ (fun _ _ hc => by cases hc)
      · next hclaims =>
        simp only [not_or, ne_eq, not_not] at hclaims
        obtain ⟨hgeneration, hexpires⟩ := hclaims
        split at h
        · next hreplay =>
          cases h
          unfold replayAcceptance
          split
          · exact .refused _ (fun _ _ hc => by cases hc)
          · split
            · next workspace role hworkspace hrole =>
              exact .replayed i workspace role hrow hvalid hgeneration hexpires hreplay.2 hreplay.1
                hworkspace hrole
            · exact .refused _ (fun _ _ hc => by cases hc)
        · split at h
          · cases h
            exact .refused _ (fun _ _ hc => by cases hc)
          · next hcurrent =>
            have hpending : i.statusAt t = .pending := by
              unfold WorkspaceInvitation.ensureCurrent at hcurrent
              split at hcurrent
              · next hc => exact hc.2.2
              · cases hcurrent
            split at h
            · cases h
              exact .refused _ (fun _ _ hc => by cases hc)
            · next hemail =>
              split at h
              · cases h
                exact .refused _ (fun _ _ hc => by cases hc)
              · split at h
                · cases h
                · cases h
                  exact .refused _ (fun _ _ hc => by cases hc)
                · next w hw =>
                  obtain ⟨workspace, role, tables, hworkspace, hjoined, rfl, rfl⟩ :=
                    joinWorkspace_ok hpending hw h
                  exact .first i workspace role tables hrow hvalid hgeneration hexpires hpending
                    (not_not.mp hemail) hworkspace hjoined

end

/-! ## A database at rest -/

/-- every instant is one that its column can hold -/
structure InvitationDb.AtRest (db : InvitationDb) : Prop where
  invitations : ∀ i ∈ db.invitations.rows, i.toRow = i
  memberships : ∀ m ∈ db.memberships.rows, WorkspaceTables.storedMembership m = m
  workspaces : ∀ w ∈ db.workspaces.rows, pgTimestamp w.createdAt = w.createdAt

namespace WorkspaceInvitation

@[simp] theorem toRow_toRow (i : WorkspaceInvitation) : i.toRow.toRow = i.toRow := by
  unfold toRow
  simp [Option.map_map, Function.comp_def]

theorem acceptedRow_eq {i : WorkspaceInvitation} (h : i.toRow = i) (userId : UserId) (t : Int) :
    i.acceptedRow userId t = i.acceptedBy userId (pgTimestamp t) := by
  show i.toRow.acceptedBy userId (pgTimestamp t) = _
  rw [h]

/-- a pending invitation that is accepted stays consistent -/
theorem Valid.accepted {i : WorkspaceInvitation} (hv : i.Valid) {s : Int}
    (hp : i.statusAt s = .pending) (userId : UserId) (t : Int) :
    (i.acceptedBy userId t).Valid := by
  obtain ⟨hrole, hgeneration, hmail, hwindow, -, hdelivery⟩ := hv
  obtain ⟨-, hrevoked, -⟩ := (i.statusAt_eq_pending_iff s).mp hp
  refine ⟨hrole, hgeneration, hmail, hwindow, ?_, hdelivery⟩
  unfold terminalValid acceptedBy
  rw [hrevoked]

end WorkspaceInvitation

namespace Joined
variable {db : InvitationDb} {tables : WorkspaceTables} {workspaceId : WorkspaceId}
  {userId : UserId} {t : Int} {role : WorkspaceRole}

theorem member (h : Joined db.toWorkspaceTables workspaceId userId t role tables) :
    ∃ m, tables.memberships.get? userId = some m ∧ m.workspaceId = workspaceId ∧ m.role = role := by
  cases h with
  | already role hrole =>
    unfold WorkspaceTables.roleFor at hrole
    obtain ⟨m, hm, rfl⟩ := Option.map_eq_some_iff.mp hrole
    obtain ⟨hget, hw⟩ := Option.filter_eq_some_iff.mp hm
    exact ⟨m, hget, of_decide_eq_true hw, rfl⟩
  | added tables row hnone hrow hworkspaces hmemberships =>
    refine ⟨⟨userId, workspaceId, .admin, pgTimestamp t⟩, ?_, rfl, rfl⟩
    exact Table.get?_eq_some_iff.mpr ⟨(hmemberships _).mpr (.inr (.inr rfl)), rfl⟩

theorem role_eq (h : Joined db.toWorkspaceTables workspaceId userId t role tables) :
    role = (db.roleFor workspaceId userId).getD .admin := by
  cases h with
  | already role hrole =>
    rw [hrole]
    rfl
  | added tables row hnone hrow hworkspaces hmemberships =>
    rw [hnone]
    rfl

/-- every member stays one, with the same role since the same instant -/
theorem kept (h : Joined db.toWorkspaceTables workspaceId userId t role tables) (hdb : db.AtRest)
    {x : WorkspaceMembership} (hx : x ∈ db.memberships.rows) : x ∈ tables.memberships.rows := by
  cases h with
  | already role hrole => exact hx
  | added tables row hnone hrow hworkspaces hmemberships =>
    rw [hmemberships]
    by_cases hin : x.workspaceId = workspaceId
    · exact .inr (.inl ⟨x, hx, hin, (hdb.memberships x hx).symm⟩)
    · exact .inl ⟨hx, hin⟩

/-- only the user can be a member who was not one before -/
theorem only (h : Joined db.toWorkspaceTables workspaceId userId t role tables) (hdb : db.AtRest)
    {x : WorkspaceMembership} (hx : x ∈ tables.memberships.rows) :
    x ∈ db.memberships.rows ∨ x = ⟨userId, workspaceId, .admin, pgTimestamp t⟩ := by
  cases h with
  | already role hrole => exact .inl hx
  | added tables row hnone hrow hworkspaces hmemberships =>
    rcases (hmemberships x).mp hx with ⟨hx, -⟩ | ⟨m, hm, -, rfl⟩ | rfl
    · exact .inl hx
    · rw [hdb.memberships m hm]
      exact .inl hm
    · exact .inr rfl

theorem others (h : Joined db.toWorkspaceTables workspaceId userId t role tables) (hdb : db.AtRest)
    {u : UserId} (hu : u ≠ userId) : tables.memberships.get? u = db.memberships.get? u := by
  cases hget : db.memberships.get? u with
  | some m =>
    obtain ⟨hm, hmu⟩ := Table.get?_eq_some_iff.mp hget
    exact Table.get?_eq_some_iff.mpr ⟨h.kept hdb hm, hmu⟩
  | none =>
    rw [Table.get?_eq_none_iff] at hget ⊢
    intro x hx hxu
    rcases h.only hdb hx with hx | rfl
    · exact hget x hx hxu
    · exact hu hxu.symm

theorem workspaces (h : Joined db.toWorkspaceTables workspaceId userId t role tables)
    (hdb : db.AtRest) (id : WorkspaceId) : tables.workspaces.get? id = db.workspaces.get? id := by
  cases h with
  | already role hrole => rfl
  | added tables row hnone hrow hworkspaces hmemberships =>
    obtain ⟨hmem, hid⟩ := Table.get?_eq_some_iff.mp hrow
    rw [hworkspaces, Table.get?_upsert]
    split
    · next heq =>
      have heq : row.id = id := heq
      have hsame : ({ row with createdAt := pgTimestamp row.createdAt } : WorkspaceDetails) = row := by
        rw [hdb.workspaces row hmem]
      rw [hsame, ← heq, hid, hrow]
    · rfl

theorem atRest (h : Joined db.toWorkspaceTables workspaceId userId t role tables) (hdb : db.AtRest)
    {x : WorkspaceMembership} (hx : x ∈ tables.memberships.rows) :
    WorkspaceTables.storedMembership x = x := by
  rcases h.only hdb hx with hx | rfl
  · exact hdb.memberships x hx
  · unfold WorkspaceTables.storedMembership
    rw [pgTimestamp_idem]

end Joined

/-! ## The same user again -/

section
variable {db : InvitationDb} {claims : VerifiedWorkspaceInvitationAuthority} {userId : UserId}
  {row : WorkspaceInvitation}

/-- a user who has accepted the invitation of the claims is answered from the reads alone -/
theorem acceptInvitation_again (email : String) (t : Int)
    (hrow : db.invitations.get? claims.invitationId = some row) (hvalid : row.Valid)
    (hgeneration : row.generation = claims.generation) (hexpires : row.expiresAt = claims.expiresAt)
    (haccepted : row.acceptedAt.isSome = true) (huser : row.acceptingUserId = some userId) :
    acceptInvitation db claims email userId t = .ok (replayAcceptance db row userId, db) := by
  unfold acceptInvitation
  rw [hrow]
  dsimp only
  rw [WorkspaceInvitation.load_of_valid hvalid]
  dsimp only
  rw [if_neg (by rw [hgeneration, hexpires]; simp), if_pos ⟨huser, haccepted⟩]

theorem replayAcceptance_member (row : WorkspaceInvitation) {workspace : WorkspaceDetails}
    {m : WorkspaceMembership}
    (hworkspace : db.workspaces.get? row.workspaceId = some workspace)
    (hmember : db.memberships.get? userId = some m) (hin : m.workspaceId = row.workspaceId) :
    replayAcceptance db row userId = .accepted ⟨workspace, m.role⟩ .replay := by
  have hresolve : db.resolveIdForMember userId = some row.workspaceId := by
    unfold WorkspaceTables.resolveIdForMember
    rw [hmember, ← hin]
    rfl
  have hrole : db.roleFor row.workspaceId userId = some m.role := by
    unfold WorkspaceTables.roleFor
    rw [hmember, Option.filter_some, if_pos (decide_eq_true hin)]
    rfl
  unfold replayAcceptance
  rw [if_neg (by rw [hresolve]; simp), hworkspace, hrole]

theorem replayAcceptance_removed (row : WorkspaceInvitation)
    (h : db.resolveIdForMember userId ≠ some row.workspaceId) :
    replayAcceptance db row userId = .unavailable := by
  unfold replayAcceptance
  rw [if_pos h]

end

/-- the claims of a token are the same whenever it verifies -/
theorem WorkspaceInvitationAuthority.verifyAt_unique {Key Nonce Token : Type*}
    {A : WorkspaceInvitationAuthority Key Nonce Token} {token : Token} {s t : Int}
    {claims claims' : VerifiedWorkspaceInvitationAuthority} (h : A.verifyAt token s = .ok claims)
    (h' : A.verifyAt token t = .ok claims') : claims' = claims := by
  unfold WorkspaceInvitationAuthority.verifyAt at h h'
  cases hfooter : A.layer.untrustedFooter token with
  | none =>
    rw [hfooter] at h
    cases h
  | some footer =>
    rw [hfooter] at h h'
    dsimp only at h h'
    cases hkey : A.keys.get? footer.kid with
    | none =>
      rw [hkey] at h
      cases h
    | some key =>
      rw [hkey] at h h'
      dsimp only at h h'
      cases hpayload : A.layer.decrypt key token invitationImplicitAssertion with
      | none =>
        rw [hpayload] at h
        cases h
      | some payload =>
        rw [hpayload] at h h'
        dsimp only at h h'
        split at h
        · cases h
        · split at h'
          · cases h'
          · cases h
            cases h'
            rfl

/-! ## The command -/

section
variable {Key Nonce Token : Type*} {A : WorkspaceInvitationAuthority Key Nonce Token}
  {isValid : String → Bool} {db : InvitationDb} {clock : Int}
  {command : AcceptWorkspaceInvitation Token}

/-- what holds of a first acceptance: what it found, what it left, and what the same user gets later -/
structure FirstAcceptance (A : WorkspaceInvitationAuthority Key Nonce Token)
    (isValid : String → Bool) (db : InvitationDb) (command : AcceptWorkspaceInvitation Token)
    (claims : VerifiedWorkspaceInvitationAuthority) (row : WorkspaceInvitation)
    (answer : AcceptedWorkspaceInvitation) (db' : InvitationDb) : Prop where
  id : answer.invitationId = claims.invitationId
  found : db.invitations.get? claims.invitationId = some row
  generation : row.generation = claims.generation
  expiresAt : row.expiresAt = claims.expiresAt
  pending : row.statusAt command.acceptedAt = .pending
  email : normalizeEmail isValid command.verifiedEmail = some row.invitedEmail
  accepted : db'.invitations.get? claims.invitationId
    = some (row.acceptedBy command.userId (pgTimestamp command.acceptedAt))
  otherInvitations : ∀ id, id ≠ claims.invitationId → db'.invitations.get? id = db.invitations.get? id
  member : db'.resolveIdForMember command.userId = some row.workspaceId
  role : db'.roleFor row.workspaceId command.userId
    = some ((db.roleFor row.workspaceId command.userId).getD .admin)
  otherMembers : ∀ u, u ≠ command.userId → db'.memberships.get? u = db.memberships.get? u
  workspaces : ∀ id, db'.workspaces.get? id = db.workspaces.get? id
  replayed : ∀ (later : InvitationDb) s t claims', A.verifyAt command.token s = .ok claims' →
    later.invitations.get? claims.invitationId = db'.invitations.get? claims.invitationId →
    later.memberships.get? command.userId = db'.memberships.get? command.userId →
    later.workspaces.get? row.workspaceId = db'.workspaces.get? row.workspaceId →
    acceptWorkspaceInvitation A isValid later s { command with acceptedAt := t }
      = (.ok { answer with acceptance := .replay }, later)
  removed : ∀ (later : InvitationDb) s t claims', A.verifyAt command.token s = .ok claims' →
    later.invitations.get? claims.invitationId = db'.invitations.get? claims.invitationId →
    later.resolveIdForMember command.userId ≠ some row.workspaceId →
    acceptWorkspaceInvitation A isValid later s { command with acceptedAt := t }
      = (.error .unavailable, later)

/-- the ends of the command: an error that changes nothing, or an exit of the unit of work -/
theorem acceptWorkspaceInvitation_cases (A : WorkspaceInvitationAuthority Key Nonce Token)
    (isValid : String → Bool) (db : InvitationDb) (clock : Int)
    (command : AcceptWorkspaceInvitation Token) :
    (∃ e, acceptWorkspaceInvitation A isValid db clock command = (.error e, db)) ∨
    ∃ claims email o db', A.verifyAt command.token clock = .ok claims ∧
      normalizeEmail isValid command.verifiedEmail = some email ∧
      Accepts db claims email command.userId command.acceptedAt o db' ∧
      acceptWorkspaceInvitation A isValid db clock command = (o.answer claims.invitationId, db') := by
  unfold acceptWorkspaceInvitation
  cases hverify : A.verifyAt command.token clock with
  | error e => exact .inl ⟨_, rfl⟩
  | ok claims =>
    dsimp only
    cases hemail : normalizeEmail isValid command.verifiedEmail with
    | none => exact .inl ⟨_, rfl⟩
    | some email =>
      dsimp only
      cases h : acceptInvitation db claims email command.userId command.acceptedAt with
      | error e => exact .inl ⟨_, rfl⟩
      | ok p =>
        obtain ⟨o, db'⟩ := p
        exact .inr ⟨claims, email, o, db', rfl, rfl, acceptInvitation_accepts h, rfl⟩

theorem acceptWorkspaceInvitation_eq (command : AcceptWorkspaceInvitation Token)
    {claims : VerifiedWorkspaceInvitationAuthority} {email : String} {o : AcceptOutcome}
    {db' : InvitationDb} (hverify : A.verifyAt command.token clock = .ok claims)
    (hemail : normalizeEmail isValid command.verifiedEmail = some email)
    (h : acceptInvitation db claims email command.userId command.acceptedAt = .ok (o, db')) :
    acceptWorkspaceInvitation A isValid db clock command = (o.answer claims.invitationId, db') := by
  unfold acceptWorkspaceInvitation
  rw [hverify]
  dsimp only
  rw [hemail]
  dsimp only
  rw [h]

/-- **A first acceptance is sound**, and what it left behind answers every repetition. -/
theorem firstAcceptance {claims : VerifiedWorkspaceInvitationAuthority} {row : WorkspaceInvitation}
    {workspace : WorkspaceDetails} {role : WorkspaceRole} {tables : WorkspaceTables}
    (hdb : db.AtRest) (hverify : A.verifyAt command.token clock = .ok claims)
    (hemail : normalizeEmail isValid command.verifiedEmail = some row.invitedEmail)
    (hrow : db.invitations.get? claims.invitationId = some row) (hvalid : row.Valid)
    (hgeneration : row.generation = claims.generation) (hexpires : row.expiresAt = claims.expiresAt)
    (hpending : row.statusAt command.acceptedAt = .pending)
    (hworkspace : db.workspaces.get? row.workspaceId = some workspace)
    (hjoined : Joined db.toWorkspaceTables row.workspaceId command.userId command.acceptedAt role
      tables) :
    FirstAcceptance A isValid db command claims row
      ⟨⟨workspace, role⟩, claims.invitationId, .applied⟩
      { toWorkspaceTables := tables
        invitations := db.invitations.upsert (row.acceptedRow command.userId command.acceptedAt) } := by
  obtain ⟨hmem, hid⟩ := Table.get?_eq_some_iff.mp hrow
  have hacc := WorkspaceInvitation.acceptedRow_eq (hdb.invitations row hmem) command.userId
    command.acceptedAt
  obtain ⟨m, hm, hin, hmrole⟩ := hjoined.member
  have hget : (db.invitations.upsert (row.acceptedRow command.userId command.acceptedAt)).get?
      claims.invitationId
        = some (row.acceptedBy command.userId (pgTimestamp command.acceptedAt)) := by
    rw [Table.get?_upsert, hacc]
    exact if_pos hid
  have hvalid' := hvalid.accepted hpending command.userId (pgTimestamp command.acceptedAt)
  refine
    { id := rfl
      found := hrow
      generation := hgeneration
      expiresAt := hexpires
      pending := hpending
      email := hemail
      accepted := hget
      otherInvitations := fun id hne => ?_
      member := ?_
      role := ?_
      otherMembers := fun u hu => hjoined.others hdb hu
      workspaces := fun id => hjoined.workspaces hdb id
      replayed := fun later s t claims' hverify' hinvitation hmembership hws => ?_
      removed := fun later s t claims' hverify' hinvitation hmembership => ?_ }
  · refine Table.get?_upsert_of_ne _ ?_
    rw [hacc]
    exact fun hc => hne (hc.symm.trans hid)
  · show (tables.memberships.get? command.userId).map _ = _
    rw [hm, ← hin]
    rfl
  · show ((tables.memberships.get? command.userId).filter _).map _ = _
    rw [hm, Option.filter_some, if_pos (decide_eq_true hin), ← hjoined.role_eq, ← hmrole]
    rfl
  · have hc := WorkspaceInvitationAuthority.verifyAt_unique hverify hverify'
    subst hc
    have hagain := acceptInvitation_again row.invitedEmail t (hinvitation.trans hget) hvalid'
      hgeneration hexpires rfl rfl
    rw [replayAcceptance_member (row.acceptedBy command.userId (pgTimestamp command.acceptedAt))
      (hws.trans ((hjoined.workspaces hdb _).trans hworkspace)) (hmembership.trans hm) hin] at hagain
    rw [acceptWorkspaceInvitation_eq { command with acceptedAt := t } hverify' hemail hagain, hmrole]
    rfl
  · have hc := WorkspaceInvitationAuthority.verifyAt_unique hverify hverify'
    subst hc
    have hagain := acceptInvitation_again row.invitedEmail t (hinvitation.trans hget) hvalid'
      hgeneration hexpires rfl rfl
    rw [replayAcceptance_removed (row.acceptedBy command.userId (pgTimestamp command.acceptedAt))
      hmembership] at hagain
    rw [acceptWorkspaceInvitation_eq { command with acceptedAt := t } hverify' hemail hagain]
    rfl

end

/-! ## Acceptances by any users, one after the other -/

/-- what a commit of an acceptance keeps -/
structure AcceptMove (db db' : InvitationDb) : Prop where
  atRest : db'.AtRest
  accepted : ∀ id row, db.invitations.get? id = some row → row.acceptedAt.isSome = true →
    db'.invitations.get? id = some row
  members : ∀ x ∈ db.memberships.rows, x ∈ db'.memberships.rows

theorem AcceptMove.refl {db : InvitationDb} (h : db.AtRest) : AcceptMove db db :=
  ⟨h, fun _ _ hrow _ => hrow, fun _ hx => hx⟩

theorem Accepts.move {db db' : InvitationDb} {claims : VerifiedWorkspaceInvitationAuthority}
    {email : String} {userId : UserId} {t : Int} {o : AcceptOutcome}
    (h : Accepts db claims email userId t o db') (hdb : db.AtRest) : AcceptMove db db' := by
  cases h with
  | refused => exact .refl hdb
  | replayed => exact .refl hdb
  | first row workspace role tables hrow hvalid hgeneration hexpires hpending hemail hworkspace hjoined =>
    obtain ⟨hmem, hid⟩ := Table.get?_eq_some_iff.mp hrow
    have hacc := WorkspaceInvitation.acceptedRow_eq (hdb.invitations row hmem) userId t
    refine ⟨⟨fun i hi => ?_, fun m hm => hjoined.atRest hdb hm, fun w hw => ?_⟩,
      fun id found hfound hsettled => ?_, fun x hx => hjoined.kept hdb hx⟩
    · rcases Table.mem_upsert.mp hi with rfl | ⟨hi, -⟩
      · exact WorkspaceInvitation.toRow_toRow _
      · exact hdb.invitations i hi
    · have hget := hjoined.workspaces hdb w.id
      rw [Table.get?_of_mem hw] at hget
      exact hdb.workspaces w (Table.get?_mem hget.symm)
    · -- the invitation that is accepted was pending, so it is another one
      refine (Table.get?_upsert_of_ne _ ?_).trans hfound
      rw [hacc]
      intro hc
      have hc : row.id = id := hc
      rw [← hc, hid, hrow] at hfound
      cases hfound
      rw [((row.statusAt_eq_pending_iff t).mp hpending).1] at hsettled
      cases hsettled

section
variable {Key Nonce Token : Type*} (A : WorkspaceInvitationAuthority Key Nonce Token)
  (isValid : String → Bool)

/-- the database, and whose acceptance of which invitation was answered with success -/
structure AcceptWorld where
  db : InvitationDb
  accepted : List (WorkspaceInvitationId × UserId)

/-- one command, verified at an instant of its own -/
def acceptStep (w : AcceptWorld) (e : Int × AcceptWorkspaceInvitation Token) : Option AcceptWorld :=
  let r := acceptWorkspaceInvitation A isValid w.db e.1 e.2
  some
    { db := r.2
      accepted :=
        match r.1 with
        | .error _ => w.accepted
        | .ok answer => (answer.invitationId, e.2.userId) :: w.accepted }

/-- what every state of a run satisfies -/
structure AcceptInv (start : InvitationDb) (w : AcceptWorld) : Prop where
  move : AcceptMove start w.db
  accepted : ∀ p ∈ w.accepted, ∃ row, w.db.invitations.get? p.1 = some row ∧
    row.acceptedAt.isSome = true ∧ row.acceptingUserId = some p.2

theorem acceptStep_inv {start : InvitationDb} (w : AcceptWorld)
    (e : Int × AcceptWorkspaceInvitation Token) (w' : AcceptWorld) (hinv : AcceptInv start w)
    (h : acceptStep A isValid w e = some w') : AcceptInv start w' := by
  have hdb := hinv.move.atRest
  unfold acceptStep at h
  rcases acceptWorkspaceInvitation_cases A isValid w.db e.1 e.2 with
    ⟨error, hr⟩ | ⟨claims, email, o, db', hverify, hemail, haccepts, hr⟩
  · rw [hr] at h
    cases h
    exact ⟨hinv.move, hinv.accepted⟩
  · rw [hr] at h
    cases h
    have hmove := haccepts.move hdb
    have hold : ∀ p ∈ w.accepted, ∃ row, db'.invitations.get? p.1 = some row ∧
        row.acceptedAt.isSome = true ∧ row.acceptingUserId = some p.2 := by
      intro p hp
      obtain ⟨row, hrow, hsettled, huser⟩ := hinv.accepted p hp
      exact ⟨row, hmove.accepted p.1 row hrow hsettled, hsettled, huser⟩
    refine ⟨⟨hmove.atRest, fun id row hrow hs => ?_, fun x hx => ?_⟩, ?_⟩
    · exact hmove.accepted id row (hinv.move.accepted id row hrow hs) hs
    · exact hmove.members x (hinv.move.members x hx)
    · cases haccepts with
      | refused o ho =>
        cases o with
        | accepted workspace acceptance => exact absurd rfl (ho workspace acceptance)
        | unavailable => exact hold
        | emailMismatch => exact hold
        | existingWorkspace => exact hold
      | replayed row workspace role hrow hvalid hgeneration hexpires haccepted huser =>
        intro p hp
        rcases List.mem_cons.mp hp with rfl | hp
        · exact ⟨row, hrow, haccepted, huser⟩
        · exact hold p hp
      | first row workspace role tables hrow hvalid hgeneration hexpires hpending hemail hworkspace
          hjoined =>
        obtain ⟨hmem, hid⟩ := Table.get?_eq_some_iff.mp hrow
        intro p hp
        rcases List.mem_cons.mp hp with rfl | hp
        · refine ⟨row.acceptedRow e.2.userId e.2.acceptedAt, ?_, rfl, rfl⟩
          exact (Table.get?_upsert _ _ _).trans (if_pos hid)
        · exact hold p hp

variable {A isValid}

/-- **An acceptance is all or nothing.**  An answer that is an error, or a replay, leaves the database as
it was; a first acceptance is sound; and in every run of acceptances by any users every member stays one,
a user belongs to one workspace, and an invitation is accepted by one user. -/
theorem accept_all_or_nothing (A : WorkspaceInvitationAuthority Key Nonce Token)
    (isValid : String → Bool) (db : InvitationDb) (hdb : db.AtRest) :
    (∀ clock command,
      ((∀ answer, (acceptWorkspaceInvitation A isValid db clock command).1 ≠ .ok answer) →
        (acceptWorkspaceInvitation A isValid db clock command).2 = db) ∧
      ∀ answer, (acceptWorkspaceInvitation A isValid db clock command).1 = .ok answer →
        (answer.acceptance = .replay →
          (acceptWorkspaceInvitation A isValid db clock command).2 = db) ∧
        (answer.acceptance = .applied → ∃ claims row,
          A.verifyAt command.token clock = .ok claims ∧
          FirstAcceptance A isValid db command claims row answer
            (acceptWorkspaceInvitation A isValid db clock command).2)) ∧
    ∀ commands w, run (acceptStep A isValid) ⟨db, []⟩ commands = some w →
      (∀ x ∈ db.memberships.rows, x ∈ w.db.memberships.rows) ∧
      (∀ x ∈ w.db.memberships.rows, ∀ y ∈ w.db.memberships.rows, x.userId = y.userId →
        x.workspaceId = y.workspaceId) ∧
      ∀ id u v, (id, u) ∈ w.accepted → (id, v) ∈ w.accepted → u = v := by
  refine ⟨fun clock command => ?_, fun commands w hrun => ?_⟩
  · rcases acceptWorkspaceInvitation_cases A isValid db clock command with
      ⟨error, hr⟩ | ⟨claims, email, o, db', hverify, hemail, haccepts, hr⟩
    · rw [hr]
      exact ⟨fun _ => rfl, fun answer h => by cases h⟩
    · rw [hr]
      cases haccepts with
      | refused o ho =>
        refine ⟨fun _ => rfl, fun answer h => ?_⟩
        cases o with
        | accepted workspace acceptance => exact absurd rfl (ho workspace acceptance)
        | unavailable => cases h
        | emailMismatch => cases h
        | existingWorkspace => cases h
      | replayed =>
        refine ⟨fun _ => rfl, fun answer h => ?_⟩
        cases h
        exact ⟨fun _ => rfl, fun hc => by cases hc⟩
      | first row workspace role tables hrow hvalid hgeneration hexpires hpending hmail hworkspace
          hjoined =>
        refine ⟨fun h => absurd rfl (h _), fun answer h => ?_⟩
        cases h
        refine ⟨fun hc => (by cases hc), fun _ => ⟨claims, row, hverify, ?_⟩⟩
        rw [← hmail] at hemail
        exact firstAcceptance hdb hverify hemail hrow hvalid hgeneration hexpires hpending hworkspace
          hjoined
  · have hinv : AcceptInv db w :=
      run_inv (AcceptInv db) (acceptStep_inv A isValid) ⟨.refl hdb, fun p hp => by cases hp⟩ hrun
    refine ⟨hinv.move.members, fun x hx y hy hxy => ?_, fun id u v hu hv => ?_⟩
    · rw [w.db.memberships.eq_of_key hx hy hxy]
    · obtain ⟨row, hrow, -, hu⟩ := hinv.accepted _ hu
      obtain ⟨row', hrow', -, hv⟩ := hinv.accepted _ hv
      rw [hrow] at hrow'
      cases hrow'
      rw [hu] at hv
      exact Option.some.inj hv

end

/-- the invited user follows the link a minute after the creation -/
def newYearAcceptance :
    Int × AcceptWorkspaceInvitation (InvitationClaims × InvitationFooter × String) :=
  (1767225660000000000,
    { token := (⟨1, 1, invitationPurpose, 1767225600, 1767830400⟩, ⟨"k1"⟩,
        invitationImplicitAssertion)
      userId := ⟨4⟩
      verifiedEmail := " Admin@example.com"
      acceptedAt := 1767225660000000000 })

theorem accept_all_or_nothing_newYear :
    ∃ w, run (acceptStep plainAuthority fun _ => true) ⟨oneInvitation newYearRow, []⟩
        [newYearAcceptance] = some w ∧
      w.accepted = [(⟨1⟩, ⟨4⟩)] ∧
      ∀ x ∈ (oneInvitation newYearRow).memberships.rows, x ∈ w.db.memberships.rows := by
  have hrest : (oneInvitation newYearRow).AtRest := by
    refine ⟨fun i hi => ?_, fun m hm => ?_, fun w hw => ?_⟩
    · rw [List.mem_singleton.mp hi]
      rfl
    · rw [List.mem_singleton.mp hm]
      rfl
    · rw [List.mem_singleton.mp hw]
      rfl
  exact ⟨_, rfl, rfl, ((accept_all_or_nothing plainAuthority (fun _ => true)
    (oneInvitation newYearRow) hrest).2 [newYearAcceptance] _ rfl).1⟩

end Proofplane
