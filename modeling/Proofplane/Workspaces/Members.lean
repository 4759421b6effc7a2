import Proofplane.Invitation.Acceptance

/-!
# Who belongs to a workspace

Three commands change memberships: the creation of a workspace by its first owner, the acceptance of an
invitation, and the removal of a member.  A removal looks up the workspace of its actor before it takes
any lock, so what it has seen may be outdated; the aggregate it then loads is locked.

* `createOwnedWorkspace`, `removeWorkspaceMember`   the two commands that are not about invitations;
* `membershipStep`          the three commands in any order, and any change to the invitations between them;
* `RemovedMember`           what a removal that succeeds has found and done;
* `workspace_membership_invariant`   **every workspace of every run keeps an owner, and loads**.
-/

namespace Proofplane
open Base

structure CreateOwnedWorkspace where
  workspaceId : WorkspaceId
  actorUserId : UserId
  slug : Option String
  name : String
  createdAt : Int
  deriving DecidableEq, Repr

inductive CreateOwnedWorkspaceError
  | slugTaken | userAlreadyHasWorkspace
  | repository (e : RepositoryError)
  deriving DecidableEq, Repr

def CreateOwnedWorkspaceError.ofRepository : RepositoryError → CreateOwnedWorkspaceError
  | .conflict .workspaceSlugTaken => .slugTaken
  | .conflict .workspaceMembershipExists => .userAlreadyHasWorkspace
  | e => .repository e

structure RemoveWorkspaceMember where
  actorUserId : UserId
  targetUserId : UserId
  deriving DecidableEq, Repr

inductive RemoveWorkspaceMemberError
  | unavailable | notFound | lastOwner | selfRemoval
  | repository (e : RepositoryError)
  deriving DecidableEq, Repr

def RemoveWorkspaceMemberError.ofDomain : WorkspaceMemberError → RemoveWorkspaceMemberError
  | .unavailable => .unavailable
  | .notFound => .notFound
  | .lastOwner => .lastOwner
  | .selfRemoval => .selfRemoval

/-! ## The commands -/

def workspaceForReplayedCommand (existing : WorkspaceDetails) (role : Option WorkspaceRole)
    (command : CreateOwnedWorkspace) : Except RepositoryError WorkspaceWithRole :=
  if existing.slug = command.slug ∧ existing.name = command.name ∧
      existing.createdAt = command.createdAt ∧ role = some .owner then
    .ok ⟨existing, .owner⟩
  else .error (.invariantViolation "workspace command replay changed its intent")

/-- the unit of work of a creation -/
def createOwned (db : WorkspaceTables) (command : CreateOwnedWorkspace) :
    Except RepositoryError (WorkspaceWithRole × WorkspaceTables) :=
  match db.resolveIdForMember command.actorUserId with
  | some existingWorkspaceId =>
    match db.workspaces.get? existingWorkspaceId with
    | none =>
      .error (.invariantViolation "workspace membership must reference an existing workspace")
    | some existing =>
      if existing.id ≠ command.workspaceId then .error (.conflict .workspaceMembershipExists)
      else
        (workspaceForReplayedCommand existing (db.roleFor existing.id command.actorUserId)
          command).map fun answer => (answer, db)
  | none =>
    match db.workspaces.get? command.workspaceId with
    | some existing =>
      (workspaceForReplayedCommand existing (db.roleFor existing.id command.actorUserId)
        command).map fun answer => (answer, db)
    | none =>
      let workspace := Workspace.createOwned command.workspaceId command.slug command.name
        command.createdAt command.actorUserId
      match db.saveWorkspace workspace with
      | .error e => .error e
      | .ok db =>
        .ok (⟨⟨workspace.id, workspace.slug, workspace.name, workspace.createdAt⟩, .owner⟩, db)

/-- the command with the tables after it; a unit of work that fails changes nothing -/
def createOwnedWorkspace (db : WorkspaceTables) (command : CreateOwnedWorkspace) :
    Except CreateOwnedWorkspaceError WorkspaceWithRole × WorkspaceTables :=
  match createOwned db command with
  | .error e => (.error (.ofRepository e), db)
  | .ok (answer, db) => (.ok answer, db)

/-- the unit of work of a removal, with the workspace that its first read has `seen` -/
def removeMember (db : WorkspaceTables) (seen : Option WorkspaceId) (command : RemoveWorkspaceMember) :
    Except RepositoryError (Except WorkspaceMemberError WorkspaceId × WorkspaceTables) :=
  match seen with
  | none => .ok (.error .unavailable, db)
  | some workspaceId =>
    match db.getWorkspace workspaceId with
    | .error e => .error e
    | .ok none => .ok (.error .unavailable, db)
    | .ok (some aggregate) =>
      match aggregate.removeMember command.actorUserId command.targetUserId with
      | .error e => .ok (.error e, db)
      | .ok removed =>
        match db.saveWorkspace removed with
        | .error e => .error e
        | .ok db => .ok (.ok aggregate.id, db)

def removeWorkspaceMember (db : WorkspaceTables) (seen : Option WorkspaceId)
    (command : RemoveWorkspaceMember) :
    Except RemoveWorkspaceMemberError WorkspaceId × WorkspaceTables :=
  match removeMember db seen command with
  | .error e => (.error (.repository e), db)
  | .ok (.error e, db) => (.error (.ofDomain e), db)
  | .ok (.ok workspaceId, db) => (.ok workspaceId, db)

/-! ## Runs -/

/-- what happens to the memberships, and to the invitations in between -/
inductive MembershipEvent (Token : Type*)
  | create (command : CreateOwnedWorkspace)
  | invitations (rows : Table WorkspaceInvitation.id)
  | accept (clock : Int) (command : AcceptWorkspaceInvitation Token)
  | remove (seen : Option WorkspaceId) (command : RemoveWorkspaceMember)

section
variable {Key Nonce Token : Type*} (A : WorkspaceInvitationAuthority Key Nonce Token)
  (isValid : String → Bool)

/-- one event; the invitations may become any rows that their columns can hold -/
def membershipStep (db : InvitationDb) : MembershipEvent Token → Option InvitationDb
  | .create command =>
    some { db with toWorkspaceTables := (createOwnedWorkspace db.toWorkspaceTables command).2 }
  | .invitations rows =>
    if rows.rows.all fun i => i.toRow = i then some { db with invitations := rows } else none
  | .accept clock command => some (acceptWorkspaceInvitation A isValid db clock command).2
  | .remove seen command =>
    some { db with toWorkspaceTables := (removeWorkspaceMember db.toWorkspaceTables seen command).2 }

end

/-- the database before the first workspace -/
def noWorkspaces : InvitationDb where
  workspaces := Table.empty
  memberships := Table.empty
  invitations := Table.empty

/-! ## What each command does -/

section
variable {db : WorkspaceTables}

/-- a creation that commits is a replay, which writes nothing, or saves a workspace with one owner -/
theorem createOwned_ok {command : CreateOwnedWorkspace} {answer : WorkspaceWithRole}
    {db' : WorkspaceTables} (h : createOwned db command = .ok (answer, db')) :
    db' = db ∨ db.saveWorkspace (Workspace.createOwned command.workspaceId command.slug command.name
      command.createdAt command.actorUserId) = .ok db' := by
  have hreplay : ∀ existing role, (workspaceForReplayedCommand existing role command).map
      (fun answer => (answer, db)) = .ok (answer, db') → db' = db := by
    intro existing role hr
    cases hanswer : workspaceForReplayedCommand existing role command with
    | error e =>
      rw [hanswer] at hr
      cases hr
    | ok a =>
      rw [hanswer] at hr
      cases hr
      rfl
  unfold createOwned at h
  split at h
  · split at h
    · cases h
    · split at h
      · cases h
      · exact .inl (hreplay _ _ h)
  · split at h
    · exact .inl (hreplay _ _ h)
    · dsimp only at h
      split at h
      · cases h
      · next saved hsave =>
        cases h
        exact .inr hsave

/-- a creation that is refused changes nothing -/
theorem createOwnedWorkspace_cases (db : WorkspaceTables) (command : CreateOwnedWorkspace) :
    (∃ e, createOwnedWorkspace db command = (.error e, db)) ∨
    ∃ answer db', createOwnedWorkspace db command = (.ok answer, db') ∧
      createOwned db command = .ok (answer, db') := by
  unfold createOwnedWorkspace
  cases createOwned db command with
  | error e => exact .inl ⟨_, rfl⟩
  | ok p => exact .inr ⟨p.1, p.2, rfl, rfl⟩

/-- a removal that is refused changes nothing; the others save the workspace without the member -/
theorem removeWorkspaceMember_cases (db : WorkspaceTables) (seen : Option WorkspaceId)
    (command : RemoveWorkspaceMember) :
    (∃ e, removeWorkspaceMember db seen command = (.error e, db)) ∨
    ∃ w removed db', db.getWorkspace w.id = .ok (some w) ∧
      w.removeMember command.actorUserId command.targetUserId = .ok removed ∧
      db.saveWorkspace removed = .ok db' ∧
      removeWorkspaceMember db seen command = (.ok w.id, db') := by
  unfold removeWorkspaceMember removeMember
  cases seen with
  | none => exact .inl ⟨_, rfl⟩
  | some id =>
    dsimp only
    cases hget : db.getWorkspace id with
    | error e => exact .inl ⟨_, rfl⟩
    | ok found =>
      cases found with
      | none => exact .inl ⟨_, rfl⟩
      | some w =>
        dsimp only
        cases hremove : w.removeMember command.actorUserId command.targetUserId with
        | error e => exact .inl ⟨_, rfl⟩
        | ok removed =>
          dsimp only
          cases hsave : db.saveWorkspace removed with
          | error e => exact .inl ⟨_, rfl⟩
          | ok db' =>
            have hid : w.id = id := by
              obtain ⟨row, -, rfl⟩ := WorkspaceTables.getWorkspace_ok hget
              rfl
            exact .inr ⟨w, removed, db', hid ▸ hget, hremove, hsave, rfl⟩

/-- what a removal that succeeds has found, and what it leaves -/
structure RemovedMember (db : WorkspaceTables) (id : WorkspaceId) (command : RemoveWorkspaceMember)
    (db' : WorkspaceTables) : Prop where
  actor : ∃ m ∈ db.memberships.rows, m.workspaceId = id ∧ m.userId = command.actorUserId ∧
    (m.role = .owner ∨ m.role = .admin)
  other : command.actorUserId ≠ command.targetUserId
  target : ∃ m ∈ db.memberships.rows, m.workspaceId = id ∧ m.userId = command.targetUserId
  notLastOwner : ∃ m ∈ db.memberships.rows, m.workspaceId = id ∧ m.role = .owner ∧
    m.userId ≠ command.targetUserId
  memberships : ∀ x, x ∈ db'.memberships.rows ↔
    x ∈ db.memberships.rows ∧ x.userId ≠ command.targetUserId
  workspaces : ∀ other, db'.workspaces.get? other = db.workspaces.get? other

/-- a loaded workspace is valid -/
theorem getWorkspace_valid {w : Workspace} {id : WorkspaceId} (h : db.getWorkspace id = .ok (some w)) :
    w.Valid := by
  refine (Workspace.rehydrate_iff w).mp ?_
  obtain ⟨row, hrow, hw⟩ := WorkspaceTables.getWorkspace_ok h
  have hid : row.id = id := Table.get?_key hrow
  unfold WorkspaceTables.getWorkspace at h
  rw [hrow] at h
  dsimp only at h
  split at h
  · cases h
  · next found hfound =>
    cases h
    rw [hid] at hfound
    rw [hw] at hfound ⊢
    exact hfound

theorem getWorkspace_mem {w : Workspace} {id : WorkspaceId} (h : db.getWorkspace id = .ok (some w))
    {m : WorkspaceMembership} :
    m ∈ w.memberships ↔ m ∈ db.memberships.rows ∧ m.workspaceId = id := by
  obtain ⟨row, -, rfl⟩ := WorkspaceTables.getWorkspace_ok h
  rw [List.mem_filter, decide_eq_true_eq]

/-- **What a removal does.** -/
theorem removeMember_removed {w removed : Workspace} {db' : WorkspaceTables}
    {command : RemoveWorkspaceMember} (hdb : db.Stored) (hget : db.getWorkspace w.id = .ok (some w))
    (hremove : w.removeMember command.actorUserId command.targetUserId = .ok removed)
    (hsave : db.saveWorkspace removed = .ok db') : RemovedMember db w.id command db' := by
  have hvalid := getWorkspace_valid hget
  have hmem : ∀ m, m ∈ w.memberships ↔ m ∈ db.memberships.rows ∧ m.workspaceId = w.id :=
    fun m => getWorkspace_mem hget
  have hleft := Workspace.removeMember_valid hvalid hremove
  obtain ⟨⟨role, hrole⟩, hother, ⟨t, ht, htarget, -⟩, rfl⟩ := Workspace.removeMember_ok hremove
  obtain ⟨hworkspaces, hmemberships⟩ := WorkspaceTables.saveWorkspace_ok hsave
  have herased : ∀ x, x ∈ w.memberships.eraseP (fun m => m.userId = command.targetUserId) ↔
      x ∈ w.memberships ∧ x.userId ≠ command.targetUserId :=
    fun x => Workspace.mem_eraseP_user hvalid.uniqueUsers
  refine
    { actor := ?_
      other := hother
      target := ⟨t, ((hmem t).mp ht).1, ((hmem t).mp ht).2, htarget⟩
      notLastOwner := ?_
      memberships := fun x => ?_
      workspaces := fun other => ?_ }
  · obtain ⟨m, hfind, -⟩ := Option.map_eq_some_iff.mp hrole
    have hm := (hmem m).mp (List.mem_of_find?_eq_some hfind)
    have huser : m.userId = command.actorUserId := by simpa using List.find?_some hfind
    refine ⟨m, hm.1, hm.2, huser, ?_⟩
    cases m.role with
    | owner => exact .inl rfl
    | admin => exact .inr rfl
  · obtain ⟨owner, howner, hownerRole⟩ := hleft.hasOwner
    obtain ⟨howner, hne⟩ := (herased owner).mp howner
    exact ⟨owner, ((hmem owner).mp howner).1, ((hmem owner).mp howner).2, hownerRole, hne⟩
  · rw [hmemberships x]
    constructor
    · rintro (⟨hx, hne⟩ | ⟨m, hm, rfl⟩)
      · -- the target has one membership, and it is in this workspace
        refine ⟨hx, fun hxt => hne ?_⟩
        rw [db.memberships.eq_of_key hx ((hmem t).mp ht).1 (hxt.trans htarget.symm)]
        exact ((hmem t).mp ht).2
      · obtain ⟨hm, hne⟩ := (herased m).mp hm
        rw [hdb.memberships m ((hmem m).mp hm).1]
        exact ⟨((hmem m).mp hm).1, hne⟩
    · rintro ⟨hx, hne⟩
      by_cases hin : x.workspaceId = w.id
      · exact .inr ⟨x, (herased x).mpr ⟨(hmem x).mpr ⟨hx, hin⟩, hne⟩, (hdb.memberships x hx).symm⟩
      · exact .inl ⟨hx, hin⟩
  · obtain ⟨row, hrow, hweq⟩ := WorkspaceTables.getWorkspace_ok hget
    obtain ⟨hrowMem, hrowId⟩ := Table.get?_eq_some_iff.mp hrow
    have hsame : (⟨w.id, w.slug, w.name, pgTimestamp w.createdAt⟩ : WorkspaceDetails) = row := by
      rw [hweq]
      show (⟨w.id, row.slug, row.name, pgTimestamp row.createdAt⟩ : WorkspaceDetails) = row
      rw [hdb.workspaces row hrowMem, ← hrowId]
    rw [hworkspaces, Table.get?_upsert]
    show (if w.id = other then
      some (⟨w.id, w.slug, w.name, pgTimestamp w.createdAt⟩ : WorkspaceDetails) else _) = _
    split
    · next heq => rw [hsame, ← heq, hrow]
    · rfl

end

/-! ## What every run keeps -/

/-- what holds in every state of a run -/
structure MembershipInv (db : InvitationDb) : Prop where
  atRest : db.AtRest
  owned : db.toWorkspaceTables.Owned

theorem MembershipInv.stored {db : InvitationDb} (h : MembershipInv db) :
    db.toWorkspaceTables.Stored :=
  ⟨h.atRest.memberships, h.atRest.workspaces⟩

theorem noWorkspaces_inv : MembershipInv noWorkspaces where
  atRest := ⟨fun _ hi => absurd hi List.not_mem_nil, fun _ hm => absurd hm List.not_mem_nil,
    fun _ hw => absurd hw List.not_mem_nil⟩
  owned _ _ hrow := by cases hrow

/-- a save of a valid workspace keeps the invariant -/
theorem MembershipInv.save {db : InvitationDb} (hinv : MembershipInv db) {w : Workspace}
    {tables : WorkspaceTables} (hw : w.Valid) (h : db.toWorkspaceTables.saveWorkspace w = .ok tables) :
    MembershipInv { db with toWorkspaceTables := tables } := by
  have hstored := WorkspaceTables.saveWorkspace_stored hinv.stored h
  exact ⟨⟨hinv.atRest.invitations, hstored.memberships, hstored.workspaces⟩,
    WorkspaceTables.saveWorkspace_owned hinv.owned hw h⟩

/-- an acceptance adds a member, at most, and every owner stays -/
theorem MembershipInv.accepts {db db' : InvitationDb} (hinv : MembershipInv db)
    {claims : VerifiedWorkspaceInvitationAuthority} {email : String} {userId : UserId} {t : Int}
    {o : AcceptOutcome} (h : Accepts db claims email userId t o db') : MembershipInv db' := by
  have hmove := h.move hinv.atRest
  refine ⟨hmove.atRest, fun id row hrow => ?_⟩
  have hbefore : db.workspaces.get? id = some row := by
    cases h with
    | refused => exact hrow
    | replayed => exact hrow
    | first _ _ _ _ _ _ _ _ _ _ _ hjoined => exact (hjoined.workspaces hinv.atRest id).symm.trans hrow
  obtain ⟨m, hm, hin, hrole⟩ := hinv.owned id row hbefore
  exact ⟨m, hmove.members m hm, hin, hrole⟩

section
variable {Key Nonce Token : Type*} {A : WorkspaceInvitationAuthority Key Nonce Token}
  {isValid : String → Bool}

theorem membershipStep_inv (db : InvitationDb) (e : MembershipEvent Token) (db' : InvitationDb)
    (hinv : MembershipInv db) (h : membershipStep A isValid db e = some db') : MembershipInv db' := by
  cases e with
  | create command =>
    cases h
    rcases createOwnedWorkspace_cases db.toWorkspaceTables command with
      ⟨e, hr⟩ | ⟨answer, tables, hr, hok⟩
    · rw [hr]
      exact hinv
    · rw [hr]
      rcases createOwned_ok hok with rfl | hsave
      · exact hinv
      · exact hinv.save (Workspace.createOwned_valid _ _ _ _ _) hsave
  | invitations rows =>
    have hguard := Option.ite_none_right_eq_some.mp h
    obtain ⟨hrows, hdb⟩ := hguard
    cases hdb
    refine ⟨⟨fun i hi => ?_, hinv.atRest.memberships, hinv.atRest.workspaces⟩, hinv.owned⟩
    exact of_decide_eq_true (List.all_eq_true.mp hrows i hi)
  | accept clock command =>
    cases h
    rcases acceptWorkspaceInvitation_cases A isValid db clock command with
      ⟨e, hr⟩ | ⟨claims, email, o, db', hverify, hemail, haccepts, hr⟩
    · rw [hr]
      exact hinv
    · rw [hr]
      exact hinv.accepts haccepts
  | remove seen command =>
    cases h
    rcases removeWorkspaceMember_cases db.toWorkspaceTables seen command with
      ⟨e, hr⟩ | ⟨w, removed, tables, hget, hremove, hsave, hr⟩
    · rw [hr]
      exact hinv
    · rw [hr]
      exact hinv.save (Workspace.removeMember_valid (getWorkspace_valid hget) hremove) hsave

/-- **Who belongs to a workspace.**  After every run of creations, acceptances and removals by any users,
every workspace loads, with an owner, each user once and no membership of another workspace; a removal
that succeeds removes just its target, by a member of the same workspace, and leaves an owner; whatever is
refused changes nothing; and a save followed by a load gives the same members back and leaves the rows of
the other workspaces alone. -/
theorem workspace_membership_invariant {es : List (MembershipEvent Token)} {db : InvitationDb}
    (h : run (membershipStep A isValid) noWorkspaces es = some db) :
    (∀ id row, db.workspaces.get? id = some row → ∃ w, db.getWorkspace id = .ok (some w) ∧
      Workspace.rehydrate w.id w.slug w.name w.createdAt w.memberships = .ok w ∧ w.Valid) ∧
    (∀ seen command id, (removeWorkspaceMember db.toWorkspaceTables seen command).1 = .ok id →
      RemovedMember db.toWorkspaceTables id command
        (removeWorkspaceMember db.toWorkspaceTables seen command).2) ∧
    (∀ seen command e, (removeWorkspaceMember db.toWorkspaceTables seen command).1 = .error e →
      (removeWorkspaceMember db.toWorkspaceTables seen command).2 = db.toWorkspaceTables) ∧
    (∀ command e, (createOwnedWorkspace db.toWorkspaceTables command).1 = .error e →
      (createOwnedWorkspace db.toWorkspaceTables command).2 = db.toWorkspaceTables) ∧
    (∀ clock command e, (acceptWorkspaceInvitation A isValid db clock command).1 = .error e →
      (acceptWorkspaceInvitation A isValid db clock command).2 = db) ∧
    ∀ (tables tables' : WorkspaceTables) (w : Workspace), w.Valid →
      tables.saveWorkspace w = .ok tables' →
      (∃ w', tables'.getWorkspace w.id = .ok (some w') ∧ WorkspaceTables.SavedAs w w') ∧
      (∀ id, id ≠ w.id → tables'.workspaces.get? id = tables.workspaces.get? id) ∧
      ∀ x : WorkspaceMembership, x.workspaceId ≠ w.id →
        (x ∈ tables'.memberships.rows ↔ x ∈ tables.memberships.rows) := by
  have hinv : MembershipInv db := run_inv MembershipInv membershipStep_inv noWorkspaces_inv h
  refine ⟨fun id row hrow => ?_, fun seen command id hid => ?_, fun seen command e he => ?_,
    fun command e he => ?_, fun clock command e he => ?_, fun tables tables' w hw hsave => ?_⟩
  · obtain ⟨w, hget, hvalid⟩ := hinv.owned.loads hrow
    exact ⟨w, hget, (Workspace.rehydrate_iff w).mpr hvalid, hvalid⟩
  · rcases removeWorkspaceMember_cases db.toWorkspaceTables seen command with
      ⟨e, hr⟩ | ⟨w, removed, tables, hget, hremove, hsave, hr⟩
    · rw [hr] at hid
      cases hid
    · rw [hr] at hid ⊢
      cases hid
      exact removeMember_removed hinv.stored hget hremove hsave
  · rcases removeWorkspaceMember_cases db.toWorkspaceTables seen command with
      ⟨e', hr⟩ | ⟨w, removed, tables, hget, hremove, hsave, hr⟩
    · rw [hr]
    · rw [hr] at he
      cases he
  · rcases createOwnedWorkspace_cases db.toWorkspaceTables command with
      ⟨e', hr⟩ | ⟨answer, tables, hr, hok⟩
    · rw [hr]
    · rw [hr] at he
      cases he
  · rcases acceptWorkspaceInvitation_cases A isValid db clock command with
      ⟨e', hr⟩ | ⟨claims, email, o, db', hverify, hemail, haccepts, hr⟩
    · rw [hr]
    · rw [hr] at he ⊢
      cases haccepts with
      | refused => rfl
      | replayed => rfl
      | first => cases he
  · exact ⟨WorkspaceTables.saveWorkspace_getWorkspace hw hsave,
      WorkspaceTables.saveWorkspace_others hw.inScope hsave⟩

end

/-- the inviter creates the workspace, the invited user joins, and is removed again -/
def newYearMembers : List (MembershipEvent (InvitationClaims × InvitationFooter × String)) :=
  [.create ⟨⟨2⟩, ⟨3⟩, none, "Acme", 1767139200000000000⟩,
    .invitations ⟨[newYearRow], by simp⟩,
    .accept newYearAcceptance.1 newYearAcceptance.2,
    .remove (some ⟨2⟩) ⟨⟨3⟩, ⟨4⟩⟩]

theorem workspace_membership_invariant_newYear :
    ∃ db, run (membershipStep plainAuthority fun _ => true) noWorkspaces newYearMembers = some db ∧
      db.memberships.rows = [⟨⟨3⟩, ⟨2⟩, .owner, 1767139200000000000⟩] ∧
      ∃ w, db.getWorkspace ⟨2⟩ = .ok (some w) ∧ w.Valid := by
  have hrun : run (membershipStep plainAuthority fun _ => true) noWorkspaces newYearMembers
      = some _ := rfl
  refine ⟨_, hrun, rfl, ?_⟩
  obtain ⟨w, hget, -, hvalid⟩ := (workspace_membership_invariant hrun).1 ⟨2⟩ _ rfl
  exact ⟨w, hget, hvalid⟩

end Proofplane
