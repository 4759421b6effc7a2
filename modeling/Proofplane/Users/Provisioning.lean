import Proofplane.Base.RowLocks
import Proofplane.Base.Run
import Proofplane.Domain.User
import Proofplane.Persistence.Workspaces

/-!
# Provisioning and logins, statement by statement

A user is provisioned by every request that carries his token, so any number of units of work for one user may
run at the same time, most of them the first time that he is seen.  A unit of work first takes an advisory lock
on the hash of the subject, then looks for the user, then locks his row; each statement sees what was committed
before it.

* `UserPoint`, `UserPoint.locks`   where a unit of work is, and what it holds there;
* `userStep`            one statement, or one commit, of one of them;
* `UserOp`, `Serial`    the same operations one after another, each in one step with its answer;
* `Knows`               what a unit of work knows at the point where it is, `UsersInv` what holds of the whole;
* `users_serializable`   **every run is one of the operations in the order of their commits: with their answers,
                        one user for a subject, no conflict and no deadlock**;
* `users_kept`          **no user is lost, and what is known of him never changes back**.
-/

namespace Proofplane.Identity
open Base

abbrev Users := Table User.id

structure ProvisionUser where
  auth0Sub : String
  email : Option String
  name : Option String
  deriving DecidableEq, Repr

structure RecordUserLogin where
  userId : UserId
  loggedInAt : Int
  deriving DecidableEq, Repr

namespace Users

/-- `SELECT … WHERE auth0_sub = $1` -/
def findSub (users : Users) (auth0Sub : String) : Option User :=
  users.rows.find? fun u => u.auth0Sub = auth0Sub

/-- the upsert of a whole user, refused where another user has the subject -/
def save (users : Users) (u : User) : Except RepositoryError Users :=
  if users.rows.any fun other => decide (other.id ≠ u.id) && decide (other.auth0Sub = u.auth0Sub) then
    .error .database
  else .ok (users.upsert u.toRow)

end Users

/-! ## Operations, one after another -/

/-- a unit of work, with the id and the instant that are drawn for a new user -/
inductive UserOp
  | provision (command : ProvisionUser) (newId : UserId) (now : Int)
  | recordLogin (command : RecordUserLogin)
  deriving DecidableEq, Repr

namespace UserOp

/-- the user that an operation answers with; a login of nobody is unavailable -/
def answer (users : Users) : UserOp → Option User
  | .provision command newId now =>
    match users.findSub command.auth0Sub with
    | some u => some (u.provisionProfile command.email command.name).1
    | none => some (User.provision newId command.auth0Sub command.email command.name now)
  | .recordLogin command =>
    (users.get? command.userId).bind fun u => (u.recordLogin command.loggedInAt).toOption.map Prod.fst

def apply (users : Users) (op : UserOp) : Users :=
  match op.answer users with
  | some u => users.upsert u.toRow
  | none => users

end UserOp

/-- the operations of a history, one after another from no users, with their answers -/
inductive Serial : List (UserOp × Option User) → Users → Prop
  | nil : Serial [] .empty
  | snoc {history : List (UserOp × Option User)} {users : Users} (h : Serial history users) (op : UserOp) :
      Serial (history ++ [(op, op.answer users)]) (op.apply users)

/-! ## Points and locks -/

inductive UserPoint
  /-- the advisory lock is taken; the subject is looked up next -/
  | resolving (command : ProvisionUser)
  /-- the user is there; his row is locked and read next -/
  | fetching (command : ProvisionUser) (newId : UserId) (now : Int) (id : UserId)
  /-- the user is saved next, and the unit of work commits -/
  | saving (op : UserOp) (user : User)
  deriving DecidableEq, Repr

inductive UserLock
  | advisory (key : Int)
  | row (id : UserId)
  deriving DecidableEq, Repr

structure UserWorld where
  users : Users
  txs : Transactions UserPoint
  /-- the units of work that have ended without an error, with their answers -/
  history : List (UserOp × Option User)

inductive UserEvent
  | provision (tx : Nat) (command : ProvisionUser)
  | recordLogin (tx : Nat) (command : RecordUserLogin)
  /-- the subject is looked up; the id and the instant are for a user that is new -/
  | resolve (tx : Nat) (newId : UserId) (now : Int)
  | fetch (tx : Nat)
  | commit (tx : Nat)
  | rollback (tx : Nat)

section
variable (lockKey : String → Int)

/-- what is locked for an operation besides the row of its user -/
def UserOp.locks : UserOp → List UserLock
  | .provision command _ _ => [.advisory (lockKey command.auth0Sub)]
  | .recordLogin _ => []

def UserPoint.locks : UserPoint → List UserLock
  | .resolving command => [.advisory (lockKey command.auth0Sub)]
  | .fetching command _ _ _ => [.advisory (lockKey command.auth0Sub)]
  | .saving op user => .row user.id :: op.locks lockKey

namespace UserWorld

def empty : UserWorld := ⟨.empty, .empty, []⟩

/-- a unit of work begins, or goes on to what it locks, if nobody else holds it -/
def moves (w : UserWorld) (tx : Nat) (point : UserPoint) : Option UserWorld :=
  if ∀ row ∈ point.locks lockKey, Transactions.Free (UserPoint.locks lockKey) w.txs tx row then
    some { w with txs := w.txs.moves tx point }
  else none

/-- a unit of work ends and leaves nothing -/
def ends (w : UserWorld) (tx : Nat) : UserWorld := { w with txs := w.txs.ends tx }

/-- the only statements of a login that changes nothing -/
def recordLoginStep (w : UserWorld) (tx : Nat) (command : RecordUserLogin) : Option UserWorld :=
  match w.users.get? command.userId with
  | none => some { w with history := w.history ++ [(.recordLogin command, none)] }
  | some row =>
    match row.rehydrate with
    | .error _ => some w
    | .ok user =>
      match user.recordLogin command.loggedInAt with
      | .error _ => some w
      | .ok (user, .applied) => w.moves lockKey tx (.saving (.recordLogin command) user)
      | .ok (user, .replay) =>
        if Transactions.Free (UserPoint.locks lockKey) w.txs tx (.row user.id) then
          some { w with history := w.history ++ [(.recordLogin command, some user)] }
        else none

/-- the look-up of a subject; a random id is new -/
def resolveStep (w : UserWorld) (tx : Nat) (command : ProvisionUser) (newId : UserId) (now : Int) :
    Option UserWorld :=
  match w.users.findSub command.auth0Sub with
  | some u => w.moves lockKey tx (.fetching command newId now u.id)
  | none =>
    if (w.users.get? newId).isSome then none
    else
      w.moves lockKey tx (.saving (.provision command newId now)
        (User.provision newId command.auth0Sub command.email command.name now))

/-- the row of a user is locked and read -/
def fetchStep (w : UserWorld) (tx : Nat) (command : ProvisionUser) (newId : UserId) (now : Int) (id : UserId) :
    Option UserWorld :=
  match w.users.get? id with
  | none => some (w.ends tx)
  | some row =>
    match row.rehydrate with
    | .error _ => some (w.ends tx)
    | .ok user =>
      w.moves lockKey tx (.saving (.provision command newId now) (user.provisionProfile command.email command.name).1)

/-- a save and the commit -/
def commitStep (w : UserWorld) (tx : Nat) (op : UserOp) (user : User) : UserWorld :=
  match w.users.save user with
  | .error _ => w.ends tx
  | .ok users => ⟨users, w.txs.ends tx, w.history ++ [(op, some user)]⟩

end UserWorld

/-- one statement or one commit; a transaction has an id of its own -/
def userStep (w : UserWorld) : UserEvent → Option UserWorld
  | .provision tx command => if (w.txs.get? tx).isSome then none else w.moves lockKey tx (.resolving command)
  | .recordLogin tx command => if (w.txs.get? tx).isSome then none else w.recordLoginStep lockKey tx command
  | .resolve tx newId now =>
    match w.txs.point tx with
    | some (.resolving command) => w.resolveStep lockKey tx command newId now
    | _ => none
  | .fetch tx =>
    match w.txs.point tx with
    | some (.fetching command newId now id) => w.fetchStep lockKey tx command newId now id
    | _ => none
  | .commit tx =>
    match w.txs.point tx with
    | some (.saving op user) => some (w.commitStep tx op user)
    | _ => none
  | .rollback tx => if (w.txs.get? tx).isSome then some (w.ends tx) else none

end

/-! ## What a unit of work knows -/

/-- what is stored is in whole microseconds, has a lifecycle, and is one user for a subject -/
structure UsersFit (users : Users) : Prop where
  row : ∀ u ∈ users.rows, u.toRow = u
  lifecycle : ∀ u ∈ users.rows, u.lifecycle = true
  unique : ∀ u ∈ users.rows, ∀ v ∈ users.rows, u.auth0Sub = v.auth0Sub → u = v

/-- the user that is saved next, and where he is from -/
inductive Pending (users : Users) (op : UserOp) (user : User) : Prop
  | known (u : User) (hu : u ∈ users.rows) (command : ProvisionUser) (newId : UserId) (now : Int)
      (hop : op = .provision command newId now) (hsub : u.auth0Sub = command.auth0Sub)
      (huser : user = (u.provisionProfile command.email command.name).1) : Pending users op user
  | new (command : ProvisionUser) (newId : UserId) (now : Int) (hop : op = .provision command newId now)
      (hnew : ∀ u ∈ users.rows, u.id ≠ newId) (hsub : ∀ u ∈ users.rows, u.auth0Sub ≠ command.auth0Sub)
      (huser : user = User.provision newId command.auth0Sub command.email command.name now) : Pending users op user
  | login (u : User) (hu : u ∈ users.rows) (command : RecordUserLogin) (transition : UserTransition)
      (hop : op = .recordLogin command) (hid : u.id = command.userId)
      (hlogin : u.recordLogin command.loggedInAt = .ok (user, transition)) : Pending users op user

def UserPoint.Knows : UserPoint → Users → Prop
  | .resolving _, _ => True
  | .fetching command _ _ id, users => ∃ u ∈ users.rows, u.id = id ∧ u.auth0Sub = command.auth0Sub
  | .saving op user, users => Pending users op user

section
variable {lockKey : String → Int} {users users' : Users} {op : UserOp} {user u : User}

theorem findSub_eq_some {auth0Sub : String} (hfit : UsersFit users) :
    users.findSub auth0Sub = some u ↔ u ∈ users.rows ∧ u.auth0Sub = auth0Sub := by
  unfold Users.findSub
  constructor
  · intro h
    exact ⟨List.mem_of_find?_eq_some h, by simpa using List.find?_some h⟩
  · rintro ⟨hu, rfl⟩
    cases hfind : users.rows.find? fun v => v.auth0Sub = u.auth0Sub with
    | none => exact absurd (decide_eq_true rfl) (List.find?_eq_none.mp hfind u hu)
    | some v =>
      have hsub : v.auth0Sub = u.auth0Sub := by simpa using List.find?_some hfind
      rw [hfit.unique v (List.mem_of_find?_eq_some hfind) u hu hsub]

theorem findSub_eq_none {auth0Sub : String} :
    users.findSub auth0Sub = none ↔ ∀ u ∈ users.rows, u.auth0Sub ≠ auth0Sub := by
  unfold Users.findSub
  rw [List.find?_eq_none]
  exact forall₂_congr fun u _ => by rw [decide_eq_true_eq]

/-- the user is a stored one, later, or new -/
theorem Pending.cases (h : Pending users op user) :
    (∃ u ∈ users.rows, User.Later u user ∧ (u.lifecycle = true → user.lifecycle = true)) ∨
      (∀ u ∈ users.rows, u.id ≠ user.id) ∧ (∀ u ∈ users.rows, u.auth0Sub ≠ user.auth0Sub) ∧
        user.lifecycle = true := by
  cases h with
  | known u hu command newId now hop hsub huser =>
    subst huser
    refine .inl ⟨u, hu, u.provisionProfile_later _ _, fun hlife => ?_⟩
    rw [User.provisionProfile_lifecycle]
    exact hlife
  | new command newId now hop hnew hsub huser =>
    subst huser
    exact .inr ⟨hnew, hsub, rfl⟩
  | login u hu command transition hop hid hlogin =>
    exact .inl ⟨u, hu, (User.recordLogin_later hlogin).1, User.recordLogin_lifecycle hlogin⟩

/-- **What is known of the user that is saved is what the operation answers.** -/
theorem Pending.answer (h : Pending users op user) (hfit : UsersFit users) : op.answer users = some user := by
  cases h with
  | known u hu command newId now hop hsub huser =>
    rw [hop, huser]
    unfold UserOp.answer
    dsimp only
    rw [(findSub_eq_some hfit).mpr ⟨hu, hsub⟩]
  | new command newId now hop hnew hsub huser =>
    rw [hop, huser]
    unfold UserOp.answer
    dsimp only
    rw [findSub_eq_none.mpr hsub]
  | login u hu command transition hop hid hlogin =>
    rw [hop]
    unfold UserOp.answer
    dsimp only
    rw [← hid, Table.get?_of_mem hu, Option.bind_some, hlogin]
    rfl

/-- nobody else has the subject of the user that is saved -/
theorem Pending.alone (h : Pending users op user) (hfit : UsersFit users) :
    ∀ v ∈ users.rows, v.auth0Sub = user.auth0Sub → v.id = user.id := by
  intro v hv hsub
  rcases h.cases with ⟨u, hu, hlater, -⟩ | ⟨-, hnobody, -⟩
  · rw [hfit.unique v hv u hu (hsub.trans hlater.auth0Sub), hlater.id]
  · exact absurd hsub (hnobody v hv)

/-- **It is saved without a conflict, which is the operation in one step.** -/
theorem Pending.save (h : Pending users op user) (hfit : UsersFit users) :
    users.save user = .ok (op.apply users) := by
  unfold Users.save UserOp.apply
  rw [if_neg, h.answer hfit]
  rw [List.any_eq_true]
  rintro ⟨v, hv, hcond⟩
  obtain ⟨hid, hsub⟩ := Bool.and_eq_true_iff.mp hcond
  exact of_decide_eq_true hid (h.alone hfit v hv (of_decide_eq_true hsub))

/-- **The users after an operation fit.** -/
theorem Pending.fit (h : Pending users op user) (hfit : UsersFit users) : UsersFit (users.upsert user.toRow) := by
  refine ⟨?_, ?_, ?_⟩
  · intro v hv
    rcases Table.mem_upsert.mp hv with rfl | ⟨hvm, -⟩
    · exact User.toRow_toRow user
    · exact hfit.row v hvm
  · intro v hv
    rcases Table.mem_upsert.mp hv with rfl | ⟨hvm, -⟩
    · rcases h.cases with ⟨u, hu, -, hlife⟩ | ⟨-, -, hlife⟩
      · exact User.lifecycle_toRow (hlife (hfit.lifecycle u hu))
      · exact User.lifecycle_toRow hlife
    · exact hfit.lifecycle v hvm
  · have hother : ∀ v ∈ users.rows, v.id ≠ user.id → v.auth0Sub ≠ user.auth0Sub :=
      fun v hv hid hsub => hid (h.alone hfit v hv hsub)
    intro v hv v' hv' hsub
    rcases Table.mem_upsert.mp hv with rfl | ⟨hvm, hne⟩
    · rcases Table.mem_upsert.mp hv' with rfl | ⟨hvm', hne'⟩
      · rfl
      · exact absurd hsub.symm (hother v' hvm' hne')
    · rcases Table.mem_upsert.mp hv' with rfl | ⟨hvm', hne'⟩
      · exact absurd hsub (hother v hvm hne)
      · exact hfit.unique v hvm v' hvm' hsub

/-- **A user is not lost when another is saved, nor when he is.** -/
theorem Pending.kept (h : Pending users op user) (hfit : UsersFit users) {v : User} (hv : v ∈ users.rows) :
    ∃ v' ∈ (users.upsert user.toRow).rows, User.Later v v' ∧ (v.id ≠ user.id → v' = v) := by
  by_cases hid : v.id = user.id
  · refine ⟨user.toRow, Table.mem_upsert.mpr (.inl rfl), ?_, fun hne => absurd hid hne⟩
    rcases h.cases with ⟨u, hu, hlater, -⟩ | ⟨hnew, -, -⟩
    · rw [users.eq_of_key hv hu (hid.trans hlater.id)]
      exact hlater.toRow (hfit.row u hu)
    · exact absurd hid (hnew v hv)
  · exact ⟨v, Table.mem_upsert.mpr (.inr ⟨hv, hid⟩), .refl v, fun _ => rfl⟩

/-! ## What the others know -/

/-- **What is known survives the commit of another**: he holds another row, and of a new user another advisory
lock. -/
theorem knows_frame {p : UserPoint} (hfit : UsersFit users) (hpending : Pending users op user)
    (hapart : ∀ row ∈ p.locks lockKey, row ∉ (UserPoint.saving op user).locks lockKey) (h : p.Knows users) :
    p.Knows (users.upsert user.toRow) := by
  cases p with
  | resolving command => exact trivial
  | fetching command newId now id =>
    obtain ⟨u, hu, hid, hsub⟩ := h
    obtain ⟨u', hu', hlater, -⟩ := hpending.kept hfit hu
    exact ⟨u', hu', hlater.id.trans hid, hlater.auth0Sub.trans hsub⟩
  | saving op' user' =>
    have hne : user'.id ≠ user.id := by
      intro hid
      refine hapart (.row user'.id) List.mem_cons_self ?_
      rw [hid]
      exact List.mem_cons_self
    have hstays : ∀ u ∈ users.rows, u.id = user'.id → u ∈ (users.upsert user.toRow).rows :=
      fun u hu hid => Table.mem_upsert.mpr (.inr ⟨hu, fun hsame => hne (hid.symm.trans hsame)⟩)
    cases h with
    | known u hu command newId now hop hsub huser =>
      refine .known u (hstays u hu ?_) command newId now hop hsub huser
      rw [huser, (u.provisionProfile_later _ _).id]
    | new command newId now hop hnew hsub huser =>
      have hid : user'.id = newId := by rw [huser]; rfl
      refine .new command newId now hop ?_ ?_ huser
      · intro v hv
        rcases Table.mem_upsert.mp hv with rfl | ⟨hvm, -⟩
        · exact fun heq => hne (hid.trans heq.symm)
        · exact hnew v hvm
      · intro v hv
        rcases Table.mem_upsert.mp hv with rfl | ⟨hvm, -⟩
        · -- the other has this subject only if he holds its advisory lock
          intro hsame
          cases hpending with
          | known u hu command' newId' now' hop' hsub' huser' =>
            refine hsub u hu (Eq.trans ?_ hsame)
            rw [huser']
            exact (u.provisionProfile_later _ _).auth0Sub.symm
          | new command' newId' now' hop' hnew' hsub' huser' =>
            refine hapart (.advisory (lockKey command.auth0Sub)) ?_ ?_
            · rw [hop]
              exact List.mem_cons_of_mem _ (List.mem_singleton.mpr rfl)
            · rw [← hsame, huser', hop']
              exact List.mem_cons_of_mem _ (List.mem_singleton.mpr rfl)
          | login u hu command' transition hop' hid' hlogin =>
            exact hsub u hu ((User.recordLogin_later hlogin).1.auth0Sub.symm.trans hsame)
        · exact hsub v hvm
    | login u hu command transition hop hid hlogin =>
      refine .login u (hstays u hu ?_) command transition hop hid hlogin
      exact (User.recordLogin_later hlogin).1.id.symm

end

/-! ## Every run -/

structure UsersInv (lockKey : String → Int) (w : UserWorld) : Prop where
  fit : UsersFit w.users
  serial : Serial w.history w.users
  exclusive : Transactions.Exclusive (UserPoint.locks lockKey) w.txs
  holds : Transactions.Holds UserPoint.Knows w.txs w.users

theorem usersInv_empty (lockKey : String → Int) : UsersInv lockKey .empty where
  fit := ⟨by simp [UserWorld.empty], by simp [UserWorld.empty], by simp [UserWorld.empty]⟩
  serial := .nil
  exclusive := by
    intro t ht
    exact absurd ht (Table.mem_rows_empty t)
  holds := by
    intro t ht
    exact absurd ht (Table.mem_rows_empty t)

section
variable {lockKey : String → Int} {w w' : UserWorld} {tx : Nat} {p : UserPoint} {op : UserOp} {user : User}

/-- every user that is stored can be read -/
theorem UsersFit.rehydrate {users : Users} (hfit : UsersFit users) {u : User} (hu : u ∈ users.rows) :
    u.rehydrate = .ok u := by
  unfold User.rehydrate
  rw [if_pos (hfit.lifecycle u hu)]

theorem UserWorld.moves_some (h : w.moves lockKey tx p = some w') :
    (∀ row ∈ p.locks lockKey, Transactions.Free (UserPoint.locks lockKey) w.txs tx row) ∧
      w' = { w with txs := w.txs.moves tx p } := by
  unfold UserWorld.moves at h
  obtain ⟨hfree, heq⟩ := Option.ite_none_right_eq_some.mp h
  exact ⟨hfree, (Option.some.inj heq).symm⟩

theorem UsersInv.moves (hi : UsersInv lockKey w) (h : w.moves lockKey tx p = some w') (hp : p.Knows w.users) :
    UsersInv lockKey w' := by
  obtain ⟨hfree, rfl⟩ := UserWorld.moves_some h
  exact ⟨hi.fit, hi.serial, hi.exclusive.moves hfree, hi.holds.moves hp⟩

theorem UsersInv.ends (hi : UsersInv lockKey w) (tx : Nat) : UsersInv lockKey (w.ends tx) :=
  ⟨hi.fit, hi.serial, hi.exclusive.ends tx, hi.holds.ends tx⟩

/-- a unit of work that leaves the users as they are has its answer -/
theorem UsersInv.answered (hi : UsersInv lockKey w) {answer : Option User} (ha : op.answer w.users = answer)
    (hsame : op.apply w.users = w.users) : UsersInv lockKey { w with history := w.history ++ [(op, answer)] } := by
  refine ⟨hi.fit, ?_, hi.exclusive, hi.holds⟩
  have hserial := hi.serial.snoc op
  rw [ha, hsame] at hserial
  exact hserial

theorem recordLoginStep_inv (hi : UsersInv lockKey w) {command : RecordUserLogin}
    (h : w.recordLoginStep lockKey tx command = some w') : UsersInv lockKey w' := by
  unfold UserWorld.recordLoginStep at h
  split at h
  · next hnone =>
    cases h
    have ha : (UserOp.recordLogin command).answer w.users = none := by
      unfold UserOp.answer
      dsimp only
      rw [hnone]
      rfl
    refine hi.answered ha ?_
    unfold UserOp.apply
    rw [ha]
  · next row hrow =>
    have hmem : row ∈ w.users.rows := Table.get?_mem hrow
    rw [hi.fit.rehydrate hmem] at h
    dsimp only at h
    split at h
    · cases h
      exact hi
    · next user hlogin => exact hi.moves h (.login row hmem command .applied rfl (Table.get?_key hrow) hlogin)
    · next user hlogin =>
      -- the login is not the latest: the user is answered as he is
      obtain ⟨-, heq⟩ := Option.ite_none_right_eq_some.mp h
      cases heq
      have hsame : user = row := (User.recordLogin_later hlogin).2 rfl
      have ha : (UserOp.recordLogin command).answer w.users = some user := by
        unfold UserOp.answer
        dsimp only
        rw [hrow, Option.bind_some, hlogin]
        rfl
      refine hi.answered ha ?_
      unfold UserOp.apply
      rw [ha]
      dsimp only
      rw [hsame, hi.fit.row row hmem, Table.upsert_of_mem hmem]

theorem resolveStep_inv (hi : UsersInv lockKey w) {command : ProvisionUser} {newId : UserId} {now : Int}
    (h : w.resolveStep lockKey tx command newId now = some w') : UsersInv lockKey w' := by
  unfold UserWorld.resolveStep at h
  split at h
  · next u hu =>
    obtain ⟨hmem, hsub⟩ := (findSub_eq_some hi.fit).mp hu
    exact hi.moves h ⟨u, hmem, rfl, hsub⟩
  · next hnobody =>
    split at h
    · cases h
    · next hnew =>
      have hnone : w.users.get? newId = none := by simpa using hnew
      exact hi.moves h (.new command newId now rfl (Table.get?_eq_none_iff.mp hnone)
        (findSub_eq_none.mp hnobody) rfl)

theorem fetchStep_inv (hi : UsersInv lockKey w) {command : ProvisionUser} {newId id : UserId} {now : Int}
    (hp : (UserPoint.fetching command newId now id).Knows w.users)
    (h : w.fetchStep lockKey tx command newId now id = some w') : UsersInv lockKey w' := by
  obtain ⟨u, hmem, hid, hsub⟩ := hp
  unfold UserWorld.fetchStep at h
  rw [← hid, Table.get?_of_mem hmem] at h
  dsimp only at h
  rw [hi.fit.rehydrate hmem] at h
  exact hi.moves h (.known u hmem command newId now rfl hsub rfl)

/-- **A commit is its operation, in one step.** -/
theorem commitStep_inv (hi : UsersInv lockKey w) (hpoint : w.txs.point tx = some (.saving op user)) :
    UsersInv lockKey (w.commitStep tx op user) := by
  have hpending : Pending w.users op user := hi.holds.of_point hpoint
  unfold UserWorld.commitStep
  rw [hpending.save hi.fit]
  dsimp only
  have happly : op.apply w.users = w.users.upsert user.toRow := by
    unfold UserOp.apply
    rw [hpending.answer hi.fit]
  refine ⟨?_, ?_, hi.exclusive.ends tx, ?_⟩
  · show UsersFit (op.apply w.users)
    rw [happly]
    exact hpending.fit hi.fit
  · have hserial := hi.serial.snoc op
    rw [hpending.answer hi.fit] at hserial
    exact hserial
  · have hframe : ∀ t ∈ w.txs.rows, t.id ≠ tx → t.point.Knows w.users → t.point.Knows (op.apply w.users) := by
      intro t ht hne hknows
      have hapart : ∀ row ∈ t.point.locks lockKey, row ∉ (UserPoint.saving op user).locks lockKey :=
        fun row hrow hheld => hi.exclusive.free hpoint hheld t ht hne hrow
      rw [happly]
      exact knows_frame hi.fit hpending hapart hknows
    exact hi.holds.changes hframe

/-- **Every statement keeps it.** -/
theorem userStep_inv (hi : UsersInv lockKey w) {e : UserEvent} (h : userStep lockKey w e = some w') :
    UsersInv lockKey w' := by
  cases e with
  | provision tx command =>
    obtain ⟨-, hmoves⟩ := Option.ite_none_left_eq_some.mp h
    exact hi.moves hmoves trivial
  | recordLogin tx command =>
    obtain ⟨-, hlogin⟩ := Option.ite_none_left_eq_some.mp h
    exact recordLoginStep_inv hi hlogin
  | resolve tx newId now =>
    unfold userStep at h
    dsimp only at h
    split at h
    · exact resolveStep_inv hi h
    · cases h
  | fetch tx =>
    unfold userStep at h
    dsimp only at h
    split at h
    · next command newId now id hpoint => exact fetchStep_inv hi (hi.holds.of_point hpoint) h
    · cases h
  | commit tx =>
    unfold userStep at h
    dsimp only at h
    split at h
    · next op user hpoint =>
      cases h
      exact commitStep_inv hi hpoint
    · cases h
  | rollback tx =>
    obtain ⟨-, hends⟩ := Option.ite_none_right_eq_some.mp h
    cases hends
    exact hi.ends tx

theorem users_run {events : List UserEvent} (h : run (userStep lockKey) .empty events = some w) :
    UsersInv lockKey w :=
  run_inv (UsersInv lockKey) (fun _ _ _ hi hstep => userStep_inv hi hstep) (usersInv_empty lockKey) h

/-! ## Somebody can go on -/

/-- what a unit of work holds already and the rows that nobody holds are free for it -/
theorem moves_enabled (hi : UsersInv lockKey w) {q : UserPoint} (hpoint : w.txs.point tx = some p)
    (hlocks : ∀ row ∈ q.locks lockKey, row ∈ p.locks lockKey ∨
      ∀ t ∈ w.txs.rows, row ∉ UserPoint.locks lockKey t.point) :
    (w.moves lockKey tx q).isSome = true := by
  unfold UserWorld.moves
  rw [if_pos]
  · rfl
  · intro row hrow
    rcases hlocks row hrow with hheld | hnobody
    · exact hi.exclusive.free hpoint hheld
    · exact fun t ht _ => hnobody t ht

/-- the rows of users are held only by those who save one -/
theorem row_free (hnone : ∀ t ∈ w.txs.rows, ∀ op user, t.point ≠ .saving op user) (id : UserId) :
    ∀ t ∈ w.txs.rows, UserLock.row id ∉ UserPoint.locks lockKey t.point := by
  intro t ht hheld
  cases hpoint : t.point with
  | resolving command =>
    rw [hpoint] at hheld
    simp [UserPoint.locks] at hheld
  | fetching command newId now id' =>
    rw [hpoint] at hheld
    simp [UserPoint.locks] at hheld
  | saving op user => exact hnone t ht op user hpoint

/-- **There is no deadlock**: who saves a user can commit, and if nobody does then anybody can go on. -/
theorem users_progress (hi : UsersInv lockKey w) {newId : UserId} (now : Int) (hnew : w.users.get? newId = none)
    (hbusy : w.txs.rows ≠ []) :
    ∃ tx, ∃ e ∈ [UserEvent.resolve tx newId now, .fetch tx, .commit tx], (userStep lockKey w e).isSome = true := by
  have hpoints : ∀ t ∈ w.txs.rows, w.txs.point t.id = some t.point := by
    intro t ht
    unfold Transactions.point
    rw [Table.get?_of_mem ht]
    rfl
  by_cases hsaving : ∃ t ∈ w.txs.rows, ∃ op user, t.point = .saving op user
  · obtain ⟨t, ht, op, user, hpoint⟩ := hsaving
    refine ⟨t.id, .commit t.id, by simp, ?_⟩
    unfold userStep
    dsimp only
    rw [hpoints t ht, hpoint]
    rfl
  · have hnone : ∀ t ∈ w.txs.rows, ∀ op user, t.point ≠ .saving op user :=
      fun t ht op user hpoint => hsaving ⟨t, ht, op, user, hpoint⟩
    obtain ⟨t, ht⟩ := List.exists_mem_of_ne_nil _ hbusy
    have hpoint := hpoints t ht
    cases hp : t.point with
    | resolving command =>
      rw [hp] at hpoint
      refine ⟨t.id, .resolve t.id newId now, by simp, ?_⟩
      unfold userStep
      dsimp only
      rw [hpoint]
      dsimp only
      unfold UserWorld.resolveStep
      cases hfind : w.users.findSub command.auth0Sub with
      | some u => exact moves_enabled hi hpoint fun row hrow => .inl hrow
      | none =>
        dsimp only
        rw [if_neg (by simp [hnew])]
        refine moves_enabled hi hpoint fun row hrow => ?_
        rcases List.mem_cons.mp hrow with rfl | hrow
        · exact .inr (row_free hnone _)
        · exact .inl hrow
    | fetching command newId' now' id =>
      rw [hp] at hpoint
      refine ⟨t.id, .fetch t.id, by simp, ?_⟩
      obtain ⟨u, hu, hid, -⟩ := hi.holds.of_point hpoint
      unfold userStep
      dsimp only
      rw [hpoint]
      dsimp only
      unfold UserWorld.fetchStep
      rw [← hid, Table.get?_of_mem hu]
      dsimp only
      rw [hi.fit.rehydrate hu]
      refine moves_enabled hi hpoint fun row hrow => ?_
      rcases List.mem_cons.mp hrow with rfl | hrow
      · exact .inr (row_free hnone _)
      · exact .inl hrow
    | saving op user => exact absurd hp (hnone t ht op user)

/-! ## What is kept -/

/-- **Only a commit changes the users**, and no answer is taken back. -/
theorem userStep_cases {e : UserEvent} (h : userStep lockKey w e = some w') :
    (w'.users = w.users ∧ w.history <+: w'.history) ∨
      ∃ tx op user, w.txs.point tx = some (.saving op user) ∧ w' = w.commitStep tx op user := by
  have hmoved : ∀ {tx p}, w.moves lockKey tx p = some w' → w'.users = w.users ∧ w.history <+: w'.history := by
    intro tx p hmoves
    obtain ⟨-, rfl⟩ := UserWorld.moves_some hmoves
    exact ⟨rfl, List.prefix_rfl⟩
  cases e with
  | provision tx command => exact .inl (hmoved (Option.ite_none_left_eq_some.mp h).2)
  | recordLogin tx command =>
    obtain ⟨-, hlogin⟩ := Option.ite_none_left_eq_some.mp h
    unfold UserWorld.recordLoginStep at hlogin
    left
    split at hlogin
    · cases hlogin
      exact ⟨rfl, List.prefix_append _ _⟩
    · split at hlogin
      · cases hlogin
        exact ⟨rfl, List.prefix_rfl⟩
      · split at hlogin
        · cases hlogin
          exact ⟨rfl, List.prefix_rfl⟩
        · exact hmoved hlogin
        · obtain ⟨-, heq⟩ := Option.ite_none_right_eq_some.mp hlogin
          cases heq
          exact ⟨rfl, List.prefix_append _ _⟩
  | resolve tx newId now =>
    unfold userStep at h
    dsimp only at h
    split at h
    · unfold UserWorld.resolveStep at h
      split at h
      · exact .inl (hmoved h)
      · exact .inl (hmoved (Option.ite_none_left_eq_some.mp h).2)
    · cases h
  | fetch tx =>
    unfold userStep at h
    dsimp only at h
    split at h
    · unfold UserWorld.fetchStep at h
      left
      split at h
      · cases h
        exact ⟨rfl, List.prefix_rfl⟩
      · split at h
        · cases h
          exact ⟨rfl, List.prefix_rfl⟩
        · exact hmoved h
    · cases h
  | commit tx =>
    unfold userStep at h
    dsimp only at h
    split at h
    · next op user hpoint =>
      cases h
      exact .inr ⟨tx, op, user, hpoint, rfl⟩
    · cases h
  | rollback tx =>
    obtain ⟨-, hends⟩ := Option.ite_none_right_eq_some.mp h
    cases hends
    exact .inl ⟨rfl, List.prefix_rfl⟩

/-- the same users, later, and the answers so far -/
structure UsersKept (w w' : UserWorld) : Prop where
  users : ∀ u ∈ w.users.rows, ∃ u' ∈ w'.users.rows, User.Later u u'
  history : w.history <+: w'.history

theorem UsersKept.of_eq (husers : w'.users = w.users) (hhistory : w.history <+: w'.history) : UsersKept w w' := by
  refine ⟨fun u hu => ⟨u, ?_, .refl u⟩, hhistory⟩
  rw [husers]
  exact hu

theorem UsersKept.trans {w'' : UserWorld} (h : UsersKept w w') (h' : UsersKept w' w'') : UsersKept w w'' := by
  refine ⟨fun u hu => ?_, h.history.trans h'.history⟩
  obtain ⟨u', hu', hlater⟩ := h.users u hu
  obtain ⟨u'', hu'', hlater'⟩ := h'.users u' hu'
  exact ⟨u'', hu'', hlater.trans hlater'⟩

theorem userStep_kept (hi : UsersInv lockKey w) {e : UserEvent} (h : userStep lockKey w e = some w') :
    UsersKept w w' := by
  rcases userStep_cases h with ⟨husers, hhistory⟩ | ⟨tx, op, user, hpoint, rfl⟩
  · exact .of_eq husers hhistory
  · have hpending : Pending w.users op user := hi.holds.of_point hpoint
    unfold UserWorld.commitStep
    rw [hpending.save hi.fit]
    refine ⟨fun u hu => ?_, List.prefix_append _ _⟩
    obtain ⟨u', hu', hlater, -⟩ := hpending.kept hi.fit hu
    refine ⟨u', ?_, hlater⟩
    show u' ∈ (op.apply w.users).rows
    unfold UserOp.apply
    rw [hpending.answer hi.fit]
    exact hu'

/-! ## Results -/

/-- **Provisioning and logins are serializable.**  Whatever the order of the statements and whatever subjects
share a key of the advisory lock, the units of work that have ended without an error are their operations one
after another in the order of the commits, each in one step and with its answer; a subject has one user; a user
that is about to be saved is what the operation answers on the users as they are now, and is saved without a
conflict; and as long as one unit of work is under way, one can go on. -/
theorem users_serializable {events : List UserEvent} (h : run (userStep lockKey) .empty events = some w) :
    Serial w.history w.users ∧
      (∀ u ∈ w.users.rows, ∀ v ∈ w.users.rows, u.auth0Sub = v.auth0Sub → u = v) ∧
      (∀ tx op user, w.txs.point tx = some (.saving op user) →
        op.answer w.users = some user ∧ w.users.save user = .ok (op.apply w.users)) ∧
      ∀ newId now, w.users.get? newId = none → w.txs.rows ≠ [] →
        ∃ tx, ∃ e ∈ [UserEvent.resolve tx newId now, .fetch tx, .commit tx],
          (userStep lockKey w e).isSome = true := by
  have hi := users_run h
  refine ⟨hi.serial, hi.fit.unique, fun tx op user hpoint => ?_, fun newId now hnew hbusy =>
    users_progress hi now hnew hbusy⟩
  have hpending : Pending w.users op user := hi.holds.of_point hpoint
  exact ⟨hpending.answer hi.fit, hpending.save hi.fit⟩

/-- **No user is lost**: in every later state of a run the subject of a user finds the same id, provisioned at
the same instant, with a profile that is not forgotten and a login that is not earlier. -/
theorem users_kept {events more : List UserEvent} (h : run (userStep lockKey) .empty events = some w)
    (h' : run (userStep lockKey) w more = some w') :
    w.history <+: w'.history ∧
      ∀ u ∈ w.users.rows, ∃ u', w'.users.findSub u.auth0Sub = some u' ∧ User.Later u u' := by
  have hi := users_run h
  have hi' := run_inv (UsersInv lockKey) (fun _ _ _ hi hstep => userStep_inv hi hstep) hi h'
  have hkept := run_rel (UsersInv lockKey) UsersKept (fun _ _ _ hi hstep => userStep_inv hi hstep)
    (fun w => .of_eq rfl List.prefix_rfl) (fun _ _ _ => .trans) (fun _ _ _ hi hstep => userStep_kept hi hstep) hi h'
  refine ⟨hkept.history, fun u hu => ?_⟩
  obtain ⟨u', hu', hlater⟩ := hkept.users u hu
  exact ⟨u', (findSub_eq_some hi'.fit).mpr ⟨hu', hlater.auth0Sub⟩, hlater⟩

end

/-! One subject, three units of work, and one key for all subjects: the profile waits for the login. -/

def sampleUserEvents : List UserEvent :=
  [.provision 1 ⟨"auth0|alice", none, some "Alice"⟩, .resolve 1 ⟨1⟩ 1000000, .commit 1,
    .provision 2 ⟨"auth0|alice", some "alice@example.com", none⟩, .resolve 2 ⟨2⟩ 2000000,
    .recordLogin 3 ⟨⟨1⟩, 3000000⟩, .commit 3, .fetch 2]

/-- while the login holds the row, the profile has to wait -/
example : (run (userStep fun _ => 0) .empty (sampleUserEvents.take 6)).bind
    (fun w => userStep (fun _ => 0) w (.fetch 2)) = none := by
  decide

theorem users_serializable_sample :
    ∃ w op, run (userStep fun _ => 0) .empty sampleUserEvents = some w ∧ Serial w.history w.users ∧
      UserOp.answer w.users op
        = some ⟨⟨1⟩, "auth0|alice", some "alice@example.com", some "Alice", some 3000000, 1000000⟩ := by
  have hrun : ((run (userStep fun _ => 0) .empty sampleUserEvents).any fun w =>
      w.txs.point 2 = some (.saving (.provision ⟨"auth0|alice", some "alice@example.com", none⟩ ⟨2⟩ 2000000)
        ⟨⟨1⟩, "auth0|alice", some "alice@example.com", some "Alice", some 3000000, 1000000⟩)) = true := by
    decide
  obtain ⟨w, hw, hpoint⟩ := (Option.any_eq_true _ _).mp hrun
  obtain ⟨hserial, -, hsaving, -⟩ := users_serializable hw
  exact ⟨w, _, hw, hserial, (hsaving 2 _ _ (of_decide_eq_true hpoint)).1⟩

theorem users_kept_sample :
    ∃ w w' u u', run (userStep fun _ => 0) .empty (sampleUserEvents.take 3) = some w ∧
      run (userStep fun _ => 0) w (sampleUserEvents.drop 3) = some w' ∧ w.history.length = 1 ∧
      w'.history.length = 2 ∧ u ∈ w.users.rows ∧ w'.users.findSub u.auth0Sub = some u' ∧ User.Later u u' := by
  have hrun : ((run (userStep fun _ => 0) .empty (sampleUserEvents.take 3)).any fun w =>
      decide (w.history.length = 1) && !w.users.rows.isEmpty &&
        (run (userStep fun _ => 0) w (sampleUserEvents.drop 3)).any fun w' => w'.history.length = 2) = true := by
    decide
  obtain ⟨w, hw, hthen⟩ := (Option.any_eq_true _ _).mp hrun
  obtain ⟨hfirst, hmore⟩ := Bool.and_eq_true_iff.mp hthen
  obtain ⟨hlength, husers⟩ := Bool.and_eq_true_iff.mp hfirst
  obtain ⟨w', hw', hlength'⟩ := (Option.any_eq_true _ _).mp hmore
  obtain ⟨u, hu⟩ := List.exists_mem_of_ne_nil w.users.rows (by simpa using husers)
  obtain ⟨u', hu', hlater⟩ := (users_kept hw hw').2 u hu
  exact ⟨w, w', u, u', hw, hw', of_decide_eq_true hlength, of_decide_eq_true hlength', hu, hu', hlater⟩

end Proofplane.Identity
