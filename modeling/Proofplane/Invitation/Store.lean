import Proofplane.Invitation.Commands
import Proofplane.Outbox.Store
import Mathlib.Data.List.Sort

/-!
# Invitations in the database

All that the invitation commands read and write.  Two open invitations of one address may not hold
overlapping windows `[created_at, expires_at)`: an exclusion constraint of the table refuses the save of a
row that would overlap, whereas the commands ask which invitation is pending at one instant.

* `clashes`               the exclusion constraint on two rows;
* `saveInvitation`, `saveInvitation_ok`   the upsert with every constraint on it;
* `lockPendingForEmail`   the read before a creation, `lockPendingForEmail_eq_none` what it rules out;
* `getInvitation`, `getInvitationForWorkspace`, `memberIdByEmail`   the other reads.

An accepted row is outside the constraint, so an acceptance saves without it.
-/

namespace Proofplane
open Base

/-- a row of `users`, as far as the invitation commands read it -/
structure UserEmail where
  id : UserId
  email : Option String
  deriving DecidableEq, Repr

structure PeopleDb extends InvitationDb where
  users : Table UserEmail.id
  outbox : List NewOutboxMessage

structure CurrentWorkspaceInvitation where
  id : WorkspaceInvitationId
  workspaceId : WorkspaceId
  invitedEmail : String
  role : WorkspaceRole
  generation : Int
  expiresAt : Int
  deliveryState : WorkspaceInvitationDeliveryState
  deriving DecidableEq, Repr

namespace WorkspaceInvitation

/-- neither accepted nor revoked -/
def isOpen (i : WorkspaceInvitation) : Bool := i.acceptedAt.isNone && i.revokedAt.isNone

/-- invitations of one email to one workspace -/
def sameAddress (i j : WorkspaceInvitation) : Bool :=
  decide (i.workspaceId = j.workspaceId) && decide (i.invitedEmail = j.invitedEmail)

/-- `workspace_invitations_pending_window_excl` on two rows -/
def clashes (i j : WorkspaceInvitation) : Bool :=
  decide (i.id ≠ j.id) && i.isOpen && j.isOpen && i.sameAddress j &&
    decide (i.createdAt < j.expiresAt) && decide (j.createdAt < i.expiresAt)

def current (i : WorkspaceInvitation) : CurrentWorkspaceInvitation :=
  ⟨i.id, i.workspaceId, i.invitedEmail, i.role, i.generation, i.expiresAt, i.deliveryState⟩

theorem isOpen_iff (i : WorkspaceInvitation) :
    i.isOpen = true ↔ i.acceptedAt = none ∧ i.revokedAt = none := by
  unfold isOpen
  simp only [Bool.and_eq_true, Option.isNone_iff_eq_none]

theorem sameAddress_iff (i j : WorkspaceInvitation) :
    i.sameAddress j = true ↔ i.workspaceId = j.workspaceId ∧ i.invitedEmail = j.invitedEmail := by
  unfold sameAddress
  simp only [Bool.and_eq_true, decide_eq_true_eq]

theorem clashes_iff (i j : WorkspaceInvitation) :
    i.clashes j = true ↔ i.id ≠ j.id ∧ i.isOpen = true ∧ j.isOpen = true ∧
      i.sameAddress j = true ∧ i.createdAt < j.expiresAt ∧ j.createdAt < i.expiresAt := by
  unfold clashes
  simp only [Bool.and_eq_true, decide_eq_true_eq, and_assoc]

end WorkspaceInvitation

namespace PeopleDb

/-- the row would violate the exclusion constraint -/
def violates (db : PeopleDb) (row : WorkspaceInvitation) : Bool :=
  db.invitations.rows.any row.clashes

def saveInvitation (db : PeopleDb) (i : WorkspaceInvitation) : Except RepositoryError PeopleDb :=
  match i.save with
  | .error e => .error e
  | .ok row =>
    if db.violates row then .error .database
    else .ok { db with invitations := db.invitations.upsert row }

def getInvitation (db : PeopleDb) (id : WorkspaceInvitationId) :
    Except RepositoryError (Option WorkspaceInvitation) :=
  match db.invitations.get? id with
  | none => .ok none
  | some row => row.load.map some

def getInvitationForWorkspace (db : PeopleDb) (id : WorkspaceInvitationId)
    (workspaceId : WorkspaceId) : Except RepositoryError (Option WorkspaceInvitation) :=
  match (db.invitations.get? id).filter fun i => i.workspaceId = workspaceId with
  | none => .ok none
  | some row => row.load.map some

/-- the open invitations of an address that have not expired, the latest first -/
def lockPendingForEmail (db : PeopleDb) (workspaceId : WorkspaceId) (email : String) (now : Int) :
    Option CurrentWorkspaceInvitation :=
  let pending := db.invitations.rows.filter fun i =>
    decide (i.workspaceId = workspaceId) && decide (i.invitedEmail = email) && i.isOpen &&
      decide (pgTimestamp now < i.expiresAt)
  (pending.insertionSort fun i j => j.createdAt ≤ i.createdAt).head?.map WorkspaceInvitation.current

/-- `lowerTrim` is `lower(trim(·))` -/
def memberIdByEmail (lowerTrim : String → String) (db : PeopleDb) (workspaceId : WorkspaceId)
    (email : String) : Option UserId :=
  ((db.memberships.rows.filter fun m => m.workspaceId = workspaceId).find? fun m =>
    ((db.users.get? m.userId).bind UserEmail.email).any fun e => lowerTrim e = email).map
      WorkspaceMembership.userId

/-! ## What they do -/

variable {db db' : PeopleDb} {i : WorkspaceInvitation} {row : WorkspaceInvitation}

theorem violates_eq_false_iff :
    db.violates row = false ↔ ∀ r ∈ db.invitations.rows, row.clashes r = false := by
  unfold violates
  rw [List.any_eq_false]
  simp only [Bool.not_eq_true]

theorem saveInvitation_ok (h : db.saveInvitation i = .ok db') :
    WorkspaceInvitation.rowChecks i.toRow = true ∧ db.violates i.toRow = false ∧
      db' = { db with invitations := db.invitations.upsert i.toRow } := by
  unfold saveInvitation at h
  split at h
  · cases h
  · next row hsave =>
    obtain ⟨rfl, hchecks⟩ := WorkspaceInvitation.save_ok hsave
    split at h
    · cases h
    · next hfree =>
      cases h
      exact ⟨hchecks, Bool.not_eq_true _ ▸ hfree, rfl⟩

theorem getInvitation_ok {id : WorkspaceInvitationId} (h : db.getInvitation id = .ok (some i)) :
    db.invitations.get? id = some i ∧ i.Valid := by
  unfold getInvitation at h
  split at h
  · cases h
  · next row hrow =>
    cases hload : row.load with
    | error e =>
      rw [hload] at h
      cases h
    | ok j =>
      rw [hload] at h
      cases h
      obtain ⟨rfl, hvalid⟩ := WorkspaceInvitation.load_ok hload
      exact ⟨hrow, hvalid⟩

theorem getInvitationForWorkspace_ok {id : WorkspaceInvitationId} {workspaceId : WorkspaceId}
    (h : db.getInvitationForWorkspace id workspaceId = .ok (some i)) :
    db.invitations.get? id = some i ∧ i.Valid ∧ i.workspaceId = workspaceId := by
  unfold getInvitationForWorkspace at h
  split at h
  · cases h
  · next row hrow =>
    obtain ⟨hget, hin⟩ := Option.filter_eq_some_iff.mp hrow
    cases hload : row.load with
    | error e =>
      rw [hload] at h
      cases h
    | ok j =>
      rw [hload] at h
      cases h
      obtain ⟨rfl, hvalid⟩ := WorkspaceInvitation.load_ok hload
      exact ⟨hget, hvalid, of_decide_eq_true hin⟩

/-- **No invitation found means that every open one of the address has expired, as stored.** -/
theorem lockPendingForEmail_eq_none {workspaceId : WorkspaceId} {email : String} {now : Int} :
    db.lockPendingForEmail workspaceId email now = none ↔
      ∀ r ∈ db.invitations.rows, r.workspaceId = workspaceId → r.invitedEmail = email →
        r.isOpen = true → r.expiresAt ≤ pgTimestamp now := by
  unfold lockPendingForEmail
  dsimp only
  rw [Option.map_eq_none_iff, List.head?_eq_none_iff]
  rw [← List.length_eq_zero_iff, List.length_insertionSort, List.length_eq_zero_iff,
    List.filter_eq_nil_iff]
  constructor
  · intro h r hr hw he ho
    have := h r hr
    simp only [hw, he, ho, decide_true, Bool.and_self, Bool.true_and, decide_eq_true_eq,
      not_lt] at this
    exact this
  · intro h r hr hc
    simp only [Bool.and_eq_true, decide_eq_true_eq] at hc
    obtain ⟨⟨⟨hw, he⟩, ho⟩, hlt⟩ := hc
    exact absurd (h r hr hw he ho) (not_le.mpr hlt)

end PeopleDb

end Proofplane
