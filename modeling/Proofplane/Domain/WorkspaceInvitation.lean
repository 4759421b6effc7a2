import Proofplane.Base.Machine
import Proofplane.Base.Time
import Proofplane.Base.Text
import Proofplane.Domain.Workspace

/-!
# Workspace invitations

The aggregate of one invitation: its terminal fields (accepted, revoked), its generation, which a
resend advances, and what is known of the delivery of the current generation.

* `rehydrate`     the only way to build one; `Valid` is what it checks and `rehydrate_eq` says so;
* `create`, `accept`, `revoke`, `queueDelivery`, `resend`, `recordDeliverySuccess`,
  `recordDeliveryFailure`   the operations, each on the whole record;
* `statusAt_eq_pending_iff`  when an invitation can still be used.
-/

namespace Proofplane
open Base

inductive WorkspaceInvitationStatus
  | pending | accepted | revoked | expired
  deriving DecidableEq, Repr

inductive InvitationAcceptance
  | applied | replay
  deriving DecidableEq, Repr

inductive WorkspaceInvitationDeliveryFailure
  | retryable | permanent | exhausted
  deriving DecidableEq, Repr

inductive WorkspaceInvitationDeliveryState
  | notQueued | queued | delivered | failed
  deriving DecidableEq, Repr

inductive InvitationDeliveryUpdate
  | applied | ignored
  deriving DecidableEq, Repr

inductive WorkspaceInvitationError
  | invalidSnapshot | unavailable | acceptedByAnotherUser | staleGeneration
  deriving DecidableEq, Repr

structure WorkspaceInvitation where
  id : WorkspaceInvitationId
  workspaceId : WorkspaceId
  inviterUserId : UserId
  invitedEmail : String
  role : WorkspaceRole
  generation : Int
  createdAt : Int
  expiresAt : Int
  acceptedAt : Option Int
  revokedAt : Option Int
  acceptingUserId : Option UserId
  queuedGeneration : Option Int
  queuedAt : Option Int
  deliveredGeneration : Option Int
  deliveredAt : Option Int
  lastDeliveryFailure : Option WorkspaceInvitationDeliveryFailure
  deliveryFailedAt : Option Int
  deriving DecidableEq, Repr

namespace WorkspaceInvitation

/-- which of the terminal fields may be set together -/
def terminalValid (i : WorkspaceInvitation) : Bool :=
  match i.acceptedAt, i.revokedAt, i.acceptingUserId with
  | some _, none, some _ => true
  | none, some _, none => true
  | none, none, none => true
  | _, _, _ => false

def deliveryValid (i : WorkspaceInvitation) : Bool :=
  i.queuedGeneration.isNone == i.queuedAt.isNone &&
  i.deliveredGeneration.isNone == i.deliveredAt.isNone &&
  i.lastDeliveryFailure.isNone == i.deliveryFailedAt.isNone &&
  i.queuedGeneration.all (fun g => decide (0 < g) && decide (g ≤ i.generation)) &&
  i.deliveredGeneration.all (fun g => decide (0 < g) && decide (g ≤ i.generation))

/-- the consistency of a snapshot -/
def Valid (i : WorkspaceInvitation) : Prop :=
  i.role = .admin ∧ 0 < i.generation ∧ isBlank i.invitedEmail = false ∧ i.createdAt < i.expiresAt ∧
    i.terminalValid = true ∧ i.deliveryValid = true

instance (i : WorkspaceInvitation) : Decidable i.Valid := by
  unfold Valid
  infer_instance

/-- the snapshot itself, if it is consistent -/
def rehydrate (i : WorkspaceInvitation) : Except WorkspaceInvitationError WorkspaceInvitation :=
  if i.role ≠ .admin ∨ i.generation ≤ 0 ∨ isBlank i.invitedEmail = true ∨
      i.expiresAt ≤ i.createdAt ∨ i.terminalValid = false ∨ i.deliveryValid = false then
    .error .invalidSnapshot
  else .ok i

/-- a new invitation: both instants lose their fraction of a second -/
def create (id : WorkspaceInvitationId) (workspaceId : WorkspaceId) (inviterUserId : UserId)
    (invitedEmail : String) (createdAt expiresAt : Int) :
    Except WorkspaceInvitationError WorkspaceInvitation :=
  rehydrate
    { id, workspaceId, inviterUserId, invitedEmail
      role := .admin
      generation := 1
      createdAt := floorSec createdAt
      expiresAt := floorSec expiresAt
      acceptedAt := none
      revokedAt := none
      acceptingUserId := none
      queuedGeneration := none
      queuedAt := none
      deliveredGeneration := none
      deliveredAt := none
      lastDeliveryFailure := none
      deliveryFailedAt := none }

def statusAt (i : WorkspaceInvitation) (now : Int) : WorkspaceInvitationStatus :=
  if i.acceptedAt.isSome then .accepted
  else if i.revokedAt.isSome then .revoked
  else if i.expiresAt ≤ now then .expired
  else .pending

def ensureCurrent (i : WorkspaceInvitation) (generation expiresAt now : Int) :
    Except WorkspaceInvitationError Unit :=
  if i.generation = generation ∧ i.expiresAt = expiresAt ∧ i.statusAt now = .pending then .ok ()
  else .error .unavailable

def accept (i : WorkspaceInvitation) (userId : UserId) (acceptedAt : Int) :
    Except WorkspaceInvitationError (WorkspaceInvitation × InvitationAcceptance) :=
  if i.acceptingUserId = some userId ∧ i.acceptedAt.isSome then .ok (i, .replay)
  else if i.acceptedAt.isSome then .error .acceptedByAnotherUser
  else if i.statusAt acceptedAt ≠ .pending then .error .unavailable
  else .ok ({ i with acceptedAt := some acceptedAt, acceptingUserId := some userId }, .applied)

def queueDelivery (i : WorkspaceInvitation) (generation queuedAt : Int) :
    Except WorkspaceInvitationError WorkspaceInvitation :=
  if generation ≠ i.generation then .error .staleGeneration
  else if i.statusAt queuedAt ≠ .pending then .error .unavailable
  else .ok
    { i with
      queuedGeneration := some generation
      queuedAt := some queuedAt
      lastDeliveryFailure := none
      deliveryFailedAt := none }

/-- the next generation, with the expiry as it was passed -/
def resend (i : WorkspaceInvitation) (expectedGeneration sentAt expiresAt : Int) :
    Except WorkspaceInvitationError WorkspaceInvitation :=
  if expectedGeneration ≠ i.generation then .error .staleGeneration
  else if i.statusAt sentAt ≠ .pending ∨ expiresAt ≤ sentAt then .error .unavailable
  else match checkedSucc i.generation with
    | none => .error .invalidSnapshot
    | some generation => .ok
      { i with
        generation := generation
        expiresAt := expiresAt
        queuedGeneration := some generation
        queuedAt := some sentAt
        lastDeliveryFailure := none
        deliveryFailedAt := none }

def revoke (i : WorkspaceInvitation) (expectedGeneration revokedAt : Int) :
    Except WorkspaceInvitationError WorkspaceInvitation :=
  if expectedGeneration ≠ i.generation then .error .staleGeneration
  else if i.statusAt revokedAt ≠ .pending then .error .unavailable
  else .ok { i with revokedAt := some revokedAt }

def recordDeliverySuccess (i : WorkspaceInvitation) (generation deliveredAt : Int) :
    WorkspaceInvitation × InvitationDeliveryUpdate :=
  if generation ≠ i.generation ∨ i.statusAt deliveredAt ≠ .pending then (i, .ignored)
  else
    ({ i with
       deliveredGeneration := some generation
       deliveredAt := some deliveredAt
       lastDeliveryFailure := none
       deliveryFailedAt := none }, .applied)

def recordDeliveryFailure (i : WorkspaceInvitation) (generation : Int)
    (classification : WorkspaceInvitationDeliveryFailure) (failedAt : Int) :
    WorkspaceInvitation × InvitationDeliveryUpdate :=
  if generation ≠ i.generation ∨ i.statusAt failedAt ≠ .pending then (i, .ignored)
  else
    ({ i with
       lastDeliveryFailure := some classification
       deliveryFailedAt := some failedAt }, .applied)

/-- `from_snapshot`: a failure shows before a success, and a success before the queue -/
def deliveryState (i : WorkspaceInvitation) : WorkspaceInvitationDeliveryState :=
  if i.lastDeliveryFailure.isSome then .failed
  else if i.deliveredGeneration = some i.generation then .delivered
  else if i.queuedGeneration = some i.generation then .queued
  else .notQueued

/-! ## What the checks say -/

theorem rehydrate_eq (i : WorkspaceInvitation) :
    rehydrate i = if i.Valid then .ok i else .error .invalidSnapshot := by
  unfold rehydrate
  by_cases h : i.Valid
  · rw [if_pos h, if_neg]
    obtain ⟨h1, h2, h3, h4, h5, h6⟩ := h
    rintro (hc | hc | hc | hc | hc | hc)
    · exact hc h1
    · omega
    · rw [h3] at hc
      cases hc
    · omega
    · rw [h5] at hc
      cases hc
    · rw [h6] at hc
      cases hc
  · rw [if_neg h, if_pos]
    by_contra hc
    apply h
    simp only [not_or, not_not, Bool.not_eq_true, not_le, Bool.not_eq_false] at hc
    exact hc

theorem rehydrate_ok {i j : WorkspaceInvitation} (h : rehydrate i = .ok j) : j = i ∧ i.Valid := by
  rw [rehydrate_eq] at h
  split at h
  · next hv =>
    cases h
    exact ⟨rfl, hv⟩
  · cases h

theorem statusAt_eq_pending_iff (i : WorkspaceInvitation) (now : Int) :
    i.statusAt now = .pending ↔ i.acceptedAt = none ∧ i.revokedAt = none ∧ now < i.expiresAt := by
  unfold statusAt
  cases ha : i.acceptedAt with
  | some a => simp
  | none =>
    cases hr : i.revokedAt with
    | some r => simp
    | none =>
      simp only [Option.isSome_none, Bool.false_eq_true, if_false, true_and]
      split
      · next h =>
        constructor
        · intro hc
          cases hc
        · intro hc
          omega
      · next h =>
        constructor
        · intro _
          omega
        · intro _
          rfl

theorem resend_ok {i j : WorkspaceInvitation} {expected sentAt expiresAt : Int}
    (h : i.resend expected sentAt expiresAt = .ok j) :
    expected = i.generation ∧ i.statusAt sentAt = .pending ∧ sentAt < expiresAt ∧
      i.generation + 1 ≤ i64Max ∧
      j = { i with
            generation := i.generation + 1
            expiresAt := expiresAt
            queuedGeneration := some (i.generation + 1)
            queuedAt := some sentAt
            lastDeliveryFailure := none
            deliveryFailedAt := none } := by
  unfold resend at h
  split at h
  · cases h
  · next hg =>
    split at h
    · cases h
    · next hs =>
      simp only [not_or, not_not, not_le] at hg hs
      unfold checkedSucc at h
      split at h
      · cases h
      · next g hc =>
        split at hc
        · next hle =>
          cases hc
          cases h
          exact ⟨hg, hs.1, hs.2, hle, rfl⟩
        · cases hc

theorem queueDelivery_ok {i j : WorkspaceInvitation} {generation queuedAt : Int}
    (h : i.queueDelivery generation queuedAt = .ok j) :
    generation = i.generation ∧ i.statusAt queuedAt = .pending ∧
      j = { i with
            queuedGeneration := some generation
            queuedAt := some queuedAt
            lastDeliveryFailure := none
            deliveryFailedAt := none } := by
  unfold queueDelivery at h
  split at h
  · cases h
  · next hg =>
    split at h
    · cases h
    · next hs =>
      cases h
      exact ⟨not_not.mp hg, not_not.mp hs, rfl⟩

theorem accept_of_pending {i : WorkspaceInvitation} {userId : UserId} {acceptedAt : Int}
    (h : i.statusAt acceptedAt = .pending) :
    i.accept userId acceptedAt
      = .ok ({ i with acceptedAt := some acceptedAt, acceptingUserId := some userId }, .applied) := by
  have hp := (statusAt_eq_pending_iff i acceptedAt).mp h
  unfold accept
  rw [hp.1, h]
  simp

end WorkspaceInvitation

end Proofplane
