import Proofplane.Base.Mutation
import Proofplane.Base.Run
import Proofplane.Domain.WorkspaceInvitation

/-!
# The life of one invitation

The methods of an invitation as they run: check, return early, assign field by field.  Each of them is
the computation of `Domain.WorkspaceInvitation` on the whole record, settled (`perform_eq`), so a method
that fails has assigned nothing.

* `InvitationMethod`        the six methods, in the order of their statements;
* `InvitationOp`, `perform`  a call of one of them, its answer and what it leaves behind;
* `perform_ok`              what a call that succeeds does to a consistent invitation;
* `Later`                   how an invitation relates to one later in its life;
* `invitation_state_machine`   **every invitation reached from a new one is consistent, each call keeps
                            what it must, and a settled invitation never changes again**.
-/

namespace Proofplane
open Base Mutation

namespace InvitationMethod

def accept (userId : UserId) (acceptedAt : Int) :
    Mutation WorkspaceInvitationError WorkspaceInvitation InvitationAcceptance := do
  if (← get).acceptingUserId = some userId ∧ (← get).acceptedAt.isSome then
    return .replay
  else
    refuse ((← get).acceptedAt.isSome = true) .acceptedByAnotherUser
    refuse ((← get).statusAt acceptedAt ≠ .pending) .unavailable
    modify fun i => { i with acceptedAt := some acceptedAt }
    modify fun i => { i with acceptingUserId := some userId }
    return .applied

def queueDelivery (generation queuedAt : Int) :
    Mutation WorkspaceInvitationError WorkspaceInvitation Unit := do
  refuse (generation ≠ (← get).generation) .staleGeneration
  refuse ((← get).statusAt queuedAt ≠ .pending) .unavailable
  modify fun i => { i with queuedGeneration := some generation }
  modify fun i => { i with queuedAt := some queuedAt }
  modify fun i => { i with lastDeliveryFailure := none }
  modify fun i => { i with deliveryFailedAt := none }

def resend (expectedGeneration sentAt expiresAt : Int) :
    Mutation WorkspaceInvitationError WorkspaceInvitation Unit := do
  refuse (expectedGeneration ≠ (← get).generation) .staleGeneration
  refuse ((← get).statusAt sentAt ≠ .pending ∨ expiresAt ≤ sentAt) .unavailable
  match checkedSucc (← get).generation with
  | none => throw .invalidSnapshot
  | some generation =>
    modify fun i => { i with generation := generation }
    modify fun i => { i with expiresAt := expiresAt }
    modify fun i => { i with queuedGeneration := some i.generation }
    modify fun i => { i with queuedAt := some sentAt }
    modify fun i => { i with lastDeliveryFailure := none }
    modify fun i => { i with deliveryFailedAt := none }

def revoke (expectedGeneration revokedAt : Int) :
    Mutation WorkspaceInvitationError WorkspaceInvitation Unit := do
  refuse (expectedGeneration ≠ (← get).generation) .staleGeneration
  refuse ((← get).statusAt revokedAt ≠ .pending) .unavailable
  modify fun i => { i with revokedAt := some revokedAt }

def recordDeliverySuccess (generation deliveredAt : Int) :
    Mutation WorkspaceInvitationError WorkspaceInvitation InvitationDeliveryUpdate := do
  if generation ≠ (← get).generation ∨ (← get).statusAt deliveredAt ≠ .pending then
    return .ignored
  else
    modify fun i => { i with deliveredGeneration := some generation }
    modify fun i => { i with deliveredAt := some deliveredAt }
    modify fun i => { i with lastDeliveryFailure := none }
    modify fun i => { i with deliveryFailedAt := none }
    return .applied

def recordDeliveryFailure (generation : Int) (classification : WorkspaceInvitationDeliveryFailure)
    (failedAt : Int) :
    Mutation WorkspaceInvitationError WorkspaceInvitation InvitationDeliveryUpdate := do
  if generation ≠ (← get).generation ∨ (← get).statusAt failedAt ≠ .pending then
    return .ignored
  else
    modify fun i => { i with lastDeliveryFailure := some classification }
    modify fun i => { i with deliveryFailedAt := some failedAt }
    return .applied

/-! ## Each method is the computation on the whole record, settled -/

theorem accept_exec (userId : UserId) (acceptedAt : Int) (i : WorkspaceInvitation) :
    (accept userId acceptedAt).exec i
      = settle i ((i.accept userId acceptedAt).map fun p => (p.2, p.1)) := by
  unfold accept WorkspaceInvitation.accept
  simp only [exec_get_bind]
  split
  · rfl
  · simp only [exec_refuse_bind, exec_get_bind]
    split
    · rfl
    · split
      · rfl
      · rfl

theorem queueDelivery_exec (generation queuedAt : Int) (i : WorkspaceInvitation) :
    (queueDelivery generation queuedAt).exec i
      = settle i ((i.queueDelivery generation queuedAt).map fun j => ((), j)) := by
  unfold queueDelivery WorkspaceInvitation.queueDelivery
  simp only [exec_get_bind, exec_refuse_bind]
  split
  · rfl
  · split
    · rfl
    · rfl

theorem resend_exec (expectedGeneration sentAt expiresAt : Int) (i : WorkspaceInvitation) :
    (resend expectedGeneration sentAt expiresAt).exec i
      = settle i ((i.resend expectedGeneration sentAt expiresAt).map fun j => ((), j)) := by
  unfold resend WorkspaceInvitation.resend
  simp only [exec_get_bind, exec_refuse_bind]
  split
  · rfl
  · split
    · rfl
    · cases checkedSucc i.generation with
      | none => rfl
      | some generation => rfl

theorem revoke_exec (expectedGeneration revokedAt : Int) (i : WorkspaceInvitation) :
    (revoke expectedGeneration revokedAt).exec i
      = settle i ((i.revoke expectedGeneration revokedAt).map fun j => ((), j)) := by
  unfold revoke WorkspaceInvitation.revoke
  simp only [exec_get_bind, exec_refuse_bind]
  split
  · rfl
  · split
    · rfl
    · rfl

theorem recordDeliverySuccess_exec (generation deliveredAt : Int) (i : WorkspaceInvitation) :
    (recordDeliverySuccess generation deliveredAt).exec i
      = settle i (.ok ((i.recordDeliverySuccess generation deliveredAt).2,
          (i.recordDeliverySuccess generation deliveredAt).1)) := by
  unfold recordDeliverySuccess WorkspaceInvitation.recordDeliverySuccess
  simp only [exec_get_bind]
  split
  · rfl
  · rfl

theorem recordDeliveryFailure_exec (generation : Int)
    (classification : WorkspaceInvitationDeliveryFailure) (failedAt : Int)
    (i : WorkspaceInvitation) :
    (recordDeliveryFailure generation classification failedAt).exec i
      = settle i (.ok ((i.recordDeliveryFailure generation classification failedAt).2,
          (i.recordDeliveryFailure generation classification failedAt).1)) := by
  unfold recordDeliveryFailure WorkspaceInvitation.recordDeliveryFailure
  simp only [exec_get_bind]
  split
  · rfl
  · rfl

end InvitationMethod

/-! ## Calls -/

/-- a call of one of the methods -/
inductive InvitationOp
  | accept (userId : UserId) (acceptedAt : Int)
  | queueDelivery (generation queuedAt : Int)
  | resend (expectedGeneration sentAt expiresAt : Int)
  | revoke (expectedGeneration revokedAt : Int)
  | recordDeliverySuccess (generation deliveredAt : Int)
  | recordDeliveryFailure (generation : Int) (classification : WorkspaceInvitationDeliveryFailure)
      (failedAt : Int)
  deriving DecidableEq, Repr

inductive InvitationAnswer
  | acceptance (a : InvitationAcceptance)
  | done
  | delivery (u : InvitationDeliveryUpdate)
  deriving DecidableEq, Repr

namespace InvitationOp

/-- the instant of the call -/
def instant : InvitationOp → Int
  | .accept _ acceptedAt => acceptedAt
  | .queueDelivery _ queuedAt => queuedAt
  | .resend _ sentAt _ => sentAt
  | .revoke _ revokedAt => revokedAt
  | .recordDeliverySuccess _ deliveredAt => deliveredAt
  | .recordDeliveryFailure _ _ failedAt => failedAt

/-- the generation that the caller names; an acceptance names none -/
def generation? : InvitationOp → Option Int
  | .accept _ _ => none
  | .queueDelivery generation _ => some generation
  | .resend expectedGeneration _ _ => some expectedGeneration
  | .revoke expectedGeneration _ => some expectedGeneration
  | .recordDeliverySuccess generation _ => some generation
  | .recordDeliveryFailure generation _ _ => some generation

def isResend : InvitationOp → Bool
  | .resend _ _ _ => true
  | _ => false

def method : InvitationOp → Mutation WorkspaceInvitationError WorkspaceInvitation InvitationAnswer
  | .accept userId acceptedAt => do return .acceptance (← InvitationMethod.accept userId acceptedAt)
  | .queueDelivery generation queuedAt => do
    InvitationMethod.queueDelivery generation queuedAt
    return .done
  | .resend expectedGeneration sentAt expiresAt => do
    InvitationMethod.resend expectedGeneration sentAt expiresAt
    return .done
  | .revoke expectedGeneration revokedAt => do
    InvitationMethod.revoke expectedGeneration revokedAt
    return .done
  | .recordDeliverySuccess generation deliveredAt => do
    return .delivery (← InvitationMethod.recordDeliverySuccess generation deliveredAt)
  | .recordDeliveryFailure generation classification failedAt => do
    return .delivery (← InvitationMethod.recordDeliveryFailure generation classification failedAt)

end InvitationOp

/-- the answer of a call, and the invitation it leaves -/
def perform (i : WorkspaceInvitation) (op : InvitationOp) :
    Except WorkspaceInvitationError InvitationAnswer × WorkspaceInvitation :=
  op.method.exec i

/-- a call at an instant that is not before the creation -/
def invitationStep (i : WorkspaceInvitation) (op : InvitationOp) : Option WorkspaceInvitation :=
  if i.createdAt ≤ op.instant then some (perform i op).2 else none

/-! ## What a call does -/

/-- a call that succeeds: its answer and its effect -/
inductive InvitationChange (i : WorkspaceInvitation) :
    InvitationOp → InvitationAnswer → WorkspaceInvitation → Prop
  | replayed (userId : UserId) (t : Int) (huser : i.acceptingUserId = some userId)
      (haccepted : i.acceptedAt.isSome = true) :
      InvitationChange i (.accept userId t) (.acceptance .replay) i
  | accepted (userId : UserId) (t : Int) (hpending : i.statusAt t = .pending) :
      InvitationChange i (.accept userId t) (.acceptance .applied)
        { i with acceptedAt := some t, acceptingUserId := some userId }
  | queued (t : Int) (hpending : i.statusAt t = .pending) :
      InvitationChange i (.queueDelivery i.generation t) .done
        { i with
          queuedGeneration := some i.generation
          queuedAt := some t
          lastDeliveryFailure := none
          deliveryFailedAt := none }
  | resent (t expiresAt : Int) (hpending : i.statusAt t = .pending) (hlater : t < expiresAt) :
      InvitationChange i (.resend i.generation t expiresAt) .done
        { i with
          generation := i.generation + 1
          expiresAt := expiresAt
          queuedGeneration := some (i.generation + 1)
          queuedAt := some t
          lastDeliveryFailure := none
          deliveryFailedAt := none }
  | revoked (t : Int) (hpending : i.statusAt t = .pending) :
      InvitationChange i (.revoke i.generation t) .done { i with revokedAt := some t }
  | ignored (op : InvitationOp) : InvitationChange i op (.delivery .ignored) i
  | delivered (t : Int) (hpending : i.statusAt t = .pending) :
      InvitationChange i (.recordDeliverySuccess i.generation t) (.delivery .applied)
        { i with
          deliveredGeneration := some i.generation
          deliveredAt := some t
          lastDeliveryFailure := none
          deliveryFailedAt := none }
  | failed (classification : WorkspaceInvitationDeliveryFailure) (t : Int)
      (hpending : i.statusAt t = .pending) :
      InvitationChange i (.recordDeliveryFailure i.generation classification t) (.delivery .applied)
        { i with lastDeliveryFailure := some classification, deliveryFailedAt := some t }

theorem accept_change {i j : WorkspaceInvitation} {userId : UserId} {t : Int}
    {a : InvitationAcceptance} (h : i.accept userId t = .ok (j, a)) :
    InvitationChange i (.accept userId t) (.acceptance a) j := by
  unfold WorkspaceInvitation.accept at h
  split at h
  · next hreplay =>
    cases h
    exact .replayed userId t hreplay.1 hreplay.2
  · split at h
    · cases h
    · split at h
      · cases h
      · next hpending =>
        cases h
        exact .accepted userId t (not_not.mp hpending)

theorem revoke_change {i j : WorkspaceInvitation} {generation t : Int}
    (h : i.revoke generation t = .ok j) : InvitationChange i (.revoke generation t) .done j := by
  unfold WorkspaceInvitation.revoke at h
  split at h
  · cases h
  · next hgeneration =>
    rw [not_not] at hgeneration
    subst hgeneration
    split at h
    · cases h
    · next hpending =>
      cases h
      exact .revoked t (not_not.mp hpending)

theorem recordDeliverySuccess_change (i : WorkspaceInvitation) (generation t : Int) :
    InvitationChange i (.recordDeliverySuccess generation t)
      (.delivery (i.recordDeliverySuccess generation t).2)
      (i.recordDeliverySuccess generation t).1 := by
  unfold WorkspaceInvitation.recordDeliverySuccess
  split
  · exact .ignored _
  · next h =>
    simp only [not_or, not_not] at h
    obtain ⟨rfl, hpending⟩ := h
    exact .delivered t hpending

theorem recordDeliveryFailure_change (i : WorkspaceInvitation) (generation : Int)
    (classification : WorkspaceInvitationDeliveryFailure) (t : Int) :
    InvitationChange i (.recordDeliveryFailure generation classification t)
      (.delivery (i.recordDeliveryFailure generation classification t).2)
      (i.recordDeliveryFailure generation classification t).1 := by
  unfold WorkspaceInvitation.recordDeliveryFailure
  split
  · exact .ignored _
  · next h =>
    simp only [not_or, not_not] at h
    obtain ⟨rfl, hpending⟩ := h
    exact .failed classification t hpending

/-- a settled answer is an error and nothing, or a change -/
theorem settle_change {i : WorkspaceInvitation} {op : InvitationOp}
    {r : Except WorkspaceInvitationError (InvitationAnswer × WorkspaceInvitation)}
    (hr : ∀ a j, r = .ok (a, j) → InvitationChange i op a j) :
    (∃ e, settle i r = (.error e, i)) ∨ ∃ a j, settle i r = (.ok a, j) ∧ InvitationChange i op a j := by
  cases r with
  | error e => exact .inl ⟨e, rfl⟩
  | ok p => exact .inr ⟨p.1, p.2, rfl, hr p.1 p.2 rfl⟩

/-- the same for a method that answers nothing -/
theorem done_change {i : WorkspaceInvitation} {op : InvitationOp}
    {m : Mutation WorkspaceInvitationError WorkspaceInvitation Unit}
    {r : Except WorkspaceInvitationError WorkspaceInvitation}
    (hexec : m.exec i = settle i (r.map fun j => ((), j)))
    (hr : ∀ j, r = .ok j → InvitationChange i op .done j) :
    (∃ e, exec (m >>= fun _ => pure InvitationAnswer.done) i = (.error e, i)) ∨
      ∃ a j, exec (m >>= fun _ => pure InvitationAnswer.done) i = (.ok a, j) ∧
        InvitationChange i op a j := by
  rw [exec_map_settle (fun _ : Unit => InvitationAnswer.done) hexec]
  refine settle_change fun a j h => ?_
  cases r with
  | error e => cases h
  | ok k =>
    cases h
    exact hr k rfl

/-- **A call fails and leaves the invitation as it was, or has one of the effects.** -/
theorem perform_cases (i : WorkspaceInvitation) (op : InvitationOp) :
    (∃ e, perform i op = (.error e, i)) ∨
      ∃ a j, perform i op = (.ok a, j) ∧ InvitationChange i op a j := by
  unfold perform
  cases op with
  | accept userId t =>
    have h := exec_map_settle InvitationAnswer.acceptance (InvitationMethod.accept_exec userId t i)
    rw [show exec (InvitationOp.accept userId t).method i = _ from h]
    refine settle_change fun a j hr => ?_
    cases hc : i.accept userId t with
    | error e =>
      rw [hc] at hr
      cases hr
    | ok p =>
      rw [hc] at hr
      cases hr
      exact accept_change hc
  | queueDelivery generation t =>
    refine done_change (InvitationMethod.queueDelivery_exec generation t i) fun j hj => ?_
    obtain ⟨rfl, hpending, rfl⟩ := WorkspaceInvitation.queueDelivery_ok hj
    exact .queued t hpending
  | resend generation t expiresAt =>
    refine done_change (InvitationMethod.resend_exec generation t expiresAt i) fun j hj => ?_
    obtain ⟨rfl, hpending, hlater, -, rfl⟩ := WorkspaceInvitation.resend_ok hj
    exact .resent t expiresAt hpending hlater
  | revoke generation t =>
    exact done_change (InvitationMethod.revoke_exec generation t i) fun j hj => revoke_change hj
  | recordDeliverySuccess generation t =>
    have h := exec_map_settle InvitationAnswer.delivery
      (InvitationMethod.recordDeliverySuccess_exec generation t i)
    rw [show exec (InvitationOp.recordDeliverySuccess generation t).method i = _ from h]
    refine settle_change fun a j hr => ?_
    cases hr
    exact recordDeliverySuccess_change i generation t
  | recordDeliveryFailure generation classification t =>
    have h := exec_map_settle InvitationAnswer.delivery
      (InvitationMethod.recordDeliveryFailure_exec generation classification t i)
    rw [show exec (InvitationOp.recordDeliveryFailure generation classification t).method i = _ from h]
    refine settle_change fun a j hr => ?_
    cases hr
    exact recordDeliveryFailure_change i generation classification t

/-! ## What every call keeps -/

section
variable {i j : WorkspaceInvitation} {op : InvitationOp} {a : InvitationAnswer}

/-- accepted or revoked -/
def WorkspaceInvitation.Settled (i : WorkspaceInvitation) : Prop :=
  i.acceptedAt.isSome = true ∨ i.revokedAt.isSome = true

theorem WorkspaceInvitation.Settled.not_pending (h : i.Settled) (t : Int) :
    i.statusAt t ≠ .pending := by
  intro hp
  obtain ⟨haccepted, hrevoked, -⟩ := (i.statusAt_eq_pending_iff t).mp hp
  rcases h with h | h
  · rw [haccepted] at h
    cases h
  · rw [hrevoked] at h
    cases h

/-- a pending invitation has no accepting user -/
theorem WorkspaceInvitation.Valid.acceptingUserId_of_pending (hv : i.Valid) {t : Int}
    (hp : i.statusAt t = .pending) : i.acceptingUserId = none := by
  obtain ⟨haccepted, hrevoked, -⟩ := (i.statusAt_eq_pending_iff t).mp hp
  have hterminal := hv.2.2.2.2.1
  unfold WorkspaceInvitation.terminalValid at hterminal
  rw [haccepted, hrevoked] at hterminal
  cases huser : i.acceptingUserId with
  | none => rfl
  | some u =>
    rw [huser] at hterminal
    cases hterminal

theorem deliveryValid_iff (i : WorkspaceInvitation) :
    i.deliveryValid = true ↔
      (i.queuedGeneration.isNone = i.queuedAt.isNone) ∧
      (i.deliveredGeneration.isNone = i.deliveredAt.isNone) ∧
      (i.lastDeliveryFailure.isNone = i.deliveryFailedAt.isNone) ∧
      (∀ g, i.queuedGeneration = some g → 0 < g ∧ g ≤ i.generation) ∧
      (∀ g, i.deliveredGeneration = some g → 0 < g ∧ g ≤ i.generation) := by
  unfold WorkspaceInvitation.deliveryValid
  simp only [Bool.and_eq_true, beq_iff_eq, Option.all_eq_true, decide_eq_true_eq, and_assoc]

/-- **Every change keeps an invitation consistent, at an instant that is not before its creation.** -/
theorem InvitationChange.valid (h : InvitationChange i op a j) (hv : i.Valid)
    (ht : i.createdAt ≤ op.instant) : j.Valid := by
  obtain ⟨hrole, hgeneration, hmail, hwindow, hterminal, hdelivery⟩ := hv
  have hvalid : i.Valid := ⟨hrole, hgeneration, hmail, hwindow, hterminal, hdelivery⟩
  obtain ⟨hq, hd, hf, hqg, hdg⟩ := (deliveryValid_iff i).mp hdelivery
  cases h with
  | replayed userId t huser haccepted => exact hvalid
  | ignored => exact hvalid
  | accepted userId t hpending =>
    obtain ⟨-, hrevoked, -⟩ := (i.statusAt_eq_pending_iff t).mp hpending
    refine ⟨hrole, hgeneration, hmail, hwindow, ?_, hdelivery⟩
    unfold WorkspaceInvitation.terminalValid
    rw [hrevoked]
  | queued t hpending =>
    refine ⟨hrole, hgeneration, hmail, hwindow, hterminal, (deliveryValid_iff _).mpr ?_⟩
    refine ⟨rfl, hd, rfl, fun g hg => ?_, hdg⟩
    cases hg
    exact ⟨hgeneration, le_refl _⟩
  | resent t expiresAt hpending hlater =>
    have hlt : i.createdAt < expiresAt := lt_of_le_of_lt ht hlater
    have hpos : 0 < i.generation + 1 := by omega
    refine ⟨hrole, hpos, hmail, hlt, hterminal, (deliveryValid_iff _).mpr ?_⟩
    refine ⟨rfl, hd, rfl, fun g hg => ?_, fun g hg => ?_⟩
    · cases hg
      exact ⟨hpos, le_refl _⟩
    · obtain ⟨hg0, hg1⟩ := hdg g hg
      show 0 < g ∧ g ≤ i.generation + 1
      omega
  | revoked t hpending =>
    obtain ⟨haccepted, -, -⟩ := (i.statusAt_eq_pending_iff t).mp hpending
    refine ⟨hrole, hgeneration, hmail, hwindow, ?_, hdelivery⟩
    unfold WorkspaceInvitation.terminalValid
    rw [haccepted, hvalid.acceptingUserId_of_pending hpending]
  | delivered t hpending =>
    refine ⟨hrole, hgeneration, hmail, hwindow, hterminal, (deliveryValid_iff _).mpr ?_⟩
    refine ⟨hq, rfl, rfl, hqg, fun g hg => ?_⟩
    cases hg
    exact ⟨hgeneration, le_refl _⟩
  | failed classification t hpending =>
    refine ⟨hrole, hgeneration, hmail, hwindow, hterminal, (deliveryValid_iff _).mpr ?_⟩
    exact ⟨hq, hd, rfl, hqg, hdg⟩

/-- how an invitation relates to one later in its life -/
structure Later (i j : WorkspaceInvitation) : Prop where
  id : j.id = i.id
  workspaceId : j.workspaceId = i.workspaceId
  inviterUserId : j.inviterUserId = i.inviterUserId
  invitedEmail : j.invitedEmail = i.invitedEmail
  role : j.role = i.role
  createdAt : j.createdAt = i.createdAt
  generation : i.generation ≤ j.generation
  settled : i.Settled → j = i

theorem Later.refl (i : WorkspaceInvitation) : Later i i :=
  ⟨rfl, rfl, rfl, rfl, rfl, rfl, le_refl _, fun _ => rfl⟩

theorem Later.trans {i j k : WorkspaceInvitation} (h1 : Later i j) (h2 : Later j k) : Later i k where
  id := h2.id.trans h1.id
  workspaceId := h2.workspaceId.trans h1.workspaceId
  inviterUserId := h2.inviterUserId.trans h1.inviterUserId
  invitedEmail := h2.invitedEmail.trans h1.invitedEmail
  role := h2.role.trans h1.role
  createdAt := h2.createdAt.trans h1.createdAt
  generation := le_trans h1.generation h2.generation
  settled := fun h => by
    have hj := h1.settled h
    rw [hj] at h2
    exact h2.settled h

/-- a change of a settled invitation is none -/
theorem InvitationChange.settled (h : InvitationChange i op a j) (hs : i.Settled) : j = i := by
  cases h with
  | replayed => rfl
  | ignored => rfl
  | accepted userId t hpending => exact absurd hpending (hs.not_pending t)
  | queued t hpending => exact absurd hpending (hs.not_pending t)
  | resent t expiresAt hpending => exact absurd hpending (hs.not_pending t)
  | revoked t hpending => exact absurd hpending (hs.not_pending t)
  | delivered t hpending => exact absurd hpending (hs.not_pending t)
  | failed classification t hpending => exact absurd hpending (hs.not_pending t)

theorem InvitationChange.later (h : InvitationChange i op a j) : Later i j := by
  have hsettled := h.settled
  cases h with
  | replayed => exact .refl i
  | ignored => exact .refl i
  | accepted => exact ⟨rfl, rfl, rfl, rfl, rfl, rfl, le_refl _, hsettled⟩
  | queued => exact ⟨rfl, rfl, rfl, rfl, rfl, rfl, le_refl _, hsettled⟩
  | resent =>
    refine ⟨rfl, rfl, rfl, rfl, rfl, rfl, ?_, hsettled⟩
    show i.generation ≤ i.generation + 1
    omega
  | revoked => exact ⟨rfl, rfl, rfl, rfl, rfl, rfl, le_refl _, hsettled⟩
  | delivered => exact ⟨rfl, rfl, rfl, rfl, rfl, rfl, le_refl _, hsettled⟩
  | failed => exact ⟨rfl, rfl, rfl, rfl, rfl, rfl, le_refl _, hsettled⟩

/-- what one call keeps, whatever it answers -/
structure CallKeeps (i : WorkspaceInvitation) (op : InvitationOp)
    (answer : Except WorkspaceInvitationError InvitationAnswer) (j : WorkspaceInvitation) : Prop where
  later : Later i j
  error : ∀ e, answer = .error e → j = i
  resent : op.isResend = true → answer = .ok .done → j.generation = i.generation + 1
  generation : j.generation ≠ i.generation → op.isResend = true ∧ answer = .ok .done
  stale : ∀ g, op.generation? = some g → g ≠ i.generation → j = i
  notPending : ∀ g, op.generation? = some g → i.statusAt op.instant ≠ .pending → j = i

theorem InvitationChange.keeps (h : InvitationChange i op a j) : CallKeeps i op (.ok a) j where
  later := h.later
  error e he := by cases he
  resent hop ha := by
    cases h with
    | resent t expiresAt hpending hlater => rfl
    | ignored => cases ha
    | replayed => cases hop
    | accepted => cases hop
    | queued => cases hop
    | revoked => cases hop
    | delivered => cases hop
    | failed => cases hop
  generation hg := by
    cases h with
    | resent t expiresAt hpending hlater => exact ⟨rfl, rfl⟩
    | replayed => exact absurd rfl hg
    | ignored => exact absurd rfl hg
    | accepted => exact absurd rfl hg
    | queued => exact absurd rfl hg
    | revoked => exact absurd rfl hg
    | delivered => exact absurd rfl hg
    | failed => exact absurd rfl hg
  stale g hop hg := by
    cases h with
    | replayed => rfl
    | ignored => rfl
    | accepted => cases hop
    | queued => exact absurd (Option.some.inj hop).symm hg
    | resent => exact absurd (Option.some.inj hop).symm hg
    | revoked => exact absurd (Option.some.inj hop).symm hg
    | delivered => exact absurd (Option.some.inj hop).symm hg
    | failed => exact absurd (Option.some.inj hop).symm hg
  notPending g hop hp := by
    cases h with
    | replayed => rfl
    | ignored => rfl
    | accepted => cases hop
    | queued t hpending => exact absurd hpending hp
    | resent t expiresAt hpending => exact absurd hpending hp
    | revoked t hpending => exact absurd hpending hp
    | delivered t hpending => exact absurd hpending hp
    | failed classification t hpending => exact absurd hpending hp

theorem perform_keeps (i : WorkspaceInvitation) (op : InvitationOp) :
    CallKeeps i op (perform i op).1 (perform i op).2 := by
  rcases perform_cases i op with ⟨e, h⟩ | ⟨a, j, h, hchange⟩
  · rw [h]
    exact
      { later := .refl i
        error := fun _ _ => rfl
        resent := fun _ ha => by cases ha
        generation := fun hg => absurd rfl hg
        stale := fun _ _ _ => rfl
        notPending := fun _ _ _ => rfl }
  · rw [h]
    exact hchange.keeps

end

/-! ## Every run -/

theorem invitationStep_valid (i : WorkspaceInvitation) (op : InvitationOp) (j : WorkspaceInvitation)
    (hv : i.Valid) (h : invitationStep i op = some j) : j.Valid := by
  unfold invitationStep at h
  split at h
  · next ht =>
    cases h
    rcases perform_cases i op with ⟨e, he⟩ | ⟨a, j, hj, hchange⟩
    · rw [he]
      exact hv
    · rw [hj]
      exact hchange.valid hv ht
  · cases h

theorem invitationStep_later (i : WorkspaceInvitation) (op : InvitationOp) (j : WorkspaceInvitation)
    (h : invitationStep i op = some j) : Later i j := by
  unfold invitationStep at h
  split at h
  · cases h
    exact (perform_keeps i op).later
  · cases h

theorem invitationRun_later {i j : WorkspaceInvitation} {ops : List InvitationOp}
    (h : run invitationStep i ops = some j) : Later i j :=
  run_rel (fun _ => True) Later (fun _ _ _ _ _ => trivial) Later.refl
    (fun _ _ _ h1 h2 => h1.trans h2) (fun i op j _ => invitationStep_later i op j) trivial h

/-- **The state machine of an invitation.**  Whatever calls are made on a new invitation, none before
its creation: it can be loaded again as it is, it is not both accepted and revoked, its queued and
delivered generations are within bounds, and it relates to what it was and to what it becomes as
`Later` says; and each further call keeps what `CallKeeps` says. -/
theorem invitation_state_machine (id : WorkspaceInvitationId) (workspaceId : WorkspaceId)
    (inviter : UserId) (email : String) (createdAt expiresAt : Int) (new : WorkspaceInvitation)
    (hcreate : WorkspaceInvitation.create id workspaceId inviter email createdAt expiresAt = .ok new)
    (ops : List InvitationOp) (i : WorkspaceInvitation)
    (hrun : run invitationStep new ops = some i) :
    i.rehydrate = .ok i ∧ ¬ (i.acceptedAt.isSome = true ∧ i.revokedAt.isSome = true) ∧
      (i.acceptedAt.isSome = i.acceptingUserId.isSome) ∧
      (∀ g, i.queuedGeneration = some g → 0 < g ∧ g ≤ i.generation) ∧
      (∀ g, i.deliveredGeneration = some g → 0 < g ∧ g ≤ i.generation) ∧
      Later new i ∧
      (∀ later j, run invitationStep i later = some j → Later i j) ∧
      ∀ op, i.createdAt ≤ op.instant → CallKeeps i op (perform i op).1 (perform i op).2 := by
  obtain ⟨rfl, hnew⟩ := WorkspaceInvitation.rehydrate_ok hcreate
  have hv : i.Valid := run_inv WorkspaceInvitation.Valid invitationStep_valid hnew hrun
  obtain ⟨-, -, -, hq, hd⟩ := (deliveryValid_iff i).mp hv.2.2.2.2.2
  have hterminal := hv.2.2.2.2.1
  refine ⟨?_, ?_, ?_, hq, hd, invitationRun_later hrun, fun later j h => invitationRun_later h,
    fun op _ => perform_keeps i op⟩
  · rw [WorkspaceInvitation.rehydrate_eq, if_pos hv]
  · rintro ⟨ha, hr⟩
    obtain ⟨t, ht⟩ := Option.isSome_iff_exists.mp ha
    obtain ⟨u, hu⟩ := Option.isSome_iff_exists.mp hr
    unfold WorkspaceInvitation.terminalValid at hterminal
    rw [ht, hu] at hterminal
    cases hterminal
  · unfold WorkspaceInvitation.terminalValid at hterminal
    split at hterminal
    · next ha hr hu =>
      rw [ha, hu]
      rfl
    · next ha hr hu =>
      rw [ha, hu]
      rfl
    · next ha hr hu =>
      rw [ha, hu]
      rfl
    · cases hterminal

/-- an invitation of 2026-01-01 that is queued, fails, is resent a day later and accepted by a user -/
theorem invitation_state_machine_newYear :
    ∃ new i, WorkspaceInvitation.create ⟨1⟩ ⟨2⟩ ⟨3⟩ "admin@example.com" 1767225600000000000
        (1767225600000000000 + days 7) = .ok new ∧
      i.acceptingUserId = some ⟨4⟩ ∧ i.generation = 2 ∧ i.rehydrate = .ok i ∧
      ∀ later j, run invitationStep i later = some j → Later i j := by
  have h := invitation_state_machine ⟨1⟩ ⟨2⟩ ⟨3⟩ "admin@example.com" 1767225600000000000
    (1767225600000000000 + days 7) _ rfl
    [.queueDelivery 1 1767225600000000000,
      .recordDeliveryFailure 1 .permanent 1767225601000000000,
      .resend 1 1767312000000000000 (1767312000000000000 + days 7),
      .recordDeliverySuccess 2 1767312001000000000,
      .accept ⟨4⟩ 1767312060000000000] _ rfl
  exact ⟨_, _, rfl, rfl, rfl, h.1, h.2.2.2.2.2.2.1⟩

end Proofplane
