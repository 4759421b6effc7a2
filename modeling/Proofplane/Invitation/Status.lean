import Proofplane.Invitation.Windows

/-!
# One status of an invitation

Whether an invitation is pending is asked in Rust with the nanoseconds of the clock, and in SQL with its
microseconds.

* `pgTimestamp_lt_iff`         an expiry that is stored does not tell the two clocks apart;
* `WorkspaceInvitationPreviewSource.status`   the status that the preview computes of its read model;
* `pendingInvitations`, `currentForWorkspace`   the two reads of the pending ones, beside
                             `lockPendingForEmail`;
* `StatusAgrees`               what the readers say of a row, `peopleRun_status` in every run;
* `invitation_status_agrees`   **all of them say the same of every row, at every instant from 2000 on**.
-/

namespace Proofplane
open Base

/-- whole microseconds are after an instant exactly when they are after the microsecond it is in -/
theorem pgTimestamp_lt_iff {now t : Int} (hnow : pgEpoch ≤ now) (ht : pgTimestamp t = t) :
    pgTimestamp now < t ↔ now < t := by
  constructor
  · intro h
    exact lt_of_pgTimestamp_lt h ht
  · intro h
    have hle : pgTimestamp now ≤ now := by
      rw [pgTimestamp_of_ge hnow]
      omega
    exact lt_of_le_of_lt hle h

/-! ## The reads -/

/-- the status of the joined row, as the preview computes it -/
def WorkspaceInvitationPreviewSource.status (source : WorkspaceInvitationPreviewSource) (now : Int) :
    WorkspaceInvitationStatus :=
  if source.acceptedAt.isSome then .accepted
  else if source.revokedAt.isSome then .revoked
  else if source.expiresAt ≤ now then .expired
  else .pending

structure PendingWorkspaceInvitation where
  id : WorkspaceInvitationId
  invitedEmail : String
  role : WorkspaceRole
  generation : Int
  expiresAt : Int
  deliveryState : WorkspaceInvitationDeliveryState
  queuedAt : Option Int
  deliveredAt : Option Int
  deliveryFailedAt : Option Int
  deriving DecidableEq, Repr

def WorkspaceInvitation.pendingEntry (i : WorkspaceInvitation) : PendingWorkspaceInvitation :=
  ⟨i.id, i.invitedEmail, i.role, i.generation, i.expiresAt, i.deliveryState, i.queuedAt, i.deliveredAt,
    i.deliveryFailedAt⟩

namespace PeopleDb

/-- the filter of every read: neither accepted nor revoked, and it expires after the parameter -/
def pendingFilter (now : Int) (i : WorkspaceInvitation) : Bool :=
  i.isOpen && decide (pgTimestamp now < i.expiresAt)

/-- the pending invitations of a workspace, in the order of their creation -/
def pendingInvitations (db : PeopleDb) (workspaceId : WorkspaceId) (now : Int) :
    List PendingWorkspaceInvitation :=
  let pending := db.invitations.rows.filter fun i =>
    decide (i.workspaceId = workspaceId) && pendingFilter now i
  (pending.insertionSort fun i j => i.createdAt < j.createdAt ∨
    i.createdAt = j.createdAt ∧ i.id.uuid.toNat ≤ j.id.uuid.toNat).map WorkspaceInvitation.pendingEntry

def currentForWorkspace (db : PeopleDb) (id : WorkspaceInvitationId) (workspaceId : WorkspaceId) (now : Int) :
    Option CurrentWorkspaceInvitation :=
  ((db.invitations.get? id).filter fun i =>
    decide (i.workspaceId = workspaceId) && pendingFilter now i).map WorkspaceInvitation.current

end PeopleDb

/-! ## They agree -/

section
variable {i : WorkspaceInvitation} {now : Int}

theorem statusAt_cases (i : WorkspaceInvitation) (now : Int) :
    (i.statusAt now = .accepted ↔ i.acceptedAt ≠ none) ∧
    (i.statusAt now = .revoked ↔ i.acceptedAt = none ∧ i.revokedAt ≠ none) ∧
    (i.statusAt now = .expired ↔ i.acceptedAt = none ∧ i.revokedAt = none ∧ i.expiresAt ≤ now) ∧
    (i.statusAt now = .pending ↔ i.acceptedAt = none ∧ i.revokedAt = none ∧ now < i.expiresAt) := by
  unfold WorkspaceInvitation.statusAt
  cases i.acceptedAt with
  | some t => simp
  | none =>
    cases i.revokedAt with
    | some t => simp
    | none =>
      by_cases ht : i.expiresAt ≤ now
      · simp [ht]
      · simp [ht, not_le.mp ht]

theorem ensureCurrent_ok_iff (generation expiresAt : Int) :
    i.ensureCurrent generation expiresAt now = .ok () ↔
      i.generation = generation ∧ i.expiresAt = expiresAt ∧ i.statusAt now = .pending := by
  unfold WorkspaceInvitation.ensureCurrent
  by_cases h : i.generation = generation ∧ i.expiresAt = expiresAt ∧ i.statusAt now = .pending
  · rw [if_pos h]
    exact iff_of_true rfl h
  · rw [if_neg h]
    refine iff_of_false ?_ h
    intro hok
    cases hok

/-- the filter of the database asks for what the aggregate calls pending -/
theorem pendingFilter_iff (hnow : pgEpoch ≤ now) (hstored : i.toRow = i) :
    PeopleDb.pendingFilter now i = true ↔ i.statusAt now = .pending := by
  have hexpiry : pgTimestamp i.expiresAt = i.expiresAt := congrArg WorkspaceInvitation.expiresAt hstored
  unfold PeopleDb.pendingFilter
  rw [Bool.and_eq_true, i.isOpen_iff, decide_eq_true_eq, pgTimestamp_lt_iff hnow hexpiry,
    i.statusAt_eq_pending_iff, and_assoc]

end

section
variable {db : PeopleDb} {now : Int} {workspaceId : WorkspaceId} {email : String}

theorem previewSource_status {id : WorkspaceInvitationId} {i : WorkspaceInvitation}
    {source : WorkspaceInvitationPreviewSource} (hi : db.invitations.get? id = some i)
    (hsource : db.invitationPreviewSource id = some source) : source.status now = i.statusAt now := by
  unfold InvitationDb.invitationPreviewSource at hsource
  rw [hi, Option.bind_some] at hsource
  obtain ⟨w, -, rfl⟩ := Option.map_eq_some_iff.mp hsource
  rfl

theorem mem_pendingInvitations {entry : PendingWorkspaceInvitation} :
    entry ∈ db.pendingInvitations workspaceId now ↔
      ∃ i ∈ db.invitations.rows, i.workspaceId = workspaceId ∧ PeopleDb.pendingFilter now i = true ∧
        i.pendingEntry = entry := by
  unfold PeopleDb.pendingInvitations
  dsimp only
  rw [List.mem_map]
  simp only [(List.perm_insertionSort _ _).mem_iff, List.mem_filter, Bool.and_eq_true, decide_eq_true_eq,
    and_assoc]

/-- what is locked is the latest of the pending invitations of an address -/
theorem lockPendingForEmail_some {c : CurrentWorkspaceInvitation}
    (h : db.lockPendingForEmail workspaceId email now = some c) :
    ∃ i ∈ db.invitations.rows, i.workspaceId = workspaceId ∧ i.invitedEmail = email ∧
      PeopleDb.pendingFilter now i = true ∧ i.current = c := by
  unfold PeopleDb.lockPendingForEmail at h
  obtain ⟨i, hhead, hc⟩ := Option.map_eq_some_iff.mp h
  have hmem := (List.perm_insertionSort _ _).mem_iff.mp (List.mem_of_mem_head? hhead)
  rw [List.mem_filter] at hmem
  simp only [Bool.and_eq_true, decide_eq_true_eq] at hmem
  obtain ⟨hi, ⟨⟨hw, he⟩, hopen⟩, ht⟩ := hmem
  refine ⟨i, hi, hw, he, ?_, hc⟩
  unfold PeopleDb.pendingFilter
  rw [hopen, decide_eq_true ht]
  rfl

theorem lockPendingForEmail_none (hnow : pgEpoch ≤ now)
    (hstored : ∀ i ∈ db.invitations.rows, i.toRow = i) :
    db.lockPendingForEmail workspaceId email now = none ↔
      ∀ i ∈ db.invitations.rows, i.workspaceId = workspaceId → i.invitedEmail = email →
        i.statusAt now ≠ .pending := by
  rw [PeopleDb.lockPendingForEmail_eq_none]
  refine forall₂_congr fun i hi => forall₂_congr fun _ _ => ?_
  rw [Ne, ← pendingFilter_iff hnow (hstored i hi)]
  unfold PeopleDb.pendingFilter
  rw [Bool.and_eq_true, decide_eq_true_eq, not_and, not_lt]

end

/-- every reader says the same of a row at an instant -/
structure StatusAgrees (db : PeopleDb) (now : Int) (i : WorkspaceInvitation) : Prop where
  accepted : i.statusAt now = .accepted ↔ i.acceptedAt ≠ none
  revoked : i.statusAt now = .revoked ↔ i.acceptedAt = none ∧ i.revokedAt ≠ none
  expired : i.statusAt now = .expired ↔ i.acceptedAt = none ∧ i.revokedAt = none ∧ i.expiresAt ≤ now
  pending : i.statusAt now = .pending ↔ i.acceptedAt = none ∧ i.revokedAt = none ∧ now < i.expiresAt
  ensureCurrent : ∀ generation expiresAt, i.ensureCurrent generation expiresAt now = .ok () ↔
    i.generation = generation ∧ i.expiresAt = expiresAt ∧ i.statusAt now = .pending
  previewStatus : ∀ source, db.invitationPreviewSource i.id = some source →
    source.status now = i.statusAt now
  preview : ∀ {Key Nonce Token : Type} (A : WorkspaceInvitationAuthority Key Nonce Token) clock token claims w,
    A.verifyAt token clock = .ok claims → claims.invitationId = i.id →
    db.workspaces.get? i.workspaceId = some w →
    ((∃ p, previewWorkspaceInvitation A db.toInvitationDb clock ⟨token, now⟩ = .ok p) ↔
      i.generation = claims.generation ∧ i.expiresAt = claims.expiresAt ∧ i.statusAt now = .pending)
  listed : ∀ workspaceId, i.pendingEntry ∈ db.pendingInvitations workspaceId now ↔
    i.workspaceId = workspaceId ∧ i.statusAt now = .pending
  current : ∀ workspaceId, db.currentForWorkspace i.id workspaceId now = some i.current ↔
    i.workspaceId = workspaceId ∧ i.statusAt now = .pending

theorem statusAgrees {db : PeopleDb} {now : Int} {i : WorkspaceInvitation} (hnow : pgEpoch ≤ now)
    (hstored : ∀ i ∈ db.invitations.rows, i.toRow = i) (hi : i ∈ db.invitations.rows) :
    StatusAgrees db now i := by
  have hget : db.invitations.get? i.id = some i := Table.get?_eq_some_iff.mpr ⟨hi, rfl⟩
  have hfilter := pendingFilter_iff hnow (hstored i hi)
  obtain ⟨haccepted, hrevoked, hexpired, hpending⟩ := statusAt_cases i now
  refine ⟨haccepted, hrevoked, hexpired, hpending, ensureCurrent_ok_iff,
    fun source => previewSource_status hget, ?_, ?_, ?_⟩
  · intro Key Nonce Token A clock token claims w hverify hid hw
    rw [previewWorkspaceInvitation_eq hverify (hid ▸ hget) hw]
    by_cases h : i.generation = claims.generation ∧ i.expiresAt = claims.expiresAt ∧ i.statusAt now = .pending
    · rw [if_pos h]
      exact iff_of_true ⟨_, rfl⟩ h
    · rw [if_neg h]
      refine iff_of_false ?_ h
      rintro ⟨p, hp⟩
      cases hp
  · intro workspaceId
    rw [mem_pendingInvitations, ← hfilter]
    constructor
    · rintro ⟨j, hj, hw, hp, hentry⟩
      obtain rfl := db.invitations.eq_of_key hj hi (congrArg PendingWorkspaceInvitation.id hentry)
      exact ⟨hw, hp⟩
    · rintro ⟨hw, hp⟩
      exact ⟨i, hi, hw, hp, rfl⟩
  · intro workspaceId
    unfold PeopleDb.currentForWorkspace
    rw [hget, Option.map_eq_some_iff, ← hfilter]
    constructor
    · rintro ⟨j, hj, -⟩
      obtain ⟨hsame, hj⟩ := Option.filter_eq_some_iff.mp hj
      obtain rfl := Option.some.inj hsame
      rw [Bool.and_eq_true, decide_eq_true_eq] at hj
      exact hj
    · rintro ⟨hw, hp⟩
      refine ⟨i, Option.filter_eq_some_iff.mpr ⟨rfl, ?_⟩, rfl⟩
      rw [hp, decide_eq_true hw]
      rfl

/-- the rows of every run are stored -/
theorem peopleRun_status {Key Nonce Token : Type} {S : InvitationServer Key Nonce Token}
    {es : List (InvitationEvent Nonce Token)} {w : InvitationWorld} {now : Int}
    (h : run (peopleStep S) .empty es = some w) (hnow : pgEpoch ≤ now) :
    ∀ i ∈ w.db.invitations.rows, StatusAgrees w.db now i :=
  fun _ hi => statusAgrees hnow (peopleRun_windows h).stored hi

/-- **At every instant from 2000 on, over every table of stored rows: the aggregate, the preview and the
reads of the database give an invitation one status, and the one locked for an address is pending, if any
is.** -/
theorem invitation_status_agrees {db : PeopleDb} {now : Int} (hnow : pgEpoch ≤ now)
    (hstored : ∀ i ∈ db.invitations.rows, i.toRow = i) :
    (∀ i ∈ db.invitations.rows, StatusAgrees db now i) ∧
    ∀ workspaceId email,
      (db.lockPendingForEmail workspaceId email now = none ↔
        ∀ i ∈ db.invitations.rows, i.workspaceId = workspaceId → i.invitedEmail = email →
          i.statusAt now ≠ .pending) ∧
      ∀ c, db.lockPendingForEmail workspaceId email now = some c →
        ∃ i ∈ db.invitations.rows, i.workspaceId = workspaceId ∧ i.invitedEmail = email ∧
          i.statusAt now = .pending ∧ i.current = c := by
  refine ⟨fun i hi => statusAgrees hnow hstored hi, fun workspaceId email =>
    ⟨lockPendingForEmail_none hnow hstored, fun c hc => ?_⟩⟩
  obtain ⟨i, hi, hw, he, hp, hcurrent⟩ := lockPendingForEmail_some hc
  exact ⟨i, hi, hw, he, (pendingFilter_iff hnow (hstored i hi)).mp hp, hcurrent⟩

/-- in its last nanosecond it is still pending, for the database as well -/
theorem invitation_status_agrees_newYear :
    StatusAgrees ⟨oneInvitation newYearResent, .empty, []⟩ 1767916800499999999 newYearResent := by
  have hrow : newYearResent ∈ (oneInvitation newYearResent).invitations.rows := List.mem_singleton.mpr rfl
  refine (invitation_status_agrees (by decide) ?_).1 newYearResent hrow
  intro i hi
  obtain rfl := List.mem_singleton.mp hi
  rfl

end Proofplane
