import Proofplane.Invitation.Moves

/-!
# The windows of open invitations

An open invitation holds its address for the window from its creation to its expiry.  The commands look at
one instant with its fraction of a second; the exclusion constraint looks at whole windows, whose start and
first end are cut to seconds by the creation and whose later ends a resend sets with a fraction.

* `WindowsInv`            what the table satisfies at every instant of a run;
* `unique_window`, `unique_pending`   no two open invitations of an address at one instant;
* `resend_free`, `create_free_iff`    when a resend and a creation meet the constraint;
* `pending_invitations_never_overlap`   **a creation that finds nothing pending is refused exactly when an
                          open invitation has expired within the current second, and never in a run whose
                          resends are made on whole seconds**;
* `invitation_expired_within_the_second`   one resend half a second past a full second, and the creation
                          seven days later fails.
-/

namespace Proofplane
open Base

theorem WorkspaceInvitation.clashes_comm (i j : WorkspaceInvitation) :
    i.clashes j = true → j.clashes i = true := by
  rw [clashes_iff, clashes_iff, sameAddress_iff, sameAddress_iff]
  rintro ⟨hid, hi, hj, ⟨hw, he⟩, h1, h2⟩
  exact ⟨fun hc => hid hc.symm, hj, hi, ⟨hw.symm, he.symm⟩, h2, h1⟩

theorem WorkspaceInvitation.isOpen_of_pending {i : WorkspaceInvitation} {t : Int}
    (h : i.statusAt t = .pending) : i.isOpen = true ∧ t < i.expiresAt := by
  obtain ⟨ha, hr, ht⟩ := (i.statusAt_eq_pending_iff t).mp h
  exact ⟨(i.isOpen_iff).mpr ⟨ha, hr⟩, ht⟩

/-- what the invitations satisfy at an instant -/
structure WindowsInv (now : Int) (db : PeopleDb) : Prop where
  stored : ∀ i ∈ db.invitations.rows, i.toRow = i
  created : ∀ i ∈ db.invitations.rows, i.createdAt ≤ now
  apart : ∀ i ∈ db.invitations.rows, ∀ j ∈ db.invitations.rows, i.clashes j = false

/-! ## Every step keeps it -/

section
variable {now now' : Int} {db db' : PeopleDb} {resentAt : Option Int}

theorem WindowsInv.mono (h : WindowsInv now db) (ht : now ≤ now')
    (hsame : db'.invitations = db.invitations) : WindowsInv now' db' where
  stored i hi := by
    rw [hsame] at hi
    exact h.stored i hi
  created i hi := by
    rw [hsame] at hi
    exact le_trans (h.created i hi) ht
  apart i hi j hj := by
    rw [hsame] at hi hj
    exact h.apart i hi j hj

/-- a row that the constraint lets in -/
theorem WindowsInv.upsert (h : WindowsInv now db) (ht : now ≤ now') {i : WorkspaceInvitation}
    (hcreated : i.toRow.createdAt ≤ now') (hfree : db.violates i.toRow = false)
    (hdb : db'.invitations = db.invitations.upsert i.toRow) : WindowsInv now' db' := by
  have hno := PeopleDb.violates_eq_false_iff.mp hfree
  have hself : i.toRow.clashes i.toRow = false := by
    rw [← Bool.not_eq_true, WorkspaceInvitation.clashes_iff]
    exact fun hc => hc.1 rfl
  have hsym : ∀ r ∈ db.invitations.rows, r.clashes i.toRow = false := by
    intro r hr
    rw [← Bool.not_eq_true]
    intro hc
    have := WorkspaceInvitation.clashes_comm _ _ hc
    rw [hno r hr] at this
    cases this
  refine ⟨fun r hr => ?_, fun r hr => ?_, fun r hr s hs => ?_⟩
  · rw [hdb] at hr
    rcases Table.mem_upsert.mp hr with rfl | ⟨hr, -⟩
    · exact WorkspaceInvitation.toRow_toRow i
    · exact h.stored r hr
  · rw [hdb] at hr
    rcases Table.mem_upsert.mp hr with rfl | ⟨hr, -⟩
    · exact hcreated
    · exact le_trans (h.created r hr) ht
  · rw [hdb] at hr hs
    rcases Table.mem_upsert.mp hr with rfl | ⟨hr, -⟩
    · rcases Table.mem_upsert.mp hs with rfl | ⟨hs, -⟩
      · exact hself
      · exact hno s hs
    · rcases Table.mem_upsert.mp hs with rfl | ⟨hs, -⟩
      · exact hsym r hr
      · exact h.apart r hr s hs

theorem InvitationsMove.windows (h : InvitationsMove resentAt now' db db') (ht : now ≤ now')
    (hinv : WindowsInv now db) : WindowsInv now' db' := by
  cases h with
  | same h => exact hinv.mono ht h
  | created id workspaceId inviter email t hread hfresh hlock hfree h =>
    refine hinv.upsert ht ?_ hfree h
    show pgTimestamp (floorSec t) ≤ now'
    rw [(wholeSec_floorSec t).pgTimestamp_eq]
    exact le_trans (floorSec_le t) hread
  | changed row j op a hrow hchange hcall hfree h =>
    refine hinv.upsert ht ?_ hfree h
    show pgTimestamp j.createdAt ≤ now'
    have hstored : pgTimestamp row.createdAt = row.createdAt :=
      congrArg WorkspaceInvitation.createdAt (hinv.stored row hrow)
    rw [hchange.later.createdAt, hstored]
    exact le_trans (hinv.created row hrow) ht

end

section
variable {Key Nonce Token : Type*} {S : InvitationServer Key Nonce Token}

theorem peopleStep_windows (w : InvitationWorld) (e : InvitationEvent Nonce Token)
    (w' : InvitationWorld) (hinv : WindowsInv w.clock w.db) (h : peopleStep S w e = some w') :
    WindowsInv w'.clock w'.db := by
  obtain ⟨ht, hmove⟩ := peopleStep_move h
  exact hmove.windows ht hinv

theorem peopleRun_windows {es : List (InvitationEvent Nonce Token)} {w : InvitationWorld}
    (h : run (peopleStep S) .empty es = some w) : WindowsInv w.clock w.db :=
  run_inv (fun w => WindowsInv w.clock w.db) peopleStep_windows
    ⟨fun _ hi => absurd hi (Table.mem_rows_empty _), fun _ hi => absurd hi (Table.mem_rows_empty _),
      fun _ hi => absurd hi (Table.mem_rows_empty _)⟩ h

end

/-! ## What it says -/

section
variable {now : Int} {db : PeopleDb}

/-- no two windows of an address share an instant -/
theorem unique_window (hinv : WindowsInv now db) {i j : WorkspaceInvitation} {x : Int}
    (hi : i ∈ db.invitations.rows) (hj : j ∈ db.invitations.rows)
    (haddress : i.sameAddress j = true) (hio : i.isOpen = true) (hjo : j.isOpen = true)
    (hix : i.createdAt ≤ x ∧ x < i.expiresAt) (hjx : j.createdAt ≤ x ∧ x < j.expiresAt) : i = j := by
  by_contra hne
  have hid : i.id ≠ j.id := fun hc => hne (db.invitations.eq_of_key hi hj hc)
  have hclash : i.clashes j = true :=
    (WorkspaceInvitation.clashes_iff i j).mpr
      ⟨hid, hio, hjo, haddress, lt_of_le_of_lt hix.1 hjx.2, lt_of_le_of_lt hjx.1 hix.2⟩
  rw [hinv.apart i hi j hj] at hclash
  cases hclash

/-- **at most one invitation of an address is pending** -/
theorem unique_pending (hinv : WindowsInv now db) {i j : WorkspaceInvitation} {x : Int} (hx : now ≤ x)
    (hi : i ∈ db.invitations.rows) (hj : j ∈ db.invitations.rows)
    (haddress : i.sameAddress j = true) (hip : i.statusAt x = .pending)
    (hjp : j.statusAt x = .pending) : i = j := by
  obtain ⟨hio, hix⟩ := WorkspaceInvitation.isOpen_of_pending hip
  obtain ⟨hjo, hjx⟩ := WorkspaceInvitation.isOpen_of_pending hjp
  exact unique_window hinv hi hj haddress hio hjo ⟨le_trans (hinv.created i hi) hx, hix⟩
    ⟨le_trans (hinv.created j hj) hx, hjx⟩

/-- **a resend of a pending invitation meets the constraint**, whatever expiry it sets -/
theorem resend_free (hinv : WindowsInv now db) {i j : WorkspaceInvitation} {g t expiresAt : Int}
    (hi : i ∈ db.invitations.rows) (ht : now ≤ t) (h : i.resend g t expiresAt = .ok j) :
    db.violates j.toRow = false := by
  obtain ⟨-, hpending, -, -, rfl⟩ := WorkspaceInvitation.resend_ok h
  obtain ⟨hopen, hlt⟩ := WorkspaceInvitation.isOpen_of_pending hpending
  rw [PeopleDb.violates_eq_false_iff]
  intro r hr
  rw [← Bool.not_eq_true, WorkspaceInvitation.clashes_iff]
  rintro ⟨hid, -, hro, haddress, h1, h2⟩
  have hcreated : pgTimestamp i.createdAt = i.createdAt :=
    congrArg WorkspaceInvitation.createdAt (hinv.stored i hi)
  have h1 : pgTimestamp i.createdAt < r.expiresAt := h1
  rw [hcreated] at h1
  -- the window of `i` was free before, so the other one starts after its end, which is still to come
  have hclash := hinv.apart i hi r hr
  rw [← Bool.not_eq_true, WorkspaceInvitation.clashes_iff] at hclash
  apply hclash
  refine ⟨hid, hopen, hro, haddress, h1, ?_⟩
  exact lt_of_le_of_lt (le_trans (hinv.created r hr) ht) hlt

/-- the second of `t` begins before the expiry of a new invitation, and nothing stored is created after -/
theorem lt_fresh_expiresAt (t : Int) : t < floorSec (t + invitationLifetime) := by
  have h := lt_floorSec_add t
  have hone : floorSec t + seconds 1 ≤ floorSec (t + invitationLifetime) := by
    have hday : invitationLifetime = seconds (7 * 86400) := rfl
    unfold floorSec ofUnixSec unixSec seconds at *
    rw [hday]
    omega
  omega

/-- **A creation that finds nothing pending meets the constraint exactly when no open invitation of the
address expires after the current second has begun.** -/
theorem create_free_iff (hinv : WindowsInv now db) {t : Int} (ht : now ≤ t)
    {id : WorkspaceInvitationId} (workspaceId : WorkspaceId) (inviter : UserId) (email : String)
    (hfresh : db.invitations.get? id = none) :
    db.violates (freshInvitation id workspaceId inviter email t).toRow = false ↔
      ∀ r ∈ db.invitations.rows, r.workspaceId = workspaceId → r.invitedEmail = email →
        r.isOpen = true → r.expiresAt ≤ floorSec t := by
  have hstart : (freshInvitation id workspaceId inviter email t).toRow.createdAt = floorSec t :=
    (wholeSec_floorSec t).pgTimestamp_eq
  have hend : (freshInvitation id workspaceId inviter email t).toRow.expiresAt
      = floorSec (t + invitationLifetime) := (wholeSec_floorSec _).pgTimestamp_eq
  rw [PeopleDb.violates_eq_false_iff]
  constructor
  · intro h r hr hw he ho
    by_contra hlt
    have hclash : (freshInvitation id workspaceId inviter email t).toRow.clashes r = true := by
      refine (WorkspaceInvitation.clashes_iff _ _).mpr ⟨?_, rfl, ho, ?_, ?_, ?_⟩
      · exact fun hc => Table.get?_eq_none_iff.mp hfresh r hr hc.symm
      · exact (WorkspaceInvitation.sameAddress_iff _ _).mpr ⟨hw.symm, he.symm⟩
      · rw [hstart]
        exact not_le.mp hlt
      · rw [hend]
        exact lt_of_le_of_lt (le_trans (hinv.created r hr) ht) (lt_fresh_expiresAt t)
    rw [h r hr] at hclash
    cases hclash
  · intro h r hr
    rw [← Bool.not_eq_true, WorkspaceInvitation.clashes_iff, WorkspaceInvitation.sameAddress_iff]
    rintro ⟨-, -, hro, ⟨hw, he⟩, h1, -⟩
    rw [hstart] at h1
    exact absurd (h r hr hw.symm he.symm hro) (not_le.mpr h1)

end

/-! ## Runs whose resends are made on whole seconds -/

/-- only a resend sets another expiry -/
theorem InvitationChange.expiresAt {i j : WorkspaceInvitation} {op : InvitationOp}
    {a : InvitationAnswer} (h : InvitationChange i op a j) :
    j.expiresAt = i.expiresAt ∨ ∃ g t, op = .resend g t j.expiresAt := by
  cases h with
  | resent t expiresAt => exact .inr ⟨i.generation, t, rfl⟩
  | replayed => exact .inl rfl
  | accepted => exact .inl rfl
  | queued => exact .inl rfl
  | revoked => exact .inl rfl
  | ignored => exact .inl rfl
  | delivered => exact .inl rfl
  | failed => exact .inl rfl

/-- since 2000, and every expiry a whole second -/
structure WholeExpiries (w : InvitationWorld) : Prop where
  clock : pgEpoch ≤ w.clock
  whole : ∀ i ∈ w.db.invitations.rows, WholeSec i.expiresAt

theorem wholeSec_lifetime {t : Int} (ht : pgEpoch ≤ t) (h : WholeSec (pgTimestamp t)) :
    WholeSec (pgTimestamp (t + invitationLifetime)) := by
  have hlife : invitationLifetime = 604800000000000 := rfl
  rw [wholeSec_iff] at h ⊢
  rw [pgTimestamp_of_ge ht] at h
  rw [pgTimestamp_of_ge (by omega)]
  omega

section
variable {Key Nonce Token : Type*} {S : InvitationServer Key Nonce Token}

/-- a resend is made at an instant that the database stores as a whole second -/
def ResendOnSecond (_w : InvitationWorld) (e : InvitationEvent Nonce Token) : Prop :=
  ∀ t ∈ e.resentAt, WholeSec (pgTimestamp t)

instance (w : InvitationWorld) (e : InvitationEvent Nonce Token) : Decidable (ResendOnSecond w e) :=
  inferInstanceAs (Decidable (∀ t ∈ e.resentAt, WholeSec (pgTimestamp t)))

/-- the instant of a resend has been read since 2000 -/
theorem peopleStep_resentAt {w w' : InvitationWorld} {e : InvitationEvent Nonce Token} {t : Int}
    (he : e.resentAt = some t) (h : peopleStep S w e = some w') : pgEpoch ≤ t := by
  cases e with
  | resend command metadata messageId nonce =>
    have ht : command.sentAt = t := Option.some.inj he
    unfold peopleStep at h
    dsimp only at h
    split at h
    · next hread =>
      rw [← ht]
      exact hread.1
    · cases h
  | tick => cases he
  | people => cases he
  | create => cases he
  | revoke => cases he
  | accept => cases he
  | deliver => cases he

theorem peopleStep_whole (w : InvitationWorld) (e : InvitationEvent Nonce Token)
    (w' : InvitationWorld) (hinv : WholeExpiries w) (hP : ResendOnSecond w e)
    (h : peopleStep S w e = some w') : WholeExpiries w' := by
  obtain ⟨ht, hmove⟩ := peopleStep_move h
  refine ⟨le_trans hinv.clock ht, fun i hi => ?_⟩
  cases hmove with
  | same hsame =>
    rw [hsame] at hi
    exact hinv.whole i hi
  | created id workspaceId inviter email t hread hfresh hlock hfree hdb =>
    rw [hdb] at hi
    rcases Table.mem_upsert.mp hi with rfl | ⟨hi, -⟩
    · show WholeSec (pgTimestamp (floorSec (t + invitationLifetime)))
      rw [(wholeSec_floorSec _).pgTimestamp_eq]
      exact wholeSec_floorSec _
    · exact hinv.whole i hi
  | changed row j op a hrow hchange hcall hfree hdb =>
    rw [hdb] at hi
    rcases Table.mem_upsert.mp hi with rfl | ⟨hi, -⟩
    · show WholeSec (pgTimestamp j.expiresAt)
      rcases hchange.expiresAt with he | ⟨g, t, hop⟩
      · rw [he, (hinv.whole row hrow).pgTimestamp_eq]
        exact hinv.whole row hrow
      · obtain ⟨hresent, hlifetime⟩ := hcall.resend g t j.expiresAt hop
        rw [hlifetime]
        exact wholeSec_lifetime (peopleStep_resentAt hresent h) (hP t hresent)
    · exact hinv.whole i hi

/-- **The windows of pending invitations.**  After every run no two open invitations of an address share an
instant, no two are pending now or later, and every resend of a pending one meets the exclusion constraint.
An invitation built at `t` when none is found pending meets it exactly when no open invitation of the
address has expired within the second of `t`; in a run whose resends are made on whole seconds none has. -/
theorem pending_invitations_never_overlap (S : InvitationServer Key Nonce Token)
    (es : List (InvitationEvent Nonce Token)) (w : InvitationWorld)
    (hrun : run (peopleStep S) .empty es = some w) :
    (∀ i ∈ w.db.invitations.rows, ∀ j ∈ w.db.invitations.rows, i.sameAddress j = true → ∀ x,
      (i.isOpen = true → j.isOpen = true → i.createdAt ≤ x ∧ x < i.expiresAt →
        j.createdAt ≤ x ∧ x < j.expiresAt → i = j) ∧
      (w.clock ≤ x → i.statusAt x = .pending → j.statusAt x = .pending → i = j)) ∧
    (∀ i ∈ w.db.invitations.rows, ∀ g t expiresAt j, w.clock ≤ t →
      i.resend g t expiresAt = .ok j → w.db.violates j.toRow = false) ∧
    (∀ id workspaceId inviter email t i j, w.clock ≤ t → w.db.invitations.get? id = none →
      w.db.lockPendingForEmail workspaceId email t = none →
      WorkspaceInvitation.create id workspaceId inviter email t (t + invitationLifetime) = .ok i →
      i.queueDelivery i.generation t = .ok j →
      (w.db.violates j.toRow = false ↔
        ∀ r ∈ w.db.invitations.rows, r.workspaceId = workspaceId → r.invitedEmail = email →
          r.isOpen = true → r.expiresAt ≤ floorSec t) ∧
      (Along (peopleStep S) ResendOnSecond .empty es → w.db.violates j.toRow = false)) := by
  have hinv := peopleRun_windows hrun
  refine ⟨fun i hi j hj haddress x => ⟨fun hio hjo hix hjx => ?_, fun hx hip hjp => ?_⟩,
    fun i hi g t expiresAt j ht h => resend_free hinv hi ht h, ?_⟩
  · exact unique_window hinv hi hj haddress hio hjo hix hjx
  · exact unique_pending hinv hx hi hj haddress hip hjp
  · intro id workspaceId inviter email t i j ht hfresh hlock hcreate hqueue
    obtain ⟨rfl, -⟩ := create_queueDelivery hcreate hqueue
    have hfree := create_free_iff hinv ht workspaceId inviter email hfresh
    refine ⟨hfree, fun hseconds => hfree.mpr fun r hr hw he ho => ?_⟩
    have hwhole : WholeExpiries w :=
      run_inv_along WholeExpiries peopleStep_whole
        ⟨le_refl _, fun _ hi => absurd hi (Table.mem_rows_empty _)⟩ hseconds hrun
    have hexpired := PeopleDb.lockPendingForEmail_eq_none.mp hlock r hr hw he ho
    have hle : pgTimestamp t ≤ t := by
      rw [pgTimestamp_of_ge (le_trans hwhole.clock ht)]
      omega
    have hfloor : floorSec r.expiresAt = r.expiresAt := hwhole.whole r hr
    rw [← hfloor]
    exact floorSec_mono (le_trans hexpired hle)

end

/-! ## A resend half a second past the full second -/

def plainInvitationServer :
    InvitationServer Unit Unit (InvitationClaims × InvitationFooter × String) where
  authority := plainAuthority
  isValid _ := true
  lowerTrim email := email
  urlText link := link.landingPortalBaseUrl
  maxDeliveryAttempts := 5

/-- a workspace with its owner -/
def acmeTables : WorkspaceTables where
  workspaces := ⟨[⟨⟨2⟩, none, "Acme", 1767139200000000000⟩], by simp⟩
  memberships := ⟨[⟨⟨3⟩, ⟨2⟩, .owner, 1767139200000000000⟩], by simp⟩

/-- an invitation of 2026-01-01, resent a day later at `sentAt`; then the clock stands at `now` -/
def resentRun (sentAt now : Int) :
    List (InvitationEvent Unit (InvitationClaims × InvitationFooter × String)) :=
  [.people acmeTables .empty,
    .tick 1767225600000000000,
    .create ⟨⟨1⟩, ⟨3⟩, "admin@example.com", 1767225600000000000⟩ .background 10 (),
    .tick sentAt,
    .resend ⟨⟨1⟩, ⟨3⟩, 1, sentAt⟩ .background 11 (),
    .tick now]

/-- **The first invitation has expired, none is found pending, and yet the next one cannot be saved**:
resent at half past midnight by half a second, it is in the way until the second of its expiry is over. -/
theorem invitation_expired_within_the_second :
    ∃ w i j, run (peopleStep plainInvitationServer) .empty
        (resentRun 1767312000500000000 1767916800700000000) = some w ∧
      w.db.lockPendingForEmail ⟨2⟩ "admin@example.com" w.clock = none ∧
      WorkspaceInvitation.create ⟨5⟩ ⟨2⟩ ⟨3⟩ "admin@example.com" w.clock
        (w.clock + invitationLifetime) = .ok i ∧
      i.queueDelivery i.generation w.clock = .ok j ∧ w.db.violates j.toRow = true ∧
      (createWorkspaceInvitation plainInvitationServer w.db
        ⟨⟨5⟩, ⟨3⟩, "admin@example.com", w.clock⟩ .background 12 () w.clock).1
        = .error (.repository .database) :=
  ⟨_, _, _, rfl, rfl, rfl, rfl, rfl, rfl⟩

/-- the same invitation, resent on a full second -/
theorem pending_invitations_never_overlap_newYear :
    ∃ w, run (peopleStep plainInvitationServer) .empty
        (resentRun 1767312000000000000 1767916800000000000) = some w ∧
      w.db.violates (freshInvitation ⟨5⟩ ⟨2⟩ ⟨3⟩ "admin@example.com" 1767916800000000000).toRow
        = false := by
  have hseconds : Along (peopleStep plainInvitationServer) ResendOnSecond .empty
      (resentRun 1767312000000000000 1767916800000000000) :=
    (along_of_check (p := fun w e => decide (ResendOnSecond w e)) rfl).imp
      fun _ _ h => of_decide_eq_true h
  have h := pending_invitations_never_overlap plainInvitationServer
    (resentRun 1767312000000000000 1767916800000000000) _ rfl
  exact ⟨_, rfl, (h.2.2 ⟨5⟩ ⟨2⟩ ⟨3⟩ "admin@example.com" 1767916800000000000 _ _ (le_refl _) rfl rfl
    rfl rfl).2 hseconds⟩

end Proofplane
