import Proofplane.Base.Mutation
import Proofplane.Base.Run
import Proofplane.Domain.Auditor
import Mathlib.Data.Int.ConditionallyCompleteOrder

/-!
# The life of one auditor session

Two requests may read their clocks in one order and commit in the other, so a session is touched and
revoked at arbitrary instants.  `touch` refuses an instant before the last use; `revoke` compares with
the creation only, and writes `updatedAt` all the same.

* `AuditorSessionMethod`      the two methods, in the order of their statements;
* `AuditorSessionOp`, `performOnSession`   a call of one of them, its answer and what it leaves behind;
* `SessionCallKeeps`          what one call keeps: **a revoked session never changes**;
* `RevokedInOrder`            a revocation that is not before the last use;
* `auditor_session_lifecycle`   **a session can be loaded again if and only if it was revoked in order**.
-/

namespace Proofplane
open Base Mutation

namespace AuditorSessionMethod

def touch (usedAt : Int) :
    Mutation AuditorSessionLifecycleError AuditorSession AuditorSessionTransition := do
  match (← get).ensureActiveAt usedAt with
  | .error e => throw e
  | .ok () =>
    refuse (usedAt < (← get).createdAt ∨ usedAt < (← get).lastUsedAt) .invalidTransition
    modify fun s => { s with lastUsedAt := usedAt }
    modify fun s => { s with updatedAt := usedAt }
    return .used

def revoke (revokedAt : Int) :
    Mutation AuditorSessionLifecycleError AuditorSession AuditorSessionTransition := do
  if (← get).revokedAt.isSome then
    return .alreadyRevoked
  else
    refuse (revokedAt < (← get).createdAt) .invalidTransition
    modify fun s => { s with revokedAt := some revokedAt }
    modify fun s => { s with updatedAt := revokedAt }
    return .revoked

theorem touch_exec (usedAt : Int) (s : AuditorSession) :
    (touch usedAt).exec s = settle s (s.touch usedAt) := by
  unfold touch AuditorSession.touch
  simp only [exec_get_bind]
  cases s.ensureActiveAt usedAt with
  | error e => rfl
  | ok u =>
    simp only [exec_get_bind, exec_refuse_bind]
    split
    · rfl
    · rfl

theorem revoke_exec (revokedAt : Int) (s : AuditorSession) :
    (revoke revokedAt).exec s = settle s (s.revoke revokedAt) := by
  unfold revoke AuditorSession.revoke
  simp only [exec_get_bind]
  split
  · rfl
  · simp only [exec_refuse_bind, exec_get_bind]
    split
    · rfl
    · rfl

end AuditorSessionMethod

inductive AuditorSessionOp
  | touch (usedAt : Int)
  | revoke (revokedAt : Int)
  deriving DecidableEq, Repr

/-- a call: its answer, and the session afterwards -/
def performOnSession (s : AuditorSession) :
    AuditorSessionOp → Except AuditorSessionLifecycleError AuditorSessionTransition × AuditorSession
  | .touch usedAt => (AuditorSessionMethod.touch usedAt).exec s
  | .revoke revokedAt => (AuditorSessionMethod.revoke revokedAt).exec s

def auditorSessionStep (s : AuditorSession) (op : AuditorSessionOp) : Option AuditorSession :=
  some (performOnSession s op).2

/-! ## One call -/

/-- what a call can do: refuse, answer that there is nothing to do, touch or revoke -/
inductive SessionCall (s : AuditorSession) : AuditorSessionOp →
    Except AuditorSessionLifecycleError AuditorSessionTransition → AuditorSession → Prop
  | refused (op : AuditorSessionOp) (e : AuditorSessionLifecycleError)
      (hrevoke : ∀ t, op = .revoke t → s.revokedAt = none ∧ t < s.createdAt) :
      SessionCall s op (.error e) s
  | repeated (t : Int) (hrevoked : s.revokedAt.isSome = true) :
      SessionCall s (.revoke t) (.ok .alreadyRevoked) s
  | touched (t : Int) (hopen : s.revokedAt = none) (hused : s.lastUsedAt ≤ t) (hend : t < s.expiresAt) :
      SessionCall s (.touch t) (.ok .used) { s with lastUsedAt := t, updatedAt := t }
  | revoked (t : Int) (hopen : s.revokedAt = none) (hcreated : s.createdAt ≤ t) :
      SessionCall s (.revoke t) (.ok .revoked) { s with revokedAt := some t, updatedAt := t }

theorem performOnSession_call (s : AuditorSession) (op : AuditorSessionOp) :
    SessionCall s op (performOnSession s op).1 (performOnSession s op).2 := by
  cases op with
  | touch t =>
    have hexec : performOnSession s (.touch t) = settle s (s.touch t) :=
      AuditorSessionMethod.touch_exec t s
    rw [hexec]
    unfold AuditorSession.touch AuditorSession.ensureActiveAt
    by_cases hactive : s.revokedAt.isSome = true ∨ s.expiresAt ≤ t
    · rw [if_pos hactive]
      exact .refused _ _ fun t h => (by cases h)
    · rw [if_neg hactive]
      dsimp only
      by_cases horder : t < s.createdAt ∨ t < s.lastUsedAt
      · rw [if_pos horder]
        exact .refused _ _ fun t h => (by cases h)
      · rw [if_neg horder]
        push Not at hactive horder
        exact .touched t (Option.not_isSome_iff_eq_none.mp hactive.1) horder.2 hactive.2
  | revoke t =>
    have hexec : performOnSession s (.revoke t) = settle s (s.revoke t) :=
      AuditorSessionMethod.revoke_exec t s
    rw [hexec]
    unfold AuditorSession.revoke
    by_cases hrevoked : s.revokedAt.isSome = true
    · rw [if_pos hrevoked]
      exact .repeated t hrevoked
    · rw [if_neg hrevoked]
      have hopen : s.revokedAt = none := Option.not_isSome_iff_eq_none.mp hrevoked
      by_cases hcreated : t < s.createdAt
      · rw [if_pos hcreated]
        refine .refused _ _ fun u hu => ?_
        cases hu
        exact ⟨hopen, hcreated⟩
      · rw [if_neg hcreated]
        exact .revoked t hopen (not_lt.mp hcreated)

/-- the same session, later in its life -/
structure LaterSession (s s' : AuditorSession) : Prop where
  id : s'.id = s.id
  grantId : s'.grantId = s.grantId
  workspaceId : s'.workspaceId = s.workspaceId
  auditorEmail : s'.auditorEmail = s.auditorEmail
  auth0Subject : s'.auth0Subject = s.auth0Subject
  expiresAt : s'.expiresAt = s.expiresAt
  period : s'.period = s.period
  createdAt : s'.createdAt = s.createdAt
  sessionDigest : s'.sessionDigest = s.sessionDigest
  lastUsedAt : s.lastUsedAt ≤ s'.lastUsedAt
  terminal : s.revokedAt.isSome = true → s' = s

/-- what one call keeps, whatever it answers -/
structure SessionCallKeeps (s : AuditorSession) (op : AuditorSessionOp)
    (answer : Except AuditorSessionLifecycleError AuditorSessionTransition) (s' : AuditorSession) :
    Prop where
  later : LaterSession s s'
  error : ∀ e, answer = .error e → s' = s
  touchRevoked : ∀ t, op = .touch t → s.revokedAt.isSome = true → ∃ e, answer = .error e
  revokeRevoked : ∀ t, op = .revoke t → s.revokedAt.isSome = true → answer = .ok .alreadyRevoked

section
variable {s s' : AuditorSession} {op : AuditorSessionOp}
  {answer : Except AuditorSessionLifecycleError AuditorSessionTransition}

theorem LaterSession.refl (s : AuditorSession) : LaterSession s s :=
  ⟨rfl, rfl, rfl, rfl, rfl, rfl, rfl, rfl, rfl, le_refl _, fun _ => rfl⟩

theorem LaterSession.trans {s'' : AuditorSession} (h : LaterSession s s') (h' : LaterSession s' s'') :
    LaterSession s s'' where
  id := h'.id.trans h.id
  grantId := h'.grantId.trans h.grantId
  workspaceId := h'.workspaceId.trans h.workspaceId
  auditorEmail := h'.auditorEmail.trans h.auditorEmail
  auth0Subject := h'.auth0Subject.trans h.auth0Subject
  expiresAt := h'.expiresAt.trans h.expiresAt
  period := h'.period.trans h.period
  createdAt := h'.createdAt.trans h.createdAt
  sessionDigest := h'.sessionDigest.trans h.sessionDigest
  lastUsedAt := le_trans h.lastUsedAt h'.lastUsedAt
  terminal hs := by
    have hsame := h.terminal hs
    rw [hsame] at h'
    exact h'.terminal hs

/-- a session that is open is not revoked -/
theorem not_revoked (hopen : s.revokedAt = none) (h : s.revokedAt.isSome = true) : False := by
  rw [hopen] at h
  cases h

theorem SessionCall.later (h : SessionCall s op answer s') : LaterSession s s' := by
  cases h with
  | refused e hrevoke => exact .refl s
  | repeated t hrevoked => exact .refl s
  | touched t hopen hused hend =>
    exact ⟨rfl, rfl, rfl, rfl, rfl, rfl, rfl, rfl, rfl, hused, fun h => (not_revoked hopen h).elim⟩
  | revoked t hopen hcreated =>
    exact ⟨rfl, rfl, rfl, rfl, rfl, rfl, rfl, rfl, rfl, le_refl _,
      fun h => (not_revoked hopen h).elim⟩

theorem SessionCall.keeps (h : SessionCall s op answer s') : SessionCallKeeps s op answer s' where
  later := h.later
  error e he := by
    cases h with
    | refused => rfl
    | repeated => cases he
    | touched => cases he
    | revoked => cases he
  touchRevoked t hop hs := by
    cases h with
    | refused _ e => exact ⟨e, rfl⟩
    | repeated => cases hop
    | touched u hopen => exact (not_revoked hopen hs).elim
    | revoked => cases hop
  revokeRevoked t hop hs := by
    cases h with
    | refused _ e hrevoke => exact (not_revoked (hrevoke t hop).1 hs).elim
    | repeated => rfl
    | touched => cases hop
    | revoked u hopen => exact (not_revoked hopen hs).elim

end

/-! ## Every run -/

/-- what every session keeps that `create` has made, at whatever instants it is touched and revoked -/
structure SessionInv (s : AuditorSession) : Prop where
  subject : isBlank s.auth0Subject = false
  email : validNormalizedEmail s.auditorEmail = true
  used : s.createdAt ≤ s.lastUsedAt
  unexpired : s.lastUsedAt < s.expiresAt
  updated : s.createdAt ≤ s.updatedAt
  revoked : ∀ t, s.revokedAt = some t → s.createdAt ≤ t ∧ s.updatedAt = t
  openUpdated : s.revokedAt = none → s.lastUsedAt ≤ s.updatedAt

/-- a call that revokes an open session does so no earlier than its last use -/
def RevokedInOrder (s : AuditorSession) (op : AuditorSessionOp) : Prop :=
  ∀ t, op = .revoke t → s.revokedAt = none → s.createdAt ≤ t → s.lastUsedAt ≤ t

/-- a session that was revoked before its last use -/
def SpoiltSession (s : AuditorSession) : Prop :=
  s.revokedAt.isSome = true ∧ s.updatedAt < s.lastUsedAt

section
variable {s s' : AuditorSession} {op : AuditorSessionOp}

theorem AuditorSession.create_inv {id : AuditorSessionId} {grantId : AuditorAccessGrantId}
    {workspaceId : WorkspaceId} {auditorEmail : String} {digest : Sha256Digest} {auth0Subject : String}
    {expiresAt createdAt : Int} {period : AuditReviewPeriod}
    (h : AuditorSession.create id grantId workspaceId auditorEmail digest auth0Subject expiresAt period
      createdAt = .ok s) : SessionInv s := by
  unfold AuditorSession.create at h
  split at h
  · cases h
  · next hvalid =>
    cases h
    push Not at hvalid
    obtain ⟨hexpires, hsubject, hemail⟩ := hvalid
    have hsubject' : isBlank auth0Subject = false := Bool.not_eq_true _ ▸ hsubject
    have hemail' : validNormalizedEmail auditorEmail = true := Bool.not_eq_false _ ▸ hemail
    exact ⟨hsubject', hemail', le_refl _, hexpires, le_refl _, fun t ht => (by cases ht),
      fun _ => le_refl _⟩

theorem SessionInv.step (hi : SessionInv s) (h : auditorSessionStep s op = some s') :
    SessionInv s' := by
  cases h
  have hcall := performOnSession_call s op
  revert hcall
  generalize performOnSession s op = p
  rintro hcall
  obtain ⟨answer, s'⟩ := p
  cases hcall with
  | refused e hrevoke => exact hi
  | repeated t hrevoked => exact hi
  | touched t hopen hused hend =>
    have hcreated : s.createdAt ≤ t := le_trans hi.used hused
    refine ⟨hi.subject, hi.email, hcreated, hend, hcreated, ?_, fun _ => le_refl _⟩
    intro u hu
    have hnone : s.revokedAt = some u := hu
    rw [hopen] at hnone
    cases hnone
  | revoked t hopen hcreated =>
    refine ⟨hi.subject, hi.email, hi.used, hi.unexpired, hcreated, ?_, fun hn => (by cases hn)⟩
    intro u hu
    cases hu
    exact ⟨hcreated, rfl⟩

/-- **A session can be loaded again unless it was revoked before its last use.** -/
theorem SessionInv.rehydrate_iff (hi : SessionInv s) :
    s.rehydrate = .ok s ↔ ¬ SpoiltSession s := by
  have hcreate : AuditorSession.create s.id s.grantId s.workspaceId s.auditorEmail s.sessionDigest
      s.auth0Subject s.expiresAt s.period s.createdAt
        = .ok ⟨s.id, s.grantId, s.workspaceId, s.auditorEmail, s.auth0Subject, s.expiresAt, s.period,
            none, s.createdAt, s.createdAt, s.createdAt, s.sessionDigest⟩ := by
    have hexpires : ¬ s.expiresAt ≤ s.createdAt := not_le.mpr (lt_of_le_of_lt hi.used hi.unexpired)
    unfold AuditorSession.create
    rw [if_neg (by simp [hexpires, hi.subject, hi.email])]
  have hany : (s.revokedAt.any fun t => decide (t < s.createdAt)) = false := by
    cases hr : s.revokedAt with
    | none => rfl
    | some t => exact decide_eq_false (not_lt.mpr (hi.revoked t hr).1)
  have hupdated : (s.revokedAt.any fun t => decide (s.updatedAt < t)) = false := by
    cases hr : s.revokedAt with
    | none => rfl
    | some t => exact decide_eq_false (not_lt.mpr (le_of_eq (hi.revoked t hr).2.symm))
  have hspoilt : SpoiltSession s ↔ s.updatedAt < s.lastUsedAt := by
    refine ⟨fun h => h.2, fun h => ⟨?_, h⟩⟩
    by_contra hnone
    have := hi.openUpdated (Option.not_isSome_iff_eq_none.mp hnone)
    omega
  unfold AuditorSession.rehydrate
  rw [hcreate]
  dsimp only
  rw [hany, hupdated, hspoilt]
  have hused := hi.used
  have hcreated := hi.updated
  by_cases hlt : s.updatedAt < s.lastUsedAt
  · rw [if_pos (by simp [hlt])]
    exact iff_of_false (fun h => (by cases h)) (not_not.mpr hlt)
  · rw [if_neg (by simp; omega)]
    exact iff_of_true rfl hlt

/-- a call out of order spoils the session -/
theorem spoilt_of_call (hop : ¬ RevokedInOrder s op) (h : auditorSessionStep s op = some s') :
    SpoiltSession s' := by
  cases h
  unfold RevokedInOrder at hop
  push Not at hop
  obtain ⟨t, rfl, hopen, hcreated, hused⟩ := hop
  have hcall := performOnSession_call s (.revoke t)
  revert hcall
  generalize performOnSession s (.revoke t) = p
  rintro hcall
  obtain ⟨answer, s'⟩ := p
  cases hcall with
  | refused _ e hrevoke => exact absurd (hrevoke t rfl).2 (not_lt.mpr hcreated)
  | repeated _ hrevoked => exact (not_revoked hopen hrevoked).elim
  | revoked => exact ⟨rfl, hused⟩

theorem SpoiltSession.step (hs : SpoiltSession s) (h : auditorSessionStep s op = some s') :
    SpoiltSession s' := by
  cases h
  rw [(performOnSession_call s op).later.terminal hs.1]
  exact hs

/-- a call in order does not spoil a session -/
theorem not_spoilt_of_call (hi : SessionInv s) (hs : ¬ SpoiltSession s) (hop : RevokedInOrder s op)
    (h : auditorSessionStep s op = some s') : ¬ SpoiltSession s' := by
  cases h
  have hcall := performOnSession_call s op
  revert hcall
  generalize performOnSession s op = p
  rintro hcall
  obtain ⟨answer, s'⟩ := p
  cases hcall with
  | refused e hrevoke => exact hs
  | repeated t hrevoked => exact hs
  | touched t hopen hused hend => exact fun h => not_revoked (s := s) hopen h.1
  | revoked t hopen hcreated =>
    have hused : s.lastUsedAt ≤ t := hop t rfl hopen hcreated
    exact fun h => absurd h.2 (not_lt.mpr hused)

theorem auditorSessionRun_later {ops : List AuditorSessionOp}
    (h : run auditorSessionStep s ops = some s') : LaterSession s s' := by
  refine run_rel (fun _ => True) LaterSession (fun _ _ _ _ _ => trivial) LaterSession.refl
    (fun _ _ _ h1 h2 => h1.trans h2) ?_ trivial h
  intro s op s' _ hstep
  cases hstep
  exact (performOnSession_call s op).later

theorem auditorSessionRun_spoilt_iff {ops : List AuditorSessionOp} (hi : SessionInv s)
    (hs : ¬ SpoiltSession s) (h : run auditorSessionStep s ops = some s') :
    ¬ SpoiltSession s' ↔ Along auditorSessionStep RevokedInOrder s ops := by
  constructor
  · intro hend
    exact along_of_end SessionInv SpoiltSession (fun _ _ _ => SessionInv.step)
      (fun _ _ _ _ => spoilt_of_call) (fun _ _ _ => SpoiltSession.step) hi h hend
  · intro halong
    have hboth := run_inv_along (fun s => SessionInv s ∧ ¬ SpoiltSession s)
      (fun s op s' h hop hstep => ⟨h.1.step hstep, not_spoilt_of_call h.1 h.2 hop hstep⟩) ⟨hi, hs⟩
      halong h
    exact hboth.2

end

/-- **The life of an auditor session.**  Whatever calls are made on a new session, at whatever instants:
it can be loaded again as it is if and only if no call revoked it before its last use; the last use is
never before an earlier one and lies in the time of the session; and each further call keeps what
`SessionCallKeeps` says. -/
theorem auditor_session_lifecycle (id : AuditorSessionId) (grantId : AuditorAccessGrantId)
    (workspaceId : WorkspaceId) (auditorEmail : String) (digest : Sha256Digest) (auth0Subject : String)
    (expiresAt : Int) (period : AuditReviewPeriod) (createdAt : Int) (new : AuditorSession)
    (hcreate : AuditorSession.create id grantId workspaceId auditorEmail digest auth0Subject expiresAt
      period createdAt = .ok new)
    (ops : List AuditorSessionOp) (s : AuditorSession)
    (hrun : run auditorSessionStep new ops = some s) :
    (s.rehydrate = .ok s ↔ Along auditorSessionStep RevokedInOrder new ops) ∧
      (s.createdAt ≤ s.lastUsedAt ∧ s.lastUsedAt < s.expiresAt) ∧ LaterSession new s ∧
      ∀ op, SessionCallKeeps s op (performOnSession s op).1 (performOnSession s op).2 := by
  have hnew := AuditorSession.create_inv hcreate
  have hi : SessionInv s := run_inv SessionInv (fun _ _ _ => SessionInv.step) hnew hrun
  have hfresh : ¬ SpoiltSession new := by
    rw [AuditorSession.create_ok hcreate]
    exact fun h => (by cases h.1)
  refine ⟨?_, ⟨hi.used, hi.unexpired⟩, auditorSessionRun_later hrun,
    fun op => (performOnSession_call s op).keeps⟩
  rw [hi.rehydrate_iff]
  exact auditorSessionRun_spoilt_iff hnew hfresh hrun

theorem epoch_ordered : (0 : Int) ≤ 0 := le_refl 0

/-- a session of 2026-01-01, of a day -/
def newYearSession : AuditorSession where
  id := ⟨1⟩
  grantId := ⟨2⟩
  workspaceId := ⟨3⟩
  auditorEmail := "auditor@example.com"
  auth0Subject := "email|auditor"
  expiresAt := 1767225600000000000 + days 1
  period := ⟨0, 0, epoch_ordered⟩
  revokedAt := none
  lastUsedAt := 1767225600000000000
  createdAt := 1767225600000000000
  updatedAt := 1767225600000000000
  sessionDigest := ⟨4⟩

theorem auditor_session_lifecycle_newYear :
    ∃ s, run auditorSessionStep newYearSession
        [.touch 1767225605000000000, .revoke 1767225606000000000, .touch 1767225607000000000] = some s ∧
      s.revokedAt = some 1767225606000000000 ∧ s.rehydrate = .ok s := by
  have h := auditor_session_lifecycle ⟨1⟩ ⟨2⟩ ⟨3⟩ "auditor@example.com" ⟨4⟩ "email|auditor"
    (1767225600000000000 + days 1) ⟨0, 0, le_refl _⟩ 1767225600000000000 newYearSession rfl
    [.touch 1767225605000000000, .revoke 1767225606000000000, .touch 1767225607000000000] _ rfl
  refine ⟨_, rfl, rfl, h.1.mpr ?_⟩
  refine ⟨fun t ht => (by cases ht), fun s' hs' => ?_⟩
  cases hs'
  refine ⟨?_, fun s' hs' => ?_⟩
  · intro t ht hopen hcreated
    cases ht
    decide
  · cases hs'
    exact ⟨fun t ht => (by cases ht), fun _ _ => trivial⟩

/-- the request that revokes read its clock before the one that touches, and committed after it -/
theorem auditor_session_spoilt :
    ∃ s, AuditorSession.create ⟨1⟩ ⟨2⟩ ⟨3⟩ "auditor@example.com" ⟨4⟩ "email|auditor"
        (1767225600000000000 + days 1) ⟨0, 0, le_refl _⟩ 1767225600000000000 = .ok newYearSession ∧
      run auditorSessionStep newYearSession [.touch 1767225605000000000, .revoke 1767225603000000000]
        = some s ∧
      s.rehydrate = .error .invalidRehydration := by
  refine ⟨_, rfl, rfl, ?_⟩
  decide

end Proofplane
