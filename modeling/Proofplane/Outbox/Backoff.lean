import Proofplane.Outbox.Dequeuer

/-!
# The delays between the attempts to publish a row

A failed publication is tried again after a delay that doubles with each attempt up to a maximum, and after
the maximum once the attempts are exhausted.  Here the delay is computed as the program does it, with
integers of 32 bits and durations that have a largest value; an operation that overflows has no result.

* `DurationArithmetic`     durations as a library has them, a number of nanoseconds each;
* `DurationArithmetic.Documented`   what the library promises;
* `Backoff.retryDelay`, `publishOutboxRow`   the failure path, operation by operation;
* `retryDelay_eq`          **nothing overflows: it is `retryDelay` of the numbers**;
* `failRun`                a row whose publication fails again and again;
* `failRun_delays`         **its delays never decrease**, exhausted or not.
-/

namespace Proofplane
open Base

/-! ## Durations -/

/-- durations and instants of a library; an operation that panics has no result -/
structure DurationArithmetic where
  Representable : Int → Prop
  /-- `Duration * i32` -/
  mul : Int → Int → Option Int
  /-- `DateTime<Utc> + Duration` -/
  add : Int → Int → Option Int

/-- the durations are an interval around zero, products are exact where there is room for them, and an
instant that is moved is moved by exactly the duration -/
structure DurationArithmetic.Documented (chrono : DurationArithmetic) : Prop where
  between : ∀ a b, 0 ≤ a → a ≤ b → chrono.Representable b → chrono.Representable a
  mul_exact : ∀ d k, i32Min ≤ k → k ≤ i32Max → chrono.Representable d → chrono.Representable (d * k) →
    chrono.mul d k = some (d * k)
  add_exact : ∀ now d at', chrono.add now d = some at' → at' = now + d

/-- durations of up to `i64::MAX` milliseconds either way -/
def DurationArithmetic.milliseconds : DurationArithmetic where
  Representable := fun d => -(i64Max * 1000000) ≤ d ∧ d ≤ i64Max * 1000000
  mul := fun d k =>
    if -(i64Max * 1000000) ≤ d * k ∧ d * k ≤ i64Max * 1000000 then some (d * k) else none
  add := fun now d => some (now + d)

theorem DurationArithmetic.milliseconds_documented : DurationArithmetic.milliseconds.Documented where
  between := fun a b h0 hab hb => ⟨by unfold i64Max; omega, hab.trans hb.2⟩
  mul_exact := fun d k _ _ _ hdk => if_pos hdk
  add_exact := fun now d at' h => (Option.some.inj h).symm

/-! ## The failure path -/

/-- `b.pow(e)` of an `i32` -/
def i32Pow (b : Int) (e : Nat) : Option Int :=
  if i32Min ≤ b ^ e ∧ b ^ e ≤ i32Max then some (b ^ e) else none

theorem i32Pow_two {e : Nat} (h : e ≤ 30) : i32Pow 2 e = some (2 ^ e) := by
  have hle : (2 : Int) ^ e ≤ 2 ^ 30 := pow_le_pow_right₀ (by decide) h
  have hpos : (0 : Int) < 2 ^ e := pow_pos (by decide) e
  have h30 : (2 : Int) ^ 30 = 1073741824 := by norm_num
  refine if_pos ⟨?_, ?_⟩
  · unfold i32Min
    omega
  · unfold i32Max
    omega

/-- `attempt_count.clamp(0, 30) as u32` -/
def backoffExponent (attemptCount : Int) : Nat := (max 0 (min attemptCount 30)).toNat

theorem backoffExponent_le (n : Int) : backoffExponent n ≤ 30 := by
  unfold backoffExponent
  omega

theorem backoffExponent_mono {m n : Int} (h : m ≤ n) : backoffExponent m ≤ backoffExponent n := by
  unfold backoffExponent
  omega

/-- `PublishOutcome` -/
inductive PublishOutcome
  | published
  | failed (error : String) (nextAvailableAt : Int) (exhausted : Bool)
  deriving DecidableEq, Repr

namespace Backoff
variable (chrono : DurationArithmetic)

/-- `retry_delay` -/
def retryDelay (attemptCount initial maximum : Int) : Option Int := do
  let exponent := backoffExponent attemptCount
  let factor ← i32Pow 2 exponent
  return min (← chrono.mul initial factor) maximum

/-- `publish_outbox_row`, `answer` being that of the publisher -/
def publishOutboxRow (config : OutboxDequeuerConfig) (row : OutboxMessage) (now : Int)
    (answer : Except String Unit) : Option PublishOutcome :=
  match answer with
  | .ok () => some .published
  | .error error => do
    let exhausted := decide (config.maxAttempts ≤ i32Succ row.attemptCount)
    let nextAvailableAt ←
      if exhausted then chrono.add now config.maxRetryDelay
      else chrono.add now (← retryDelay chrono row.attemptCount config.initialRetryDelay config.maxRetryDelay)
    return .failed error nextAvailableAt exhausted

/-- the row fails once more: the delay it is given, and the table with the failure recorded -/
def failOnce (config : OutboxDequeuerConfig) (id now : Int) (error : String) (t : OutboxTable) :
    Option (Int × OutboxTable) := do
  let row ← t.get? id
  match ← publishOutboxRow chrono config row now (.error error) with
  | .published => none
  | .failed _ nextAvailableAt _ =>
    return (nextAvailableAt - now, ← recordOutboxPublishFailure t id nextAvailableAt)

/-- one failure after the other, at these instants; the delays in their order -/
def failRun (config : OutboxDequeuerConfig) (id : Int) :
    List (Int × String) → OutboxTable → Option (List Int × OutboxTable)
  | [], t => some ([], t)
  | (now, error) :: rest, t => do
    let (delay, t) ← failOnce chrono config id now error t
    let (delays, t) ← failRun config id rest t
    return (delay :: delays, t)

end Backoff

/-! ## The delay of the numbers -/

theorem retryDelay_le (n initial maximum : Int) : retryDelay n initial maximum ≤ maximum :=
  min_le_right _ _

theorem retryDelay_mono {m n initial : Int} (maximum : Int) (h0 : 0 ≤ initial) (h : m ≤ n) :
    retryDelay m initial maximum ≤ retryDelay n initial maximum := by
  have hpow : (2 : Int) ^ backoffExponent m ≤ 2 ^ backoffExponent n :=
    pow_le_pow_right₀ (by decide) (backoffExponent_mono h)
  exact min_le_min (mul_le_mul_of_nonneg_left hpow h0) le_rfl

/-- the delay a row is given when it fails -/
def scheduledDelay (config : OutboxDequeuerConfig) (attemptCount : Int) : Int :=
  if config.maxAttempts ≤ attemptCount + 1 then config.maxRetryDelay
  else retryDelay attemptCount config.initialRetryDelay config.maxRetryDelay

/-- with more attempts behind it a row waits at least as long; once exhausted it stays so -/
theorem scheduledDelay_mono (config : OutboxDequeuerConfig) (h0 : 0 ≤ config.initialRetryDelay)
    {m n : Int} (h : m ≤ n) : scheduledDelay config m ≤ scheduledDelay config n := by
  unfold scheduledDelay
  by_cases hn : config.maxAttempts ≤ n + 1
  · rw [if_pos hn]
    split
    · exact le_rfl
    · exact retryDelay_le _ _ _
  · rw [if_neg hn, if_neg (by omega)]
    exact retryDelay_mono _ h0 h

/-! ## Nothing overflows -/

section
variable {chrono : DurationArithmetic}

/-- each product on the way is at most the largest one, which is representable -/
theorem Backoff.retryDelay_eq (hdoc : chrono.Documented) (n maximum : Int) {initial : Int}
    (h0 : 0 ≤ initial) (hrep : chrono.Representable (initial * 2 ^ 30)) :
    Backoff.retryDelay chrono n initial maximum = some (Proofplane.retryDelay n initial maximum) := by
  have hpos : (1 : Int) ≤ 2 ^ backoffExponent n := one_le_pow₀ (by decide)
  have hle : (2 : Int) ^ backoffExponent n ≤ 2 ^ 30 :=
    pow_le_pow_right₀ (by decide) (backoffExponent_le n)
  have h30 : (2 : Int) ^ 30 = 1073741824 := by norm_num
  have hprod : initial * 2 ^ backoffExponent n ≤ initial * 2 ^ 30 := mul_le_mul_of_nonneg_left hle h0
  have hinitial : initial ≤ initial * 2 ^ backoffExponent n := le_mul_of_one_le_right h0 hpos
  have hmul : chrono.mul initial (2 ^ backoffExponent n) = some (initial * 2 ^ backoffExponent n) := by
    refine hdoc.mul_exact _ _ ?_ ?_ ?_ ?_
    · unfold i32Min
      omega
    · unfold i32Max
      omega
    · exact hdoc.between _ _ h0 (hinitial.trans hprod) hrep
    · exact hdoc.between _ _ (h0.trans hinitial) hprod hrep
  unfold Backoff.retryDelay
  dsimp only
  rw [i32Pow_two (backoffExponent_le n)]
  show (chrono.mul initial (2 ^ backoffExponent n)).bind _ = _
  rw [hmul]
  rfl

variable {config : OutboxDequeuerConfig}

/-- the only thing that can go wrong is the sum with the instant -/
theorem Backoff.publishOutboxRow_eq (hdoc : chrono.Documented) (h0 : 0 ≤ config.initialRetryDelay)
    (hrep : chrono.Representable (config.initialRetryDelay * 2 ^ 30)) {row : OutboxMessage}
    (hcount : row.attemptCount < i32Max) (now : Int) (error : String) :
    Backoff.publishOutboxRow chrono config row now (.error error)
      = (chrono.add now (scheduledDelay config row.attemptCount)).map fun nextAvailableAt =>
          .failed error nextAvailableAt (decide (config.maxAttempts ≤ row.attemptCount + 1)) := by
  have hsucc : i32Succ row.attemptCount = row.attemptCount + 1 := if_neg (by omega)
  unfold Backoff.publishOutboxRow scheduledDelay
  dsimp only
  rw [hsucc, Backoff.retryDelay_eq hdoc _ _ h0 hrep]
  by_cases hexhausted : config.maxAttempts ≤ row.attemptCount + 1
  · rw [if_pos hexhausted, if_pos (decide_eq_true hexhausted)]
    cases chrono.add now config.maxRetryDelay with
    | none => rfl
    | some at' => rfl
  · rw [if_neg hexhausted, if_neg (by rwa [decide_eq_true_eq])]
    show (chrono.add now (Proofplane.retryDelay _ _ _)).bind _ = _
    cases chrono.add now
        (Proofplane.retryDelay row.attemptCount config.initialRetryDelay config.maxRetryDelay) with
    | none => rfl
    | some at' => rfl

/-! ## Runs of failures -/

/-- one failure: the delay is that of the attempts so far, and there is one attempt more -/
theorem Backoff.failOnce_some (hdoc : chrono.Documented) (h0 : 0 ≤ config.initialRetryDelay)
    (hrep : chrono.Representable (config.initialRetryDelay * 2 ^ 30)) {id now delay : Int}
    {error : String} {t t' : OutboxTable} {row : OutboxMessage} (hrow : t.get? id = some row)
    (hcount : row.attemptCount < i32Max)
    (h : Backoff.failOnce chrono config id now error t = some (delay, t')) :
    delay = scheduledDelay config row.attemptCount ∧
      ∃ row', t'.get? id = some row' ∧ row'.attemptCount = row.attemptCount + 1 := by
  unfold Backoff.failOnce at h
  rw [hrow] at h
  replace h : (Backoff.publishOutboxRow chrono config row now (.error error)).bind _ = _ := h
  rw [Backoff.publishOutboxRow_eq hdoc h0 hrep hcount, Option.bind_eq_some_iff] at h
  obtain ⟨outcome, hadd, h⟩ := h
  obtain ⟨at', hat, rfl⟩ := Option.map_eq_some_iff.mp hadd
  obtain ⟨t'', hrecord, h⟩ := Option.bind_eq_some_iff.mp h
  rw [Option.pure_def, Option.some.injEq, Prod.mk.injEq] at h
  obtain ⟨rfl, rfl⟩ := h
  have hexact := hdoc.add_exact _ _ _ hat
  refine ⟨by omega, row.failed at', ?_, rfl⟩
  rw [recordOutboxPublishFailure_some hrecord, if_pos rfl, hrow]
  rfl

/-- a run gives the row the delays of its attempt counts, one after the other -/
theorem Backoff.failRun_eq (hdoc : chrono.Documented) (h0 : 0 ≤ config.initialRetryDelay)
    (hrep : chrono.Representable (config.initialRetryDelay * 2 ^ 30)) {id : Int}
    {failures : List (Int × String)} {delays : List Int} {t t' : OutboxTable} {row : OutboxMessage}
    (hrow : t.get? id = some row) (hcount : row.attemptCount + failures.length ≤ i32Max)
    (h : Backoff.failRun chrono config id failures t = some (delays, t')) :
    delays = (List.range failures.length).map fun (k : Nat) => scheduledDelay config (row.attemptCount + k) := by
  induction failures generalizing t row delays with
  | nil =>
    cases h
    rfl
  | cons failure rest ih =>
    obtain ⟨now, error⟩ := failure
    rw [List.length_cons] at hcount
    push_cast at hcount
    obtain ⟨⟨delay, t1⟩, honce, h⟩ := Option.bind_eq_some_iff.mp h
    obtain ⟨⟨delays', t2⟩, hrest, h⟩ := Option.bind_eq_some_iff.mp h
    rw [Option.pure_def, Option.some.injEq, Prod.mk.injEq] at h
    obtain ⟨rfl, rfl⟩ := h
    obtain ⟨rfl, row', hrow', hsucc⟩ := failOnce_some hdoc h0 hrep hrow (by omega) honce
    have hdelays := ih hrow' (by omega) hrest
    rw [List.length_cons, List.range_succ_eq_map, List.map_cons, List.map_map, hdelays, hsucc]
    congr 1
    · simp
    · refine List.map_congr_left fun k _ => ?_
      show scheduledDelay config (row.attemptCount + 1 + k) = scheduledDelay config (row.attemptCount + (k + 1 : Nat))
      congr 1
      push_cast
      omega

/-- the delays of a run never decrease, nor do they where the attempts are exhausted on the way -/
theorem Backoff.failRun_delays (hdoc : chrono.Documented) (h0 : 0 ≤ config.initialRetryDelay)
    (hrep : chrono.Representable (config.initialRetryDelay * 2 ^ 30)) {id : Int}
    {failures : List (Int × String)} {delays : List Int} {t t' : OutboxTable} {row : OutboxMessage}
    (hrow : t.get? id = some row) (hcount : row.attemptCount + failures.length ≤ i32Max)
    (h : failRun chrono config id failures t = some (delays, t')) : delays.Pairwise (· ≤ ·) := by
  rw [failRun_eq hdoc h0 hrep hrow hcount h, List.pairwise_map]
  refine List.pairwise_lt_range.imp fun hij => ?_
  exact scheduledDelay_mono config h0 (by omega)

end

/-- the delay of a retry is the doubled one up to the maximum and nothing overflows on the way; it grows
with the attempts, never beyond the maximum; and a row that fails again and again never waits less than
before, whether its attempts are exhausted or not -/
theorem retry_backoff (chrono : DurationArithmetic) (hdoc : chrono.Documented) (initial maximum : Int)
    (h0 : 0 ≤ initial) (hrep : chrono.Representable (initial * 2 ^ 30)) :
    (∀ n, Backoff.retryDelay chrono n initial maximum
      = some (min (initial * 2 ^ (max 0 (min n 30)).toNat) maximum)) ∧
    (∀ m n d d', m ≤ n → Backoff.retryDelay chrono m initial maximum = some d →
      Backoff.retryDelay chrono n initial maximum = some d' → d ≤ d' ∧ d' ≤ maximum) ∧
    (∀ (batchSize : Nat) (maxAttempts : Int) (t : OutboxTable) (id : Int) (row : OutboxMessage)
      (failures : List (Int × String)) (delays : List Int) (t' : OutboxTable), t.get? id = some row →
      row.attemptCount + failures.length ≤ i32Max →
      Backoff.failRun chrono ⟨batchSize, maxAttempts, initial, maximum⟩ id failures t
        = some (delays, t') →
      delays.Pairwise (· ≤ ·) ∧
      delays = (List.range failures.length).map fun (k : Nat) =>
        if maxAttempts ≤ row.attemptCount + k + 1 then maximum
        else min (initial * 2 ^ (max 0 (min (row.attemptCount + k) 30)).toNat) maximum) := by
  have hdelay := fun n => Backoff.retryDelay_eq hdoc n maximum h0 hrep
  refine ⟨hdelay, ?_, ?_⟩
  · intro m n d d' hmn hd hd'
    rw [hdelay, Option.some.injEq] at hd hd'
    subst hd hd'
    exact ⟨retryDelay_mono _ h0 hmn, retryDelay_le _ _ _⟩
  · intro batchSize maxAttempts t id row failures delays t' hrow hcount h
    exact ⟨Backoff.failRun_delays hdoc h0 hrep hrow hcount h,
      Backoff.failRun_eq hdoc h0 hrep hrow hcount h⟩

/-- a table with one row that has not been tried yet -/
def untriedOutbox : OutboxTable :=
  Table.empty.upsert (outboxRow ⟨"message-bus", .newSendWorkspaceInvitation 7 1 none none 8⟩ 1 0)

/-- three failures, a few seconds apart -/
def threeFailures : List (Int × String) :=
  [(0, "unavailable"), (seconds 5, "unavailable"), (seconds 9, "unavailable")]

/-- a second, two seconds, and after the third and last attempt five minutes -/
theorem retry_backoff_exhausted :
    Backoff.retryDelay .milliseconds 4 (seconds 1) (minutes 5) = some (seconds 16) ∧
    ∃ t', Backoff.failRun .milliseconds ⟨100, 3, seconds 1, minutes 5⟩ 1 threeFailures untriedOutbox
        = some ([seconds 1, seconds 2, minutes 5], t') ∧
      [seconds 1, seconds 2, minutes 5].Pairwise (· ≤ ·) := by
  have hrep : DurationArithmetic.milliseconds.Representable (seconds 1 * 2 ^ 30) := by
    show -(i64Max * 1000000) ≤ seconds 1 * 2 ^ 30 ∧ seconds 1 * 2 ^ 30 ≤ i64Max * 1000000
    decide
  have h := retry_backoff .milliseconds DurationArithmetic.milliseconds_documented (seconds 1) (minutes 5)
    (by decide) hrep
  exact ⟨(h.1 4).trans rfl, _, rfl,
    (h.2.2 100 3 untriedOutbox 1 _ threeFailures _ _ rfl (by decide) rfl).1⟩

end Proofplane
