import Mathlib.Data.Int.Order.Basic

/-!
# Instants

An instant is an `Int`: the number of nanoseconds since the Unix epoch (leap seconds are not
represented and the range of years is not bounded).  Two coarser clocks meet the nanosecond clock:

* `unixSec t`, `ofUnixSec s`   whole seconds, as a timestamp without a fraction writes them;
* `floorSec t`                 `t` with its nanoseconds set to zero;
* `pgTimestamp t`              what a `TIMESTAMPTZ` column keeps of `t`: whole microseconds since
                               2000-01-01, the rest cut off towards that day.

`pgTimestamp` is monotone, idempotent and leaves whole seconds alone, so an instant that was
normalised to seconds survives any number of writes and reads.
-/

namespace Base

/-- the whole seconds of an instant -/
def unixSec (t : Int) : Int := t / 1000000000

/-- the instant at which a second begins -/
def ofUnixSec (s : Int) : Int := s * 1000000000

/-- the instant with its nanoseconds set to zero -/
def floorSec (t : Int) : Int := ofUnixSec (unixSec t)

/-- an instant without a fraction of a second -/
def WholeSec (t : Int) : Prop := floorSec t = t

instance (t : Int) : Decidable (WholeSec t) := inferInstanceAs (Decidable (floorSec t = t))

/-- 2000-01-01T00:00:00Z, where the microseconds of a `TIMESTAMPTZ` count from -/
def pgEpoch : Int := 946684800000000000

/-- the instant that a `TIMESTAMPTZ` column gives back -/
def pgTimestamp (t : Int) : Int := pgEpoch + (t - pgEpoch).tdiv 1000 * 1000

/-- a duration in seconds, as nanoseconds -/
def seconds (n : Int) : Int := n * 1000000000

/-- a duration in days, as nanoseconds -/
def days (n : Int) : Int := seconds (n * 86400)

/-- a duration in minutes, as nanoseconds -/
def minutes (n : Int) : Int := seconds (n * 60)

/-- a duration in hours, as nanoseconds -/
def hours (n : Int) : Int := seconds (n * 3600)

/-! ## Whole seconds -/

theorem floorSec_le (t : Int) : floorSec t ≤ t := by
  unfold floorSec ofUnixSec unixSec
  omega

theorem lt_floorSec_add (t : Int) : t < floorSec t + seconds 1 := by
  unfold floorSec ofUnixSec unixSec seconds
  omega

theorem floorSec_mono {s t : Int} (h : s ≤ t) : floorSec s ≤ floorSec t := by
  unfold floorSec ofUnixSec unixSec
  omega

theorem wholeSec_floorSec (t : Int) : WholeSec (floorSec t) := by
  unfold WholeSec floorSec ofUnixSec unixSec
  omega

theorem wholeSec_iff (t : Int) : WholeSec t ↔ t % 1000000000 = 0 := by
  unfold WholeSec floorSec ofUnixSec unixSec
  omega

/-- an instant a whole second before another lies in an earlier second -/
theorem floorSec_lt {s t : Int} (h : s + seconds 1 ≤ t) : floorSec s < floorSec t := by
  unfold floorSec ofUnixSec unixSec
  unfold seconds at h
  omega

/-! ## Microseconds of the database -/

theorem pgTimestamp_of_ge {t : Int} (h : pgEpoch ≤ t) : pgTimestamp t = t - t % 1000 := by
  unfold pgTimestamp
  rw [Int.tdiv_eq_ediv_of_nonneg (by omega)]
  unfold pgEpoch at *
  omega

theorem pgTimestamp_of_le {t : Int} (h : t ≤ pgEpoch) :
    pgTimestamp t = t + (-t) % 1000 := by
  have h1 : (t - pgEpoch).tdiv 1000 = -((pgEpoch - t).tdiv 1000) := by
    rw [← Int.neg_tdiv]
    congr 1
    omega
  unfold pgTimestamp
  rw [h1, Int.tdiv_eq_ediv_of_nonneg (by omega)]
  unfold pgEpoch at *
  omega

theorem pgTimestamp_mono {s t : Int} (h : s ≤ t) : pgTimestamp s ≤ pgTimestamp t := by
  rcases le_total pgEpoch s with hs | hs
  · rw [pgTimestamp_of_ge hs, pgTimestamp_of_ge (le_trans hs h)]
    omega
  · rcases le_total pgEpoch t with ht | ht
    · rw [pgTimestamp_of_le hs, pgTimestamp_of_ge ht]
      unfold pgEpoch at *
      omega
    · rw [pgTimestamp_of_le hs, pgTimestamp_of_le ht]
      omega

/-- instants a microsecond apart are stored as different ones, but for the microsecond before
2000-01-01 and the one after it, which are cut off towards each other -/
theorem pgTimestamp_lt {s t : Int} (h : s + 1000 ≤ t)
    (hepoch : s ≤ pgEpoch - 1000 ∨ pgEpoch + 1000 ≤ t) : pgTimestamp s < pgTimestamp t := by
  rcases le_total pgEpoch s with hs | hs
  · rw [pgTimestamp_of_ge hs, pgTimestamp_of_ge (by omega)]
    omega
  · rcases le_total pgEpoch t with ht | ht
    · rw [pgTimestamp_of_le hs, pgTimestamp_of_ge ht]
      unfold pgEpoch at *
      omega
    · rw [pgTimestamp_of_le hs, pgTimestamp_of_le ht]
      omega

theorem pgTimestamp_of_micros {t : Int} (h : t % 1000 = 0) : pgTimestamp t = t := by
  rcases le_total pgEpoch t with ht | ht
  · rw [pgTimestamp_of_ge ht]
    omega
  · rw [pgTimestamp_of_le ht]
    omega

theorem pgTimestamp_mod (t : Int) : pgTimestamp t % 1000 = 0 := by
  unfold pgTimestamp pgEpoch
  omega

theorem pgTimestamp_eq_iff {t : Int} : pgTimestamp t = t ↔ t % 1000 = 0 := by
  constructor
  · intro h
    rw [← h]
    exact pgTimestamp_mod t
  · exact pgTimestamp_of_micros

@[simp] theorem pgTimestamp_idem (t : Int) : pgTimestamp (pgTimestamp t) = pgTimestamp t :=
  pgTimestamp_of_micros (pgTimestamp_mod t)

/-- an instant that the database keeps whole is after all that it cuts off to less -/
theorem lt_of_pgTimestamp_lt {s t : Int} (h : pgTimestamp s < t) (ht : pgTimestamp t = t) : s < t := by
  by_contra hge
  have := pgTimestamp_mono (not_lt.mp hge)
  omega

/-- **a whole second survives the database** -/
theorem WholeSec.pgTimestamp_eq {t : Int} (h : WholeSec t) : pgTimestamp t = t := by
  apply pgTimestamp_of_micros
  have := (wholeSec_iff t).mp h
  omega

end Base
