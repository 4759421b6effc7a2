import Proofplane.Base.Time

/-!
# Clock readings

An instant as a clock shows it, which can be a leap second: `23:59:60` is a second 59 with a thousand
million nanoseconds or more.  Readings are compared by the second first.  A `TIMESTAMPTZ` column knows no
leap second: it keeps the count of microseconds, which runs into the minute behind it.

* `ClockInstant`            a reading, `nanos` its count and `ofNanos` the reading of a count;
* `pgTimestamp_eq_iff`      **a column gives a reading back if it is in whole microseconds and no leap
                            second**;
* `CivilDate`, `civilOfDays`, `daysOfCivil`   the Gregorian calendar, `daysOfCivil_civilOfDays` the way back;
* `FourDigitYear`           the years that four digits write.
-/

namespace Base

/-! ## Readings -/

/-- seconds since the Unix epoch, and nanoseconds in the second -/
structure ClockInstant where
  sec : Int
  nano : Nat
  valid : nano < 1000000000 ∨ nano < 2000000000 ∧ sec % 60 = 59
  deriving DecidableEq, Repr

namespace ClockInstant
variable {s t : ClockInstant}

/-- between two minutes -/
def LeapSecond (t : ClockInstant) : Prop := 1000000000 ≤ t.nano

instance (t : ClockInstant) : Decidable t.LeapSecond := inferInstanceAs (Decidable (_ ≤ _))

/-- the reading is the earlier one -/
def before (s t : ClockInstant) : Bool :=
  decide (s.sec < t.sec) || (decide (s.sec = t.sec) && decide (s.nano < t.nano))

/-- the nanoseconds since the Unix epoch, of which a leap second has one more second -/
def nanos (t : ClockInstant) : Int := ofUnixSec t.sec + t.nano

/-- the reading of a count -/
def ofNanos (n : Int) : ClockInstant :=
  ⟨unixSec n, (n % 1000000000).toNat, .inl (by omega)⟩

/-- the reading that a `TIMESTAMPTZ` column gives back -/
def pgTimestamp (t : ClockInstant) : ClockInstant := ofNanos (Base.pgTimestamp t.nanos)

theorem ext_iff' : s = t ↔ s.sec = t.sec ∧ s.nano = t.nano := by
  cases s
  cases t
  rw [mk.injEq]

@[simp] theorem nanos_ofNanos (n : Int) : (ofNanos n).nanos = n := by
  show unixSec n * 1000000000 + ((n % 1000000000).toNat : Int) = n
  unfold unixSec
  omega

theorem ofNanos_nanos (h : ¬ t.LeapSecond) : ofNanos t.nanos = t := by
  have hlt : t.nano < 1000000000 := Nat.not_le.mp h
  rw [ext_iff']
  show (t.sec * 1000000000 + t.nano) / 1000000000 = t.sec ∧
    ((t.sec * 1000000000 + t.nano) % 1000000000).toNat = t.nano
  omega

theorem not_leapSecond_ofNanos (n : Int) : ¬ (ofNanos n).LeapSecond := by
  show ¬ 1000000000 ≤ (n % 1000000000).toNat
  omega

@[simp] theorem nanos_pgTimestamp (t : ClockInstant) : t.pgTimestamp.nanos = Base.pgTimestamp t.nanos :=
  nanos_ofNanos _

@[simp] theorem pgTimestamp_idem (t : ClockInstant) : t.pgTimestamp.pgTimestamp = t.pgTimestamp := by
  show ofNanos (Base.pgTimestamp t.pgTimestamp.nanos) = t.pgTimestamp
  rw [nanos_pgTimestamp, Base.pgTimestamp_idem]
  rfl

/-- **Only whole microseconds outside of the leap seconds come back from a column.** -/
theorem pgTimestamp_eq_iff : t.pgTimestamp = t ↔ t.nano % 1000 = 0 ∧ ¬ t.LeapSecond := by
  have hmod : t.nanos % 1000 = 0 ↔ t.nano % 1000 = 0 := by
    show (t.sec * 1000000000 + t.nano) % 1000 = 0 ↔ _
    omega
  constructor
  · intro h
    have hnanos : Base.pgTimestamp t.nanos = t.nanos := by rw [← nanos_pgTimestamp, h]
    refine ⟨hmod.mp (Base.pgTimestamp_eq_iff.mp hnanos), ?_⟩
    rw [← h]
    exact not_leapSecond_ofNanos _
  · rintro ⟨hmicros, hleap⟩
    show ofNanos (Base.pgTimestamp t.nanos) = t
    rw [Base.pgTimestamp_eq_iff.mpr (hmod.mpr hmicros), ofNanos_nanos hleap]

end ClockInstant

/-! ## The calendar -/

structure CivilDate where
  year : Int
  month : Nat
  day : Nat
  deriving DecidableEq, Repr

/-- the year of an era of four hundred years, and the day of that year.  Years begin in March here, so that
a leap day is the last of its year; a century has 36524 days, four years have 1461. -/
def yearOfEra (ofEra : Nat) : Nat × Nat :=
  let century := min (ofEra / 36524) 3
  let ofCentury := ofEra - 36524 * century
  let year := min (ofCentury % 1461 / 365) 3
  (100 * century + 4 * (ofCentury / 1461) + year, ofCentury % 1461 - 365 * year)

/-- the date of a day since the Unix epoch -/
def civilOfDays (z : Int) : CivilDate :=
  let era := (z + 719468) / 146097
  let (year, ofYear) := yearOfEra ((z + 719468) % 146097).toNat
  let month := (5 * ofYear + 2) / 153
  ⟨era * 400 + year + (if month < 10 then 0 else 1), if month < 10 then month + 3 else month - 9,
    ofYear - (153 * month + 2) / 5 + 1⟩

/-- the days from the Unix epoch to a day of a year, both beginning in March -/
def daysOfYear (year : Int) (ofYear : Nat) : Int :=
  let ofEra := (year % 400).toNat
  year / 400 * 146097 + (365 * ofEra + ofEra / 4 - ofEra / 100 + ofYear : Nat) - 719468

/-- the day of a date since the Unix epoch -/
def daysOfCivil (d : CivilDate) : Int :=
  if d.month ≤ 2 then daysOfYear (d.year - 1) ((153 * (d.month + 9) + 2) / 5 + d.day - 1)
  else daysOfYear d.year ((153 * (d.month - 3) + 2) / 5 + d.day - 1)

example : civilOfDays 0 = ⟨1970, 1, 1⟩ ∧ civilOfDays 11016 = ⟨2000, 2, 29⟩ ∧
    civilOfDays (-719529) = ⟨-1, 12, 31⟩ ∧ civilOfDays 2932897 = ⟨10000, 1, 1⟩ := by decide

/-- the years of some centuries, of some times four years and of three years at most -/
theorem years_before (century : Nat) {four year : Nat} (hfour : four ≤ 24) (hyear : year ≤ 3) :
    (100 * century + 4 * four + year) / 4 = 25 * century + four ∧
      (100 * century + 4 * four + year) / 100 = century := by
  omega

/-- the days of the years before, and the day of the year -/
theorem yearOfEra_days {ofEra : Nat} (h : ofEra < 146097) :
    (yearOfEra ofEra).1 < 400 ∧ (yearOfEra ofEra).2 ≤ 365 ∧
      365 * (yearOfEra ofEra).1 + (yearOfEra ofEra).1 / 4 - (yearOfEra ofEra).1 / 100 + (yearOfEra ofEra).2
        = ofEra := by
  unfold yearOfEra
  dsimp only
  have hcentury : min (ofEra / 36524) 3 ≤ 3 ∧ 36524 * min (ofEra / 36524) 3 ≤ ofEra ∧
      ofEra - 36524 * min (ofEra / 36524) 3 ≤ 36524 := by omega
  generalize min (ofEra / 36524) 3 = century at *
  obtain ⟨hc, hle, hof⟩ := hcentury
  generalize hrest : ofEra - 36524 * century = ofCentury at *
  have hfour : ofCentury / 1461 ≤ 24 := by omega
  have hyear : min (ofCentury % 1461 / 365) 3 ≤ 3 ∧
      365 * min (ofCentury % 1461 / 365) 3 ≤ ofCentury % 1461 ∧
      ofCentury % 1461 - 365 * min (ofCentury % 1461 / 365) 3 ≤ 365 := by omega
  generalize min (ofCentury % 1461 / 365) 3 = year at *
  obtain ⟨hy, hyle, hday⟩ := hyear
  obtain ⟨h4, h100⟩ := years_before century hfour hy
  rw [h4, h100]
  refine ⟨by omega, hday, ?_⟩
  omega

/-- the month of a day of the year, and the days of the months before -/
theorem monthOfYear_days {ofYear : Nat} (h : ofYear ≤ 365) :
    (5 * ofYear + 2) / 153 ≤ 11 ∧ (153 * ((5 * ofYear + 2) / 153) + 2) / 5 ≤ ofYear ∧
      ofYear ≤ (153 * ((5 * ofYear + 2) / 153) + 2) / 5 + 30 := by
  omega

/-- the months and days of dates -/
theorem civilOfDays_bounds (z : Int) :
    1 ≤ (civilOfDays z).month ∧ (civilOfDays z).month ≤ 12 ∧ 1 ≤ (civilOfDays z).day ∧
      (civilOfDays z).day ≤ 31 := by
  have hera : ((z + 719468) % 146097).toNat < 146097 := by omega
  obtain ⟨-, hyear, -⟩ := yearOfEra_days hera
  obtain ⟨hmonth, hbefore, hafter⟩ := monthOfYear_days hyear
  unfold civilOfDays
  dsimp only
  refine ⟨?_, ?_, by omega, by omega⟩
  · split
    · omega
    · omega
  · split
    · omega
    · omega

/-- **Every day is that of its date.** -/
theorem daysOfCivil_civilOfDays (z : Int) : daysOfCivil (civilOfDays z) = z := by
  have hera : ((z + 719468) % 146097).toNat < 146097 := by omega
  obtain ⟨hyear, hday, hsum⟩ := yearOfEra_days hera
  obtain ⟨hmonth, hbefore, -⟩ := monthOfYear_days hday
  unfold civilOfDays
  generalize yearOfEra ((z + 719468) % 146097).toNat = y at *
  obtain ⟨year, ofYear⟩ := y
  dsimp only at *
  generalize (5 * ofYear + 2) / 153 = month at *
  have hback : daysOfYear ((z + 719468) / 146097 * 400 + year) ofYear = z := by
    have hdiv : ((z + 719468) / 146097 * 400 + (year : Int)) / 400 = (z + 719468) / 146097 := by omega
    have hmod : (((z + 719468) / 146097 * 400 + (year : Int)) % 400).toNat = year := by omega
    unfold daysOfYear
    dsimp only
    rw [hdiv, hmod, hsum]
    omega
  unfold daysOfCivil
  dsimp only
  -- ten months after February, two in the next year
  by_cases hm : month < 10
  · have hday' : (153 * (month + 3 - 3) + 2) / 5 + (ofYear - (153 * month + 2) / 5 + 1) - 1 = ofYear := by
      rw [Nat.add_sub_cancel]
      omega
    rw [if_pos hm, if_pos hm, if_neg (by omega), hday', Int.add_zero]
    exact hback
  · have hday' : (153 * (month - 9 + 9) + 2) / 5 + (ofYear - (153 * month + 2) / 5 + 1) - 1 = ofYear := by
      rw [Nat.sub_add_cancel (by omega)]
      omega
    rw [if_neg hm, if_neg hm, if_pos (by omega), hday', Int.add_sub_cancel]
    exact hback

/-! ## Years of four digits -/

namespace ClockInstant

/-- the year of a reading, in UTC -/
def year (t : ClockInstant) : Int := (civilOfDays (t.sec / 86400)).year

def FourDigitYear (t : ClockInstant) : Prop := 0 ≤ t.year ∧ t.year ≤ 9999

instance (t : ClockInstant) : Decidable t.FourDigitYear := inferInstanceAs (Decidable (_ ∧ _))

end ClockInstant

end Base
