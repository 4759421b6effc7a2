import Proofplane.Base.Clock
import Proofplane.Base.Digits

/-!
# Clock readings as texts

`2026-01-01T00:00:00.5+00:00`: RFC 3339 has four digits for the year.  A writer that comes to another year
puts a sign before it, and no reader takes that.

* `InstantText`             a writer and a reader, `Faithful` what they owe each other;
* `Rfc3339.write`, `Rfc3339.read`   the format: a fraction in three, six or nine digits on the one side,
                            and any digits and offset on the other;
* `rfc3339_faithful`        **a text gives its reading back if the year has four digits, and else none**.
-/

namespace Base

/-- a writer and a reader of readings in UTC -/
structure InstantText where
  toRfc3339 : ClockInstant → String
  parseFromRfc3339 : String → Option ClockInstant

/-- the text of a year of four digits is read back, that of another year is refused -/
structure InstantText.Faithful (W : InstantText) : Prop where
  reads : ∀ t : ClockInstant, t.FourDigitYear → W.parseFromRfc3339 (W.toRfc3339 t) = some t
  refuses : ∀ t : ClockInstant, ¬ t.FourDigitYear → W.parseFromRfc3339 (W.toRfc3339 t) = none

namespace Rfc3339

/-! ## Writing -/

/-- a number in `k` digits -/
def decimal (k n : Nat) : List Char := (fixedDigits 10 k n).map Nat.digitChar

/-- a year, with a sign if four digits do not do -/
def yearText (year : Int) : List Char :=
  if 0 ≤ year ∧ year ≤ 9999 then decimal 4 year.toNat
  else
    let digits := Nat.toDigits 10 year.natAbs
    (if year < 0 then '-' else '+') :: (List.replicate (4 - digits.length) '0' ++ digits)

/-- the fraction of a second, without the thousands that it does not need -/
def fractionText (nano : Nat) : List Char :=
  if nano = 0 then []
  else if nano % 1000000 = 0 then '.' :: decimal 3 (nano / 1000000)
  else if nano % 1000 = 0 then '.' :: decimal 6 (nano / 1000)
  else '.' :: decimal 9 nano

/-- the characters of a reading; a leap second is the second 60 -/
def write (t : ClockInstant) : List Char :=
  let date := civilOfDays (t.sec / 86400)
  let ofDay := (t.sec % 86400).toNat
  let second := if t.LeapSecond then 60 else ofDay % 60
  yearText date.year ++ '-' :: decimal 2 date.month ++ '-' :: decimal 2 date.day ++ 'T' ::
    decimal 2 (ofDay / 3600) ++ ':' :: decimal 2 (ofDay / 60 % 60) ++ ':' :: decimal 2 second ++
    fractionText (t.nano % 1000000000) ++ ['+', '0', '0', ':', '0', '0']

/-! ## Reading -/

/-- the number of the next `k` characters, which are digits, and what is behind them -/
def number (k : Nat) (s : List Char) : Option (Nat × List Char) :=
  let digits := s.take k
  if digits.length = k ∧ digits.all Char.isDigit then
    some (digitsValue 10 (digits.map fun c => c.toNat - '0'.toNat), s.drop k)
  else none

/-- one given character -/
def char (c : Char) : List Char → Option (List Char)
  | [] => none
  | d :: s => if d = c then some s else none

/-- between the date and the time -/
def dateEnd : List Char → Option (List Char)
  | [] => none
  | d :: s => if d = 'T' ∨ d = 't' ∨ d = ' ' then some s else none

/-- the nanoseconds of some digits, of which nine count -/
def nanosecond (s : List Char) : Option (Nat × List Char) :=
  let digits := s.takeWhile Char.isDigit
  if digits = [] then none
  else
    let kept := digits.take 9
    some (digitsValue 10 (kept.map fun c => c.toNat - '0'.toNat) * 10 ^ (9 - kept.length),
      s.dropWhile Char.isDigit)

def fraction : List Char → Option (Nat × List Char)
  | '.' :: s => nanosecond s
  | s => some (0, s)

/-- hours and minutes of an offset, in seconds -/
def offsetTime (s : List Char) : Option (Int × List Char) := do
  let (hours, s) ← number 2 s
  let s ← char ':' s
  let (minutes, s) ← number 2 s
  if hours ≤ 23 ∧ minutes ≤ 59 then some (hours * 3600 + minutes * 60, s) else none

/-- the offset from UTC, in seconds -/
def offset : List Char → Option (Int × List Char)
  | [] => none
  | d :: s =>
    if d = 'Z' ∨ d = 'z' then some (0, s)
    else if d = '+' then offsetTime s
    else if d = '-' ∨ d = '−' then (offsetTime s).map fun r => (-r.1, r.2)
    else none

/-- a reading, if it is one -/
def instantOf? (sec : Int) (nano : Nat) : Option ClockInstant :=
  if h : nano < 1000000000 ∨ nano < 2000000000 ∧ sec % 60 = 59 then some ⟨sec, nano, h⟩ else none

/-- the reading of a date and a time at an offset; the date has to exist, and the second 60 is a leap one -/
def resolve (date : CivilDate) (hour minute second nano : Nat) (offset : Int) : Option ClockInstant :=
  if civilOfDays (daysOfCivil date) = date ∧ hour ≤ 23 ∧ minute ≤ 59 ∧ second ≤ 60 then
    let local' := daysOfCivil date * 86400 + (hour * 3600 + minute * 60 + min second 59 : Nat)
    instantOf? (local' - offset) (if second = 60 then nano + 1000000000 else nano)
  else none

def read (s : List Char) : Option ClockInstant := do
  let (year, s) ← number 4 s
  let s ← char '-' s
  let (month, s) ← number 2 s
  let s ← char '-' s
  let (day, s) ← number 2 s
  let s ← dateEnd s
  let (hour, s) ← number 2 s
  let s ← char ':' s
  let (minute, s) ← number 2 s
  let s ← char ':' s
  let (second, s) ← number 2 s
  let (nano, s) ← fraction s
  let (offset, s) ← offset s
  if s = [] then resolve ⟨year, month, day⟩ hour minute second nano offset else none

/-! ## Reading what was written -/

theorem digitChar_isDigit : ∀ d < 10, (Nat.digitChar d).isDigit = true := by decide

theorem digitChar_value : ∀ d < 10, (Nat.digitChar d).toNat - '0'.toNat = d := by decide

theorem decimal_isDigit (k n : Nat) : ∀ c ∈ decimal k n, c.isDigit = true := by
  intro c hc
  obtain ⟨d, hd, rfl⟩ := List.mem_map.mp hc
  exact digitChar_isDigit d (fixedDigits_lt (by decide) d hd)

@[simp] theorem length_decimal (k n : Nat) : (decimal k n).length = k := by
  unfold decimal
  rw [List.length_map, length_fixedDigits]

theorem decimal_value {k n : Nat} (h : n < 10 ^ k) :
    digitsValue 10 ((decimal k n).map fun c => c.toNat - '0'.toNat) = n := by
  have hmap : (decimal k n).map (fun c => c.toNat - '0'.toNat) = fixedDigits 10 k n := by
    unfold decimal
    rw [List.map_map]
    refine (List.map_congr_left fun d hd => ?_).trans (List.map_id _)
    exact digitChar_value d (fixedDigits_lt (by decide) d hd)
  rw [hmap, digitsValue_fixedDigits, Nat.mod_eq_of_lt h]

theorem number_decimal {k n : Nat} (h : n < 10 ^ k) (s : List Char) :
    number k (decimal k n ++ s) = some (n, s) := by
  unfold number
  dsimp only
  rw [List.take_left' (length_decimal k n), List.drop_left' (length_decimal k n), decimal_value h]
  exact if_pos ⟨length_decimal k n, List.all_eq_true.mpr (decimal_isDigit k n)⟩

@[simp] theorem char_cons (c : Char) (s : List Char) : char c (c :: s) = some s := if_pos rfl

theorem nanosecond_decimal {k n : Nat} (hk : 0 < k) (h9 : k ≤ 9) (h : n < 10 ^ k) {c : Char}
    (hc : c.isDigit = false) (s : List Char) : nanosecond (decimal k n ++ c :: s) = some (n * 10 ^ (9 - k), c :: s) := by
  have htake : (decimal k n ++ c :: s).takeWhile Char.isDigit = decimal k n := by
    rw [List.takeWhile_append_of_pos (decimal_isDigit k n), List.takeWhile_cons_of_neg (by rw [hc]; decide),
      List.append_nil]
  have hdrop : (decimal k n ++ c :: s).dropWhile Char.isDigit = c :: s := by
    rw [List.dropWhile_append_of_pos (decimal_isDigit k n), List.dropWhile_cons_of_neg (by rw [hc]; decide)]
  have hne : decimal k n ≠ [] := by
    intro hnil
    have hlen := congrArg List.length hnil
    rw [length_decimal, List.length_nil] at hlen
    omega
  unfold nanosecond
  dsimp only
  rw [htake, hdrop, if_neg hne, List.take_of_length_le (by rw [length_decimal]; exact h9), decimal_value h,
    length_decimal]

theorem fraction_fractionText {nano : Nat} (h : nano < 1000000000) (s : List Char) :
    fraction (fractionText nano ++ '+' :: s) = some (nano, '+' :: s) := by
  have hplus : ('+').isDigit = false := by decide
  unfold fractionText
  split
  · next hzero =>
    rw [hzero]
    rfl
  · split
    · next hmillis =>
      show nanosecond (decimal 3 (nano / 1000000) ++ '+' :: s) = _
      rw [nanosecond_decimal (by decide) (by decide) (by omega) hplus]
      have hback : nano / 1000000 * 10 ^ (9 - 3) = nano := by omega
      rw [hback]
    · split
      · next hmicros =>
        show nanosecond (decimal 6 (nano / 1000) ++ '+' :: s) = _
        rw [nanosecond_decimal (by decide) (by decide) (by omega) hplus]
        have hback : nano / 1000 * 10 ^ (9 - 6) = nano := by omega
        rw [hback]
      · show nanosecond (decimal 9 nano ++ '+' :: s) = _
        rw [nanosecond_decimal (by decide) (by decide) (by omega) hplus]
        have hback : nano * 10 ^ (9 - 9) = nano := by omega
        rw [hback]

/-- the date and the time of a reading are those of the reading -/
theorem resolve_civilOfDays (t : ClockInstant) :
    resolve (civilOfDays (t.sec / 86400)) ((t.sec % 86400).toNat / 3600) ((t.sec % 86400).toNat / 60 % 60)
      (if t.LeapSecond then 60 else (t.sec % 86400).toNat % 60) (t.nano % 1000000000) 0 = some t := by
  have hvalid := t.valid
  unfold resolve
  rw [daysOfCivil_civilOfDays]
  by_cases hleap : t.LeapSecond
  · have hnano : 1000000000 ≤ t.nano := hleap
    have hsec : t.sec / 86400 * 86400 + ((t.sec % 86400).toNat / 3600 * 3600 +
        (t.sec % 86400).toNat / 60 % 60 * 60 + min 60 59 : Nat) - 0 = t.sec := by omega
    have hback : t.nano % 1000000000 + 1000000000 = t.nano := by omega
    rw [if_pos hleap, if_pos ⟨rfl, by omega, by omega, by omega⟩]
    dsimp only
    rw [if_pos rfl, hsec, hback]
    exact dif_pos hvalid
  · have hnano : t.nano < 1000000000 := Nat.not_le.mp hleap
    have hsec : t.sec / 86400 * 86400 + ((t.sec % 86400).toNat / 3600 * 3600 +
        (t.sec % 86400).toNat / 60 % 60 * 60 + min ((t.sec % 86400).toNat % 60) 59 : Nat) - 0 = t.sec := by
      omega
    have hback : t.nano % 1000000000 = t.nano := by omega
    rw [if_neg hleap, if_pos ⟨rfl, by omega, by omega, by omega⟩]
    dsimp only
    rw [if_neg (by omega), hsec, hback]
    exact dif_pos hvalid

/-- **What was written in four digits is read back.** -/
theorem read_write {t : ClockInstant} (h : t.FourDigitYear) : read (write t) = some t := by
  obtain ⟨hyear, hyear'⟩ : 0 ≤ (civilOfDays (t.sec / 86400)).year ∧
    (civilOfDays (t.sec / 86400)).year ≤ 9999 := h
  obtain ⟨-, hmonth, -, hday⟩ := civilOfDays_bounds (t.sec / 86400)
  have hsecond : (if t.LeapSecond then 60 else (t.sec % 86400).toNat % 60) < 10 ^ 2 := by
    split
    · decide
    · omega
  have hoffset : offset ['+', '0', '0', ':', '0', '0'] = some (0, []) := by decide
  have hdate : (⟨((civilOfDays (t.sec / 86400)).year.toNat : Int), (civilOfDays (t.sec / 86400)).month,
      (civilOfDays (t.sec / 86400)).day⟩ : CivilDate) = civilOfDays (t.sec / 86400) := by
    rw [Int.toNat_of_nonneg hyear]
  unfold read write yearText
  dsimp only
  rw [if_pos ⟨hyear, hyear'⟩]
  simp only [List.append_assoc, List.cons_append, Option.bind_eq_bind]
  rw [number_decimal (by omega)]
  simp only [Option.bind_some, char_cons]
  rw [number_decimal (by omega)]
  simp only [Option.bind_some, char_cons]
  rw [number_decimal (by omega)]
  simp only [Option.bind_some, dateEnd, true_or, if_true]
  rw [number_decimal (by omega)]
  simp only [Option.bind_some, char_cons]
  rw [number_decimal (by omega)]
  simp only [Option.bind_some, char_cons]
  rw [number_decimal hsecond]
  simp only [Option.bind_some]
  rw [fraction_fractionText (by omega)]
  simp only [Option.bind_some]
  rw [hoffset]
  simp only [Option.bind_some, if_true]
  rw [hdate]
  exact resolve_civilOfDays t

/-- a sign is no digit of a year -/
theorem read_sign {c : Char} (hc : c.isDigit = false) (s : List Char) : read (c :: s) = none := by
  have hnumber : number 4 (c :: s) = none := by
    unfold number
    dsimp only
    rw [List.take_succ_cons, List.all_cons, hc]
    exact if_neg fun h => (by cases h.2)
  unfold read
  rw [hnumber]
  rfl

/-- and what was written with a sign is not -/
theorem read_write_none {t : ClockInstant} (h : ¬ t.FourDigitYear) : read (write t) = none := by
  have hyear : ¬ (0 ≤ (civilOfDays (t.sec / 86400)).year ∧ (civilOfDays (t.sec / 86400)).year ≤ 9999) := h
  unfold write yearText
  dsimp only
  rw [if_neg hyear]
  refine read_sign ?_ _
  split
  · decide
  · decide

end Rfc3339

/-- the format -/
def rfc3339 : InstantText where
  toRfc3339 t := String.ofList (Rfc3339.write t)
  parseFromRfc3339 s := Rfc3339.read s.toList

theorem rfc3339_faithful : rfc3339.Faithful where
  reads _ h := (congrArg Rfc3339.read String.toList_ofList).trans (Rfc3339.read_write h)
  refuses _ h := (congrArg Rfc3339.read String.toList_ofList).trans (Rfc3339.read_write_none h)

/-- half a second into a leap second -/
example : rfc3339.toRfc3339 ⟨1483228799, 1500000000, by decide⟩ = "2016-12-31T23:59:60.500+00:00" := by decide

end Base
