import Proofplane.Base.Digits
import Proofplane.Base.Text
import Mathlib.Data.BitVec
import Mathlib.Tactic.IntervalCases

/-!
# The text of a UUID

A UUID is 128 bits.  It is written as 32 lower-case hexadecimal digits in groups of 8, 4, 4, 4 and
12, and read back from that form or from one of three others (no hyphens, in braces, as a URN).

* `Uuid.text`          the hyphenated form;
* `Uuid.parseStr`      the reader of all four forms;
* `Uuid.parseStr_text` **reading back what was written**, so `text` is injective.
-/

namespace Base

/-- the 128 bits of a UUID -/
abbrev Uuid := BitVec 128

namespace Uuid

/-! ## Hexadecimal digits -/

/-- the lower-case digit of a number below 16 -/
def hexDigit (d : Nat) : Char := if d < 10 then Char.ofNat (48 + d) else Char.ofNat (87 + d)

/-- the value of a hexadecimal digit in either case -/
def hexVal (c : Char) : Option Nat :=
  let n := c.toNat
  if 48 ≤ n ∧ n ≤ 57 then some (n - 48)
  else if 97 ≤ n ∧ n ≤ 102 then some (n - 87)
  else if 65 ≤ n ∧ n ≤ 70 then some (n - 55)
  else none

theorem hexVal_hexDigit {d : Nat} (h : d < 16) : hexVal (hexDigit d) = some d := by
  interval_cases d <;> rfl

/-- the last `k` hexadecimal digits of a number, the first of them first -/
def nibbles : Nat → Nat → List Nat
  | 0, _ => []
  | k + 1, n => nibbles k (n / 16) ++ [n % 16]

/-- the number with these digits -/
def ofNibbles (ds : List Nat) : Nat := ds.foldl (fun a d => a * 16 + d) 0

theorem nibbles_eq (k n : Nat) : nibbles k n = fixedDigits 16 k n := by
  induction k generalizing n with
  | zero => rfl
  | succ k ih => rw [nibbles, ih, fixedDigits]

theorem ofNibbles_eq (ds : List Nat) : ofNibbles ds = digitsValue 16 ds := rfl

theorem length_nibbles (k n : Nat) : (nibbles k n).length = k := by
  rw [nibbles_eq, length_fixedDigits]

theorem nibbles_lt (k n : Nat) : ∀ d ∈ nibbles k n, d < 16 := by
  rw [nibbles_eq]
  exact fixedDigits_lt (by decide)

theorem ofNibbles_nibbles (k n : Nat) : ofNibbles (nibbles k n) = n % 16 ^ k := by
  rw [nibbles_eq, ofNibbles_eq, digitsValue_fixedDigits]

/-- the digits of a text -/
def hexVals : List Char → Option (List Nat)
  | [] => some []
  | c :: cs => (hexVal c).bind fun d => (hexVals cs).map (d :: ·)

theorem hexVals_map (ds : List Nat) (h : ∀ d ∈ ds, d < 16) :
    hexVals (ds.map hexDigit) = some ds := by
  induction ds with
  | nil => rfl
  | cons d ds ih =>
    rw [List.map_cons, hexVals, hexVal_hexDigit (h d List.mem_cons_self),
      ih fun e he => h e (List.mem_cons_of_mem d he)]
    rfl

/-! ## Groups -/

/-- a hyphen after each group but the last -/
def hyphenate : List Nat → List Char → List Char
  | n :: m :: gs, cs => cs.take n ++ '-' :: hyphenate (m :: gs) (cs.drop n)
  | _, cs => cs

/-- the text without its hyphens, if they separate groups of these lengths -/
def dehyphenate : List Nat → List Char → Option (List Char)
  | [], cs => if cs = [] then some [] else none
  | [n], cs => if cs.length = n then some cs else none
  | n :: m :: gs, cs =>
    match cs.drop n with
    | '-' :: rest => (dehyphenate (m :: gs) rest).map (cs.take n ++ ·)
    | _ => none

theorem dehyphenate_hyphenate (gs : List Nat) (cs : List Char) (h : cs.length = gs.sum) :
    dehyphenate gs (hyphenate gs cs) = some cs := by
  induction gs generalizing cs with
  | nil =>
    have : cs = [] := List.length_eq_zero_iff.mp h
    rw [this]
    rfl
  | cons n gs ih =>
    cases gs with
    | nil =>
      have hlen : cs.length = n := by
        rw [h]
        simp
      show (if cs.length = n then some cs else none) = some cs
      rw [if_pos hlen]
    | cons m gs =>
      have hlen : cs.length = n + (m :: gs).sum := by
        rw [h, List.sum_cons]
      have htake : (cs.take n).length = n := by
        rw [List.length_take]
        omega
      have hrest : (cs.drop n).length = (m :: gs).sum := by
        rw [List.length_drop]
        omega
      have hdrop : (cs.take n ++ '-' :: hyphenate (m :: gs) (cs.drop n)).drop n
          = '-' :: hyphenate (m :: gs) (cs.drop n) := by
        rw [List.drop_append_of_le_length (by omega), List.drop_of_length_le (by omega)]
        rfl
      have hpre : (cs.take n ++ '-' :: hyphenate (m :: gs) (cs.drop n)).take n = cs.take n := by
        rw [List.take_append_of_le_length (by omega), List.take_of_length_le (by omega)]
      show (match (cs.take n ++ '-' :: hyphenate (m :: gs) (cs.drop n)).drop n with
        | '-' :: rest => (dehyphenate (m :: gs) rest).map
            ((cs.take n ++ '-' :: hyphenate (m :: gs) (cs.drop n)).take n ++ ·)
        | _ => none) = some cs
      rw [hdrop, hpre]
      show (dehyphenate (m :: gs) (hyphenate (m :: gs) (cs.drop n))).map (cs.take n ++ ·) = some cs
      rw [ih (cs.drop n) hrest, Option.map_some, List.take_append_drop]

/-! ## UUIDs -/

/-- the lengths of the groups -/
def groups : List Nat := [8, 4, 4, 4, 12]

/-- the hyphenated lower-case form -/
def text (u : Uuid) : String :=
  String.ofList (hyphenate groups ((nibbles 32 u.toNat).map hexDigit))

/-- 32 digits as a UUID -/
def ofDigits (cs : List Char) : Option Uuid :=
  if cs.length = 32 then (hexVals cs).map fun ds => BitVec.ofNat 128 (ofNibbles ds) else none

/-- the text between a first and a last brace -/
def unbrace (cs : List Char) : Option (List Char) :=
  match cs with
  | '{' :: rest => if rest.getLast? = some '}' then some rest.dropLast else none
  | _ => none

/-- the reader: 32 digits, the hyphenated form, that form in braces, or as a URN -/
def parseStr (s : String) : Option Uuid :=
  let cs := s.toList
  if cs.length = 32 then ofDigits cs
  else if cs.length = 36 then (dehyphenate groups cs).bind ofDigits
  else if cs.length = 38 then (unbrace cs).bind fun cs => (dehyphenate groups cs).bind ofDigits
  else if cs.length = 45 then
    if cs.take 9 = "urn:uuid:".toList then (dehyphenate groups (cs.drop 9)).bind ofDigits else none
  else none

theorem length_hyphenate_groups (cs : List Char) (h : cs.length = 32) :
    (hyphenate groups cs).length = 36 := by
  unfold groups
  simp only [hyphenate, List.length_append, List.length_cons, List.length_take, List.length_drop, h]
  omega

/-- **Reading back what was written.** -/
theorem parseStr_text (u : Uuid) : parseStr (text u) = some u := by
  have hlen : ((nibbles 32 u.toNat).map hexDigit).length = 32 := by
    rw [List.length_map, length_nibbles]
  have htext : (text u).toList = hyphenate groups ((nibbles 32 u.toNat).map hexDigit) :=
    String.toList_ofList
  have hdigits : ofDigits ((nibbles 32 u.toNat).map hexDigit) = some u := by
    unfold ofDigits
    rw [if_pos hlen, hexVals_map _ (nibbles_lt 32 u.toNat), Option.map_some, ofNibbles_nibbles]
    have hlt : u.toNat < 16 ^ 32 := u.isLt
    rw [Nat.mod_eq_of_lt hlt, BitVec.ofNat_toNat, BitVec.setWidth_eq]
  unfold parseStr
  rw [htext]
  simp only [length_hyphenate_groups _ hlen]
  rw [dehyphenate_hyphenate groups _ hlen]
  simpa using hdigits

/-- the text of a UUID is never blank: it has a hyphen -/
theorem isBlank_text (u : Uuid) : isBlank u.text = false := by
  have hmem : '-' ∈ u.text.toList := by
    have htext : u.text.toList = hyphenate groups ((nibbles 32 u.toNat).map hexDigit) :=
      String.toList_ofList
    rw [htext]
    exact List.mem_append_right _ List.mem_cons_self
  unfold isBlank
  rw [List.all_eq_false]
  exact ⟨'-', hmem, by decide⟩

theorem text_injective {u v : Uuid} (h : text u = text v) : u = v := by
  have hu := parseStr_text u
  rw [h, parseStr_text v] at hu
  exact (Option.some.inj hu).symm

end Uuid

end Base
