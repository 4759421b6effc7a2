import Mathlib.Data.List.Basic

/-!
# Text

Strings of Unicode scalar values, worked on as lists of characters so that every definition
evaluates in the kernel.

* `isWhitespace`        the `White_Space` property of Unicode;
* `trim`, `isBlank`     cutting white space off both ends, and text that is nothing else;
* `toAsciiLowercase`    `A`–`Z` to `a`–`z`, everything else kept, `trim_toAsciiLowercase`;
* `trimSpaces`          cutting spaces only, as the database does;
* `endsWith`, `stripEnding`, `afterFirst`   the end of a text, and what is behind the first separator;
* `splitAsciiWhitespace`   the words between ASCII white space, `splitAsciiWhitespace_joinSpaces` the
                        way back from their join.
-/

namespace Base

/-- the `White_Space` property of Unicode -/
def isWhitespace (c : Char) : Bool :=
  let n := c.toNat
  (9 ≤ n && n ≤ 13) || n == 0x20 || n == 0x85 || n == 0xA0 || n == 0x1680 ||
    (0x2000 ≤ n && n ≤ 0x200A) || n == 0x2028 || n == 0x2029 || n == 0x202F || n == 0x205F ||
    n == 0x3000

/-- the text without the white space at its two ends -/
def trim (s : String) : String :=
  String.ofList ((s.toList.dropWhile isWhitespace).reverse.dropWhile isWhitespace).reverse

/-- text that is empty or only white space -/
def isBlank (s : String) : Bool := s.toList.all isWhitespace

/-- the ASCII letter in lower case -/
def asciiLower (c : Char) : Char :=
  if 'A'.toNat ≤ c.toNat ∧ c.toNat ≤ 'Z'.toNat then Char.ofNat (c.toNat + 32) else c

/-- the text with its ASCII letters in lower case -/
def toAsciiLowercase (s : String) : String := String.ofList (s.toList.map asciiLower)

theorem dropWhile_idem {α : Type*} (p : α → Bool) (l : List α) :
    (l.dropWhile p).dropWhile p = l.dropWhile p := by
  cases hl : l.dropWhile p with
  | nil => rfl
  | cons a m =>
    have hp : p a = false := by
      have h := List.head?_dropWhile_not p l
      rw [hl] at h
      simpa using h
    rw [List.dropWhile_cons_of_neg (by rw [hp]; exact Bool.false_ne_true)]

/-- a text whose ends are cut off has none left -/
theorem trim_trim (s : String) : trim (trim s) = trim s := by
  have hfront : ∀ l : List Char, l.dropWhile isWhitespace = l →
      (l.reverse.dropWhile isWhitespace).reverse.dropWhile isWhitespace
        = (l.reverse.dropWhile isWhitespace).reverse := by
    intro l hl
    cases hr : (l.reverse.dropWhile isWhitespace).reverse with
    | nil => rfl
    | cons c m =>
      -- its first character is that of the text, which is not white space
      have hprefix : (l.reverse.dropWhile isWhitespace).reverse <+: l := by
        have hsuffix := List.dropWhile_suffix isWhitespace (l := l.reverse)
        have h := List.reverse_prefix.mpr hsuffix
        rwa [List.reverse_reverse] at h
      rw [hr] at hprefix
      obtain ⟨n, hn⟩ := hprefix
      have hc : isWhitespace c = false := by
        by_contra hws
        rw [← hn, List.cons_append,
          List.dropWhile_cons_of_pos (by simpa using hws)] at hl
        have hlen := congrArg List.length hl
        have hle := (List.dropWhile_sublist isWhitespace (l := m ++ n)).length_le
        rw [List.length_cons] at hlen
        omega
      rw [List.dropWhile_cons_of_neg (by rw [hc]; exact Bool.false_ne_true)]
  have hcut := hfront (s.toList.dropWhile isWhitespace) (dropWhile_idem _ _)
  unfold trim
  rw [String.toList_ofList, hcut, List.reverse_reverse, dropWhile_idem]

/-! ## Letters -/

/-- a fact about characters below 128 is one about 128 numbers -/
theorem ascii_cases {p : Char → Prop} (h : ∀ n < 128, p (Char.ofNat n)) {c : Char} (hc : c.toNat < 128) :
    p c := by
  have hp := h c.toNat hc
  rwa [Char.ofNat_toNat] at hp

theorem asciiLower_of_le {c : Char} (h : 128 ≤ c.toNat) : asciiLower c = c := by
  unfold asciiLower
  rw [if_neg]
  intro hletter
  have hle : c.toNat ≤ 90 := hletter.2
  omega

theorem asciiLower_lt {c : Char} (h : c.toNat < 128) : (asciiLower c).toNat < 128 :=
  ascii_cases (p := fun c => (asciiLower c).toNat < 128) (by decide) h

theorem asciiLower_idem (c : Char) : asciiLower (asciiLower c) = asciiLower c := by
  by_cases h : c.toNat < 128
  · exact ascii_cases (p := fun c => asciiLower (asciiLower c) = asciiLower c) (by decide) h
  · rw [asciiLower_of_le (Nat.le_of_not_lt h), asciiLower_of_le (Nat.le_of_not_lt h)]

theorem isWhitespace_asciiLower (c : Char) : isWhitespace (asciiLower c) = isWhitespace c := by
  by_cases h : c.toNat < 128
  · exact ascii_cases (p := fun c => isWhitespace (asciiLower c) = isWhitespace c) (by decide) h
  · rw [asciiLower_of_le (Nat.le_of_not_lt h)]

theorem isUpper_asciiLower (c : Char) : (asciiLower c).isUpper = false := by
  by_cases h : c.toNat < 128
  · exact ascii_cases (p := fun c => (asciiLower c).isUpper = false) (by decide) h
  · rw [asciiLower_of_le (Nat.le_of_not_lt h)]
    unfold Char.isUpper
    have hz : ¬ c.val ≤ 90 := by
      intro hle
      have h' : c.val.toNat ≤ 90 := UInt32.le_iff_toNat_le.mp hle
      have h'' : ¬ c.val.toNat < 128 := h
      omega
    simp [hz]

theorem asciiLower_eq_at {c : Char} : asciiLower c = '@' ↔ c = '@' := by
  by_cases h : c.toNat < 128
  · exact ascii_cases (p := fun c => asciiLower c = '@' ↔ c = '@') (by decide) h
  · rw [asciiLower_of_le (Nat.le_of_not_lt h)]

/-! ## Ends -/

/-- what is cut off is white space -/
theorem trim_parts (s : String) : ∃ a b, s.toList = a ++ (trim s).toList ++ b ∧
    (∀ c ∈ a, isWhitespace c = true) ∧ ∀ c ∈ b, isWhitespace c = true := by
  have hfront := (List.takeWhile_append_dropWhile (p := isWhitespace) (l := s.toList)).symm
  have hback := (List.takeWhile_append_dropWhile (p := isWhitespace)
    (l := (s.toList.dropWhile isWhitespace).reverse)).symm
  refine ⟨s.toList.takeWhile isWhitespace,
    ((s.toList.dropWhile isWhitespace).reverse.takeWhile isWhitespace).reverse, ?_, ?_, ?_⟩
  · unfold trim
    have hrest := congrArg List.reverse hback
    rw [List.reverse_reverse, List.reverse_append] at hrest
    rw [String.toList_ofList, List.append_assoc, ← hrest]
    exact hfront
  · intro c hc
    exact List.all_eq_true.mp List.all_takeWhile c hc
  · intro c hc
    exact List.all_eq_true.mp List.all_takeWhile c (List.mem_reverse.mp hc)

theorem trim_toAsciiLowercase (s : String) : trim (toAsciiLowercase s) = toAsciiLowercase (trim s) := by
  have hcomp : isWhitespace ∘ asciiLower = isWhitespace := funext isWhitespace_asciiLower
  unfold trim toAsciiLowercase
  rw [String.toList_ofList, String.toList_ofList, List.dropWhile_map, hcomp, ← List.map_reverse,
    List.dropWhile_map, hcomp, ← List.map_reverse]

theorem toAsciiLowercase_idem (s : String) : toAsciiLowercase (toAsciiLowercase s) = toAsciiLowercase s := by
  have hcomp : asciiLower ∘ asciiLower = asciiLower := funext asciiLower_idem
  unfold toAsciiLowercase
  rw [String.toList_ofList, List.map_map, hcomp]

/-- a text with no white space at its ends has nothing to cut off at either -/
theorem dropWhile_of_trim {s : String} (h : trim s = s) :
    s.toList.dropWhile isWhitespace = s.toList ∧
      s.toList.reverse.dropWhile isWhitespace = s.toList.reverse := by
  have hlist := congrArg String.toList h
  unfold trim at hlist
  rw [String.toList_ofList] at hlist
  have hsuffix := List.dropWhile_suffix isWhitespace (l := s.toList)
  have hback := List.dropWhile_suffix isWhitespace (l := (s.toList.dropWhile isWhitespace).reverse)
  have hlen := congrArg List.length hlist
  rw [List.length_reverse] at hlen
  have hle := hback.length_le
  rw [hlen, List.length_reverse] at hle
  have hfront : s.toList.dropWhile isWhitespace = s.toList :=
    hsuffix.eq_of_length (Nat.le_antisymm hsuffix.length_le hle)
  rw [hfront] at hlist
  exact ⟨hfront, List.reverse_eq_iff.mp hlist⟩

/-- `trim` of the database, which cuts spaces only -/
def trimSpaces (s : String) : String :=
  String.ofList ((s.toList.dropWhile (· = ' ')).reverse.dropWhile (· = ' ')).reverse

theorem trimSpaces_of_trim {s : String} (h : trim s = s) : trimSpaces s = s := by
  have hkeep : ∀ l : List Char, l.dropWhile isWhitespace = l → l.dropWhile (· = ' ') = l := by
    intro l hl
    cases l with
    | nil => rfl
    | cons c l =>
      have hc : isWhitespace c = false := by
        have hhead := List.head?_dropWhile_not isWhitespace (c :: l)
        rw [hl] at hhead
        simpa using hhead
      have hspace : ¬ c = ' ' := by
        rintro rfl
        exact absurd hc (by decide)
      rw [List.dropWhile_cons_of_neg (by simpa using hspace)]
  obtain ⟨hfront, hback⟩ := dropWhile_of_trim h
  unfold trimSpaces
  rw [hkeep _ hfront, hkeep _ hback, List.reverse_reverse, String.ofList_toList]

def endsWith (ending s : String) : Bool := ending.toList.isSuffixOf s.toList

/-- the text before this ending -/
def stripEnding (ending s : String) : Option String :=
  if endsWith ending s then some (String.ofList (s.toList.take (s.toList.length - ending.toList.length)))
  else none

/-- what is behind the first occurrence of a separator -/
def afterFirst (sep : List Char) : List Char → Option (List Char)
  | [] => none
  | c :: l => if sep.isPrefixOf (c :: l) then some ((c :: l).drop sep.length) else afterFirst sep l

/-! ## Words -/

/-- space, tab, line feed, form feed, carriage return -/
def isAsciiWhitespace (c : Char) : Bool :=
  c = ' ' || c = '\t' || c = '\n' || c = Char.ofNat 12 || c = '\r'

/-- the words that are not empty -/
def dropEmpty (words : List (List Char)) : List (List Char) := words.filter fun w => !w.isEmpty

theorem dropEmpty_cons {w : List Char} (h : w ≠ []) (ws : List (List Char)) :
    dropEmpty (w :: ws) = w :: dropEmpty ws := by
  unfold dropEmpty
  simp [h]

def splitAsciiWhitespace (s : String) : List String :=
  (dropEmpty (s.toList.splitOnP isAsciiWhitespace)).map String.ofList

/-- the characters of the words with a space between each two -/
def joinSpacesChars : List String → List Char
  | [] => []
  | [w] => w.toList
  | w :: v :: ws => w.toList ++ ' ' :: joinSpacesChars (v :: ws)

def joinSpaces (ws : List String) : String := String.ofList (joinSpacesChars ws)

/-- a word: not empty, and without white space -/
def isWord (w : String) : Bool := decide (w.toList ≠ []) && w.toList.all fun c => !isAsciiWhitespace c

theorem isWord_iff (w : String) :
    isWord w = true ↔ w.toList ≠ [] ∧ ∀ c ∈ w.toList, isAsciiWhitespace c = false := by
  unfold isWord
  simp only [Bool.and_eq_true, decide_eq_true_eq, List.all_eq_true, Bool.not_eq_true']

/-- **Words that are joined with spaces split into the same words.** -/
theorem splitAsciiWhitespace_joinSpaces {ws : List String} (h : ∀ w ∈ ws, isWord w = true) :
    splitAsciiWhitespace (joinSpaces ws) = ws := by
  unfold splitAsciiWhitespace joinSpaces
  rw [String.toList_ofList]
  induction ws with
  | nil => rfl
  | cons w ws ih =>
    obtain ⟨hne, hw⟩ := (isWord_iff w).mp (h w List.mem_cons_self)
    have hrest := ih fun v hv => h v (List.mem_cons_of_mem _ hv)
    cases ws with
    | nil =>
      show (dropEmpty (w.toList.splitOnP _)).map _ = [w]
      rw [List.splitOnP_eq_singleton hw, dropEmpty_cons hne, List.map_cons, String.ofList_toList]
      rfl
    | cons v vs =>
      show (dropEmpty ((w.toList ++ ' ' :: joinSpacesChars (v :: vs)).splitOnP _)).map _ = _
      rw [List.splitOnP_append_cons_of_forall_mem hw ' ' (by decide), dropEmpty_cons hne, List.map_cons, String.ofList_toList, hrest]

end Base
