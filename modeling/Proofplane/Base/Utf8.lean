import Proofplane.Base.Base64
import Mathlib.Tactic.Common

/-!
# Texts cut at bytes

A text is cut at a number of bytes.  There is a place for the cut only between two characters; anywhere
else the program that asks for it stops.

* `utf8`, `byteLen`     the bytes of some characters, and how many they are;
* `splitAtByte`         the two parts at a cut, if there is a place for it;
* `splitAtByte_eq_some_iff`   **the two parts are the text, and the first has that many bytes**;
* `Ascii`, `utf8_ascii` characters of one byte each;
* `ascii_of_bytes`      a text whose bytes are all below 128 has only those.
-/

namespace Base

/-- the bytes of the characters -/
def utf8 (l : List Char) : List UInt8 := l.flatMap String.utf8EncodeChar

def byteLen (l : List Char) : Nat := (utf8 l).length

@[simp] theorem utf8_nil : utf8 [] = [] := rfl

@[simp] theorem utf8_cons (c : Char) (l : List Char) : utf8 (c :: l) = String.utf8EncodeChar c ++ utf8 l := rfl

@[simp] theorem utf8_append (l l' : List Char) : utf8 (l ++ l') = utf8 l ++ utf8 l' := List.flatMap_append

@[simp] theorem byteLen_nil : byteLen [] = 0 := rfl

@[simp] theorem byteLen_cons (c : Char) (l : List Char) : byteLen (c :: l) = c.utf8Size + byteLen l := by
  unfold byteLen
  rw [utf8_cons, List.length_append, String.length_utf8EncodeChar]

@[simp] theorem byteLen_append (l l' : List Char) : byteLen (l ++ l') = byteLen l + byteLen l' := by
  unfold byteLen
  rw [utf8_append, List.length_append]

/-! ## Cuts -/

/-- the characters before and after a number of bytes -/
def splitAtByte : Nat → List Char → Option (List Char × List Char)
  | 0, l => some ([], l)
  | _ + 1, [] => none
  | n + 1, c :: l =>
    if c.utf8Size ≤ n + 1 then (splitAtByte (n + 1 - c.utf8Size) l).map fun p => (c :: p.1, p.2) else none

theorem splitAtByte_byteLen (a b : List Char) : splitAtByte (byteLen a) (a ++ b) = some (a, b) := by
  induction a with
  | nil => cases b <;> rfl
  | cons c a ih =>
    have hpos := c.utf8Size_pos
    obtain ⟨n, hn⟩ : ∃ n, byteLen (c :: a) = n + 1 := ⟨byteLen (c :: a) - 1, by rw [byteLen_cons]; omega⟩
    have hrest : n + 1 - c.utf8Size = byteLen a := by
      rw [← hn, byteLen_cons]
      omega
    rw [hn, List.cons_append, splitAtByte, if_pos (by rw [← hn, byteLen_cons]; omega), hrest, ih]
    rfl

theorem splitAtByte_eq_some_iff {n : Nat} {l a b : List Char} :
    splitAtByte n l = some (a, b) ↔ l = a ++ b ∧ byteLen a = n := by
  constructor
  · intro h
    induction l generalizing n a with
    | nil =>
      cases n with
      | zero =>
        cases h
        exact ⟨rfl, rfl⟩
      | succ n => cases h
    | cons c l ih =>
      cases n with
      | zero =>
        cases h
        exact ⟨rfl, rfl⟩
      | succ n =>
        rw [splitAtByte] at h
        split at h
        case isTrue hle =>
          obtain ⟨⟨a', b'⟩, hsplit, heq⟩ := Option.map_eq_some_iff.mp h
          cases heq
          obtain ⟨hl, hlen⟩ := ih hsplit
          rw [hl, byteLen_cons, hlen]
          exact ⟨rfl, by omega⟩
        case isFalse => cases h
  · rintro ⟨rfl, rfl⟩
    exact splitAtByte_byteLen a b

/-! ## Characters of one byte -/

/-- only characters below 128 -/
def Ascii (l : List Char) : Prop := ∀ c ∈ l, c.toNat < 128

theorem utf8EncodeChar_ascii {c : Char} (h : c.toNat < 128) :
    String.utf8EncodeChar c = [UInt8.ofNat c.toNat] :=
  if_pos (Nat.le_of_lt_succ h)

theorem utf8_ascii {l : List Char} (h : Ascii l) : utf8 l = l.map fun c => UInt8.ofNat c.toNat := by
  induction l with
  | nil => rfl
  | cons c l ih =>
    rw [utf8_cons, utf8EncodeChar_ascii (h c List.mem_cons_self),
      ih fun d hd => h d (List.mem_cons_of_mem c hd)]
    rfl

theorem byteLen_ascii {l : List Char} (h : Ascii l) : byteLen l = l.length := by
  unfold byteLen
  rw [utf8_ascii h, List.length_map]

/-- the first byte of a longer character is not below 128 -/
theorem exists_high_byte {c : Char} (h : 128 ≤ c.toNat) :
    ∃ b ∈ String.utf8EncodeChar c, 128 ≤ b.toNat := by
  have hv : c.val.toNat = c.toNat := rfl
  unfold String.utf8EncodeChar
  dsimp only
  rw [hv, if_neg (by omega)]
  split
  case isTrue =>
    refine ⟨_, List.mem_cons_self, ?_⟩
    rw [UInt8.toNat_ofNat']
    omega
  case isFalse =>
    split
    case isTrue =>
      refine ⟨_, List.mem_cons_self, ?_⟩
      rw [UInt8.toNat_ofNat']
      omega
    case isFalse =>
      refine ⟨_, List.mem_cons_self, ?_⟩
      rw [UInt8.toNat_ofNat']
      omega

theorem ascii_of_bytes {l : List Char} (h : ∀ b ∈ utf8 l, b.toNat < 128) : Ascii l := by
  intro c hc
  by_contra hge
  obtain ⟨b, hb, h128⟩ := exists_high_byte (Nat.le_of_not_lt hge)
  exact absurd (h b (List.mem_flatMap.mpr ⟨c, hc, hb⟩)) (by omega)

end Base
