import Mathlib.Data.List.Basic

/-!
# Base64 for URLs

The alphabet `A`–`Z`, `a`–`z`, `0`–`9`, `-`, `_`, without padding, and strictly: a text that is not
what the bytes are written as does not decode.

* `asBytes`, `fromUtf8`    a text as its bytes, `fromUtf8_asBytes`;
* `sextets`, `octets`     three bytes and four digits, `octets_sextets`;
* `encode`, `decode`      the text, **`decode_eq_some_iff`**: what decodes is what was encoded;
* `encodeStandard`        the text in the other alphabet, with `+`, `/` and padding.
-/

namespace Base

/-- the UTF-8 bytes of a text -/
def asBytes (s : String) : List UInt8 := s.toByteArray.data.toList

def fromUtf8 (bytes : List UInt8) : Option String := String.fromUTF8? ⟨bytes.toArray⟩

theorem fromUtf8_asBytes (s : String) : fromUtf8 (asBytes s) = some s := by
  unfold fromUtf8 asBytes String.fromUTF8?
  rw [Array.toArray_toList]
  exact dif_pos s.isValidUTF8

namespace Base64

def alphabet : List Char :=
  "ABCDEFGHIJKLMNOPQRSTUVWXYZabcdefghijklmnopqrstuvwxyz0123456789-_".toList

/-- three bytes as four numbers below 64 -/
def sextets : List Nat → List Nat
  | a :: b :: c :: l => a / 4 :: (a % 4 * 16 + b / 16) :: (b % 16 * 4 + c / 64) :: c % 64 :: sextets l
  | [a, b] => [a / 4, a % 4 * 16 + b / 16, b % 16 * 4]
  | [a] => [a / 4, a % 4 * 16]
  | [] => []

/-- the way back -/
def octets : List Nat → List Nat
  | w :: x :: y :: z :: l => (w * 4 + x / 16) :: (x % 16 * 16 + y / 4) :: (y % 4 * 64 + z) :: octets l
  | [w, x, y] => [w * 4 + x / 16, x % 16 * 16 + y / 4]
  | [w, x] => [w * 4 + x / 16]
  | _ => []

theorem octets_sextets {l : List Nat} (h : ∀ n ∈ l, n < 256) : octets (sextets l) = l := by
  induction l using sextets.induct with
  | case1 a b c l ih =>
    simp only [List.mem_cons, forall_eq_or_imp] at h
    obtain ⟨ha, hb, hc, hl⟩ := h
    rw [sextets, octets, ih hl]
    congr 1
    · omega
    · congr 1
      · omega
      · congr 1
        omega
  | case2 a b =>
    simp only [List.mem_cons, forall_eq_or_imp] at h
    rw [sextets, octets]
    congr 1
    · omega
    · congr 1
      omega
  | case3 a =>
    simp only [List.mem_cons, forall_eq_or_imp] at h
    rw [sextets, octets]
    congr 1
    omega
  | case4 => rfl

theorem sextets_lt {l : List Nat} (h : ∀ n ∈ l, n < 256) : ∀ n ∈ sextets l, n < 64 := by
  induction l using sextets.induct with
  | case1 a b c l ih =>
    simp only [List.mem_cons, forall_eq_or_imp] at h
    obtain ⟨ha, hb, hc, hl⟩ := h
    simp only [sextets, List.mem_cons, forall_eq_or_imp]
    exact ⟨by omega, by omega, by omega, by omega, ih hl⟩
  | case2 a b =>
    simp only [List.mem_cons, forall_eq_or_imp] at h
    simp only [sextets, List.mem_cons, forall_eq_or_imp]
    exact ⟨by omega, by omega, by omega, by simp⟩
  | case3 a =>
    simp only [List.mem_cons, forall_eq_or_imp] at h
    simp only [sextets, List.mem_cons, forall_eq_or_imp]
    exact ⟨by omega, by omega, by simp⟩
  | case4 => simp [sextets]

def digit (n : Nat) : Char := alphabet.getD n 'A'

def digitValue (c : Char) : Nat := alphabet.idxOf c

theorem digitValue_digit {n : Nat} (h : n < 64) : digitValue (digit n) = n := by
  have hall : ∀ k : Fin 64, digitValue (digit k) = k := by decide +kernel
  exact hall ⟨n, h⟩

theorem dot_ne_digit {n : Nat} (h : n < 64) : digit n ≠ '.' := by
  have hall : ∀ k : Fin 64, digit k ≠ '.' := by decide +kernel
  exact hall ⟨n, h⟩

def encode (bytes : List UInt8) : String := String.ofList ((sextets (bytes.map UInt8.toNat)).map digit)

/-- the bytes that are written as the text -/
def decode (s : String) : Option (List UInt8) :=
  let bytes := (octets (s.toList.map digitValue)).map UInt8.ofNat
  if encode bytes = s then some bytes else none

private theorem toNat_lt (bytes : List UInt8) : ∀ n ∈ bytes.map UInt8.toNat, n < 256 := by
  intro n hn
  obtain ⟨b, -, rfl⟩ := List.mem_map.mp hn
  exact b.toNat_lt

theorem octets_encode (bytes : List UInt8) :
    (octets ((encode bytes).toList.map digitValue)).map UInt8.ofNat = bytes := by
  have hdigits : ((encode bytes).toList).map digitValue = sextets (bytes.map UInt8.toNat) := by
    unfold encode
    rw [String.toList_ofList, List.map_map]
    refine (List.map_congr_left ?_).trans (List.map_id _)
    intro n hn
    exact digitValue_digit (sextets_lt (toNat_lt bytes) n hn)
  rw [hdigits, octets_sextets (toNat_lt bytes), List.map_map]
  refine (List.map_congr_left ?_).trans (List.map_id _)
  intro b _
  exact UInt8.ofNat_toNat

theorem decode_eq_some_iff {s : String} {bytes : List UInt8} :
    decode s = some bytes ↔ encode bytes = s := by
  unfold decode
  dsimp only
  constructor
  · intro h
    split at h
    · next heq =>
      cases h
      exact heq
    · cases h
  · rintro rfl
    rw [octets_encode, if_pos rfl]

theorem decode_encode (bytes : List UInt8) : decode (encode bytes) = some bytes :=
  decode_eq_some_iff.mpr rfl

theorem dot_notMem_encode (bytes : List UInt8) : '.' ∉ (encode bytes).toList := by
  unfold encode
  rw [String.toList_ofList]
  intro h
  obtain ⟨n, hn, heq⟩ := List.mem_map.mp h
  exact dot_ne_digit (sextets_lt (toNat_lt bytes) n hn) heq

/-! ## The other alphabet -/

def standardAlphabet : List Char :=
  "ABCDEFGHIJKLMNOPQRSTUVWXYZabcdefghijklmnopqrstuvwxyz0123456789+/".toList

/-- with `=` up to a multiple of four -/
def encodeStandard (bytes : List UInt8) : String :=
  String.ofList ((sextets (bytes.map UInt8.toNat)).map (standardAlphabet.getD · 'A') ++
    List.replicate ((3 - bytes.length % 3) % 3) '=')

example : encodeStandard [0xE3, 0x06, 0x92, 0x83] = "4waSgw==" := by decide +kernel

end Base64
end Base
