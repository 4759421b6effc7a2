import Proofplane.Base.Digits
import Proofplane.Base.Utf8
import Proofplane.Domain.Ids

/-!
# The secrets of auditors

A secret is a fixed beginning, thirty random characters and a checksum of both in six characters, all of them
from an alphabet of 62.  Only its digest is stored.  The reader cuts the text at bytes, which it may do
because it has found that the bytes it cuts between are characters; where it could not, it has no result
at all.

* `encodeChecksumBase62`   a number of 32 bits in six characters;
* `parseDigest`            the reader, `parseDigest_ok_iff` what it accepts;
* `generateTokenBody`      the loop that keeps the random bytes below 248;
* `generateAuditorInviteSecret`   a secret with its digest, `generateAuditorInviteSecret_ok_iff` which one.

The checksum and the digest of some bytes are parameters: nothing but their being functions is used.
-/

namespace Proofplane
open Base

namespace OpaqueToken

/-! ## The alphabet -/

/-- `PREFIX` -/
def opening : List Char := ['p', 'p', 'a', 't', '_']

/-- `ALPHABET`, the bytes of it -/
def alphabet : List UInt8 :=
  "0123456789ABCDEFGHIJKLMNOPQRSTUVWXYZabcdefghijklmnopqrstuvwxyz".toList.map fun c => UInt8.ofNat c.toNat

def randomLength : Nat := 30
def checksumLength : Nat := 6
def tokenLength : Nat := opening.length + randomLength + checksumLength
def acceptedRandomByteBound : UInt8 := 248

/-- `ALPHABET[index]`, for an index below 62 -/
def alphabetByte (index : Nat) : UInt8 := alphabet.getD index 0

/-- `byte as char` -/
def byteChar (b : UInt8) : Char := Char.ofNat b.toNat

/-- the character of a number below 62 -/
def base62Char (index : Nat) : Char := byteChar (alphabetByte index)

/-- the characters of the alphabet -/
def IsBase62 (c : Char) : Prop := ∃ index < 62, base62Char index = c

theorem base62Char_isBase62 {index : Nat} (h : index < 62) : IsBase62 (base62Char index) := ⟨index, h, rfl⟩

theorem alphabetByte_lt : ∀ index < 62, (alphabetByte index).toNat < 128 := by decide +kernel

theorem base62Char_toNat : ∀ index < 62, (base62Char index).toNat = (alphabetByte index).toNat := by
  decide +kernel

theorem IsBase62.ascii {c : Char} (h : IsBase62 c) : c.toNat < 128 := by
  obtain ⟨index, hindex, rfl⟩ := h
  rw [base62Char_toNat index hindex]
  exact alphabetByte_lt index hindex

theorem base62Char_injective : ∀ i < 62, ∀ j < 62, base62Char i = base62Char j → i = j := by decide +kernel

/-- a byte of the alphabet is the byte of one of its characters -/
theorem mem_alphabet_iff (b : UInt8) : b ∈ alphabet ↔ ∃ index < 62, alphabetByte index = b := by
  have hlen : alphabet.length = 62 := by decide +kernel
  unfold alphabetByte
  rw [List.mem_iff_getElem]
  constructor
  · rintro ⟨i, hi, rfl⟩
    refine ⟨i, hlen ▸ hi, ?_⟩
    rw [List.getD_eq_getElem?_getD, List.getElem?_eq_getElem hi, Option.getD_some]
  · rintro ⟨i, hi, rfl⟩
    have hlt : i < alphabet.length := hlen.symm ▸ hi
    refine ⟨i, hlt, ?_⟩
    rw [List.getD_eq_getElem?_getD, List.getElem?_eq_getElem hlt, Option.getD_some]

/-- a text is of the alphabet exactly if its bytes are -/
theorem alphabet_bytes_iff (l : List Char) : (∀ b ∈ utf8 l, b ∈ alphabet) ↔ ∀ c ∈ l, IsBase62 c := by
  constructor
  · intro h c hc
    have hascii : Ascii l := ascii_of_bytes fun b hb => by
      obtain ⟨index, hindex, rfl⟩ := (mem_alphabet_iff b).mp (h b hb)
      exact alphabetByte_lt index hindex
    have hbyte : UInt8.ofNat c.toNat ∈ utf8 l := by
      rw [utf8_ascii hascii]
      exact List.mem_map_of_mem hc
    obtain ⟨index, hindex, heq⟩ := (mem_alphabet_iff _).mp (h _ hbyte)
    refine ⟨index, hindex, ?_⟩
    have hlt := hascii c hc
    unfold base62Char byteChar
    rw [heq, UInt8.toNat_ofNat', Nat.mod_eq_of_lt (by omega), Char.ofNat_toNat]
  · intro h b hb
    have hascii : Ascii l := fun c hc => (h c hc).ascii
    rw [utf8_ascii hascii] at hb
    obtain ⟨c, hc, rfl⟩ := List.mem_map.mp hb
    obtain ⟨index, hindex, rfl⟩ := h c hc
    have hlt := alphabetByte_lt index hindex
    refine (mem_alphabet_iff _).mpr ⟨index, hindex, UInt8.toNat_inj.mp ?_⟩
    rw [base62Char_toNat index hindex, UInt8.toNat_ofNat', Nat.mod_eq_of_lt (by omega)]

/-! ## The checksum -/

/-- `encode_checksum_base62` -/
def encodeChecksumBase62 (value : UInt32) : String :=
  let encoded := List.replicate checksumLength (alphabetByte 0)
  let encoded := fillDigits alphabetByte 62 checksumLength value.toNat encoded
  String.ofList (encoded.map byteChar)

theorem encodeChecksumBase62_toList (value : UInt32) :
    (encodeChecksumBase62 value).toList = (fixedDigits 62 checksumLength value.toNat).map base62Char := by
  unfold encodeChecksumBase62
  dsimp only
  rw [String.toList_ofList, fillDigits_eq _ _ (by rw [List.length_replicate]), List.map_append, List.map_map,
    List.drop_of_length_le (by rw [List.length_replicate]), List.map_nil, List.append_nil]
  rfl

theorem encodeChecksumBase62_length (value : UInt32) :
    (encodeChecksumBase62 value).toList.length = checksumLength := by
  rw [encodeChecksumBase62_toList, List.length_map, length_fixedDigits]

theorem encodeChecksumBase62_isBase62 (value : UInt32) :
    ∀ c ∈ (encodeChecksumBase62 value).toList, IsBase62 c := by
  intro c hc
  rw [encodeChecksumBase62_toList] at hc
  obtain ⟨d, hd, rfl⟩ := List.mem_map.mp hc
  exact base62Char_isBase62 (fixedDigits_lt (by decide) d hd)

/-- six digits are enough for 32 bits -/
theorem encodeChecksumBase62_injective : Function.Injective encodeChecksumBase62 := by
  intro a b h
  have hlist := congrArg String.toList h
  rw [encodeChecksumBase62_toList, encodeChecksumBase62_toList] at hlist
  have hdigits : fixedDigits 62 checksumLength a.toNat = fixedDigits 62 checksumLength b.toNat := by
    exact map_inj_of_lt base62Char_injective (fixedDigits_lt (by decide)) (fixedDigits_lt (by decide)) hlist
  have hbound : 2 ^ 32 ≤ 62 ^ checksumLength := by decide
  exact UInt32.toNat_inj.mp (fixedDigits_injective (a.toNat_lt.trans_le hbound)
    (b.toNat_lt.trans_le hbound) hdigits)

/-! ## The reader -/

/-- `OpaqueTokenError` -/
inductive Error
  | generation | malformed | checksumMismatch
  deriving DecidableEq, Repr

section
variable (crc32 : List UInt8 → UInt32) (sha256 : List UInt8 → Sha256Digest)

/-- `get_checksum` -/
def getChecksum (input : List Char) : String := encodeChecksumBase62 (crc32 (utf8 input))

/-- `digest_secret` -/
def digestSecret (rawToken : String) : Sha256Digest := sha256 (asBytes rawToken)

/-- `parse_digest`; no result where a slice falls inside of a character or beyond the end -/
def parseDigest (rawToken : String) : Option (Except Error Sha256Digest) :=
  let token := rawToken.toList
  if byteLen token ≠ tokenLength ∨ opening.isPrefixOf token = false then some (.error .malformed)
  else do
    let (_, rest) ← splitAtByte (byteLen opening) token
    if (utf8 rest).all (fun byte => alphabet.contains byte) = false then return .error .malformed
    let checksumStart := byteLen opening + randomLength
    let (body, _) ← splitAtByte checksumStart token
    let expected := getChecksum crc32 body
    let (_, checksum) ← splitAtByte checksumStart token
    if checksum ≠ expected.toList then return .error .checksumMismatch
    return .ok (digestSecret sha256 rawToken)

/-- the secret with this body -/
def secretOf (body : List Char) : String :=
  String.ofList (opening ++ body ++ (getChecksum crc32 (opening ++ body)).toList)

variable {crc32 sha256}

theorem getChecksum_length (input : List Char) : (getChecksum crc32 input).toList.length = checksumLength :=
  encodeChecksumBase62_length _

theorem opening_ascii : Ascii opening := by
  have hall : (opening.all fun c => decide (c.toNat < 128)) = true := by decide
  exact fun c hc => of_decide_eq_true (List.all_eq_true.mp hall c hc)

/-- the shape of a secret: the length, the beginning and the alphabet -/
structure Shaped (rawToken : String) (rest : List Char) : Prop where
  toList : rawToken.toList = opening ++ rest
  base62 : ∀ c ∈ rest, IsBase62 c
  byteLen : byteLen (opening ++ rest) = tokenLength

section
variable {rawToken : String} {rest : List Char}

theorem Shaped.ascii (h : Shaped rawToken rest) : Ascii rest := fun c hc => (h.base62 c hc).ascii

theorem Shaped.length (h : Shaped rawToken rest) : rest.length = randomLength + checksumLength := by
  have hlen := h.byteLen
  rw [byteLen_append, byteLen_ascii h.ascii, byteLen_ascii opening_ascii] at hlen
  unfold tokenLength at hlen
  omega

/-- where the second cut falls -/
theorem Shaped.splitAtByte (h : Shaped rawToken rest) :
    splitAtByte (Base.byteLen opening + randomLength) (opening ++ rest)
      = some (opening ++ rest.take randomLength, rest.drop randomLength) := by
  have htake : Ascii (rest.take randomLength) := fun c hc => h.ascii c (List.mem_of_mem_take hc)
  refine splitAtByte_eq_some_iff.mpr ⟨?_, ?_⟩
  · rw [List.append_assoc, List.take_append_drop]
  · rw [byteLen_append, byteLen_ascii htake, List.length_take, h.length]
    omega

end

/-- with the shape there is a place for every cut, and the checksum decides -/
theorem parseDigest_shaped {rawToken : String} {rest : List Char} (h : Shaped rawToken rest) :
    parseDigest crc32 sha256 rawToken
      = some (if rest.drop randomLength ≠ (getChecksum crc32 (opening ++ rest.take randomLength)).toList then
          .error .checksumMismatch
        else .ok (digestSecret sha256 rawToken)) := by
  have hshape : ¬ (byteLen (opening ++ rest) ≠ tokenLength ∨ opening.isPrefixOf (opening ++ rest) = false) := by
    rw [not_or, not_not, Bool.not_eq_false, List.isPrefixOf_iff_prefix]
    exact ⟨h.byteLen, List.prefix_append opening rest⟩
  have hall : ¬ (utf8 rest).all (fun byte => alphabet.contains byte) = false := by
    rw [Bool.not_eq_false, List.all_eq_true]
    exact fun b hb => List.contains_iff_mem.mpr ((alphabet_bytes_iff rest).mpr h.base62 b hb)
  unfold parseDigest
  dsimp only
  rw [h.toList, if_neg hshape, splitAtByte_byteLen]
  simp only [Option.bind_eq_bind, Option.bind_some]
  rw [if_neg hall, h.splitAtByte]
  simp only [Option.bind_some]
  split
  · rfl
  · rfl

/-- without it the reader does not come to the cuts that it may not take -/
theorem parseDigest_malformed {rawToken : String} (h : ∀ rest, ¬ Shaped rawToken rest) :
    parseDigest crc32 sha256 rawToken = some (.error .malformed) := by
  unfold parseDigest
  dsimp only
  split
  case isTrue => rfl
  case isFalse hshape =>
    rw [not_or, not_not, Bool.not_eq_false, List.isPrefixOf_iff_prefix] at hshape
    obtain ⟨hlen, rest, hrest⟩ := hshape
    rw [← hrest] at hlen ⊢
    rw [splitAtByte_byteLen]
    simp only [Option.bind_eq_bind, Option.bind_some]
    have hall : (utf8 rest).all (fun byte => alphabet.contains byte) = false := by
      by_contra hall
      rw [Bool.not_eq_false, List.all_eq_true] at hall
      have hbytes : ∀ b ∈ utf8 rest, b ∈ alphabet := fun b hb => List.contains_iff_mem.mp (hall b hb)
      exact h rest ⟨hrest.symm, (alphabet_bytes_iff rest).mp hbytes, hlen⟩
    rw [if_pos hall]
    rfl

/-- **The reader always has a result.** -/
theorem parseDigest_total (rawToken : String) : ∃ r, parseDigest crc32 sha256 rawToken = some r := by
  by_cases h : ∃ rest, Shaped rawToken rest
  · obtain ⟨rest, hrest⟩ := h
    exact ⟨_, parseDigest_shaped hrest⟩
  · exact ⟨_, parseDigest_malformed fun rest hrest => h ⟨rest, hrest⟩⟩

/-- a secret has the shape -/
theorem secretOf_shaped {body : List Char} (hlen : body.length = randomLength) (hbody : ∀ c ∈ body, IsBase62 c) :
    Shaped (secretOf crc32 body) (body ++ (getChecksum crc32 (opening ++ body)).toList) := by
  have hbase : ∀ c ∈ body ++ (getChecksum crc32 (opening ++ body)).toList, IsBase62 c := by
    intro c hc
    rcases List.mem_append.mp hc with hc | hc
    · exact hbody c hc
    · exact encodeChecksumBase62_isBase62 _ c hc
  refine ⟨?_, hbase, ?_⟩
  · unfold secretOf
    rw [String.toList_ofList, List.append_assoc]
  · have hascii : Ascii (body ++ (getChecksum crc32 (opening ++ body)).toList) := fun c hc => (hbase c hc).ascii
    rw [byteLen_append, byteLen_ascii opening_ascii, byteLen_ascii hascii, List.length_append,
      getChecksum_length, hlen]
    rfl

/-- **What the reader accepts are the secrets of bodies of thirty characters.** -/
theorem parseDigest_ok_iff (rawToken : String) (digest : Sha256Digest) :
    parseDigest crc32 sha256 rawToken = some (.ok digest) ↔
      digest = digestSecret sha256 rawToken ∧
      ∃ body, body.length = randomLength ∧ (∀ c ∈ body, IsBase62 c) ∧ rawToken = secretOf crc32 body := by
  constructor
  · intro h
    by_cases hshaped : ∃ rest, Shaped rawToken rest
    · obtain ⟨rest, hrest⟩ := hshaped
      rw [parseDigest_shaped hrest, Option.some.injEq] at h
      split at h
      case isTrue => cases h
      case isFalse hsum =>
        cases h
        rw [ne_eq, not_not] at hsum
        have hlen := hrest.length
        refine ⟨rfl, rest.take randomLength, ?_, fun c hc => hrest.base62 c (List.mem_of_mem_take hc), ?_⟩
        · rw [List.length_take]
          omega
        · unfold secretOf
          rw [← hsum, List.append_assoc, List.take_append_drop, ← hrest.toList, String.ofList_toList]
    · rw [parseDigest_malformed fun rest hrest => hshaped ⟨rest, hrest⟩] at h
      cases h
  · rintro ⟨rfl, body, hlen, hbody, rfl⟩
    rw [parseDigest_shaped (secretOf_shaped hlen hbody), List.take_left' hlen, List.drop_left' hlen, if_neg]
    exact fun hne => hne rfl

end

/-! ## The body -/

/-- `[u8; 30]` -/
abbrev RandomBuffer := { l : List UInt8 // l.length = randomLength }

/-- the character of a random byte -/
def randomChar (b : UInt8) : Char := base62Char (b.toNat % 62)

/-- the loop over the buffer: `continue` for a byte that is too high, `break` once there is enough -/
def pushBytes (body : List Char) : List UInt8 → List Char
  | [] => body
  | b :: bs =>
    if acceptedRandomByteBound ≤ b then pushBytes body bs
    else if byteLen (body ++ [randomChar b]) = randomLength then body ++ [randomChar b]
    else pushBytes (body ++ [randomChar b]) bs

section
variable {ε : Type*} (fill : Nat → Except ε RandomBuffer)

/-- `generate_token_body` with as many rounds as there is fuel, `fill` telling what each call of the source
does to the buffer; no result yet where the fuel runs out -/
def tokenBodyLoop : Nat → Nat → List Char → Option (Except ε String)
  | 0, _, _ => none
  | fuel + 1, call, body =>
    if byteLen body < randomLength then
      match fill call with
      | .error e => some (.error e)
      | .ok buffer => tokenBodyLoop fuel (call + 1) (pushBytes body buffer.1)
    else some (.ok (String.ofList body))

def generateTokenBody (fuel : Nat) : Option (Except ε String) := tokenBodyLoop fill fuel 0 []

/-- the bytes of the first calls, if none of them fails -/
def drawn : Nat → Except ε (List UInt8)
  | 0 => .ok []
  | n + 1 => do
    let bytes ← drawn n
    let buffer ← fill n
    return bytes ++ buffer.1

end

/-- the bytes that are kept -/
def accepted (bytes : List UInt8) : List UInt8 := bytes.filter fun b => b < acceptedRandomByteBound

/-- the characters of the first thirty of them -/
def bodyOf (bytes : List UInt8) : List Char := ((accepted bytes).take randomLength).map randomChar

theorem randomChar_isBase62 (b : UInt8) : IsBase62 (randomChar b) :=
  base62Char_isBase62 (Nat.mod_lt _ (by decide))

theorem bodyOf_isBase62 (bytes : List UInt8) : ∀ c ∈ bodyOf bytes, IsBase62 c := by
  intro c hc
  obtain ⟨b, -, rfl⟩ := List.mem_map.mp hc
  exact randomChar_isBase62 b

theorem bodyOf_length (bytes : List UInt8) :
    (bodyOf bytes).length = min randomLength (accepted bytes).length := by
  unfold bodyOf
  rw [List.length_map, List.length_take]

theorem byteLen_bodyOf (bytes : List UInt8) : byteLen (bodyOf bytes) = (bodyOf bytes).length :=
  byteLen_ascii fun c hc => (bodyOf_isBase62 bytes c hc).ascii

theorem accepted_append (l l' : List UInt8) : accepted (l ++ l') = accepted l ++ accepted l' :=
  List.filter_append ..

/-- once there are enough, more bytes change nothing -/
theorem bodyOf_append_of_le {bytes : List UInt8} (more : List UInt8)
    (h : randomLength ≤ (accepted bytes).length) : bodyOf (bytes ++ more) = bodyOf bytes := by
  unfold bodyOf
  rw [accepted_append, List.take_append_of_le_length h]

/-- the invariant of the loop over the buffer: the body is that of the bytes so far -/
theorem pushBytes_bodyOf {bytes : List UInt8} (buffer : List UInt8)
    (h : (bodyOf bytes).length < randomLength) :
    pushBytes (bodyOf bytes) buffer = bodyOf (bytes ++ buffer) := by
  induction buffer generalizing bytes with
  | nil =>
    rw [List.append_nil]
    rfl
  | cons b bs ih =>
    have happend : bytes ++ b :: bs = bytes ++ [b] ++ bs := by rw [List.append_assoc]; rfl
    have hcount := bodyOf_length bytes
    unfold pushBytes
    rw [happend]
    by_cases hb : acceptedRandomByteBound ≤ b
    · -- the byte is passed over
      have haccepted : accepted [b] = [] := by
        unfold accepted
        rw [List.filter_cons_of_neg (by rw [decide_eq_true_eq]; exact UInt8.not_lt.mpr hb), List.filter_nil]
      have hbody : bodyOf (bytes ++ [b]) = bodyOf bytes := by
        unfold bodyOf
        rw [accepted_append, haccepted, List.append_nil]
      rw [if_pos hb, ← hbody]
      exact ih (hbody.symm ▸ h)
    · have haccepted : accepted [b] = [b] := by
        unfold accepted
        rw [List.filter_cons_of_pos (by rw [decide_eq_true_eq]; exact UInt8.not_le.mp hb), List.filter_nil]
      have hbody : bodyOf bytes ++ [randomChar b] = bodyOf (bytes ++ [b]) := by
        unfold bodyOf
        rw [accepted_append, haccepted, List.take_of_length_le (by omega),
          List.take_of_length_le (by rw [List.length_append, List.length_singleton]; omega), List.map_append]
        rfl
      rw [if_neg hb, hbody, byteLen_bodyOf]
      split
      case isTrue hfull =>
        rw [bodyOf_length] at hfull
        exact (bodyOf_append_of_le bs (by omega)).symm
      case isFalse hfull =>
        have hle := bodyOf_length (bytes ++ [b])
        exact ih (by omega)

section
variable {ε : Type*} {fill : Nat → Except ε RandomBuffer} {n m : Nat} {bytes : List UInt8}

theorem drawn_succ {buffer : RandomBuffer} (hn : drawn fill n = .ok bytes) (hfill : fill n = .ok buffer) :
    drawn fill (n + 1) = .ok (bytes ++ buffer.1) := by
  rw [drawn, hn, hfill]
  rfl

/-- the bytes of fewer calls are the first of those of more -/
theorem drawn_le (h : drawn fill n = .ok bytes) (hle : m ≤ n) :
    ∃ before more, drawn fill m = .ok before ∧ before ++ more = bytes := by
  induction n generalizing bytes with
  | zero =>
    obtain rfl : m = 0 := by omega
    exact ⟨bytes, [], h, List.append_nil _⟩
  | succ n ih =>
    rcases Nat.lt_or_eq_of_le hle with hlt | rfl
    · cases hd : drawn fill n with
      | error e =>
        rw [drawn, hd] at h
        cases h
      | ok earlier =>
        cases hf : fill n with
        | error e =>
          rw [drawn, hd, hf] at h
          cases h
        | ok buffer =>
          rw [drawn_succ hd hf, Except.ok.injEq] at h
          obtain ⟨before, more, hbefore, hmore⟩ := ih hd (by omega)
          exact ⟨before, more ++ buffer.1, hbefore, by rw [← List.append_assoc, hmore, h]⟩
    · exact ⟨bytes, [], h, List.append_nil _⟩

/-- the call after those of some bytes -/
theorem drawn_fill (h : drawn fill (n + 1) = .ok bytes) :
    ∃ before buffer, drawn fill n = .ok before ∧ fill n = .ok buffer := by
  cases hd : drawn fill n with
  | error e =>
    rw [drawn, hd] at h
    cases h
  | ok before =>
    cases hf : fill n with
    | error e =>
      rw [drawn, hd, hf] at h
      cases h
    | ok buffer => exact ⟨before, buffer, rfl, rfl⟩

/-- there are too few accepted bytes after every call before -/
def Short (fill : Nat → Except ε RandomBuffer) (n : Nat) : Prop :=
  ∀ m before, m < n → drawn fill m = .ok before → (accepted before).length < randomLength

/-- one round -/
theorem tokenBodyLoop_round {buffer : RandomBuffer}
    (hshort : (accepted bytes).length < randomLength) (hfill : fill n = .ok buffer) (fuel : Nat) :
    tokenBodyLoop fill (fuel + 1) n (bodyOf bytes)
      = tokenBodyLoop fill fuel (n + 1) (bodyOf (bytes ++ buffer.1)) := by
  have hlen := bodyOf_length bytes
  have hlt : (bodyOf bytes).length < randomLength := by omega
  rw [tokenBodyLoop, byteLen_bodyOf, if_pos hlt, hfill]
  show tokenBodyLoop fill fuel (n + 1) (pushBytes (bodyOf bytes) buffer.1) = _
  rw [pushBytes_bodyOf _ hlt]

/-- the loop comes to the call `n` with the body of the bytes so far -/
theorem tokenBodyLoop_reaches (hn : drawn fill n = .ok bytes) (hshort : Short fill n) (fuel : Nat) :
    tokenBodyLoop fill (n + fuel) 0 [] = tokenBodyLoop fill fuel n (bodyOf bytes) := by
  induction n generalizing bytes fuel with
  | zero =>
    cases hn
    rw [Nat.zero_add]
    rfl
  | succ n ih =>
    obtain ⟨before, buffer, hbefore, hfill⟩ := drawn_fill hn
    have hbytes := drawn_succ hbefore hfill
    rw [hn, Except.ok.injEq] at hbytes
    rw [Nat.add_right_comm, Nat.add_assoc,
      ih hbefore (fun m b hm => hshort m b (by omega)) (fuel + 1),
      tokenBodyLoop_round (hshort n before (Nat.lt_succ_self n) hbefore) hfill, hbytes]

/-- fewer accepted bytes were there before -/
theorem Short.of_lt (hn : drawn fill n = .ok bytes) (hshort : (accepted bytes).length < randomLength) :
    Short fill (n + 1) := by
  intro m before hm hbefore
  obtain ⟨before', more, hbefore', rfl⟩ := drawn_le hn (by omega : m ≤ n)
  rw [hbefore, Except.ok.injEq] at hbefore'
  rw [accepted_append, List.length_append, ← hbefore'] at hshort
  omega

/-- what the source has drawn when the loop ends, with a body or with an error -/
def EndsWith (fill : Nat → Except ε RandomBuffer) : Except ε String → Prop
  | .ok body => ∃ n bytes, drawn fill n = .ok bytes ∧ randomLength ≤ (accepted bytes).length ∧
      body.toList = bodyOf bytes
  | .error e => ∃ n bytes, drawn fill n = .ok bytes ∧ (accepted bytes).length < randomLength ∧
      fill n = .error e

/-- a loop that ends has found what it ends with -/
theorem tokenBodyLoop_endsWith {fuel : Nat} {r : Except ε String} (hn : drawn fill n = .ok bytes)
    (h : tokenBodyLoop fill fuel n (bodyOf bytes) = some r) : EndsWith fill r := by
  induction fuel generalizing n bytes with
  | zero => cases h
  | succ fuel ih =>
    have hlen := bodyOf_length bytes
    by_cases hshort : (accepted bytes).length < randomLength
    · cases hfill : fill n with
      | error e =>
        rw [tokenBodyLoop, byteLen_bodyOf, if_pos (by omega), hfill] at h
        cases h
        exact ⟨n, bytes, hn, hshort, hfill⟩
      | ok buffer =>
        rw [tokenBodyLoop_round hshort hfill] at h
        exact ih (drawn_succ hn hfill) h
    · rw [tokenBodyLoop, byteLen_bodyOf, if_neg (by omega)] at h
      cases h
      exact ⟨n, bytes, hn, by omega, String.toList_ofList⟩

/-- and with enough rounds it does end -/
theorem generateTokenBody_of_endsWith {r : Except ε String} (h : EndsWith fill r) :
    ∃ fuel, generateTokenBody fill fuel = some r := by
  cases r with
  | error e =>
    obtain ⟨n, bytes, hn, hshort, hfill⟩ := h
    have hbefore : Short fill n := fun m before hm => Short.of_lt hn hshort m before (by omega)
    have hlen := bodyOf_length bytes
    refine ⟨n + 1, ?_⟩
    unfold generateTokenBody
    rw [tokenBodyLoop_reaches hn hbefore, tokenBodyLoop, byteLen_bodyOf, if_pos (by omega), hfill]
  | ok body =>
    -- the first call after which there are enough
    have hex : ∃ n, ∃ bytes, drawn fill n = .ok bytes ∧ randomLength ≤ (accepted bytes).length ∧
        body.toList = bodyOf bytes := h
    classical
    obtain ⟨bytes, hn, henough, hbody⟩ := Nat.find_spec hex
    have hshort : Short fill (Nat.find hex) := by
      intro m before hm hbefore
      by_contra hlt
      obtain ⟨before', more, hbefore', hmore⟩ := drawn_le hn hm.le
      rw [hbefore, Except.ok.injEq] at hbefore'
      subst hbefore'
      have hge : randomLength ≤ (accepted before).length := by omega
      refine Nat.find_min hex hm ⟨before, hbefore, hge, ?_⟩
      rw [hbody, ← hmore, bodyOf_append_of_le more hge]
    have hlen := bodyOf_length bytes
    refine ⟨Nat.find hex + 1, ?_⟩
    unfold generateTokenBody
    rw [tokenBodyLoop_reaches hn hshort, tokenBodyLoop, byteLen_bodyOf, if_neg (by omega), ← hbody,
      String.ofList_toList]

/-- **The body is that of the first thirty bytes that are low enough**, and the loop ends if they come. -/
theorem generateTokenBody_iff (r : Except ε String) :
    (∃ fuel, generateTokenBody fill fuel = some r) ↔ EndsWith fill r := by
  constructor
  · rintro ⟨fuel, h⟩
    have hstart : drawn fill 0 = .ok [] := rfl
    exact tokenBodyLoop_endsWith hstart h
  · exact generateTokenBody_of_endsWith

end

/-! ## The generator -/

/-- `GeneratedAuditorInviteSecret` -/
structure Generated where
  rawSecret : String
  digest : Sha256Digest
  deriving DecidableEq, Repr

section
variable {ε : Type*} (crc32 : List UInt8 → UInt32) (sha256 : List UInt8 → Sha256Digest)
  (fill : Nat → Except ε RandomBuffer)

/-- `generate_secret_string` -/
def generateSecretString (fuel : Nat) : Option (Except Error String) :=
  match generateTokenBody fill fuel with
  | none => none
  | some (.error _) => some (.error .generation)
  | some (.ok randomBody) =>
    let token := opening ++ randomBody.toList
    some (.ok (String.ofList (token ++ (getChecksum crc32 token).toList)))

def generateAuditorInviteSecret (fuel : Nat) : Option (Except Error Generated) :=
  (generateSecretString crc32 fill fuel).map fun r => r.map fun secret => ⟨secret, digestSecret sha256 secret⟩

def parseAuditorInviteSecret (rawSecret : String) : Option (Except Error Sha256Digest) :=
  parseDigest crc32 sha256 rawSecret

variable {crc32 sha256 fill}

/-- the generator, by its body -/
theorem generateAuditorInviteSecret_eq (fuel : Nat) :
    generateAuditorInviteSecret crc32 sha256 fill fuel
      = (generateTokenBody fill fuel).map fun
        | .error _ => .error .generation
        | .ok body => .ok ⟨secretOf crc32 body.toList, digestSecret sha256 (secretOf crc32 body.toList)⟩ := by
  unfold generateAuditorInviteSecret generateSecretString
  cases generateTokenBody fill fuel with
  | none => rfl
  | some r =>
    cases r with
    | error e => rfl
    | ok body => rfl

/-- **What is generated is the secret of the first thirty random bytes that are low enough**, with its
digest. -/
theorem generateAuditorInviteSecret_ok_iff (g : Generated) :
    (∃ fuel, generateAuditorInviteSecret crc32 sha256 fill fuel = some (.ok g)) ↔
      ∃ n bytes, drawn fill n = .ok bytes ∧ randomLength ≤ (accepted bytes).length ∧
        g.rawSecret = secretOf crc32 (bodyOf bytes) ∧ g.digest = digestSecret sha256 g.rawSecret := by
  constructor
  · rintro ⟨fuel, h⟩
    rw [generateAuditorInviteSecret_eq] at h
    obtain ⟨r, hr, hg⟩ := Option.map_eq_some_iff.mp h
    cases r with
    | error e => cases hg
    | ok body =>
      cases hg
      obtain ⟨n, bytes, hn, henough, hbody⟩ := (generateTokenBody_iff (.ok body)).mp ⟨fuel, hr⟩
      refine ⟨n, bytes, hn, henough, ?_, rfl⟩
      rw [hbody]
  · rintro ⟨n, bytes, hn, henough, hsecret, hdigest⟩
    obtain ⟨fuel, hfuel⟩ := (generateTokenBody_iff (.ok (String.ofList (bodyOf bytes)))).mpr
      ⟨n, bytes, hn, henough, String.toList_ofList⟩
    refine ⟨fuel, ?_⟩
    rw [generateAuditorInviteSecret_eq, hfuel, Option.map_some]
    dsimp only
    rw [String.toList_ofList, ← hsecret, ← hdigest]

/-- and it fails exactly where the source of random bytes fails before there are thirty -/
theorem generateAuditorInviteSecret_error_iff (e : Error) :
    (∃ fuel, generateAuditorInviteSecret crc32 sha256 fill fuel = some (.error e)) ↔
      e = .generation ∧ ∃ n bytes failure, drawn fill n = .ok bytes ∧
        (accepted bytes).length < randomLength ∧ fill n = .error failure := by
  constructor
  · rintro ⟨fuel, h⟩
    rw [generateAuditorInviteSecret_eq] at h
    obtain ⟨r, hr, he⟩ := Option.map_eq_some_iff.mp h
    cases r with
    | ok body => cases he
    | error failure =>
      cases he
      obtain ⟨n, bytes, hends⟩ := (generateTokenBody_iff (.error failure)).mp ⟨fuel, hr⟩
      exact ⟨rfl, n, bytes, failure, hends⟩
  · rintro ⟨rfl, n, bytes, failure, hends⟩
    obtain ⟨fuel, hfuel⟩ := (generateTokenBody_iff (.error failure)).mpr ⟨n, bytes, hends⟩
    refine ⟨fuel, ?_⟩
    rw [generateAuditorInviteSecret_eq, hfuel]
    rfl

/-- the reader takes what is generated -/
theorem generateAuditorInviteSecret_parses {fuel : Nat} {g : Generated}
    (h : generateAuditorInviteSecret crc32 sha256 fill fuel = some (.ok g)) :
    parseAuditorInviteSecret crc32 sha256 g.rawSecret = some (.ok g.digest) := by
  obtain ⟨n, bytes, -, henough, hsecret, hdigest⟩ := (generateAuditorInviteSecret_ok_iff g).mp ⟨fuel, h⟩
  have hlen := bodyOf_length bytes
  exact (parseDigest_ok_iff g.rawSecret g.digest).mpr
    ⟨hdigest, bodyOf bytes, by omega, bodyOf_isBase62 bytes, hsecret⟩

end

/-- four bytes below the bound have the same residue -/
theorem countP_residue : ∀ index < 62,
    (List.range 256).countP (fun b => decide (b < 248 ∧ b % 62 = index)) = 4 := by decide +kernel

/-- the bytes that become a character of the alphabet -/
theorem countP_randomChar {c : Char} (hc : IsBase62 c) :
    (List.range 256).countP
      (fun b => decide (UInt8.ofNat b < acceptedRandomByteBound ∧ randomChar (UInt8.ofNat b) = c)) = 4 := by
  obtain ⟨index, hindex, rfl⟩ := hc
  rw [← countP_residue index hindex]
  refine List.countP_congr fun b hb => ?_
  have hlt : b < 256 := List.mem_range.mp hb
  have hbyte : (UInt8.ofNat b).toNat = b := by rw [UInt8.toNat_ofNat', Nat.mod_eq_of_lt hlt]
  have hbound : UInt8.ofNat b < acceptedRandomByteBound ↔ b < 248 := by
    rw [UInt8.lt_iff_toNat_lt, hbyte]
    rfl
  have hchar : randomChar (UInt8.ofNat b) = base62Char index ↔ b % 62 = index := by
    unfold randomChar
    rw [hbyte]
    exact ⟨base62Char_injective _ (Nat.mod_lt b (by decide)) _ hindex, congrArg base62Char⟩
  rw [decide_eq_true_eq, decide_eq_true_eq, hbound, hchar]

/-- the reader takes the secrets of thirty characters of the alphabet with the checksum of the generator,
takes nothing else and never stops on the way; what is generated is read, to the digest that is stored; it
is made of the first thirty random bytes below 248 with their checksum, or fails with the source of them;
six characters tell all checksums apart; and each of those bytes is as often one character as another -/
theorem opaque_secrets {ε : Type*} (crc32 : List UInt8 → UInt32) (sha256 : List UInt8 → Sha256Digest)
    (fill : Nat → Except ε RandomBuffer) :
    (∀ s : String, (∃ r, parseDigest crc32 sha256 s = some r) ∧
      ((∃ digest, parseDigest crc32 sha256 s = some (.ok digest)) ↔
        ∃ body : List Char, body.length = 30 ∧ (∀ c ∈ body, IsBase62 c) ∧
          s.toList = "ppat_".toList ++ body ++
            (encodeChecksumBase62 (crc32 (utf8 ("ppat_".toList ++ body)))).toList)) ∧
    (∀ fuel g, generateAuditorInviteSecret crc32 sha256 fill fuel = some (.ok g) →
      parseAuditorInviteSecret crc32 sha256 g.rawSecret = some (.ok g.digest)) ∧
    (∀ g, (∃ fuel, generateAuditorInviteSecret crc32 sha256 fill fuel = some (.ok g)) ↔
      ∃ n bytes body, drawn fill n = .ok bytes ∧ 30 ≤ (accepted bytes).length ∧
        body = (((accepted bytes).take 30).map fun b => base62Char (b.toNat % 62)) ∧
        g.rawSecret.toList = "ppat_".toList ++ body ++
          (encodeChecksumBase62 (crc32 (utf8 ("ppat_".toList ++ body)))).toList ∧
        g.digest = sha256 (asBytes g.rawSecret)) ∧
    (∀ e, (∃ fuel, generateAuditorInviteSecret crc32 sha256 fill fuel = some (.error e)) ↔
      e = .generation ∧ ∃ n bytes failure, drawn fill n = .ok bytes ∧ (accepted bytes).length < 30 ∧
        fill n = .error failure) ∧
    Function.Injective encodeChecksumBase62 ∧
    (∀ value, (encodeChecksumBase62 value).toList.length = 6) ∧
    (∀ body : String, (∃ fuel, generateTokenBody fill fuel = some (.ok body)) ↔
      ∃ n bytes, drawn fill n = .ok bytes ∧ 30 ≤ (accepted bytes).length ∧
        body.toList = ((accepted bytes).take 30).map fun b => base62Char (b.toNat % 62)) ∧
    (∀ e, (∃ fuel, generateTokenBody fill fuel = some (.error e)) ↔
      ∃ n bytes, drawn fill n = .ok bytes ∧ (accepted bytes).length < 30 ∧ fill n = .error e) ∧
    (∀ c, IsBase62 c → (List.range 256).countP (fun b =>
      decide (UInt8.ofNat b < 248 ∧ base62Char ((UInt8.ofNat b).toNat % 62) = c)) = 4) := by
  have hopening : "ppat_".toList = opening := String.toList_ofList
  refine ⟨fun s => ⟨parseDigest_total s, ?_⟩, fun fuel g hg => generateAuditorInviteSecret_parses hg,
    fun g => ?_, generateAuditorInviteSecret_error_iff, encodeChecksumBase62_injective,
    encodeChecksumBase62_length, fun body => generateTokenBody_iff (.ok body),
    fun e => generateTokenBody_iff (.error e), fun c hc => countP_randomChar hc⟩
  · rw [hopening]
    constructor
    · rintro ⟨digest, hdigest⟩
      obtain ⟨-, body, hlen, hbody, rfl⟩ := (parseDigest_ok_iff s digest).mp hdigest
      exact ⟨body, hlen, hbody, String.toList_ofList⟩
    · rintro ⟨body, hlen, hbody, htext⟩
      refine ⟨_, (parseDigest_ok_iff s _).mpr ⟨rfl, body, hlen, hbody, ?_⟩⟩
      exact String.toList_inj.mp (htext.trans String.toList_ofList.symm)
  · rw [hopening, generateAuditorInviteSecret_ok_iff]
    constructor
    · rintro ⟨n, bytes, hn, henough, hsecret, hdigest⟩
      refine ⟨n, bytes, bodyOf bytes, hn, henough, rfl, ?_, hdigest⟩
      rw [hsecret]
      exact String.toList_ofList
    · rintro ⟨n, bytes, body, hn, henough, rfl, htext, hdigest⟩
      refine ⟨n, bytes, hn, henough, ?_, hdigest⟩
      exact String.toList_inj.mp (htext.trans String.toList_ofList.symm)

end OpaqueToken

end Proofplane
