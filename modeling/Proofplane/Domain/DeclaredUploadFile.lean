import Proofplane.Base.Machine
import Proofplane.Base.Utf8
import Proofplane.Domain.Filename
import Proofplane.Domain.UploadGrant

/-!
# The file that an upload declares

A declaration is checked when a grant is issued, stored in the columns of the grant, checked by the database,
and checked again when the grant is loaded.  All errors are collected, in the order of the checks.

* `DeclaredUploadFile.new`        the checks of a declaration;
* `Violated`, `declarationRules`  the rules, one for each error, and their order;
* `new_ok_iff`, `new_error_iff`   **what is accepted, and what the others are refused with**;
* `DeclaredFileRow`               the columns, with the checks of the database on them;
* `load_toRow`                    **what was accepted is stored, passes these checks and is loaded again**.

The readers of media types and of header values are parameters.
-/

namespace Proofplane
open Base

/-! ## Digests as texts and bytes -/

namespace Sha256Digest

/-- 64 hexadecimal digits -/
def hexDecode (value : String) : Option Sha256Digest :=
  if value.toList.length = 64 then
    (Uuid.hexVals value.toList).map fun ds => ⟨BitVec.ofNat 256 (Uuid.ofNibbles ds)⟩
  else none

/-- `as_bytes` -/
def bytes (d : Sha256Digest) : List UInt8 := (fixedDigits 256 32 d.bits.toNat).map UInt8.ofNat

/-- `<[u8; 32]>::try_from(bytes).map(Sha256Digest::from_bytes)` -/
def ofBytes (bytes : List UInt8) : Option Sha256Digest :=
  if bytes.length = 32 then some ⟨BitVec.ofNat 256 (digitsValue 256 (bytes.map UInt8.toNat))⟩ else none

theorem length_bytes (d : Sha256Digest) : d.bytes.length = 32 := by
  unfold bytes
  rw [List.length_map, length_fixedDigits]

theorem bits_lt (d : Sha256Digest) : d.bits.toNat < 2 ^ 256 := d.bits.isLt

theorem ofBytes_bytes (d : Sha256Digest) : ofBytes d.bytes = some d := by
  have hbytes : d.bytes.map UInt8.toNat = fixedDigits 256 32 d.bits.toNat := by
    have hsame : ∀ x ∈ fixedDigits 256 32 d.bits.toNat, (UInt8.toNat ∘ UInt8.ofNat) x = x := by
      intro x hx
      have hlt := fixedDigits_lt (by decide) x hx
      show (UInt8.ofNat x).toNat = x
      rw [UInt8.toNat_ofNat', Nat.mod_eq_of_lt hlt]
    unfold bytes
    rw [List.map_map, List.map_congr_left hsame, List.map_id']
  have hlt : d.bits.toNat < 256 ^ 32 := d.bits_lt
  unfold ofBytes
  rw [if_pos d.length_bytes, hbytes, digitsValue_fixedDigits, Nat.mod_eq_of_lt hlt,
    BitVec.ofNat_toNat, BitVec.setWidth_eq]

theorem hexDecode_hexEncode (d : Sha256Digest) : hexDecode d.hexEncode = some d := by
  have hlt : d.bits.toNat < 16 ^ 64 := d.bits_lt
  unfold hexDecode hexEncode
  rw [String.toList_ofList, if_pos (by rw [List.length_map, Uuid.length_nibbles]),
    Uuid.hexVals_map _ (Uuid.nibbles_lt 64 _), Option.map_some, Uuid.ofNibbles_nibbles,
    Nat.mod_eq_of_lt hlt, BitVec.ofNat_toNat, BitVec.setWidth_eq]

theorem hexEncode_injective : Function.Injective hexEncode := by
  intro d d' h
  have hdecode := congrArg hexDecode h
  rwa [hexDecode_hexEncode, hexDecode_hexEncode, Option.some.injEq] at hdecode

end Sha256Digest

/-- `is_lowercase_sha256`: 64 bytes, each of them `0`–`9` or `a`–`f` -/
def isLowercaseSha256 (value : String) : Bool :=
  decide (byteLen value.toList = 64) &&
    (utf8 value.toList).all fun byte => (48 ≤ byte && byte ≤ 57) || (97 ≤ byte && byte ≤ 102)

/-- 64 lower-case hexadecimal digits -/
def LowercaseSha256 (value : String) : Prop :=
  ∃ ds : List Nat, ds.length = 64 ∧ (∀ d ∈ ds, d < 16) ∧ value.toList = ds.map Uuid.hexDigit

theorem hexDigit_byte : ∀ d < 16, (Uuid.hexDigit d).toNat < 128 ∧
    ((48 ≤ (Uuid.hexDigit d).toNat ∧ (Uuid.hexDigit d).toNat ≤ 57) ∨
      (97 ≤ (Uuid.hexDigit d).toNat ∧ (Uuid.hexDigit d).toNat ≤ 102)) := by decide

/-- a character of these bytes is one of the digits -/
theorem exists_hexDigit {c : Char} (h : (48 ≤ c.toNat ∧ c.toNat ≤ 57) ∨ (97 ≤ c.toNat ∧ c.toNat ≤ 102)) :
    ∃ d < 16, Uuid.hexDigit d = c := by
  rcases h with ⟨h1, h2⟩ | ⟨h1, h2⟩
  · refine ⟨c.toNat - 48, by omega, ?_⟩
    unfold Uuid.hexDigit
    rw [if_pos (by omega), Nat.add_sub_cancel' h1, Char.ofNat_toNat]
  · refine ⟨c.toNat - 87, by omega, ?_⟩
    unfold Uuid.hexDigit
    rw [if_neg (by omega), Nat.add_sub_cancel' (by omega), Char.ofNat_toNat]

theorem exists_hexDigits : ∀ {l : List Char}, (∀ c ∈ l, ∃ d < 16, Uuid.hexDigit d = c) →
    ∃ ds : List Nat, (∀ d ∈ ds, d < 16) ∧ l = ds.map Uuid.hexDigit
  | [], _ => ⟨[], fun _ hd => absurd hd List.not_mem_nil, rfl⟩
  | c :: l, h => by
    obtain ⟨d, hd, rfl⟩ := h c List.mem_cons_self
    obtain ⟨ds, hds, rfl⟩ := exists_hexDigits fun x hx => h x (List.mem_cons_of_mem _ hx)
    refine ⟨d :: ds, ?_, rfl⟩
    intro x hx
    rcases List.mem_cons.mp hx with rfl | hx
    · exact hd
    · exact hds x hx

theorem isLowercaseSha256_iff (value : String) : isLowercaseSha256 value = true ↔ LowercaseSha256 value := by
  unfold isLowercaseSha256
  rw [Bool.and_eq_true, decide_eq_true_eq, List.all_eq_true]
  simp only [Bool.or_eq_true, Bool.and_eq_true, decide_eq_true_eq, UInt8.le_iff_toNat_le,
    UInt8.reduceToNat]
  constructor
  · rintro ⟨hlen, hbytes⟩
    have hascii : Ascii value.toList := ascii_of_bytes fun b hb => by
      have := hbytes b hb
      omega
    obtain ⟨ds, hds, hlist⟩ := exists_hexDigits fun c hc => by
      have hlt := hascii c hc
      have hbyte := hbytes (UInt8.ofNat c.toNat) (by
        rw [utf8_ascii hascii]
        exact List.mem_map_of_mem hc)
      rw [UInt8.toNat_ofNat', Nat.mod_eq_of_lt (by omega)] at hbyte
      exact exists_hexDigit hbyte
    refine ⟨ds, ?_, hds, hlist⟩
    rw [byteLen_ascii hascii, hlist, List.length_map] at hlen
    exact hlen
  · rintro ⟨ds, hlen, hds, hlist⟩
    have hascii : Ascii (ds.map Uuid.hexDigit) := by
      intro c hc
      obtain ⟨d, hd, rfl⟩ := List.mem_map.mp hc
      exact (hexDigit_byte d (hds d hd)).1
    rw [hlist, byteLen_ascii hascii, List.length_map, utf8_ascii hascii]
    refine ⟨hlen, ?_⟩
    intro b hb
    obtain ⟨c, hc, rfl⟩ := List.mem_map.mp hb
    obtain ⟨d, hd, rfl⟩ := List.mem_map.mp hc
    have hdigit := hexDigit_byte d (hds d hd)
    rw [UInt8.toNat_ofNat', Nat.mod_eq_of_lt (by omega)]
    exact hdigit.2

/-- such a text is the text of the digest that it is read as -/
theorem hexDecode_lowercase {value : String} (h : LowercaseSha256 value) :
    ∃ d, Sha256Digest.hexDecode value = some d ∧ d.hexEncode = value := by
  obtain ⟨ds, hlen, hds, hlist⟩ := h
  have hround : fixedDigits 16 64 (digitsValue 16 ds) = ds := hlen ▸ fixedDigits_digitsValue hds
  have hvalue : digitsValue 16 ds = digitsValue 16 ds % 16 ^ 64 := by
    conv_lhs => rw [← hround, digitsValue_fixedDigits]
  refine ⟨⟨BitVec.ofNat 256 (Uuid.ofNibbles ds)⟩, ?_, ?_⟩
  · unfold Sha256Digest.hexDecode
    rw [hlist, if_pos (by rw [List.length_map, hlen]), Uuid.hexVals_map ds hds]
    rfl
  · unfold Sha256Digest.hexEncode
    have hbits : (BitVec.ofNat 256 (Uuid.ofNibbles ds)).toNat = digitsValue 16 ds := by
      rw [BitVec.toNat_ofNat]
      exact hvalue.symm
    rw [hbits, Uuid.nibbles_eq, hround, ← hlist, String.ofList_toList]

/-! ## The checks -/

/-- what `DomainError` says of a declaration -/
inductive DeclaredFileError
  | filename (e : DocumentFilenameError)
  | invalidDocumentContentType
  | documentContentLengthTooLarge (maximum : Nat)
  | invalidDocumentSha256Checksum
  deriving DecidableEq, Repr

def DeclaredFileError.message : DeclaredFileError → String
  | .filename .emptyDocumentFilename => "document filename must not be empty"
  | .filename .documentFilenameTooLong => "document filename must be at most 255 bytes"
  | .filename .invalidDocumentFilenameCharacters => "document filename contains unsupported characters"
  | .filename .reservedDocumentFilename => "document filename must not be . or .."
  | .invalidDocumentContentType => "document content type must be a valid HTTP media type"
  | .documentContentLengthTooLarge maximum =>
    s!"document content length must be at most {maximum} bytes"
  | .invalidDocumentSha256Checksum =>
    "document SHA-256 checksum must be 64 lowercase hexadecimal characters"

/-- the readers of media types and header values: whether they accept a text -/
structure ContentTypeReaders where
  isMime : String → Bool
  isHeaderValue : String → Bool

def maxContentTypeBytes : Nat := 255

/-- `i64::MAX as u64` -/
def i64MaxAsU64 : Nat := i64Max.toNat

/-- `valid_content_type` -/
def validContentType (readers : ContentTypeReaders) (contentType : String) : Bool :=
  decide (contentType ≠ "") && decide (contentType.utf8ByteSize ≤ maxContentTypeBytes) &&
    decide (trim contentType = contentType) && readers.isMime contentType &&
    readers.isHeaderValue contentType

/-- a checksum that is given must be one; the inner option says whether it is given -/
def expectedDigest (expectedSha256 : Option String) : Option (Option Sha256Digest) :=
  match expectedSha256 with
  | none => some none
  | some value => if isLowercaseSha256 value then (Sha256Digest.hexDecode value).map some else none

namespace DeclaredUploadFile

def new (readers : ContentTypeReaders) (filename contentType : String) (expectedContentLength : Nat)
    (expectedSha256 : Option String) (maxBytes : Nat) :
    Except (List DeclaredFileError) DeclaredUploadFile :=
  let (filename, errors) : Option String × List DeclaredFileError :=
    match validateDocumentFilename filename with
    | .ok filename => (some filename, [])
    | .error filenameErrors => (none, filenameErrors.map .filename)
  let validContentType := validContentType readers contentType
  let errors := if !validContentType then errors ++ [.invalidDocumentContentType] else errors
  let maximum := min maxBytes i64MaxAsU64
  let errors :=
    if maximum < expectedContentLength then errors ++ [.documentContentLengthTooLarge maximum] else errors
  let expectedSha256 := expectedDigest expectedSha256
  let errors := if expectedSha256.isNone then errors ++ [.invalidDocumentSha256Checksum] else errors
  match filename, validContentType, expectedSha256 with
  | some filename, true, some expectedSha256 =>
    if errors.isEmpty then .ok { filename, contentType, expectedContentLength, expectedSha256 }
    else .error errors
  | _, _, _ => .error errors

/-- the checks again, with the largest maximum -/
def rehydrate (readers : ContentTypeReaders) (filename contentType : String) (expectedContentLength : Nat)
    (expectedSha256 : Option Sha256Digest) : Except DeclaredUploadFileError DeclaredUploadFile :=
  (new readers filename contentType expectedContentLength (expectedSha256.map Sha256Digest.hexEncode)
    i64MaxAsU64).mapError fun _ => .invalidRehydration

end DeclaredUploadFile

/-! ## The rules -/

/-- a media type of at most 255 bytes that can stand in a header, with no white space around it -/
structure ValidContentType (readers : ContentTypeReaders) (contentType : String) : Prop where
  notEmpty : contentType ≠ ""
  short : contentType.utf8ByteSize ≤ 255
  trimmed : trim contentType = contentType
  mime : readers.isMime contentType = true
  headerValue : readers.isHeaderValue contentType = true

theorem validContentType_iff {readers : ContentTypeReaders} {contentType : String} :
    validContentType readers contentType = true ↔ ValidContentType readers contentType := by
  unfold validContentType
  simp only [Bool.and_eq_true, decide_eq_true_eq]
  constructor
  · rintro ⟨⟨⟨⟨h1, h2⟩, h3⟩, h4⟩, h5⟩
    exact ⟨h1, h2, h3, h4, h5⟩
  · rintro ⟨h1, h2, h3, h4, h5⟩
    exact ⟨⟨⟨⟨h1, h2⟩, h3⟩, h4⟩, h5⟩

section
variable (readers : ContentTypeReaders) (filename contentType : String) (expectedContentLength : Nat)
  (expectedSha256 : Option String) (maxBytes : Nat)

/-- the rule that an error names is violated -/
def Violated : DeclaredFileError → Prop
  | .filename .emptyDocumentFilename => isBlank filename = true
  | .filename .documentFilenameTooLong => 255 < filename.utf8ByteSize
  | .filename .invalidDocumentFilenameCharacters => ∃ c ∈ filename.toList, filenameCharacter c = false
  | .filename .reservedDocumentFilename => filename = "." ∨ filename = ".."
  | .invalidDocumentContentType => ¬ ValidContentType readers contentType
  | .documentContentLengthTooLarge maximum =>
    maximum = min maxBytes i64MaxAsU64 ∧ maximum < expectedContentLength
  | .invalidDocumentSha256Checksum => ∃ value, expectedSha256 = some value ∧ ¬ LowercaseSha256 value

/-- the rules, in the order in which they are checked -/
def declarationRules : List DeclaredFileError :=
  [.filename .emptyDocumentFilename, .filename .documentFilenameTooLong,
    .filename .invalidDocumentFilenameCharacters, .filename .reservedDocumentFilename,
    .invalidDocumentContentType, .documentContentLengthTooLarge (min maxBytes i64MaxAsU64),
    .invalidDocumentSha256Checksum]

theorem declarationRules_nodup : (declarationRules maxBytes).Nodup := by
  unfold declarationRules
  simp

/-- the errors of one check after the other -/
def declarationErrors : List DeclaredFileError :=
  (documentFilenameErrors filename).map .filename ++
    (if validContentType readers contentType = true then [] else [.invalidDocumentContentType]) ++
    (if min maxBytes i64MaxAsU64 < expectedContentLength then
      [.documentContentLengthTooLarge (min maxBytes i64MaxAsU64)] else []) ++
    (if (expectedDigest expectedSha256).isNone = true then [.invalidDocumentSha256Checksum] else [])

end

theorem expectedDigest_isNone {expectedSha256 : Option String} :
    (expectedDigest expectedSha256).isNone = true ↔
      ∃ value, expectedSha256 = some value ∧ ¬ LowercaseSha256 value := by
  unfold expectedDigest
  split
  case h_1 => simp
  case h_2 value =>
    by_cases hvalue : LowercaseSha256 value
    · obtain ⟨d, hd, -⟩ := hexDecode_lowercase hvalue
      rw [if_pos ((isLowercaseSha256_iff value).mpr hvalue), hd]
      simp [hvalue]
    · rw [if_neg (mt (isLowercaseSha256_iff value).mp hvalue)]
      simp [hvalue]

/-- the digest that is kept is that of the text -/
theorem expectedDigest_some {expectedSha256 : Option String} {digest : Option Sha256Digest}
    (h : expectedDigest expectedSha256 = some digest) :
    digest.map Sha256Digest.hexEncode = expectedSha256 := by
  unfold expectedDigest at h
  split at h
  case h_1 =>
    cases h
    rfl
  case h_2 value =>
    split at h
    case isTrue hvalue =>
      obtain ⟨d, hd, htext⟩ := hexDecode_lowercase ((isLowercaseSha256_iff value).mp hvalue)
      rw [hd] at h
      cases h
      rw [Option.map_some, htext]
    case isFalse => cases h

theorem validateDocumentFilename_error {value : String} (h : documentFilenameErrors value ≠ []) :
    validateDocumentFilename value = .error (documentFilenameErrors value) := if_neg h

section
variable {readers : ContentTypeReaders} {filename contentType : String} {expectedContentLength : Nat}
  {expectedSha256 : Option String} {maxBytes : Nat}

/-- the declaration is accepted as it is, or all errors are told -/
theorem new_cases (readers : ContentTypeReaders) (filename contentType : String)
    (expectedContentLength : Nat) (expectedSha256 : Option String) (maxBytes : Nat) :
    (∃ digest, digest.map Sha256Digest.hexEncode = expectedSha256 ∧
      declarationErrors readers filename contentType expectedContentLength expectedSha256 maxBytes = [] ∧
      DeclaredUploadFile.new readers filename contentType expectedContentLength expectedSha256 maxBytes
        = .ok ⟨filename, contentType, expectedContentLength, digest⟩) ∨
    (declarationErrors readers filename contentType expectedContentLength expectedSha256 maxBytes ≠ [] ∧
      DeclaredUploadFile.new readers filename contentType expectedContentLength expectedSha256 maxBytes
        = .error
          (declarationErrors readers filename contentType expectedContentLength expectedSha256 maxBytes)) := by
  unfold DeclaredUploadFile.new declarationErrors
  -- `simp` puts the errors of the checks together once it is known which of them fail
  by_cases hname : documentFilenameErrors filename = []
  · rw [validateDocumentFilename_ok.mpr ⟨rfl, documentFilename_iff.mp hname⟩, hname]
    cases hct : validContentType readers contentType with
    | false =>
      refine .inr ⟨by simp, ?_⟩
      cases expectedDigest expectedSha256 <;>
        by_cases hlen : min maxBytes i64MaxAsU64 < expectedContentLength <;> simp [hlen]
    | true =>
      cases hdigest : expectedDigest expectedSha256 with
      | none =>
        refine .inr ⟨by simp, ?_⟩
        by_cases hlen : min maxBytes i64MaxAsU64 < expectedContentLength <;> simp [hlen]
      | some digest =>
        by_cases hlen : min maxBytes i64MaxAsU64 < expectedContentLength
        · exact .inr (by simp [hlen])
        · exact .inl ⟨digest, expectedDigest_some hdigest, by simp [hlen], by simp [hlen]⟩
  · rw [validateDocumentFilename_error hname]
    refine .inr ⟨by simp [hname], ?_⟩
    cases validContentType readers contentType <;> cases expectedDigest expectedSha256 <;>
      by_cases hlen : min maxBytes i64MaxAsU64 < expectedContentLength <;> simp [hlen]

theorem mem_documentFilenameErrors (e : DocumentFilenameError) :
    e ∈ documentFilenameErrors filename ↔
      Violated readers filename contentType expectedContentLength expectedSha256 maxBytes (.filename e) := by
  unfold documentFilenameErrors
  cases e with
  | emptyDocumentFilename => simp [Violated]
  | documentFilenameTooLong => simp [Violated]
  | invalidDocumentFilenameCharacters => simp [Violated]
  | reservedDocumentFilename => simp [Violated]

/-- the errors are the rules that are violated -/
theorem mem_declarationErrors (e : DeclaredFileError) :
    e ∈ declarationErrors readers filename contentType expectedContentLength expectedSha256 maxBytes ↔
      Violated readers filename contentType expectedContentLength expectedSha256 maxBytes e := by
  unfold declarationErrors
  cases e with
  | filename e => simp [← mem_documentFilenameErrors]
  | invalidDocumentContentType => simp [Violated, ← validContentType_iff]
  | documentContentLengthTooLarge maximum =>
    simp only [List.mem_append, List.mem_map, reduceCtorEq, and_false, exists_false, false_or, or_false,
      List.mem_ite_nil_left, List.mem_ite_nil_right, List.mem_singleton, Violated,
      DeclaredFileError.documentContentLengthTooLarge.injEq]
    exact ⟨fun ⟨hlt, heq⟩ => ⟨heq, heq ▸ hlt⟩, fun ⟨heq, hlt⟩ => ⟨heq ▸ hlt, heq⟩⟩
  | invalidDocumentSha256Checksum =>
    simp only [List.mem_append, List.mem_map, reduceCtorEq, and_false, exists_false, false_or,
      List.mem_ite_nil_left, List.mem_ite_nil_right, List.mem_singleton, and_true]
    exact expectedDigest_isNone

end

theorem ite_nil_sublist {α : Type*} (a : α) (c : Prop) [Decidable c] : (if c then [] else [a]).Sublist [a] := by
  split
  · exact List.nil_sublist [a]
  · exact List.Sublist.refl [a]

theorem ite_singleton_sublist {α : Type*} (a : α) (c : Prop) [Decidable c] :
    (if c then [a] else []).Sublist [a] := by
  split
  · exact List.Sublist.refl [a]
  · exact List.nil_sublist [a]

/-- in their order -/
theorem declarationErrors_sublist (readers : ContentTypeReaders) (filename contentType : String)
    (expectedContentLength : Nat) (expectedSha256 : Option String) (maxBytes : Nat) :
    (declarationErrors readers filename contentType expectedContentLength expectedSha256 maxBytes).Sublist
      (declarationRules maxBytes) := by
  have hname : ((documentFilenameErrors filename).map DeclaredFileError.filename).Sublist
      ([.emptyDocumentFilename, .documentFilenameTooLong, .invalidDocumentFilenameCharacters,
        .reservedDocumentFilename].map DeclaredFileError.filename) := by
    refine List.Sublist.map _ ?_
    exact (((ite_singleton_sublist _ _).append (ite_singleton_sublist _ _)).append (ite_nil_sublist _ _)).append
      (ite_singleton_sublist _ _)
  exact ((hname.append (ite_nil_sublist _ _)).append (ite_singleton_sublist _ _)).append
    (ite_singleton_sublist _ _)

/-! ## What the checks do -/

section
variable {readers : ContentTypeReaders} {filename contentType : String} {expectedContentLength : Nat}
  {expectedSha256 : Option String} {maxBytes : Nat}

theorem new_ok {f : DeclaredUploadFile}
    (h : DeclaredUploadFile.new readers filename contentType expectedContentLength expectedSha256 maxBytes
      = .ok f) :
    (f.filename = filename ∧ f.contentType = contentType ∧
      f.expectedContentLength = expectedContentLength ∧
      f.expectedSha256.map Sha256Digest.hexEncode = expectedSha256) ∧
    ∀ e, ¬ Violated readers filename contentType expectedContentLength expectedSha256 maxBytes e := by
  obtain ⟨digest, htext, hnil, heq⟩ | ⟨-, heq⟩ :=
    new_cases readers filename contentType expectedContentLength expectedSha256 maxBytes
  · rw [heq] at h
    cases h
    refine ⟨⟨rfl, rfl, rfl, htext⟩, fun e he => ?_⟩
    rw [← mem_declarationErrors, hnil] at he
    exact List.not_mem_nil he
  · rw [heq] at h
    cases h

/-- **A declaration is accepted exactly if no rule is violated.** -/
theorem new_ok_iff :
    (∃ f, DeclaredUploadFile.new readers filename contentType expectedContentLength expectedSha256 maxBytes
      = .ok f) ↔
      ∀ e, ¬ Violated readers filename contentType expectedContentLength expectedSha256 maxBytes e := by
  constructor
  · rintro ⟨f, hf⟩
    exact (new_ok hf).2
  · intro hrules
    obtain ⟨digest, -, -, heq⟩ | ⟨hne, -⟩ :=
      new_cases readers filename contentType expectedContentLength expectedSha256 maxBytes
    · exact ⟨_, heq⟩
    · obtain ⟨e, he⟩ := List.exists_mem_of_ne_nil _ hne
      exact absurd ((mem_declarationErrors e).mp he) (hrules e)

/-- **The errors are the rules that are violated, each once and in their order.** -/
theorem new_error {errors : List DeclaredFileError}
    (h : DeclaredUploadFile.new readers filename contentType expectedContentLength expectedSha256 maxBytes
      = .error errors) :
    errors.Sublist (declarationRules maxBytes) ∧ errors.Nodup ∧
      ∀ e, e ∈ errors ↔
        Violated readers filename contentType expectedContentLength expectedSha256 maxBytes e := by
  obtain ⟨digest, -, -, heq⟩ | ⟨-, heq⟩ :=
    new_cases readers filename contentType expectedContentLength expectedSha256 maxBytes
  · rw [heq] at h
    cases h
  · rw [heq, Except.error.injEq] at h
    subst h
    have hsub := declarationErrors_sublist readers filename contentType expectedContentLength expectedSha256
      maxBytes
    exact ⟨hsub, hsub.nodup (declarationRules_nodup maxBytes), mem_declarationErrors⟩

end

/-! ## Loading it again -/

/-- the columns of a declaration -/
structure DeclaredFileRow where
  filename : String
  contentType : String
  expectedContentLength : Int
  expectedSha256 : Option (List UInt8)
  deriving DecidableEq, Repr

/-- the checks of the database on them -/
structure DeclaredFileRow.Checked (row : DeclaredFileRow) : Prop where
  filename : row.filename ≠ "" ∧ row.filename.utf8ByteSize ≤ 255
  contentType : row.contentType ≠ "" ∧ row.contentType = trimSpaces row.contentType ∧
    row.contentType.utf8ByteSize ≤ 255
  contentLength : 0 ≤ row.expectedContentLength
  sha256 : ∀ bytes ∈ row.expectedSha256, bytes.length = 32

/-- the declaration part of `from_domain`; `i64::try_from` of the length -/
def DeclaredUploadFile.toRow (f : DeclaredUploadFile) : Option DeclaredFileRow :=
  if (f.expectedContentLength : Int) ≤ i64Max then
    some
      { filename := f.filename
        contentType := f.contentType
        expectedContentLength := f.expectedContentLength
        expectedSha256 := f.expectedSha256.map Sha256Digest.bytes }
  else none

/-- the bytes of a digest, if there are any -/
def loadDigest : Option (List UInt8) → Option (Option Sha256Digest)
  | none => some none
  | some bytes => (Sha256Digest.ofBytes bytes).map some

/-- the declaration part of `into_domain`; `u64::try_from` of the length, and the checks again -/
def DeclaredFileRow.load (readers : ContentTypeReaders) (row : DeclaredFileRow) :
    Except String DeclaredUploadFile :=
  if row.expectedContentLength < 0 then .error "persisted machine upload length is negative"
  else
    match loadDigest row.expectedSha256 with
    | none => .error "persisted machine upload SHA-256 is invalid"
    | some expectedSha256 =>
      (DeclaredUploadFile.rehydrate readers row.filename row.contentType row.expectedContentLength.toNat
        expectedSha256).mapError fun _ => "persisted machine upload declaration is invalid"

section
variable {readers : ContentTypeReaders} {filename contentType : String} {expectedContentLength : Nat}
  {expectedSha256 : Option String} {maxBytes : Nat} {f : DeclaredUploadFile}

/-- a length that is accepted fits a signed column -/
theorem new_length
    (h : DeclaredUploadFile.new readers filename contentType expectedContentLength expectedSha256 maxBytes
      = .ok f) : f.expectedContentLength ≤ i64MaxAsU64 := by
  obtain ⟨⟨-, -, hlength, -⟩, hrules⟩ := new_ok h
  have hmax := hrules (.documentContentLengthTooLarge (min maxBytes i64MaxAsU64))
  have hle : ¬ min maxBytes i64MaxAsU64 < expectedContentLength := fun hlt => hmax ⟨rfl, hlt⟩
  omega

/-- **The checks accept their own results again.** -/
theorem rehydrate_of_new
    (h : DeclaredUploadFile.new readers filename contentType expectedContentLength expectedSha256 maxBytes
      = .ok f) :
    DeclaredUploadFile.rehydrate readers f.filename f.contentType f.expectedContentLength f.expectedSha256
      = .ok f := by
  obtain ⟨⟨hfilename, hcontentType, -, hdigest⟩, hrules⟩ := new_ok h
  have hagain : ∀ e, ¬ Violated readers f.filename f.contentType f.expectedContentLength
      (f.expectedSha256.map Sha256Digest.hexEncode) i64MaxAsU64 e := by
    rw [hfilename, hcontentType, hdigest]
    intro e he
    cases e with
    | documentContentLengthTooLarge maximum =>
      obtain ⟨rfl, hlt⟩ := he
      have hle := new_length h
      omega
    | filename e => exact hrules (.filename e) (by cases e <;> exact he)
    | invalidDocumentContentType => exact hrules .invalidDocumentContentType he
    | invalidDocumentSha256Checksum => exact hrules .invalidDocumentSha256Checksum he
  obtain ⟨f', hf'⟩ := new_ok_iff.mpr hagain
  obtain ⟨⟨hfilename', hcontentType', hlength', hdigest'⟩, -⟩ := new_ok hf'
  have hsame : f' = f := by
    have hinj := Option.map_injective Sha256Digest.hexEncode_injective hdigest'
    cases f
    cases f'
    simp only at hfilename' hcontentType' hlength' hinj
    rw [hfilename', hcontentType', hlength', hinj]
  unfold DeclaredUploadFile.rehydrate
  rw [hf', hsame]
  rfl

theorem isBlank_empty : isBlank "" = true := by decide

/-- **What was accepted can be stored, passes the checks of the database and is loaded again.** -/
theorem load_toRow
    (h : DeclaredUploadFile.new readers filename contentType expectedContentLength expectedSha256 maxBytes
      = .ok f) :
    ∃ row, f.toRow = some row ∧ row.Checked ∧ row.load readers = .ok f := by
  have hlength := new_length h
  have hfits : (f.expectedContentLength : Int) ≤ i64Max := by
    unfold i64MaxAsU64 i64Max at hlength
    unfold i64Max
    omega
  refine ⟨_, if_pos hfits, ?_, ?_⟩
  · obtain ⟨⟨hfilename, hcontentType, -, -⟩, hrules⟩ := new_ok h
    have hshort : ¬ 255 < filename.utf8ByteSize := hrules (.filename .documentFilenameTooLong)
    have hblank : ¬ isBlank filename = true := hrules (.filename .emptyDocumentFilename)
    have htype : ValidContentType readers contentType := not_not.mp (hrules .invalidDocumentContentType)
    constructor
    · show f.filename ≠ "" ∧ f.filename.utf8ByteSize ≤ 255
      rw [hfilename]
      refine ⟨?_, Nat.not_lt.mp hshort⟩
      rintro rfl
      exact hblank isBlank_empty
    · rw [hcontentType]
      exact ⟨htype.notEmpty, (trimSpaces_of_trim htype.trimmed).symm, htype.short⟩
    · exact Int.natCast_nonneg _
    · intro bytes hbytes
      obtain ⟨d, -, rfl⟩ := Option.map_eq_some_iff.mp hbytes
      exact d.length_bytes
  · have hdigest : loadDigest (f.expectedSha256.map Sha256Digest.bytes) = some f.expectedSha256 := by
      cases f.expectedSha256 with
      | none => rfl
      | some d =>
        show (Sha256Digest.ofBytes d.bytes).map some = _
        rw [Sha256Digest.ofBytes_bytes, Option.map_some]
    unfold DeclaredFileRow.load
    rw [if_neg (not_lt.mpr (Int.natCast_nonneg _)), hdigest]
    dsimp only
    rw [Int.toNat_natCast, rehydrate_of_new h]
    rfl

end

/-- a declaration is accepted exactly if no rule is violated, and otherwise refused with just the rules that
are, each once and in their order; what is accepted is the same when it is loaded from its columns, which
pass the checks of the database; and a staged file is accepted exactly if it has the declared length and,
where one was declared, the declared digest -/
theorem declared_upload_file (readers : ContentTypeReaders) :
    (∀ (filename contentType : String) (expectedContentLength : Nat) (expectedSha256 : Option String)
      (maxBytes : Nat),
      ((∃ f, DeclaredUploadFile.new readers filename contentType expectedContentLength expectedSha256 maxBytes
          = .ok f) ↔
        ∀ e, ¬ Violated readers filename contentType expectedContentLength expectedSha256 maxBytes e) ∧
      (∀ errors, DeclaredUploadFile.new readers filename contentType expectedContentLength expectedSha256
          maxBytes = .error errors →
        errors.Sublist (declarationRules maxBytes) ∧ errors.Nodup ∧
        ∀ e, e ∈ errors ↔
          Violated readers filename contentType expectedContentLength expectedSha256 maxBytes e) ∧
      (∀ f, DeclaredUploadFile.new readers filename contentType expectedContentLength expectedSha256 maxBytes
          = .ok f →
        (f.filename = filename ∧ f.contentType = contentType ∧
          f.expectedContentLength = expectedContentLength ∧
          f.expectedSha256.map Sha256Digest.hexEncode = expectedSha256) ∧
        DeclaredUploadFile.rehydrate readers f.filename f.contentType f.expectedContentLength
          f.expectedSha256 = .ok f ∧
        ∃ row, f.toRow = some row ∧ row.Checked ∧ row.load readers = .ok f)) ∧
    (∀ (f : DeclaredUploadFile) (contentLength : Int) (checksumSha256 : String),
      f.validateStaged contentLength checksumSha256 = .ok () ↔
        contentLength = f.expectedContentLength ∧
        ∀ expected, f.expectedSha256 = some expected → checksumSha256 = expected.hexEncode) ∧
    Function.Injective Sha256Digest.hexEncode := by
  refine ⟨?_, fun f contentLength checksum => DeclaredUploadFile.validateStaged_ok,
    Sha256Digest.hexEncode_injective⟩
  intro filename contentType expectedContentLength expectedSha256 maxBytes
  refine ⟨new_ok_iff, fun errors => new_error, fun f hf => ?_⟩
  exact ⟨(new_ok hf).1, rehydrate_of_new hf, load_toRow hf⟩

end Proofplane
