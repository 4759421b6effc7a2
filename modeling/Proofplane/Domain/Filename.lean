import Proofplane.Base.Paths
import Proofplane.Base.Text

/-!
# Names of documents

The name that an upload declares: portable ASCII of at most 255 bytes, so that it can be the last part of
the key of an object.

* `validateDocumentFilename`   the check, with all its errors;
* `DocumentFilename`           a name that it accepts, one component of a path.
-/

namespace Proofplane
open Base

/-- what `DomainError` says of a filename -/
inductive DocumentFilenameError
  | emptyDocumentFilename
  | documentFilenameTooLong
  | invalidDocumentFilenameCharacters
  | reservedDocumentFilename
  deriving DecidableEq, Repr

/-- an ASCII letter or digit, or one of ` ._-()` -/
def filenameCharacter (c : Char) : Bool :=
  c.isAlphanum || c == ' ' || c == '.' || c == '_' || c == '-' || c == '(' || c == ')'

/-- all errors of a filename; a character beyond ASCII has no byte that is allowed -/
def documentFilenameErrors (value : String) : List DocumentFilenameError :=
  (if isBlank value = true then [.emptyDocumentFilename] else []) ++
    (if 255 < value.utf8ByteSize then [.documentFilenameTooLong] else []) ++
    (if value.toList.all filenameCharacter = true then [] else [.invalidDocumentFilenameCharacters]) ++
    (if value = "." ∨ value = ".." then [.reservedDocumentFilename] else [])

def validateDocumentFilename (value : String) : Except (List DocumentFilenameError) String :=
  if documentFilenameErrors value = [] then .ok value else .error (documentFilenameErrors value)

/-- a name that the check accepts -/
structure DocumentFilename (value : String) : Prop where
  notBlank : isBlank value = false
  short : value.utf8ByteSize ≤ 255
  characters : ∀ c ∈ value.toList, filenameCharacter c = true
  notDot : value ≠ "."
  notDotdot : value ≠ ".."

theorem ite_singleton_eq_nil {α : Type} {p : Prop} [Decidable p] {a : α} :
    (if p then [a] else []) = [] ↔ ¬ p := by
  by_cases h : p
  · simp [h]
  · simp [h]

theorem documentFilename_iff {value : String} :
    documentFilenameErrors value = [] ↔ DocumentFilename value := by
  unfold documentFilenameErrors
  rw [List.append_eq_nil_iff, List.append_eq_nil_iff, List.append_eq_nil_iff, ite_singleton_eq_nil,
    ite_singleton_eq_nil, ite_singleton_eq_nil]
  constructor
  · rintro ⟨⟨⟨hblank, hlong⟩, hchars⟩, hdots⟩
    refine ⟨Bool.not_eq_true _ ▸ hblank, Nat.not_lt.mp hlong, ?_, fun h => hdots (.inl h), fun h => hdots (.inr h)⟩
    intro c hc
    split at hchars
    · next hall => exact List.all_eq_true.mp hall c hc
    · cases hchars
  · intro h
    refine ⟨⟨⟨?_, Nat.not_lt.mpr h.short⟩, if_pos (List.all_eq_true.mpr h.characters)⟩, ?_⟩
    · rw [h.notBlank]
      exact Bool.false_ne_true
    · rintro (hdot | hdot)
      · exact h.notDot hdot
      · exact h.notDotdot hdot

/-- **The check returns the name as it is, and accepts just these names.** -/
theorem validateDocumentFilename_ok {value filename : String} :
    validateDocumentFilename value = .ok filename ↔ filename = value ∧ DocumentFilename value := by
  unfold validateDocumentFilename
  split
  · next h =>
    constructor
    · intro heq
      cases heq
      exact ⟨rfl, documentFilename_iff.mp h⟩
    · rintro ⟨rfl, -⟩
      rfl
  · next h =>
    constructor
    · intro heq
      cases heq
    · rintro ⟨-, hname⟩
      exact absurd (documentFilename_iff.mpr hname) h

example : documentFilenameErrors "a/b\\c" = [.invalidDocumentFilenameCharacters] := by decide

variable {value : String}

theorem DocumentFilename.notMem (h : DocumentFilename value) {c : Char} (hc : filenameCharacter c = false) :
    c ∉ value.toList := by
  intro hmem
  rw [h.characters c hmem] at hc
  cases hc

theorem DocumentFilename.ne_empty (h : DocumentFilename value) : value ≠ "" := by
  rintro rfl
  exact absurd h.notBlank (by decide)

theorem DocumentFilename.plain (h : DocumentFilename value) : Plain value :=
  ⟨h.ne_empty, h.notDot, h.notDotdot, h.notMem (by decide)⟩

end Proofplane
