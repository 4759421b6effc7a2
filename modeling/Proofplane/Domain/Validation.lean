import Proofplane.Base.Text

/-!
# Validated text

A definition is checked field by field and reports the errors of all of them, in the order of the fields.

* `requiredText`, `optionalText`     the two kinds of text; only the second is trimmed;
* `RequiredText`                     text that is not blank, as a type.
-/

namespace Proofplane
open Base

inductive DomainError
  | emptyRequiredText (field : String)
  | blankOptionalText (field : String)
  | requiredTextTooLong (field : String) (maximum : Nat)
  | optionalTextTooLong (field : String) (maximum : Nat)
  | duplicatePolicyControlId
  deriving DecidableEq, Repr

/-- a value, or every error found on the way -/
abbrev Validation (α : Type) := Except (List DomainError) α

def Validation.errors {α : Type} : Validation α → List DomainError
  | .ok _ => []
  | .error es => es

/-- text that is not blank -/
abbrev RequiredText := { s : String // isBlank s = false }

def requiredText (field : String) (value : String) : Validation RequiredText :=
  if h : isBlank value = false then .ok ⟨value, h⟩ else .error [.emptyRequiredText field]

/-- text that has no white space at its ends, and a number of characters in some range -/
def TrimmedText (maximum : Nat) (s : String) : Prop :=
  trim s = s ∧ s ≠ "" ∧ s.length ≤ maximum

instance (maximum : Nat) (s : String) : Decidable (TrimmedText maximum s) :=
  inferInstanceAs (Decidable (_ ∧ _ ∧ _))

def optionalText (field : String) (maximum : Nat) (value : Option String) :
    Validation (Option { s : String // TrimmedText maximum s }) :=
  match value with
  | none => .ok none
  | some value =>
    if hne : trim value = "" then .error [.blankOptionalText field]
    else if hlong : maximum < (trim value).length then .error [.optionalTextTooLong field maximum]
    else .ok (some ⟨trim value, trim_trim value, hne, Nat.not_lt.mp hlong⟩)

theorem requiredText_eq (field : String) (t : RequiredText) : requiredText field t.1 = .ok t :=
  dif_pos t.2

theorem optionalText_eq (field : String) (maximum : Nat)
    (t : Option { s : String // TrimmedText maximum s }) :
    optionalText field maximum (t.map Subtype.val) = .ok t := by
  cases t with
  | none => rfl
  | some t =>
    obtain ⟨s, htrim, hne, hlong⟩ := t
    show optionalText field maximum (some s) = _
    unfold optionalText
    dsimp only
    rw [dif_neg (by rw [htrim]; exact hne), dif_neg (by rw [htrim]; exact Nat.not_lt.mpr hlong)]
    simp only [htrim]

/-- optional text that is trimmed, as a value of its type -/
theorem exists_optionalText {maximum : Nat} {value : Option String}
    (h : ∀ s ∈ value, TrimmedText maximum s) :
    ∃ t : Option { s : String // TrimmedText maximum s }, t.map Subtype.val = value := by
  cases value with
  | none => exact ⟨none, rfl⟩
  | some s => exact ⟨some ⟨s, h s rfl⟩, rfl⟩

end Proofplane
