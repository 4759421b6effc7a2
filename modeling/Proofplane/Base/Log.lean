import Mathlib.Data.List.Basic

/-!
# Logs

A log is a list of entries, the newest first.  A rule may look at an entry and at the entries before it.

* `Lawful rule log`   every entry of the log meets the rule, over the entries before it;
* `exists_logged_cons`   a new entry of another kind tells nothing new.
-/

namespace Base
variable {α : Type*}

/-- every entry meets the rule, over the entries before it -/
def Lawful (rule : α → List α → Prop) : List α → Prop
  | [] => True
  | entry :: older => rule entry older ∧ Lawful rule older

namespace Lawful
variable {rule : α → List α → Prop} {log newer older : List α} {entry : α}

theorem of_split (h : Lawful rule log) (hlog : log = newer ++ entry :: older) : rule entry older := by
  subst hlog
  induction newer with
  | nil => exact h.1
  | cons e newer ih => exact ih h.2

theorem before (h : Lawful rule log) (hlog : log = newer ++ entry :: older) : Lawful rule older := by
  subst hlog
  induction newer with
  | nil => exact h.2
  | cons e newer ih => exact ih h.2

end Lawful

/-- an entry of another kind tells nothing new -/
theorem exists_logged_cons {P : α → Prop} {entry : α} {log : List α} (h : ¬ P entry) :
    (∃ e ∈ entry :: log, P e) ↔ ∃ e ∈ log, P e := by
  rw [List.exists_mem_cons_iff]
  exact or_iff_right h

end Base
