import Mathlib.Logic.Function.Basic
import Mathlib.Data.List.Basic

/-!
# Files

A directory names files, and a process that has opened a file keeps it when its name goes: a name
leads to a node, and reads and writes go to the node.

* `Files κ β`    names of type `κ`, nodes with contents of type `β`; no two names lead to one node;
* `create`       the node of a name, emptied if it was there and new if it was not;
* `write`        new contents of a node, `remove` the end of a name;
* `overwrite`    bytes written at an offset: what lies between is zero;
* `SameElsewhere`   nothing but the file with a name has changed: so it is after each of them.
-/

set_option linter.unusedSectionVars false

namespace Base

structure Files (κ β : Type*) where
  entries : κ → Option Nat
  nodes : Nat → β
  next : Nat
  bounded : ∀ k n, entries k = some n → n < next
  separate : ∀ k k' n, entries k = some n → entries k' = some n → k = k'

namespace Files

variable {κ β : Type*} [DecidableEq κ]

/-- no file -/
def empty (blank : β) : Files κ β where
  entries := fun _ => none
  nodes := fun _ => blank
  next := 0
  bounded := by simp
  separate := by simp

/-- the contents of the file with this name -/
def get (f : Files κ β) (k : κ) : Option β := (f.entries k).map f.nodes

/-- the contents of a node change -/
def write (f : Files κ β) (n : Nat) (b : β) : Files κ β where
  entries := f.entries
  nodes := Function.update f.nodes n b
  next := f.next
  bounded := f.bounded
  separate := f.separate

/-- a new node under a name -/
def link (f : Files κ β) (k : κ) (b : β) : Files κ β where
  entries := Function.update f.entries k (some f.next)
  nodes := Function.update f.nodes f.next b
  next := f.next + 1
  bounded := by
    intro k' n h
    by_cases hk : k' = k
    · subst hk
      rw [Function.update_self] at h
      cases h
      exact Nat.lt_succ_self _
    · rw [Function.update_of_ne hk] at h
      exact Nat.lt_succ_of_lt (f.bounded k' n h)
  separate := by
    intro k1 k2 n h1 h2
    by_cases hk1 : k1 = k
    · subst hk1
      rw [Function.update_self] at h1
      cases h1
      by_contra hne
      rw [Function.update_of_ne (Ne.symm hne)] at h2
      exact absurd (f.bounded k2 _ h2) (Nat.lt_irrefl _)
    · rw [Function.update_of_ne hk1] at h1
      by_cases hk2 : k2 = k
      · subst hk2
        rw [Function.update_self] at h2
        cases h2
        exact absurd (f.bounded k1 _ h1) (Nat.lt_irrefl _)
      · rw [Function.update_of_ne hk2] at h2
        exact f.separate k1 k2 n h1 h2

/-- open for writing: the file with this name is emptied, or made -/
def create (f : Files κ β) (k : κ) (blank : β) : Files κ β :=
  match f.entries k with
  | some n => f.write n blank
  | none => f.link k blank

/-- the node that `create` opens -/
def created (f : Files κ β) (k : κ) : Nat := (f.entries k).getD f.next

/-- the name goes; a process that has opened the file keeps it -/
def remove (f : Files κ β) (k : κ) : Files κ β where
  entries := Function.update f.entries k none
  nodes := f.nodes
  next := f.next
  bounded := by
    intro k' n h
    by_cases hk : k' = k
    · subst hk
      rw [Function.update_self] at h
      cases h
    · rw [Function.update_of_ne hk] at h
      exact f.bounded k' n h
  separate := by
    intro k1 k2 n h1 h2
    have hne : ∀ {x}, Function.update f.entries k none x = some n → f.entries x = some n := by
      intro x hx
      by_cases hk : x = k
      · subst hk
        rw [Function.update_self] at hx
        cases hx
      · rwa [Function.update_of_ne hk] at hx
    exact f.separate k1 k2 n (hne h1) (hne h2)

/-! ## What a name leads to -/

theorem get_of_entry {f : Files κ β} {k : κ} {n : Nat} (h : f.entries k = some n) :
    f.get k = some (f.nodes n) := by
  unfold get
  rw [h]
  rfl

theorem get_write_self {f : Files κ β} {k : κ} {n : Nat} (h : f.entries k = some n) (b : β) :
    (f.write n b).get k = some b := by
  have hk : (f.write n b).entries k = some n := h
  rw [get_of_entry hk]
  show some (Function.update f.nodes n b n) = some b
  rw [Function.update_self]

theorem entries_create_self (f : Files κ β) (k : κ) (blank : β) :
    (f.create k blank).entries k = some (f.created k) := by
  unfold create created
  cases h : f.entries k with
  | some n => exact h
  | none =>
    show Function.update f.entries k (some f.next) k = some f.next
    rw [Function.update_self]

theorem nodes_create_self (f : Files κ β) (k : κ) (blank : β) :
    (f.create k blank).nodes (f.created k) = blank := by
  unfold create created
  cases f.entries k with
  | some n =>
    show Function.update f.nodes n blank n = blank
    rw [Function.update_self]
  | none =>
    show Function.update f.nodes f.next blank f.next = blank
    rw [Function.update_self]

theorem nodes_create_of_ne {f : Files κ β} {k : κ} {n : Nat} (h : n ≠ f.created k) (blank : β) :
    (f.create k blank).nodes n = f.nodes n := by
  unfold create
  unfold created at h
  cases hk : f.entries k with
  | some m =>
    rw [hk] at h
    exact Function.update_of_ne h _ _
  | none =>
    rw [hk] at h
    exact Function.update_of_ne h _ _

theorem get_remove_self (f : Files κ β) (k : κ) : (f.remove k).get k = none := by
  show (Function.update f.entries k none k).map f.nodes = none
  rw [Function.update_self]
  rfl

/-! ## What the other names lead to -/

/-- nothing but the file with this name has changed -/
def SameElsewhere (f f' : Files κ β) (k : κ) : Prop :=
  ∀ k', k' ≠ k → f'.entries k' = f.entries k' ∧ ∀ n, f.entries k' = some n → f'.nodes n = f.nodes n

theorem SameElsewhere.refl (f : Files κ β) (k : κ) : SameElsewhere f f k :=
  fun _ _ => ⟨rfl, fun _ _ => rfl⟩

theorem SameElsewhere.trans {f f' f'' : Files κ β} {k : κ} (h : SameElsewhere f f' k)
    (h' : SameElsewhere f' f'' k) : SameElsewhere f f'' k := by
  intro k' hne
  obtain ⟨he, hn⟩ := h k' hne
  obtain ⟨he', hn'⟩ := h' k' hne
  refine ⟨he'.trans he, fun n hk' => ?_⟩
  rw [hn' n (he.trans hk'), hn n hk']

theorem SameElsewhere.get {f f' : Files κ β} {k k' : κ} (h : SameElsewhere f f' k) (hne : k' ≠ k) :
    f'.get k' = f.get k' := by
  obtain ⟨he, hn⟩ := h k' hne
  unfold Files.get
  rw [he]
  cases hk' : f.entries k' with
  | none => rfl
  | some n =>
    show some (f'.nodes n) = some (f.nodes n)
    rw [hn n hk']

theorem sameElsewhere_write {f : Files κ β} {k : κ} {n : Nat} (h : f.entries k = some n) (b : β) :
    SameElsewhere f (f.write n b) k := by
  intro k' hne
  refine ⟨rfl, ?_⟩
  intro m hm
  have hmn : m ≠ n := by
    rintro rfl
    exact hne (f.separate k' k m hm h)
  show Function.update f.nodes n b m = f.nodes m
  rw [Function.update_of_ne hmn]

theorem sameElsewhere_create (f : Files κ β) (k : κ) (blank : β) :
    SameElsewhere f (f.create k blank) k := by
  unfold create
  cases h : f.entries k with
  | some n => exact sameElsewhere_write h blank
  | none =>
    intro k' hne
    refine ⟨?_, ?_⟩
    · show Function.update f.entries k (some f.next) k' = f.entries k'
      rw [Function.update_of_ne hne]
    · intro m hm
      have hmn : m ≠ f.next := Nat.ne_of_lt (f.bounded k' m hm)
      show Function.update f.nodes f.next blank m = f.nodes m
      rw [Function.update_of_ne hmn]

theorem sameElsewhere_remove (f : Files κ β) (k : κ) : SameElsewhere f (f.remove k) k := by
  intro k' hne
  refine ⟨?_, fun _ _ => rfl⟩
  show Function.update f.entries k none k' = f.entries k'
  rw [Function.update_of_ne hne]

end Files

/-! ## Bytes at an offset -/

/-- the bytes of a file after a write at an offset: what lies between its end and the offset is zero,
and a write of nothing changes nothing -/
def overwrite {α : Type*} (zero : α) (old : List α) (offset : Nat) (new : List α) : List α :=
  match new with
  | [] => old
  | a :: l =>
    old.take offset ++ (List.replicate (offset - old.length) zero ++
      ((a :: l) ++ old.drop (offset + (a :: l).length)))

/-- a write at the end appends -/
theorem overwrite_end {α : Type*} (zero : α) (old new : List α) :
    overwrite zero old old.length new = old ++ new := by
  cases new with
  | nil => simp [overwrite]
  | cons a l =>
    unfold overwrite
    dsimp only
    rw [List.take_length, Nat.sub_self, List.drop_eq_nil_of_le (Nat.le_add_right _ _)]
    simp

end Base
