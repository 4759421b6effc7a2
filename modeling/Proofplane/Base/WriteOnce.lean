import Proofplane.Base.Files

/-!
# Names that are used once

Where every name is given to one file only, and never again when that file has gone, whoever opens a
name at any time reads the same file.

* `WriteOnce f made`   `made k n` says that the file `n` was made under the name `k`, at some time;
* `WriteOnce.create`   a name that was never used makes a new file, and `remove`, `write` change nothing of this;
* `Unlinked f f'`      nothing has happened but that names have gone.
-/

set_option linter.unusedSectionVars false

namespace Base

variable {κ β : Type*} [DecidableEq κ]

structure WriteOnce (f : Files κ β) (made : κ → Nat → Prop) : Prop where
  entries : ∀ k n, f.entries k = some n → made k n
  bounded : ∀ k n, made k n → n < f.next
  single : ∀ k n m, made k n → made k m → n = m
  separate : ∀ k k' n, made k n → made k' n → k = k'

namespace Files

/-- some names may have gone -/
structure Unlinked (f f' : Files κ β) : Prop where
  entries : ∀ k n, f'.entries k = some n → f.entries k = some n
  nodes : f'.nodes = f.nodes
  next : f'.next = f.next

theorem Unlinked.refl (f : Files κ β) : Unlinked f f := ⟨fun _ _ h => h, rfl, rfl⟩

theorem unlinked_remove (f : Files κ β) (k : κ) : Unlinked f (f.remove k) := by
  refine ⟨?_, rfl, rfl⟩
  intro k' n h
  by_cases hk : k' = k
  · subst hk
    have hgone : Function.update f.entries k' none k' = some n := h
    rw [Function.update_self] at hgone
    cases hgone
  · have hkept : Function.update f.entries k none k' = some n := h
    rwa [Function.update_of_ne hk] at hkept

end Files

namespace WriteOnce

variable {f f' : Files κ β} {made made' : κ → Nat → Prop} {k k' : κ} {n : Nat}

/-- whoever opens a name opens the file that was made under it -/
theorem opened (h : WriteOnce f made) (hmade : made k n) {m : Nat} (hopen : f.entries k = some m) : m = n :=
  h.single k m n (h.entries k m hopen) hmade

theorem get (h : WriteOnce f made) (hmade : made k n) {b : β} (hget : f.get k = some b) : b = f.nodes n := by
  cases hopen : f.entries k with
  | none =>
    unfold Files.get at hget
    rw [hopen] at hget
    cases hget
  | some m =>
    rw [Files.get_of_entry hopen, h.opened hmade hopen] at hget
    exact (Option.some.inj hget).symm

theorem unlinked (h : WriteOnce f made) (hu : f.Unlinked f') : WriteOnce f' made where
  entries := fun k n hk => h.entries k n (hu.entries k n hk)
  bounded := by
    intro k n hmade
    rw [hu.next]
    exact h.bounded k n hmade
  single := h.single
  separate := h.separate

theorem write (h : WriteOnce f made) (n : Nat) (b : β) : WriteOnce (f.write n b) made :=
  ⟨h.entries, h.bounded, h.single, h.separate⟩

theorem congr (h : WriteOnce f made) (hmade : ∀ k n, made' k n ↔ made k n) : WriteOnce f made' := by
  have heq : made' = made := by
    funext k n
    exact propext (hmade k n)
  rw [heq]
  exact h

/-- a name that was never used leads nowhere, so a new file is made -/
theorem created (h : WriteOnce f made) (hnew : ∀ n, ¬ made k n) : f.created k = f.next := by
  unfold Files.created
  cases hk : f.entries k with
  | none => rfl
  | some m => exact absurd (h.entries k m hk) (hnew m)

theorem create (h : WriteOnce f made) (hnew : ∀ n, ¬ made k n) (blank : β) :
    WriteOnce (f.create k blank) fun k' n => made k' n ∨ k' = k ∧ n = f.next := by
  have hlink : f.create k blank = f.link k blank := by
    unfold Files.create
    cases hk : f.entries k with
    | none => rfl
    | some m => exact absurd (h.entries k m hk) (hnew m)
  rw [hlink]
  refine ⟨?_, ?_, ?_, ?_⟩
  · intro k' n hk
    have hentry : Function.update f.entries k (some f.next) k' = some n := hk
    by_cases hkk : k' = k
    · subst hkk
      rw [Function.update_self] at hentry
      exact .inr ⟨rfl, (Option.some.inj hentry).symm⟩
    · rw [Function.update_of_ne hkk] at hentry
      exact .inl (h.entries k' n hentry)
  · rintro k' n (hmade | ⟨-, rfl⟩)
    · exact Nat.lt_succ_of_lt (h.bounded k' n hmade)
    · exact Nat.lt_succ_self _
  · rintro k' n m (hn | ⟨rfl, rfl⟩) (hm | ⟨hkk, rfl⟩)
    · exact h.single k' n m hn hm
    · subst hkk
      exact absurd hn (hnew n)
    · exact absurd hm (hnew m)
    · rfl
  · rintro k1 k2 n (h1 | ⟨rfl, rfl⟩) (h2 | ⟨rfl, hn⟩)
    · exact h.separate k1 k2 n h1 h2
    · subst hn
      exact absurd (h.bounded k1 _ h1) (Nat.lt_irrefl _)
    · exact absurd (h.bounded k2 _ h2) (Nat.lt_irrefl _)
    · rfl

/-- making a file under a new name leaves the other files alone -/
theorem nodes_create (h : WriteOnce f made) (hnew : ∀ n, ¬ made k n) (hmade : made k' n) (blank : β) :
    (f.create k blank).nodes n = f.nodes n := by
  refine Files.nodes_create_of_ne ?_ blank
  rw [h.created hnew]
  exact Nat.ne_of_lt (h.bounded _ n hmade)

end WriteOnce

theorem writeOnce_empty (blank : β) : WriteOnce (Files.empty (κ := κ) blank) fun _ _ => False where
  entries := fun _ _ h => nomatch h
  bounded := fun _ _ h => h.elim
  single := fun _ _ _ h => h.elim
  separate := fun _ _ _ h => h.elim

end Base
