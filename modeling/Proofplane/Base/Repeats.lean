import Mathlib.Data.Finset.Insert
import Mathlib.Data.Finset.Dedup
import Mathlib.Data.List.Pairwise

/-!
# Keys that a list has more than once

One pass along a list tells the keys that come again from those that do not, with nothing in hand but the
set of the keys so far.

* `hashInsert`       adds a key to a set, and says whether it is new;
* `SecondAt ks i k`  the second occurrence of the key `k` is at the place `i`;
* `Repeats ks ds`    **`ds` is each key of `ks` that comes again, once, in the order of their second
  occurrences**;
* `Repeats.snoc`, `Repeats.again`   what one more key does;
* `Repeats.unique`   there is one such list.
-/

namespace Base

variable {κ : Type*} [DecidableEq κ]

/-! ## Sets of what has been seen -/

/-- whether the key is new, and the set with it -/
def hashInsert (seen : Finset κ) (k : κ) : Bool × Finset κ := (decide (k ∉ seen), insert k seen)

@[simp] theorem hashInsert_fst (seen : Finset κ) (k : κ) : (hashInsert seen k).1 = true ↔ k ∉ seen := by
  simp [hashInsert]

@[simp] theorem hashInsert_snd (seen : Finset κ) (k : κ) : (hashInsert seen k).2 = insert k seen := rfl

theorem toFinset_concat (ks : List κ) (k : κ) : (ks ++ [k]).toFinset = insert k ks.toFinset := by
  ext x
  rw [List.mem_toFinset, List.mem_append, List.mem_singleton, Finset.mem_insert, List.mem_toFinset]
  exact or_comm

/-! ## Second occurrences -/

/-- the key `k` is at the place `i`, and once before it -/
def SecondAt (ks : List κ) (i : Nat) (k : κ) : Prop := ks[i]? = some k ∧ (ks.take i).count k = 1

section
variable {ks : List κ} {i j : Nat} {k : κ}

theorem SecondAt.lt (h : SecondAt ks i k) : i < ks.length := (List.getElem?_eq_some_iff.mp h.1).1

theorem SecondAt.append (h : SecondAt ks i k) (l : List κ) : SecondAt (ks ++ l) i k := by
  refine ⟨?_, ?_⟩
  · rw [List.getElem?_append_left h.lt]
    exact h.1
  · rw [List.take_append_of_le_length h.lt.le]
    exact h.2

/-- a key that was there once has its second occurrence at the end -/
theorem secondAt_last (h : ks.count k = 1) : SecondAt (ks ++ [k]) ks.length k := by
  refine ⟨?_, ?_⟩
  · simp
  · simpa using h

/-- up to and including the second occurrence the key is there twice -/
theorem SecondAt.two_le (h : SecondAt ks i k) (hij : i < j) : 2 ≤ (ks.take j).count k := by
  obtain ⟨hi, hk⟩ := List.getElem?_eq_some_iff.mp h.1
  have htake : (ks.take (i + 1)).count k = 2 := by
    rw [List.take_add_one, h.1, List.count_append, h.2]
    simp
  have hsub : (ks.take (i + 1)).Sublist (ks.take j) := List.take_sublist_take_left (by omega)
  exact htake ▸ hsub.count_le k

theorem SecondAt.unique (hi : SecondAt ks i k) (hj : SecondAt ks j k) : i = j := by
  rcases Nat.lt_trichotomy i j with h | h | h
  · have := hi.two_le h
    have := hj.2
    omega
  · exact h
  · have := hj.two_le h
    have := hi.2
    omega

end

/-! ## The keys that come again -/

/-- the second occurrence of `a` is before the second occurrence of `b` -/
def SecondBefore (ks : List κ) (a b : κ) : Prop := ∃ i j, SecondAt ks i a ∧ SecondAt ks j b ∧ i < j

/-- each key that is there at least twice, once, in the order of the second occurrences -/
structure Repeats (ks ds : List κ) : Prop where
  mem : ∀ k, k ∈ ds ↔ 2 ≤ ks.count k
  nodup : ds.Nodup
  order : ds.Pairwise (SecondBefore ks)

section
variable {ks ds : List κ} {k : κ}

theorem SecondBefore.append {a b : κ} (h : SecondBefore ks a b) (l : List κ) :
    SecondBefore (ks ++ l) a b :=
  let ⟨i, j, hi, hj, hij⟩ := h
  ⟨i, j, hi.append l, hj.append l, hij⟩

theorem SecondBefore.asymm {a b : κ} (h : SecondBefore ks a b) : ¬ SecondBefore ks b a := by
  rintro ⟨j', i', hj', hi', hlt⟩
  obtain ⟨i, j, hi, hj, hij⟩ := h
  have := hi.unique hi'
  have := hj.unique hj'
  omega

/-- a key that is there twice has a second occurrence -/
theorem exists_secondAt (h : 2 ≤ ks.count k) : ∃ i, SecondAt ks i k := by
  induction ks using List.reverseRecOn with
  | nil => simp at h
  | append_singleton ks x ih =>
    by_cases hks : 2 ≤ ks.count k
    · obtain ⟨i, hi⟩ := ih hks
      exact ⟨i, hi.append [x]⟩
    · have hx : x = k := by
        by_contra hne
        rw [List.count_append, List.count_singleton, if_neg (by simpa using hne)] at h
        omega
      subst hx
      rw [List.count_append, List.count_singleton_self] at h
      exact ⟨ks.length, secondAt_last (by omega)⟩

theorem repeats_nil : Repeats ([] : List κ) [] := ⟨by simp, List.nodup_nil, List.Pairwise.nil⟩

/-- a key that is new, or has been told already, changes nothing -/
theorem Repeats.snoc (h : Repeats ks ds) (hk : ks.count k ≠ 1) : Repeats (ks ++ [k]) ds where
  mem := by
    intro x
    rw [h.mem, List.count_append, List.count_singleton]
    by_cases hx : k = x
    · subst hx
      simp only [beq_self_eq_true, if_true]
      omega
    · rw [if_neg (by simpa using hx), Nat.add_zero]
  nodup := h.nodup
  order := h.order.imp fun hab => hab.append [k]

/-- a key that comes for the second time is told last -/
theorem Repeats.again (h : Repeats ks ds) (hk : ks.count k = 1) :
    Repeats (ks ++ [k]) (ds ++ [k]) where
  mem := by
    intro x
    rw [List.mem_append, List.mem_singleton, h.mem, List.count_append, List.count_singleton]
    by_cases hx : k = x
    · subst hx
      refine iff_of_true (Or.inr rfl) ?_
      simp only [beq_self_eq_true, if_true]
      omega
    · rw [if_neg (by simpa using hx), Nat.add_zero]
      exact or_iff_left fun he => hx he.symm
  nodup := by
    have hnot : k ∉ ds := by
      rw [h.mem]
      omega
    rw [List.nodup_append]
    refine ⟨h.nodup, List.nodup_singleton k, ?_⟩
    rintro a ha b hb rfl
    rw [List.mem_singleton.mp hb] at ha
    exact hnot ha
  order := by
    refine List.pairwise_append.mpr ⟨h.order.imp fun hab => hab.append [k], List.pairwise_singleton _ k, ?_⟩
    intro a ha b hb
    rw [List.mem_singleton.mp hb]
    obtain ⟨i, hi⟩ := exists_secondAt ((h.mem a).mp ha)
    exact ⟨i, ks.length, hi.append [k], secondAt_last hk, hi.lt⟩

/-- the keys that come again and their order say what the list is -/
theorem Repeats.unique {ds' : List κ} (h : Repeats ks ds) (h' : Repeats ks ds') : ds = ds' := by
  have hperm : ds.Perm ds' :=
    (List.perm_ext_iff_of_nodup h.nodup h'.nodup).mpr fun k => (h.mem k).trans (h'.mem k).symm
  exact hperm.eq_of_pairwise (fun a b _ _ hab hba => absurd hba hab.asymm) h.order h'.order

/-- nothing comes again exactly if the keys are pairwise distinct -/
theorem Repeats.eq_nil_iff (h : Repeats ks ds) : ds = [] ↔ ks.Nodup := by
  rw [List.nodup_iff_count_le_one, List.eq_nil_iff_forall_not_mem]
  refine forall_congr' fun k => ?_
  rw [h.mem]
  omega

end

end Base
