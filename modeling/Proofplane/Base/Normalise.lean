import Proofplane.Base.Links
import Proofplane.Base.Repeats
import Mathlib.Order.WithBot

/-!
# Lists in the order of their keys

A list is sorted by a key and refused if it names something twice.  The sort is any that keeps its
promises: it may leave elements with equal keys in whatever order it likes.  Two elements name the same
thing by an equality of their own, so that looking at neighbours is enough exactly because the key agrees
with that equality.

* `UnstableSort key`       **a sort, known by its promises**;
* `windows2`, `firstTwice` the neighbours of a list, and the first two of them that name one thing;
* `firstSeen`              the same with a set of what has been seen;
* `Normalised key l s`     `s` is the list `l`, strictly in the order of its keys;
* `firstTwice_eq_none_iff` no neighbours name one thing exactly if no two elements do;
* `Normalised.unique`      **the order of the list and the sort do not matter**;
* `arrayPosition order`    the place in an array as a key, `UnstableSort.run_sublist`.
-/

namespace Base

variable {α ι δ : Type*}

/-! ## Sorts -/

section
variable [LinearOrder ι]

/-- `sort_unstable_by_key`: the elements of the list, in some order in which the keys ascend -/
structure UnstableSort (key : α → ι) where
  run : List α → List α
  perm : ∀ l, (run l).Perm l
  sorted : ∀ l, (run l).Pairwise fun a b => key a ≤ key b

/-- insertion sort is one of them -/
def UnstableSort.insertion (key : α → ι) : UnstableSort key where
  run := List.insertionSort fun a b => key a ≤ key b
  perm := List.perm_insertionSort fun a b => key a ≤ key b
  sorted := by
    have htotal : Std.Total fun a b => key a ≤ key b := ⟨fun a b => le_total (key a) (key b)⟩
    have htrans : IsTrans α fun a b => key a ≤ key b := ⟨fun _ _ _ => le_trans⟩
    exact List.pairwise_insertionSort _

/-- the list, strictly in the order of its keys -/
structure Normalised (key : α → ι) (l s : List α) : Prop where
  perm : s.Perm l
  sorted : s.Pairwise fun a b => key a < key b

variable {key : α → ι} {l l' s s' : List α}

theorem Normalised.nodup (h : Normalised key l s) : (l.map key).Nodup := by
  refine ((h.perm.map key).nodup_iff).mp ?_
  exact List.pairwise_map.mpr (h.sorted.imp fun hab => hab.ne)

/-- one list is all that lists of the same elements are normalised to -/
theorem Normalised.unique (h : Normalised key l s) (h' : Normalised key l' s') (hperm : l.Perm l') :
    s = s' := by
  refine ((h.perm.trans hperm).trans h'.perm.symm).eq_of_pairwise ?_ h.sorted h'.sorted
  intro a b _ _ hab hba
  exact absurd hba hab.not_gt

variable (sort sort' : UnstableSort key)

theorem UnstableSort.normalised (h : (l.map key).Nodup) : Normalised key l (sort.run l) where
  perm := sort.perm l
  sorted := by
    have hne : (sort.run l).Pairwise fun a b => key a ≠ key b :=
      List.pairwise_map.mp ((((sort.perm l).map key).nodup_iff).mpr h)
    exact (sort.sorted l).imp₂ (fun _ _ => lt_of_le_of_ne) hne

/-- the keys are in the same order, whatever the sort -/
theorem UnstableSort.map_key (hperm : l.Perm l') :
    (sort.run l).map key = (sort'.run l').map key := by
  refine (((sort.perm l).trans hperm).trans (sort'.perm l').symm).map key
    |>.eq_of_pairwise (fun a b _ _ => le_antisymm) ?_ ?_
  · exact List.pairwise_map.mpr (sort.sorted l)
  · exact List.pairwise_map.mpr (sort'.sorted l')

end

/-- what the keys say of two lists, every function that the keys determine says -/
theorem map_eq_map_of_key {f : α → ι} {g : α → δ} (h : ∀ a b, f a = f b → g a = g b) :
    ∀ {l l' : List α}, l.map f = l'.map f → l.map g = l'.map g
  | [], [], _ => rfl
  | a :: l, b :: l', he => by
    rw [List.map_cons, List.map_cons, List.cons.injEq] at he
    rw [List.map_cons, List.map_cons, h a b he.1, map_eq_map_of_key h he.2]

/-! ## Neighbours -/

/-- `windows(2)` -/
def windows2 (l : List α) : List (α × α) := l.zip l.tail

theorem windows2_cons (a b : α) (l : List α) : windows2 (a :: b :: l) = (a, b) :: windows2 (b :: l) := rfl

theorem windows2_map (f : α → δ) (l : List α) : windows2 (l.map f) = (windows2 l).map (Prod.map f f) := by
  unfold windows2
  rw [← List.map_tail, List.zip_map]

variable [DecidableEq δ]

/-- what the first two neighbours name that name one thing -/
def firstTwice (ident : α → δ) (l : List α) : Option δ :=
  ((windows2 l).find? fun pair => ident pair.1 = ident pair.2).map fun pair => ident pair.1

theorem firstTwice_map (ident : α → δ) (l : List α) : firstTwice ident l = firstTwice id (l.map ident) := by
  unfold firstTwice
  rw [windows2_map, List.find?_map, Option.map_map]
  rfl

/-- the elements of a list that has an element with the key of the next one -/
theorem firstRepeated_eq (key : α → Nat) :
    ∀ l : List α, firstRepeated key l
      = ((windows2 l).find? fun pair => key pair.1 = key pair.2).map Prod.fst
  | [] => rfl
  | [_] => rfl
  | a :: b :: l => by
    rw [windows2_cons, List.find?_cons]
    unfold firstRepeated
    by_cases h : key a = key b
    · rw [if_pos h]
      simp [h]
    · rw [if_neg h, firstRepeated_eq key (b :: l)]
      simp [h]

section
variable [LinearOrder ι] {key : α → ι} {ident : α → δ}

/-- with a key that agrees with the equality, equal things are neighbours once the list is sorted -/
theorem firstTwice_eq_none_iff (agree : ∀ a b, key a = key b ↔ ident a = ident b) {l : List α}
    (hsorted : l.Pairwise fun a b => key a ≤ key b) :
    firstTwice ident l = none ↔ (l.map ident).Nodup := by
  unfold firstTwice
  rw [Option.map_eq_none_iff]
  induction l with
  | nil => exact iff_of_true rfl List.nodup_nil
  | cons a l ih =>
    obtain ⟨hle, hl⟩ := List.pairwise_cons.mp hsorted
    cases l with
    | nil => exact iff_of_true rfl (List.nodup_singleton _)
    | cons b l =>
      rw [windows2_cons, List.find?_cons, List.map_cons, List.nodup_cons]
      by_cases hab : ident a = ident b
      · refine iff_of_false (by simp [hab]) ?_
        rintro ⟨hnot, -⟩
        exact hnot (hab ▸ List.mem_map_of_mem List.mem_cons_self)
      · simp only [hab, decide_false, ih hl]
        refine ⟨fun hn => ⟨?_, hn⟩, fun hn => hn.2⟩
        intro hmem
        obtain ⟨c, hc, hca⟩ := List.mem_map.mp hmem
        -- the key of `b` lies between those of `a` and `c`, which are equal
        have hkey : key c = key a := (agree c a).mpr hca
        have hbc : key b ≤ key c := by
          rcases List.mem_cons.mp hc with rfl | hc
          · exact le_rfl
          · exact (List.pairwise_cons.mp hl).1 c hc
        exact hab ((agree a b).mp (le_antisymm (hle b List.mem_cons_self) (hkey ▸ hbc)))

/-- the first thing named twice is the same, whatever the sort -/
theorem firstTwice_run (agree : ∀ a b, key a = key b ↔ ident a = ident b) (sort sort' : UnstableSort key)
    {l l' : List α} (hperm : l.Perm l') : firstTwice ident (sort.run l) = firstTwice ident (sort'.run l') := by
  rw [firstTwice_map, firstTwice_map ident (sort'.run l'),
    map_eq_map_of_key (fun a b => (agree a b).mp) (sort.map_key sort' hperm)]

omit [LinearOrder ι] [DecidableEq δ] in
theorem nodup_key_iff (agree : ∀ a b, key a = key b ↔ ident a = ident b) (l : List α) :
    (l.map key).Nodup ↔ (l.map ident).Nodup := by
  rw [List.Nodup, List.Nodup, List.pairwise_map, List.pairwise_map]
  simp only [ne_eq, agree]

end

/-- insertion sort normalises as well -/
theorem normalizeBy_normalised {key : α → Nat} {l s : List α} (h : normalizeBy key l = .ok s) :
    Normalised key l s := by
  have hnodup := (normalizeBy_ok h).2
  have hs : s = (UnstableSort.insertion key).run l := by
    unfold normalizeBy at h
    dsimp only at h
    split at h
    · cases h
    · exact (Except.ok.inj h).symm
  exact hs ▸ (UnstableSort.insertion key).normalised hnodup

/-! ## Places in an array -/

/-- `array_position`, with `NULL` after every place -/
def arrayPosition (order : List δ) (d : δ) : WithTop Nat :=
  match order.idxOf? d with
  | some i => WithTop.some (i + 1)
  | none => ⊤

section
variable {order l s s' : List δ}

theorem arrayPosition_getElem (h : order.Nodup) (i : Nat) (hi : i < order.length) :
    arrayPosition order order[i] = WithTop.some (i + 1) := by
  have hfound : order.idxOf? order[i] = some i := by
    refine List.idxOf?_eq_some_iff.mpr ⟨hi, rfl, ?_⟩
    intro j hji heq
    exact hji.ne (h.getElem_inj_iff.mp heq)
  unfold arrayPosition
  rw [hfound]

theorem pairwise_arrayPosition (h : order.Nodup) :
    order.Pairwise fun a b => arrayPosition order a < arrayPosition order b := by
  refine List.pairwise_iff_getElem.mpr fun i j hi hj hij => ?_
  have hlt : i + 1 < j + 1 := Nat.succ_lt_succ hij
  rw [arrayPosition_getElem h i hi, arrayPosition_getElem h j hj]
  exact WithTop.coe_lt_coe.mpr hlt

/-- what is left of an array is in the order of the array -/
theorem normalised_of_sublist (h : order.Nodup) (hsub : s.Sublist order) (hperm : s.Perm l) :
    Normalised (arrayPosition order) l s := ⟨hperm, (pairwise_arrayPosition h).sublist hsub⟩

/-- **Sorted by their places, things are in the order of the array**, whatever the sort. -/
theorem UnstableSort.run_sublist (sort : UnstableSort (arrayPosition order)) (h : order.Nodup)
    (hsub : s.Sublist order) (hperm : s.Perm l) : sort.run l = s := by
  have hs := normalised_of_sublist h hsub hperm
  exact (sort.normalised hs.nodup).unique hs (.refl l)

/-- parts of an array with the same elements are the same -/
theorem eq_of_sublist (h : order.Nodup) (hsub : s.Sublist order) (hsub' : s'.Sublist order)
    (hmem : ∀ d, d ∈ s ↔ d ∈ s') : s = s' := by
  have hperm : s.Perm s' :=
    (List.perm_ext_iff_of_nodup (h.sublist hsub) (h.sublist hsub')).mpr hmem
  exact (normalised_of_sublist h hsub (.refl s)).unique (normalised_of_sublist h hsub' (.refl s')) hperm

end

/-! ## What has been seen -/

/-- `for id in &ids { if !seen.insert(*id) { return Err(*id) } }` -/
def firstSeen (seen : Finset δ) : List δ → Option δ
  | [] => none
  | d :: ds =>
    let (fresh, seen) := hashInsert seen d
    if !fresh then some d else firstSeen seen ds

/-- the invariant: nothing before is in the rest, and the rest names nothing twice -/
theorem firstSeen_eq_none_iff (seen : Finset δ) (ds : List δ) :
    firstSeen seen ds = none ↔ (∀ d ∈ ds, d ∉ seen) ∧ ds.Nodup := by
  induction ds generalizing seen with
  | nil => simp [firstSeen]
  | cons d ds ih =>
    unfold firstSeen
    dsimp only
    by_cases hd : d ∈ seen
    · rw [if_pos (by simp [hashInsert, hd])]
      exact iff_of_false (by simp) fun h => h.1 d List.mem_cons_self hd
    · rw [if_neg (by simp [hashInsert, hd]), hashInsert_snd, ih, List.nodup_cons]
      constructor
      · rintro ⟨hout, hnodup⟩
        refine ⟨?_, fun hmem => hout d hmem (Finset.mem_insert_self d seen), hnodup⟩
        intro x hx
        rcases List.mem_cons.mp hx with rfl | hx
        · exact hd
        · exact fun hs => hout x hx (Finset.mem_insert_of_mem hs)
      · rintro ⟨hout, hnot, hnodup⟩
        refine ⟨?_, hnodup⟩
        intro x hx hs
        rcases Finset.mem_insert.mp hs with rfl | hs
        · exact hnot hx
        · exact hout x (List.mem_cons_of_mem d hx) hs

end Base
