import Mathlib.Data.List.Nodup
import Mathlib.Data.List.Induction
import Mathlib.Data.Prod.Lex
import Mathlib.Order.WithBot

/-!
# Groups from joined rows

A query that joins a table with its children returns one row for each child, with the columns of the
parent on each.  Two loops put the parents together again: one opens a group whenever the key differs
from that of the row before, one collects the rows under their keys in a map.

* `leftJoin`              the rows on the right of a `LEFT JOIN`;
* `OrderedBy`             the answer to a query with an `ORDER BY`: ties stand in any order;
* `joinRows`              the first loop, `collectRows` the second;
* `Grouped`               **each key has one group, with exactly the rows of the key, in their order**;
* `joinRows_grouped`      so has the first loop, where the rows come in an order that tells the keys apart.
-/

namespace Base

/-! ## Joins -/

section
variable {α β : Type}

/-- the matches of a row, or the one row of NULLs -/
def leftJoin : List α → List (Option α)
  | [] => [none]
  | xs => xs.map some

theorem leftJoin_ne_nil (xs : List α) : leftJoin xs ≠ [] := by
  cases xs with
  | nil => exact List.cons_ne_nil _ _
  | cons x xs => exact List.cons_ne_nil _ _

/-- without the NULLs, what is read off a left join is what is read off the matches -/
theorem filterMap_leftJoin (f : Option α → Option β) (h : f none = none) (xs : List α) :
    (leftJoin xs).filterMap f = xs.filterMap fun a => f (some a) := by
  cases xs with
  | nil =>
    show [none].filterMap f = []
    simp [h]
  | cons x xs =>
    show ((x :: xs).map some).filterMap f = _
    rw [List.filterMap_map]
    rfl

theorem leftJoin_of_length_le_one {xs : List α} (h : xs.length ≤ 1) : leftJoin xs = [xs.head?] := by
  cases xs with
  | nil => rfl
  | cons x xs =>
    have hnil : xs = [] := List.length_eq_zero_iff.mp (by rw [List.length_cons] at h; omega)
    rw [hnil]
    rfl

end

/-! ## Rows by the parents they were joined to -/

section
variable {α ρ κ : Type} {xs : List α} {rows : α → List ρ} {name : α → κ} {key : ρ → κ}

/-- in a join over parents with names of their own, the rows with the name of a parent are its rows -/
theorem filter_flatMap_rows [DecidableEq κ] (hnodup : (xs.map name).Nodup)
    (hkey : ∀ x ∈ xs, ∀ r ∈ rows x, key r = name x) {x : α} (hx : x ∈ xs) :
    ((xs.flatMap rows).filter fun r => key r = name x) = rows x := by
  induction xs with
  | nil => exact absurd hx List.not_mem_nil
  | cons y ys ih =>
    obtain ⟨hy, hys⟩ := List.nodup_cons.mp hnodup
    have hkeys : ∀ z ∈ ys, ∀ r ∈ rows z, key r = name z := fun z hz => hkey z (List.mem_cons_of_mem _ hz)
    have hhead : ∀ r ∈ rows y, key r = name y := hkey y List.mem_cons_self
    rw [List.flatMap_cons, List.filter_append]
    rcases List.mem_cons.mp hx with rfl | hmem
    · have hself : ((rows x).filter fun r => key r = name x) = rows x :=
        List.filter_eq_self.mpr fun r hr => decide_eq_true (hhead r hr)
      have hrest : ((ys.flatMap rows).filter fun r => key r = name x) = [] := by
        rw [List.filter_eq_nil_iff]
        intro r hr he
        obtain ⟨z, hz, hrz⟩ := List.mem_flatMap.mp hr
        have hname : name z = name x := (hkeys z hz r hrz).symm.trans (of_decide_eq_true he)
        exact hy (hname ▸ List.mem_map_of_mem hz)
      rw [hself, hrest, List.append_nil]
    · have hnone : ((rows y).filter fun r => key r = name x) = [] := by
        rw [List.filter_eq_nil_iff]
        intro r hr he
        have hname : name x = name y := (of_decide_eq_true he).symm.trans (hhead r hr)
        exact hy (hname ▸ List.mem_map_of_mem hmem)
      rw [hnone, List.nil_append]
      exact ih hys hkeys hmem

/-- a join that has one row at most for each parent has each parent once -/
theorem nodup_map_flatMap_rows (hnodup : (xs.map name).Nodup)
    (hkey : ∀ x ∈ xs, ∀ r ∈ rows x, key r = name x) (hone : ∀ x ∈ xs, (rows x).length ≤ 1) :
    ((xs.flatMap rows).map key).Nodup := by
  induction xs with
  | nil => exact List.nodup_nil
  | cons y ys ih =>
    obtain ⟨hy, hys⟩ := List.nodup_cons.mp hnodup
    have hkeys : ∀ z ∈ ys, ∀ r ∈ rows z, key r = name z := fun z hz => hkey z (List.mem_cons_of_mem _ hz)
    have hrest := ih hys hkeys fun z hz => hone z (List.mem_cons_of_mem _ hz)
    rw [List.flatMap_cons, List.map_append]
    have hlength := hone y List.mem_cons_self
    cases hrows : rows y with
    | nil => exact hrest
    | cons r rs =>
      have hnil : rs = [] := List.length_eq_zero_iff.mp (by rw [hrows, List.length_cons] at hlength; omega)
      subst hnil
      have hr : key r = name y := hkey y List.mem_cons_self r (by rw [hrows]; exact List.mem_singleton_self _)
      show (key r :: (ys.flatMap rows).map key).Nodup
      refine List.nodup_cons.mpr ⟨?_, hrest⟩
      intro hmem
      obtain ⟨r', hr', he⟩ := List.mem_map.mp hmem
      obtain ⟨z, hz, hrz⟩ := List.mem_flatMap.mp hr'
      have hname : name z = name y := (hkeys z hz r' hrz).symm.trans (he.trans hr)
      exact hy (hname ▸ List.mem_map_of_mem hz)

/-- pairs that are all different, with one of the two parts the same, differ in the other -/
theorem nodup_map_filter {β : Type} [DecidableEq κ] {first : α → κ} {second : α → β} (hnodup : xs.Nodup)
    (hext : ∀ x y, first x = first y → second x = second y → x = y) (k : κ) :
    ((xs.filter fun x => first x = k).map second).Nodup := by
  refine (hnodup.filter _).map_on fun x hx y hy he => ?_
  have hfirst : first x = k := of_decide_eq_true (List.mem_filter.mp hx).2
  have hfirst' : first y = k := of_decide_eq_true (List.mem_filter.mp hy).2
  exact hext x y (hfirst.trans hfirst'.symm) he

/-- what a look-up finds of some names has these names, without those that it does not find -/
theorem map_filterMap_sublist (f : α → Option ρ) (hkey : ∀ x r, f x = some r → key r = name x) (xs : List α) :
    ((xs.filterMap f).map key).Sublist (xs.map name) := by
  induction xs with
  | nil => exact List.Sublist.refl _
  | cons x xs ih =>
    cases h : f x with
    | none =>
      rw [List.filterMap_cons_none h]
      exact ih.cons _
    | some r =>
      rw [List.filterMap_cons_some h, List.map_cons, List.map_cons, hkey x r h]
      exact ih.cons_cons _

end

/-- the answer `rows` to a query with the rows `joined` and an `ORDER BY` -/
structure OrderedBy {ρ ω : Type} [LE ω] (rank : ρ → ω) (joined rows : List ρ) : Prop where
  perm : rows.Perm joined
  sorted : rows.Pairwise fun r s => rank r ≤ rank s

/-- the first column of an `ORDER BY` is in order by itself -/
theorem OrderedBy.fst {ρ ω ω' : Type} [PartialOrder ω] [Preorder ω'] {rank : ρ → ω ×ₗ ω'}
    {joined rows : List ρ} (h : OrderedBy rank joined rows) :
    rows.Pairwise fun r s => (ofLex (rank r)).1 ≤ (ofLex (rank s)).1 :=
  h.sorted.imp fun hle => Prod.Lex.monotone_fst _ _ hle

/-! ## The two loops -/

section
variable {ρ κ γ χ ε : Type} [DecidableEq κ]

/-- a row opens a group where its key is not the one before, and adds its child to the last group -/
def joinStep (key : ρ → κ) (start : ρ → γ) (push : γ → ρ → Except ε γ) (s : List γ × Option κ)
    (row : ρ) : Except ε (List γ × Option κ) :=
  let groups := if s.2 = some (key row) then s.1 else s.1 ++ [start row]
  match groups.getLast? with
  | none => .ok (groups, some (key row))
  | some last =>
    match push last row with
    | .error e => .error e
    | .ok last => .ok (groups.dropLast ++ [last], some (key row))

def joinRows (key : ρ → κ) (start : ρ → γ) (push : γ → ρ → Except ε γ) (rows : List ρ) :
    Except ε (List γ) :=
  (rows.foldlM (joinStep key start push) ([], none)).map Prod.fst

/-- the children of all rows under their keys -/
def collectRows (key : ρ → κ) (child : ρ → χ) (rows : List ρ) : κ → Option (List χ) :=
  rows.foldl (fun m row => Function.update m (key row) (some ((m (key row)).getD [] ++ [child row])))
    fun _ => none

/-- each key of the rows has one group, opened by its first row, with its rows in their order -/
structure Grouped (key : ρ → κ) (name : γ → κ) (start : ρ → γ) (add : γ → ρ → γ) (rows : List ρ)
    (groups : List γ) : Prop where
  once : (groups.map name).Nodup
  order : (groups.map name).Sublist (rows.map key)
  complete : ∀ r ∈ rows, key r ∈ groups.map name
  own : ∀ g ∈ groups, ∃ r rs, (rows.filter fun x => key x = name g) = r :: rs ∧
    g = (r :: rs).foldl add (start r)

/-- the rows of another key are the same with one more row -/
theorem filter_append_ne {key : ρ → κ} {rows : List ρ} {row : ρ} {k : κ} (h : key row ≠ k) :
    ((rows ++ [row]).filter fun x => key x = k) = rows.filter fun x => key x = k := by
  rw [List.filter_append]
  have hnone : ([row].filter fun x => key x = k) = [] := by simp [h]
  rw [hnone, List.append_nil]

theorem filter_append_self (key : ρ → κ) (rows : List ρ) (row : ρ) :
    ((rows ++ [row]).filter fun x => key x = key row)
      = (rows.filter fun x => key x = key row) ++ [row] := by
  rw [List.filter_append]
  congr 1
  simp

theorem collectRows_append (key : ρ → κ) (child : ρ → χ) (rows : List ρ) (row : ρ) :
    collectRows key child (rows ++ [row])
      = Function.update (collectRows key child rows) (key row)
          (some ((collectRows key child rows (key row)).getD [] ++ [child row])) := by
  unfold collectRows
  rw [List.foldl_append]
  rfl

/-- **Under each key the map has exactly the rows of the key, in their order.** -/
theorem collectRows_eq (key : ρ → κ) (child : ρ → χ) (rows : List ρ) (k : κ) :
    collectRows key child rows k
      = if (rows.filter fun x => key x = k) = [] then none
        else some ((rows.filter fun x => key x = k).map child) := by
  induction rows using List.reverseRecOn generalizing k with
  | nil => rfl
  | append_singleton rows row ih =>
    rw [collectRows_append]
    by_cases h : key row = k
    · subst h
      rw [Function.update_self, filter_append_self, if_neg (by simp), ih, List.map_append]
      by_cases hnone : (rows.filter fun x => key x = key row) = []
      · rw [if_pos hnone, hnone]
        rfl
      · rw [if_neg hnone]
        rfl
    · rw [Function.update_of_ne (Ne.symm h), filter_append_ne h]
      exact ih k

/-! ### The first loop groups rows that stand together -/

variable {key : ρ → κ} {name : γ → κ} {start : ρ → γ} {add : γ → ρ → γ}

theorem Grouped.nil : Grouped key name start add [] [] where
  once := List.nodup_nil
  order := List.Sublist.refl _
  complete := fun _ hr => absurd hr List.not_mem_nil
  own := fun _ hg => absurd hg List.not_mem_nil

/-- a group has the rows of the key of a row -/
theorem Grouped.exists_row {rows : List ρ} {groups : List γ} (h : Grouped key name start add rows groups)
    {g : γ} (hg : g ∈ groups) :
    ∃ r ∈ rows, g = (rows.filter fun x => key x = key r).foldl add (start r) := by
  obtain ⟨r, rs, hfilter, hfold⟩ := h.own g hg
  have hmem : r ∈ rows.filter fun x => key x = name g := by
    rw [hfilter]
    exact List.mem_cons_self
  obtain ⟨hr, hkey⟩ := List.mem_filter.mp hmem
  refine ⟨r, hr, ?_⟩
  rw [of_decide_eq_true hkey, hfilter]
  exact hfold

/-- a row with a new key opens the next group -/
theorem Grouped.open {rows : List ρ} {groups : List γ} (h : Grouped key name start add rows groups)
    (hstart : ∀ r, name (start r) = key r) (hadd : ∀ g r, name (add g r) = name g) {row : ρ}
    (hnew : ∀ r ∈ rows, key r ≠ key row) :
    Grouped key name start add (rows ++ [row]) (groups ++ [add (start row) row]) := by
  have hname : name (add (start row) row) = key row := (hadd _ _).trans (hstart row)
  have hfresh : key row ∉ groups.map name := by
    intro hmem
    obtain ⟨r, hr, hkey⟩ := List.mem_map.mp (h.order.subset hmem)
    exact hnew r hr hkey
  refine ⟨?_, ?_, ?_, ?_⟩
  · rw [List.map_append]
    refine List.nodup_append.mpr ⟨h.once, List.nodup_singleton _, ?_⟩
    intro k hk k' hk' he
    rw [List.map_singleton, List.mem_singleton, hname] at hk'
    exact hfresh (hk' ▸ he ▸ hk)
  · rw [List.map_append, List.map_append, List.map_singleton, List.map_singleton, hname]
    exact h.order.append (List.Sublist.refl _)
  · intro r hr
    rw [List.map_append, List.mem_append]
    rcases List.mem_append.mp hr with hr | hr
    · exact .inl (h.complete r hr)
    · right
      rw [List.mem_singleton.mp hr, List.map_singleton, hname]
      exact List.mem_singleton_self _
  · intro g hg
    rcases List.mem_append.mp hg with hg | hg
    · have hne : key row ≠ name g := fun he => hfresh (he ▸ List.mem_map_of_mem hg)
      rw [filter_append_ne hne]
      exact h.own g hg
    · rw [List.mem_singleton.mp hg, hname, filter_append_self]
      have hnone : (rows.filter fun x => key x = key row) = [] := by
        rw [List.filter_eq_nil_iff]
        intro r hr
        simpa using hnew r hr
      exact ⟨row, [], by rw [hnone]; rfl, rfl⟩

/-- a row with the key of the last group goes there -/
theorem Grouped.push {rows : List ρ} {groups : List γ} {last : γ}
    (h : Grouped key name start add rows (groups ++ [last]))
    (hadd : ∀ g r, name (add g r) = name g) {row : ρ} (hkey : name last = key row) :
    Grouped key name start add (rows ++ [row]) (groups ++ [add last row]) := by
  have hnames : (groups ++ [add last row]).map name = (groups ++ [last]).map name := by
    rw [List.map_append, List.map_append, List.map_singleton, List.map_singleton, hadd]
  refine ⟨hnames ▸ h.once, ?_, ?_, ?_⟩
  · rw [hnames, rows.map_append]
    exact h.order.trans (List.sublist_append_left _ _)
  · intro r hr
    rw [hnames]
    rcases List.mem_append.mp hr with hr | hr
    · exact h.complete r hr
    · rw [List.mem_singleton.mp hr, ← hkey]
      exact List.mem_map_of_mem (List.mem_append_right _ (List.mem_singleton_self _))
  · intro g hg
    rcases List.mem_append.mp hg with hg | hg
    · have hne : key row ≠ name g := by
        have honce := h.once
        rw [List.map_append, List.map_singleton] at honce
        intro he
        have hmem : name g ∈ groups.map name := List.mem_map_of_mem hg
        exact (List.nodup_append.mp honce).2.2 _ hmem _ (List.mem_singleton_self _) (by rw [hkey, he])
      rw [filter_append_ne hne]
      exact h.own g (List.mem_append_left _ hg)
    · rw [List.mem_singleton.mp hg, hadd, hkey, filter_append_self]
      obtain ⟨r, rs, hfilter, hlast⟩ := h.own last (List.mem_append_right _ (List.mem_singleton_self _))
      rw [hkey] at hfilter
      refine ⟨r, rs ++ [row], by rw [hfilter]; rfl, ?_⟩
      rw [← List.cons_append, List.foldl_append, ← hlast]
      rfl

/-! ### What the loop holds -/

variable {push : γ → ρ → Except ε γ}

theorem joinStep_push {groups : List γ} {last : γ} {row : ρ} (hpush : push last row = .ok (add last row)) :
    joinStep key start push (groups ++ [last], some (key row)) row
      = .ok (groups ++ [add last row], some (key row)) := by
  unfold joinStep
  dsimp only
  rw [if_pos rfl, List.getLast?_concat]
  dsimp only
  rw [hpush, List.dropLast_concat]

theorem joinStep_open {groups : List γ} {current : Option κ} {row : ρ} (hne : current ≠ some (key row))
    (hpush : push (start row) row = .ok (add (start row) row)) :
    joinStep key start push (groups, current) row
      = .ok (groups ++ [add (start row) row], some (key row)) := by
  unfold joinStep
  dsimp only
  rw [if_neg hne, List.getLast?_concat]
  dsimp only
  rw [hpush, List.dropLast_concat]

variable {ω : Type} [LinearOrder ω] {rank : ρ → ω}

omit [DecidableEq κ] in
/-- in order, a key that is not the last one is new -/
theorem key_new {rows : List ρ} {row : ρ} (hsorted : (rows ++ [row]).Pairwise fun r s => rank r ≤ rank s)
    (hkey : ∀ r ∈ rows ++ [row], ∀ s ∈ rows ++ [row], rank r = rank s ↔ key r = key s)
    (hlast : rows.getLast?.map key ≠ some (key row)) : ∀ r ∈ rows, key r ≠ key row := by
  intro r hr he
  have hrow : row ∈ rows ++ [row] := List.mem_append_right _ (List.mem_singleton_self _)
  obtain ⟨front, last, rfl⟩ : ∃ front last, rows = front ++ [last] :=
    ⟨_, _, (List.dropLast_append_getLast (List.ne_nil_of_mem hr)).symm⟩
  rw [List.getLast?_concat] at hlast
  obtain ⟨hrows, -, hbefore⟩ := List.pairwise_append.mp hsorted
  have hlastrow : rank last ≤ rank row :=
    hbefore last (List.mem_append_right _ (List.mem_singleton_self _)) row (List.mem_singleton_self _)
  have hrlast : rank r ≤ rank last := by
    rcases List.mem_append.mp hr with hfront | hend
    · exact (List.pairwise_append.mp hrows).2.2 r hfront last (List.mem_singleton_self _)
    · rw [List.mem_singleton.mp hend]
  have hrank : rank r = rank row := (hkey r (List.mem_append_left _ hr) row hrow).mpr he
  have hsame : rank last = rank row := le_antisymm hlastrow (hrank ▸ hrlast)
  have hmem : last ∈ (front ++ [last]) ++ [row] :=
    List.mem_append_left _ (List.mem_append_right _ (List.mem_singleton_self _))
  exact hlast (congrArg some ((hkey last hmem row hrow).mp hsame))

/-- **What the first loop holds after each row.** -/
theorem foldlM_joinStep (hstart : ∀ r, name (start r) = key r) (hadd : ∀ g r, name (add g r) = name g)
    (rows : List ρ) (hpush : ∀ g, ∀ r ∈ rows, push g r = .ok (add g r))
    (hsorted : rows.Pairwise fun r s => rank r ≤ rank s)
    (hkey : ∀ r ∈ rows, ∀ s ∈ rows, rank r = rank s ↔ key r = key s) :
    ∃ groups, rows.foldlM (joinStep key start push) ([], none) = .ok (groups, rows.getLast?.map key) ∧
      groups.getLast?.map name = rows.getLast?.map key ∧ Grouped key name start add rows groups := by
  induction rows using List.reverseRecOn with
  | nil => exact ⟨[], rfl, rfl, .nil⟩
  | append_singleton rows row ih =>
    have hleft : ∀ r ∈ rows, r ∈ rows ++ [row] := fun r hr => List.mem_append_left _ hr
    have hrow : row ∈ rows ++ [row] := List.mem_append_right _ (List.mem_singleton_self _)
    obtain ⟨groups, hfold, hlast, hg⟩ := ih (fun g r hr => hpush g r (hleft r hr))
      (List.pairwise_append.mp hsorted).1 (fun r hr s hs => hkey r (hleft r hr) s (hleft s hs))
    have hnext : (rows ++ [row]).foldlM (joinStep key start push) ([], none)
        = joinStep key start push (groups, rows.getLast?.map key) row := by
      rw [List.foldlM_append, hfold]
      show (joinStep key start push (groups, rows.getLast?.map key) row >>= fun s => pure s) = _
      rw [bind_pure]
    rw [hnext, List.getLast?_concat, Option.map_some]
    by_cases hsame : rows.getLast?.map key = some (key row)
    · rw [hsame] at hlast ⊢
      obtain ⟨last, hmem, hname⟩ := Option.map_eq_some_iff.mp hlast
      obtain ⟨front, rfl⟩ := List.getLast?_eq_some_iff.mp hmem
      refine ⟨_, joinStep_push (hpush last row hrow), ?_, hg.push hadd hname⟩
      rw [List.getLast?_concat, Option.map_some, hadd, hname]
    · refine ⟨_, joinStep_open hsame (hpush _ row hrow), ?_, hg.open hstart hadd (key_new hsorted hkey hsame)⟩
      rw [List.getLast?_concat, Option.map_some, hadd, hstart]

/-- **Rows in an order that tells the keys apart are grouped by the first loop.** -/
theorem joinRows_grouped (hstart : ∀ r, name (start r) = key r) (hadd : ∀ g r, name (add g r) = name g)
    {rows : List ρ} (hpush : ∀ g, ∀ r ∈ rows, push g r = .ok (add g r))
    (hsorted : rows.Pairwise fun r s => rank r ≤ rank s)
    (hkey : ∀ r ∈ rows, ∀ s ∈ rows, rank r = rank s ↔ key r = key s) :
    ∃ groups, joinRows key start push rows = .ok groups ∧ Grouped key name start add rows groups := by
  obtain ⟨groups, hfold, -, hg⟩ := foldlM_joinStep hstart hadd rows hpush hsorted hkey
  unfold joinRows
  rw [hfold]
  exact ⟨groups, rfl, hg⟩

end

end Base
