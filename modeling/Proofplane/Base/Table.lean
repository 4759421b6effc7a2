import Mathlib.Data.List.Nodup
import Mathlib.Data.List.Basic

/-!
# Tables with a primary key

A `Table key` is a list of rows in which no two rows have the same key: the state of an SQL table
with the primary key `key`, in the order of insertion.

* `get?`      `SELECT … WHERE key = k`;
* `upsert`    `INSERT … ON CONFLICT (key) DO UPDATE`;
* `modify`    `UPDATE … WHERE key = k`, for an assignment that leaves the key alone;
* `delete`    `DELETE … WHERE key = k`.

For each of them there is one lemma on `get?` and one on membership of rows.
-/

set_option linter.unusedSectionVars false

namespace Base

/-- the rows of a table whose primary key is `key` -/
structure Table {ρ κ : Type*} (key : ρ → κ) where
  rows : List ρ
  nodup : (rows.map key).Nodup

namespace Table

variable {ρ κ : Type*} {key : ρ → κ}

/-- the table without rows -/
def empty : Table key := ⟨[], List.nodup_nil⟩

theorem ext_rows {t u : Table key} (h : t.rows = u.rows) : t = u := by
  cases t
  cases u
  cases h
  rfl

theorem eq_of_key (t : Table key) {r s : ρ} (hr : r ∈ t.rows) (hs : s ∈ t.rows)
    (h : key r = key s) : r = s :=
  List.inj_on_of_nodup_map t.nodup hr hs h

variable [DecidableEq κ]

/-- the row with key `k` -/
def get? (t : Table key) (k : κ) : Option ρ := t.rows.find? fun r => decide (key r = k)

/-- replaces the row with the key of `r`, or adds `r` at the end -/
def upsertRows (key : ρ → κ) (rows : List ρ) (r : ρ) : List ρ :=
  if rows.any (fun x => decide (key x = key r)) then
    rows.map fun x => if key x = key r then r else x
  else rows ++ [r]

theorem any_key_iff (rows : List ρ) (k : κ) :
    rows.any (fun x => decide (key x = k)) = true ↔ k ∈ rows.map key := by
  simp only [List.any_eq_true, decide_eq_true_eq, List.mem_map]

theorem map_key_upsertRows (rows : List ρ) (r : ρ) :
    (upsertRows key rows r).map key
      = if key r ∈ rows.map key then rows.map key else rows.map key ++ [key r] := by
  unfold upsertRows
  by_cases h : key r ∈ rows.map key
  · rw [if_pos ((any_key_iff rows (key r)).mpr h), if_pos h, List.map_map]
    apply List.map_congr_left
    intro x _
    by_cases hx : key x = key r
    · simp only [Function.comp_apply, if_pos hx]
      exact hx.symm
    · simp only [Function.comp_apply, if_neg hx]
  · rw [if_neg (fun hc => h ((any_key_iff rows (key r)).mp hc)), if_neg h, List.map_append]
    rfl

/-- `INSERT … ON CONFLICT (key) DO UPDATE` of a whole row -/
def upsert (t : Table key) (r : ρ) : Table key where
  rows := upsertRows key t.rows r
  nodup := by
    rw [map_key_upsertRows]
    split
    · exact t.nodup
    · next h =>
      rw [List.nodup_append]
      refine ⟨t.nodup, List.nodup_singleton _, ?_⟩
      intro a ha b hb hab
      rw [List.mem_singleton] at hb
      exact h (hb ▸ hab ▸ ha)

/-- `UPDATE … WHERE key = k` with an assignment that leaves the key alone -/
def modify (t : Table key) (k : κ) (f : ρ → ρ) (hf : ∀ r, key (f r) = key r) : Table key where
  rows := t.rows.map fun x => if key x = k then f x else x
  nodup := by
    have h : (t.rows.map fun x => if key x = k then f x else x).map key = t.rows.map key := by
      rw [List.map_map]
      apply List.map_congr_left
      intro x _
      by_cases hx : key x = k
      · simp only [Function.comp_apply, if_pos hx, hf]
      · simp only [Function.comp_apply, if_neg hx]
    rw [h]
    exact t.nodup

/-- `DELETE … WHERE key = k` -/
def delete (t : Table key) (k : κ) : Table key where
  rows := t.rows.filter fun x => decide (key x ≠ k)
  nodup := t.nodup.sublist (List.filter_sublist.map key)

/-! ## Reading -/

theorem get?_key {t : Table key} {k : κ} {r : ρ} (h : t.get? k = some r) : key r = k := by
  have := List.find?_some h
  exact of_decide_eq_true this

theorem get?_mem {t : Table key} {k : κ} {r : ρ} (h : t.get? k = some r) : r ∈ t.rows :=
  List.mem_of_find?_eq_some h

theorem get?_eq_some_iff {t : Table key} {k : κ} {r : ρ} :
    t.get? k = some r ↔ r ∈ t.rows ∧ key r = k := by
  constructor
  · intro h
    exact ⟨get?_mem h, get?_key h⟩
  · rintro ⟨hr, rfl⟩
    cases hg : t.get? (key r) with
    | none =>
      have := List.find?_eq_none.mp hg r hr
      exact absurd (decide_eq_true rfl) this
    | some s => rw [t.eq_of_key hr (get?_mem hg) (get?_key hg).symm]

theorem get?_eq_none_iff {t : Table key} {k : κ} :
    t.get? k = none ↔ ∀ r ∈ t.rows, key r ≠ k := by
  unfold get?
  rw [List.find?_eq_none]
  constructor
  · intro h r hr hk
    exact h r hr (decide_eq_true hk)
  · intro h r hr hk
    exact h r hr (of_decide_eq_true hk)

theorem get?_of_mem {t : Table key} {r : ρ} (h : r ∈ t.rows) : t.get? (key r) = some r :=
  get?_eq_some_iff.mpr ⟨h, rfl⟩

@[simp] theorem get?_empty (k : κ) : (empty : Table key).get? k = none := rfl

@[simp] theorem mem_rows_empty (r : ρ) : ¬ r ∈ (empty : Table key).rows := List.not_mem_nil

/-! ## Writing -/

theorem mem_upsert {t : Table key} {r x : ρ} :
    x ∈ (t.upsert r).rows ↔ x = r ∨ (x ∈ t.rows ∧ key x ≠ key r) := by
  show x ∈ upsertRows key t.rows r ↔ _
  unfold upsertRows
  split
  · next h =>
    rw [List.mem_map]
    constructor
    · rintro ⟨y, hy, rfl⟩
      by_cases hk : key y = key r
      · exact .inl (if_pos hk)
      · rw [if_neg hk]
        exact .inr ⟨hy, hk⟩
    · rintro (rfl | ⟨hx, hk⟩)
      · obtain ⟨y, hy, hyk⟩ := List.mem_map.mp ((any_key_iff _ _).mp h)
        exact ⟨y, hy, if_pos hyk⟩
      · exact ⟨x, hx, if_neg hk⟩
  · next h =>
    have hno : ∀ y ∈ t.rows, key y ≠ key r := fun y hy hk =>
      h ((any_key_iff _ _).mpr (List.mem_map.mpr ⟨y, hy, hk⟩))
    rw [List.mem_append, List.mem_singleton]
    constructor
    · rintro (hx | rfl)
      · exact .inr ⟨hx, hno x hx⟩
      · exact .inl rfl
    · rintro (rfl | ⟨hx, _⟩)
      · exact .inr rfl
      · exact .inl hx

theorem get?_upsert (t : Table key) (r : ρ) (k : κ) :
    (t.upsert r).get? k = if key r = k then some r else t.get? k := by
  by_cases hk : key r = k
  · rw [if_pos hk]
    exact get?_eq_some_iff.mpr ⟨mem_upsert.mpr (.inl rfl), hk⟩
  · rw [if_neg hk]
    cases h : t.get? k with
    | none =>
      rw [get?_eq_none_iff] at h ⊢
      intro x hx
      rcases mem_upsert.mp hx with rfl | ⟨hx, _⟩
      · exact hk
      · exact h x hx
    | some s =>
      obtain ⟨hs, hsk⟩ := get?_eq_some_iff.mp h
      refine get?_eq_some_iff.mpr ⟨mem_upsert.mpr (.inr ⟨hs, ?_⟩), hsk⟩
      exact fun hc => hk (hc ▸ hsk)

@[simp] theorem get?_upsert_self (t : Table key) (r : ρ) : (t.upsert r).get? (key r) = some r := by
  rw [get?_upsert, if_pos rfl]

theorem get?_upsert_of_ne (t : Table key) {r : ρ} {k : κ} (h : key r ≠ k) :
    (t.upsert r).get? k = t.get? k := by
  rw [get?_upsert, if_neg h]

/-- a row that is there already changes nothing -/
theorem upsert_of_mem {t : Table key} {r : ρ} (h : r ∈ t.rows) : t.upsert r = t := by
  apply ext_rows
  show upsertRows key t.rows r = t.rows
  unfold upsertRows
  rw [if_pos ((any_key_iff t.rows (key r)).mpr (List.mem_map_of_mem h))]
  refine (List.map_congr_left fun x hx => ?_).trans (List.map_id _)
  by_cases hk : key x = key r
  · rw [if_pos hk]
    exact t.eq_of_key h hx hk.symm
  · rw [if_neg hk]
    rfl

theorem mem_modify {t : Table key} {k : κ} {f : ρ → ρ} {hf : ∀ r, key (f r) = key r} {x : ρ} :
    x ∈ (t.modify k f hf).rows ↔
      (x ∈ t.rows ∧ key x ≠ k) ∨ ∃ y ∈ t.rows, key y = k ∧ x = f y := by
  show x ∈ t.rows.map (fun x => if key x = k then f x else x) ↔ _
  rw [List.mem_map]
  constructor
  · rintro ⟨y, hy, rfl⟩
    by_cases hk : key y = k
    · rw [if_pos hk]
      exact .inr ⟨y, hy, hk, rfl⟩
    · rw [if_neg hk]
      exact .inl ⟨hy, hk⟩
  · rintro (⟨hx, hk⟩ | ⟨y, hy, hk, rfl⟩)
    · exact ⟨x, hx, if_neg hk⟩
    · exact ⟨y, hy, if_pos hk⟩

theorem get?_modify (t : Table key) (k : κ) (f : ρ → ρ) (hf : ∀ r, key (f r) = key r) (j : κ) :
    (t.modify k f hf).get? j = if j = k then (t.get? k).map f else t.get? j := by
  cases h : t.get? j with
  | none =>
    have hno := get?_eq_none_iff.mp h
    have hnone : (t.modify k f hf).get? j = none := by
      rw [get?_eq_none_iff]
      intro x hx
      rcases mem_modify.mp hx with ⟨hx, _⟩ | ⟨y, hy, _, rfl⟩
      · exact hno x hx
      · rw [hf]
        exact hno y hy
    rw [hnone]
    split
    · next hjk =>
      rw [← hjk, h]
      rfl
    · rfl
  | some r =>
    obtain ⟨hr, hrk⟩ := get?_eq_some_iff.mp h
    split
    · next hjk =>
      rw [← hjk, h]
      refine get?_eq_some_iff.mpr ⟨mem_modify.mpr (.inr ⟨r, hr, ?_, rfl⟩), ?_⟩
      · rw [hrk, hjk]
      · rw [hf, hrk]
    · next hjk =>
      refine get?_eq_some_iff.mpr ⟨mem_modify.mpr (.inl ⟨hr, ?_⟩), hrk⟩
      rw [hrk]
      exact hjk

theorem mem_delete {t : Table key} {k : κ} {x : ρ} :
    x ∈ (t.delete k).rows ↔ x ∈ t.rows ∧ key x ≠ k := by
  show x ∈ t.rows.filter _ ↔ _
  rw [List.mem_filter, decide_eq_true_eq]

theorem get?_delete (t : Table key) (k j : κ) :
    (t.delete k).get? j = if j = k then none else t.get? j := by
  by_cases hjk : j = k
  · rw [if_pos hjk, get?_eq_none_iff]
    intro x hx
    rw [hjk]
    exact (mem_delete.mp hx).2
  · rw [if_neg hjk]
    cases h : t.get? j with
    | none =>
      rw [get?_eq_none_iff] at h ⊢
      intro x hx
      exact h x (mem_delete.mp hx).1
    | some r =>
      obtain ⟨hr, hrk⟩ := get?_eq_some_iff.mp h
      refine get?_eq_some_iff.mpr ⟨mem_delete.mpr ⟨hr, ?_⟩, hrk⟩
      rw [hrk]
      exact hjk

end Table

end Base
