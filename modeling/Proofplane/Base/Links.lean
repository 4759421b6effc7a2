import Proofplane.Base.Table
import Mathlib.Data.List.Sort

/-!
# Links between two kinds of things

The key of a link is the pair of its two ends.  One end owns the link: the links of an owner are read
together, changed as a list without repetitions and written together, while the links of every other
owner stay.

* `normalizeBy`          a list in the order of its keys, or an element whose key it has twice;
* `replaceLinks`         `DELETE … WHERE owner = o` and an `INSERT` for each of the new links;
* `Snapshot t o rows`    the rows are the links of the owner `o`;
* `Adds`, `Drops`        **what a change has added or removed, everything else being as it was**;
* `Snapshot.add`, `Snapshot.drop`   the replacement of a snapshot by a larger or smaller one.
-/

set_option linter.unusedSectionVars false

namespace Base

/-! ## Lists without repetitions -/

section
variable {α : Type*} (key : α → Nat)

/-- an element with the key of the next one -/
def firstRepeated : List α → Option α
  | a :: b :: l => if key a = key b then some a else firstRepeated (b :: l)
  | _ => none

/-- the list in the order of its keys; an element of those whose key is there twice -/
def normalizeBy (l : List α) : Except α (List α) :=
  let sorted := l.insertionSort fun a b => key a ≤ key b
  match firstRepeated key sorted with
  | some a => .error a
  | none => .ok sorted

variable {key} {l s : List α}

/-- in a sorted list equal keys are next to each other -/
theorem firstRepeated_eq_none_iff (h : l.Pairwise fun a b => key a ≤ key b) :
    firstRepeated key l = none ↔ (l.map key).Nodup := by
  induction l with
  | nil => exact iff_of_true rfl List.nodup_nil
  | cons a l ih =>
    obtain ⟨hle, hl⟩ := List.pairwise_cons.mp h
    rw [List.map_cons, List.nodup_cons]
    cases l with
    | nil => exact iff_of_true rfl ⟨List.not_mem_nil, List.nodup_nil⟩
    | cons b l =>
      unfold firstRepeated
      by_cases hab : key a = key b
      · rw [if_pos hab]
        refine iff_of_false (fun hc => (by cases hc)) ?_
        rintro ⟨hnot, -⟩
        exact hnot (by rw [hab]; exact List.mem_map_of_mem List.mem_cons_self)
      · rw [if_neg hab, ih hl]
        refine ⟨fun hn => ⟨?_, hn⟩, fun hn => hn.2⟩
        intro hmem
        obtain ⟨c, hc, hca⟩ := List.mem_map.mp hmem
        have hab' := hle b List.mem_cons_self
        rcases List.mem_cons.mp hc with rfl | hc
        · exact hab hca.symm
        · have hbc := (List.pairwise_cons.mp hl).1 c hc
          omega

theorem normalizeBy_eq (h : (l.map key).Nodup) : ∃ s, normalizeBy key l = .ok s ∧ s.Perm l := by
  have hperm := List.perm_insertionSort (fun a b => key a ≤ key b) l
  have hsorted : (l.insertionSort fun a b => key a ≤ key b).Pairwise fun a b => key a ≤ key b :=
    List.pairwise_insertionSort _ l
  have hnone := (firstRepeated_eq_none_iff hsorted).mpr ((hperm.map key).nodup_iff.mpr h)
  refine ⟨_, ?_, hperm⟩
  unfold normalizeBy
  dsimp only
  rw [hnone]

theorem normalizeBy_ok (h : normalizeBy key l = .ok s) : s.Perm l ∧ (l.map key).Nodup := by
  have hperm := List.perm_insertionSort (fun a b => key a ≤ key b) l
  have hsorted : (l.insertionSort fun a b => key a ≤ key b).Pairwise fun a b => key a ≤ key b :=
    List.pairwise_insertionSort _ l
  unfold normalizeBy at h
  dsimp only at h
  split at h
  · cases h
  · next hnone =>
    cases h
    exact ⟨hperm, (hperm.map key).nodup_iff.mp ((firstRepeated_eq_none_iff hsorted).mp hnone)⟩

end

/-- a list that is read element by element -/
theorem mapM_eq_some {κ γ : Type*} {f : κ → Option γ} {ks : List κ}
    (h : ∀ k ∈ ks, ∃ x, f k = some x) : ∃ xs, ks.mapM f = some xs := by
  induction ks with
  | nil => exact ⟨[], rfl⟩
  | cons k ks ih =>
    obtain ⟨x, hx⟩ := h k List.mem_cons_self
    obtain ⟨xs, hxs⟩ := ih fun j hj => h j (List.mem_cons_of_mem _ hj)
    refine ⟨x :: xs, ?_⟩
    rw [List.mapM_cons, hx, hxs]
    rfl

/-! ## Tables of links -/

section
variable {ρ ω τ : Type*} {key : ρ → ω × τ}

/-- the rows are those of the owner -/
structure Snapshot (t : Table key) (o : ω) (rows : List ρ) : Prop where
  mem : ∀ x, x ∈ rows ↔ x ∈ t.rows ∧ (key x).1 = o
  nodup : (rows.map key).Nodup

/-- the new rows are there, and every other row as it was -/
def Adds (t t' : Table key) (new : List ρ) : Prop := ∀ x, x ∈ t'.rows ↔ x ∈ t.rows ∨ x ∈ new

/-- the rows with such ends are gone, and every other row as it was -/
def Drops (t t' : Table key) (p : ω × τ → Prop) : Prop :=
  ∀ x, x ∈ t'.rows ↔ x ∈ t.rows ∧ ¬ p (key x)

section
variable {t t' t'' : Table key} {o : ω} {rows new : List ρ} {p q : ω × τ → Prop}

theorem Adds.nil (t : Table key) : Adds t t [] := fun x => by simp

theorem Adds.trans {more : List ρ} (h : Adds t t' new) (h' : Adds t' t'' more) :
    Adds t t'' (new ++ more) := by
  intro x
  rw [h' x, h x, List.mem_append, or_assoc]

theorem Drops.none (t : Table key) : Drops t t fun _ => False := fun x => by simp

theorem Drops.trans (h : Drops t t' p) (h' : Drops t' t'' q) : Drops t t'' fun k => p k ∨ q k := by
  intro x
  rw [h' x, h x, not_or, and_assoc]

/-- **What was added and then dropped leaves no trace.** -/
theorem Adds.drops (h : Adds t t' new) (h' : Drops t' t'' p) (hnew : ∀ r ∈ new, p (key r))
    (hold : ∀ x ∈ t.rows, ¬ p (key x)) (x : ρ) : x ∈ t''.rows ↔ x ∈ t.rows := by
  rw [h' x, h x]
  constructor
  · rintro ⟨hx | hx, hp⟩
    · exact hx
    · exact absurd (hnew x hx) hp
  · intro hx
    exact ⟨.inl hx, hold x hx⟩

theorem Snapshot.perm (h : Snapshot t o rows) {rows' : List ρ} (hperm : rows'.Perm rows) :
    Snapshot t o rows' where
  mem := fun x => by rw [hperm.mem_iff, h.mem x]
  nodup := ((hperm.map key).nodup_iff).mpr h.nodup

/-- an owner to whom nothing is added keeps their snapshot -/
theorem Snapshot.of_adds (h : Snapshot t o rows) (hadds : Adds t t' new)
    (hother : ∀ r ∈ new, (key r).1 ≠ o) : Snapshot t' o rows := by
  refine ⟨fun x => ?_, h.nodup⟩
  rw [h.mem x, hadds x]
  constructor
  · rintro ⟨hx, ho⟩
    exact ⟨.inl hx, ho⟩
  · rintro ⟨hx | hx, ho⟩
    · exact ⟨hx, ho⟩
    · exact absurd ho (hother x hx)

theorem Snapshot.of_drops (h : Snapshot t o rows) (hdrops : Drops t t' p)
    (hother : ∀ k, p k → k.1 ≠ o) : Snapshot t' o rows := by
  refine ⟨fun x => ?_, h.nodup⟩
  rw [h.mem x, hdrops x]
  constructor
  · rintro ⟨hx, ho⟩
    exact ⟨⟨hx, fun hp => hother _ hp ho⟩, ho⟩
  · rintro ⟨⟨hx, -⟩, ho⟩
    exact ⟨hx, ho⟩

end

variable [DecidableEq ω] [DecidableEq τ]

/-- the links of an owner -/
def linksOf (t : Table key) (o : ω) : List ρ := t.rows.filter fun r => (key r).1 = o

/-- `DELETE … WHERE owner = o` -/
def clearLinks (t : Table key) (o : ω) : Table key where
  rows := t.rows.filter fun r => (key r).1 ≠ o
  nodup := t.nodup.sublist (List.filter_sublist.map key)

/-- an `INSERT` for each row, refused where its key is in use -/
def insertLinks : Table key → List ρ → Option (Table key)
  | t, [] => some t
  | t, r :: rs =>
    match t.get? (key r) with
    | some _ => none
    | none => insertLinks (t.upsert r) rs

def replaceLinks (t : Table key) (o : ω) (rows : List ρ) : Option (Table key) :=
  insertLinks (clearLinks t o) rows

variable {t t' : Table key} {o : ω} {rows : List ρ}

theorem snapshot_linksOf (t : Table key) (o : ω) : Snapshot t o (linksOf t o) := by
  refine ⟨fun x => ?_, t.nodup.sublist (List.filter_sublist.map key)⟩
  unfold linksOf
  rw [List.mem_filter, decide_eq_true_eq]

theorem mem_clearLinks {x : ρ} : x ∈ (clearLinks t o).rows ↔ x ∈ t.rows ∧ (key x).1 ≠ o := by
  show x ∈ t.rows.filter _ ↔ _
  rw [List.mem_filter, decide_eq_true_eq]

theorem insertLinks_eq (hnodup : (rows.map key).Nodup)
    (hfresh : ∀ r ∈ rows, ∀ x ∈ t.rows, key x ≠ key r) :
    ∃ t', insertLinks t rows = some t' ∧ Adds t t' rows := by
  induction rows generalizing t with
  | nil => exact ⟨t, rfl, .nil t⟩
  | cons r rows ih =>
    rw [List.map_cons, List.nodup_cons] at hnodup
    obtain ⟨hr, hrows⟩ := hnodup
    have hnone : t.get? (key r) = none :=
      Table.get?_eq_none_iff.mpr (hfresh r List.mem_cons_self)
    have hup : Adds t (t.upsert r) [r] := by
      intro x
      rw [Table.mem_upsert, List.mem_singleton]
      constructor
      · rintro (hx | ⟨hx, -⟩)
        · exact .inr hx
        · exact .inl hx
      · rintro (hx | hx)
        · exact .inr ⟨hx, hfresh r List.mem_cons_self x hx⟩
        · exact .inl hx
    have hfresh' : ∀ s ∈ rows, ∀ x ∈ (t.upsert r).rows, key x ≠ key s := by
      intro s hs x hx
      rcases (hup x).mp hx with hx | hx
      · exact hfresh s (List.mem_cons_of_mem _ hs) x hx
      · rw [List.mem_singleton.mp hx]
        exact fun hc => hr (hc ▸ List.mem_map_of_mem hs)
    obtain ⟨t', hinsert, hadds⟩ := ih hrows hfresh'
    refine ⟨t', ?_, hup.trans hadds⟩
    unfold insertLinks
    rw [hnone]
    exact hinsert

/-- the links of one owner are replaced, and those of the others stay -/
theorem replaceLinks_eq (hnodup : (rows.map key).Nodup) (howner : ∀ r ∈ rows, (key r).1 = o) :
    ∃ t', replaceLinks t o rows = some t' ∧
      ∀ x, x ∈ t'.rows ↔ (x ∈ t.rows ∧ (key x).1 ≠ o) ∨ x ∈ rows := by
  have hfresh : ∀ r ∈ rows, ∀ x ∈ (clearLinks t o).rows, key x ≠ key r := by
    intro r hr x hx hc
    exact (mem_clearLinks.mp hx).2 (by rw [hc]; exact howner r hr)
  obtain ⟨t', hinsert, hadds⟩ := insertLinks_eq hnodup hfresh
  refine ⟨t', hinsert, fun x => ?_⟩
  rw [hadds x, mem_clearLinks]

/-- **A snapshot with more links adds them.** -/
theorem Snapshot.add (h : Snapshot t o rows) (rows' new : List ρ) (hmem : ∀ x, x ∈ rows' ↔ x ∈ rows ∨ x ∈ new)
    (hnodup : (rows'.map key).Nodup) (hnew : ∀ r ∈ new, (key r).1 = o) :
    ∃ t', replaceLinks t o rows' = some t' ∧ Adds t t' new := by
  have howner : ∀ r ∈ rows', (key r).1 = o := by
    intro r hr
    rcases (hmem r).mp hr with hr | hr
    · exact ((h.mem r).mp hr).2
    · exact hnew r hr
  obtain ⟨t', hreplace, ht'⟩ := replaceLinks_eq (t := t) hnodup howner
  refine ⟨t', hreplace, fun x => ?_⟩
  rw [ht' x, hmem x, h.mem x]
  constructor
  · rintro (⟨hx, -⟩ | ⟨hx, -⟩ | hx)
    · exact .inl hx
    · exact .inl hx
    · exact .inr hx
  · rintro (hx | hx)
    · by_cases ho : (key x).1 = o
      · exact .inr (.inl ⟨hx, ho⟩)
      · exact .inl ⟨hx, ho⟩
    · exact .inr (.inr hx)

/-- **A snapshot with fewer links drops the others.** -/
theorem Snapshot.drop (h : Snapshot t o rows) (rows' : List ρ) (p : ω × τ → Prop) (hmem : ∀ x, x ∈ rows' ↔ x ∈ rows ∧ ¬ p (key x))
    (hnodup : (rows'.map key).Nodup) (hp : ∀ k, p k → k.1 = o) :
    ∃ t', replaceLinks t o rows' = some t' ∧ Drops t t' p := by
  have howner : ∀ r ∈ rows', (key r).1 = o := fun r hr =>
    ((h.mem r).mp ((hmem r).mp hr).1).2
  obtain ⟨t', hreplace, ht'⟩ := replaceLinks_eq (t := t) hnodup howner
  refine ⟨t', hreplace, fun x => ?_⟩
  rw [ht' x, hmem x, h.mem x]
  constructor
  · rintro (⟨hx, hne⟩ | ⟨⟨hx, -⟩, hnot⟩)
    · exact ⟨hx, fun hc => hne (hp _ hc)⟩
    · exact ⟨hx, hnot⟩
  · rintro ⟨hx, hnot⟩
    by_cases ho : (key x).1 = o
    · exact .inr ⟨⟨hx, ho⟩, hnot⟩
    · exact .inl ⟨hx, ho⟩

end

end Base
