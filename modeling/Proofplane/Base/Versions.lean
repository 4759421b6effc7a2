import Proofplane.Base.Table

/-!
# Stores of versions

A store keeps one version under a key.  A write makes a new version, of a generation that no version of the key
had before; what was written does not change, its label may.  A change of a label or a removal may be asked for
one generation, and does nothing where another one is there.

* `VersionView`           what can be seen of a store: the current versions, and which generations were used;
* `Same`, `Wrote`, `Relabelled`, `RemovedIf`, `Removed`   what an operation may change, with one lemma each on the
                          versions that are there afterwards;
* `VersionStore`          **a store: its operations, and the laws that they obey**;
* `Tracks`                a record of all that was ever written, which every operation keeps;
* `Versions.store`        a store whose versions are rows of a table, and whose generations are counted.
-/

set_option linter.unusedSectionVars false

namespace Base

structure Version (κ γ ℓ : Type*) where
  key : κ
  generation : Nat
  content : γ
  label : ℓ

/-- another label, for a version of this generation -/
def Version.relabel {κ γ ℓ : Type*} (g : Nat) (l : ℓ) (v : Version κ γ ℓ) : Version κ γ ℓ :=
  { v with label := if v.generation = g then l else v.label }

@[simp] theorem Version.relabel_key {κ γ ℓ : Type*} (g : Nat) (l : ℓ) (v : Version κ γ ℓ) :
    (v.relabel g l).key = v.key := rfl

theorem Version.relabel_of_ne {κ γ ℓ : Type*} {g : Nat} {v : Version κ γ ℓ} (h : v.generation ≠ g) (l : ℓ) :
    v.relabel g l = v := by
  unfold relabel
  rw [if_neg h]

/-- what can be seen of a store -/
structure VersionView (κ γ ℓ : Type*) where
  get? : κ → Option (Version κ γ ℓ)
  /-- a version of this key has had this generation -/
  used : κ → Nat → Prop
  made : ∀ k v, get? k = some v → used k v.generation

namespace VersionView
variable {κ γ ℓ : Type*}

/-! ## What an operation changes -/

section
variable (V V' : VersionView κ γ ℓ) (k : κ) (g : Nat) (c : γ) (l : ℓ)

structure Same : Prop where
  get? : ∀ j, V'.get? j = V.get? j
  used : ∀ j h, V.used j h → V'.used j h

/-- a new version of the key, of a generation that none had before -/
structure Wrote : Prop where
  fresh : ¬ V.used k g
  written : V'.get? k = some ⟨k, g, c, l⟩
  others : ∀ j, j ≠ k → V'.get? j = V.get? j
  used : ∀ j h, V.used j h → V'.used j h

/-- a new label for this generation -/
structure Relabelled : Prop where
  relabelled : V'.get? k = (V.get? k).map (Version.relabel g l)
  others : ∀ j, j ≠ k → V'.get? j = V.get? j
  used : ∀ j h, V.used j h → V'.used j h

/-- the version of this generation goes -/
structure RemovedIf : Prop where
  removed : V'.get? k = (V.get? k).filter fun v => v.generation ≠ g
  others : ∀ j, j ≠ k → V'.get? j = V.get? j
  used : ∀ j h, V.used j h → V'.used j h

/-- whatever version there is goes -/
structure Removed : Prop where
  removed : V'.get? k = none
  others : ∀ j, j ≠ k → V'.get? j = V.get? j
  used : ∀ j h, V.used j h → V'.used j h

end

section
variable {V V' : VersionView κ γ ℓ} {k j : κ} {g : Nat} {c : γ} {l : ℓ} {v : Version κ γ ℓ}

theorem Same.refl (V : VersionView κ γ ℓ) : V.Same V := ⟨fun _ => rfl, fun _ _ h => h⟩

theorem Wrote.get?_iff (h : V.Wrote V' k g c l) :
    V'.get? j = some v ↔ (j = k ∧ v = ⟨k, g, c, l⟩) ∨ (j ≠ k ∧ V.get? j = some v) := by
  by_cases hj : j = k
  · subst hj
    rw [h.written]
    constructor
    · intro hv
      exact .inl ⟨rfl, (Option.some.inj hv).symm⟩
    · rintro (⟨-, rfl⟩ | ⟨hne, -⟩)
      · rfl
      · exact absurd rfl hne
  · rw [h.others j hj]
    constructor
    · intro hv
      exact .inr ⟨hj, hv⟩
    · rintro (⟨hjk, -⟩ | ⟨-, hv⟩)
      · exact absurd hjk hj
      · exact hv

/-- no other version has another label -/
theorem Relabelled.get?_iff (h : V.Relabelled V' k g l) :
    V'.get? j = some v ↔ (V.get? j = some v ∧ ¬ (j = k ∧ v.generation = g)) ∨
      ∃ u, V.get? j = some u ∧ j = k ∧ u.generation = g ∧ v = { u with label := l } := by
  by_cases hj : j = k
  · subst hj
    rw [h.relabelled, Option.map_eq_some_iff]
    constructor
    · rintro ⟨u, hu, rfl⟩
      by_cases hg : u.generation = g
      · refine .inr ⟨u, hu, rfl, hg, ?_⟩
        unfold Version.relabel
        rw [if_pos hg]
      · rw [Version.relabel_of_ne hg]
        exact .inl ⟨hu, fun hsame => hg hsame.2⟩
    · rintro (⟨hv, hnot⟩ | ⟨u, hu, -, hg, rfl⟩)
      · exact ⟨v, hv, Version.relabel_of_ne (fun hg => hnot ⟨rfl, hg⟩) l⟩
      · refine ⟨u, hu, ?_⟩
        unfold Version.relabel
        rw [if_pos hg]
  · rw [h.others j hj]
    constructor
    · intro hv
      exact .inl ⟨hv, fun hsame => hj hsame.1⟩
    · rintro (⟨hv, -⟩ | ⟨u, -, hjk, -⟩)
      · exact hv
      · exact absurd hjk hj

/-- no other version goes -/
theorem RemovedIf.get?_iff (h : V.RemovedIf V' k g) :
    V'.get? j = some v ↔ V.get? j = some v ∧ ¬ (j = k ∧ v.generation = g) := by
  by_cases hj : j = k
  · subst hj
    rw [h.removed, Option.filter_eq_some_iff, decide_eq_true_iff]
    constructor
    · rintro ⟨hv, hg⟩
      exact ⟨hv, fun hsame => hg hsame.2⟩
    · rintro ⟨hv, hnot⟩
      exact ⟨hv, fun hg => hnot ⟨rfl, hg⟩⟩
  · rw [h.others j hj]
    constructor
    · intro hv
      exact ⟨hv, fun hsame => hj hsame.1⟩
    · exact And.left

theorem Removed.get?_iff (h : V.Removed V' k) : V'.get? j = some v ↔ j ≠ k ∧ V.get? j = some v := by
  by_cases hj : j = k
  · subst hj
    rw [h.removed]
    constructor
    · nofun
    · rintro ⟨hne, -⟩
      exact absurd rfl hne
  · rw [h.others j hj]
    constructor
    · intro hv
      exact ⟨hj, hv⟩
    · exact And.right

end

end VersionView

/-! ## Stores -/

/-- a store, with its operations on states `σ`, and with what they do -/
structure VersionStore (σ κ γ ℓ : Type*) where
  view : σ → VersionView κ γ ℓ
  empty : σ
  /-- an operation that is refused -/
  refuse : σ → σ
  read : σ → κ → Option γ
  /-- the generation of the new version, and the store with it -/
  write : σ → κ → γ → ℓ → Nat × σ
  /-- the first key is that of the source -/
  copy : σ → κ → κ → Option (Nat × σ)
  setLabel : σ → κ → Nat → ℓ → σ
  removeIf : σ → κ → Nat → σ
  remove : σ → κ → σ
  empty_get? : ∀ k, (view empty).get? k = none
  /-- a refusal has no effect -/
  refuse_same : ∀ s, (view s).Same (view (refuse s))
  /-- what is read is what one version was written with -/
  read_eq : ∀ s k, read s k = ((view s).get? k).map Version.content
  /-- a write makes a version of a fresh generation -/
  write_fresh : ∀ s k c l, (view s).Wrote (view (write s k c l).2) k (write s k c l).1 c l
  /-- a copy has the content and the label of its source -/
  copy_source : ∀ s k j r, copy s k j = some r → ∃ v, (view s).get? k = some v ∧
    (view s).Wrote (view r.2) j r.1 v.content v.label
  /-- a label is set if the generation is there -/
  setLabel_conditional : ∀ s k g l, (view s).Relabelled (view (setLabel s k g l)) k g l
  /-- a version is removed if the generation is there -/
  removeIf_conditional : ∀ s k g, (view s).RemovedIf (view (removeIf s k g)) k g
  remove_any : ∀ s k, (view s).Removed (view (remove s k)) k

/-! ## A record of what was written -/

/-- what was written under a key, as which generation, and by whom -/
structure Written (κ γ ω : Type*) where
  key : κ
  generation : Nat
  writer : ω
  content : γ
  deriving DecidableEq

/-- every version is recorded as it was written, and a generation of a key once -/
structure Tracks {κ γ ℓ ω : Type*} (V : VersionView κ γ ℓ) (written : List (Written κ γ ω)) : Prop where
  live : ∀ k v, V.get? k = some v →
    ∃ x ∈ written, x.key = k ∧ x.generation = v.generation ∧ x.content = v.content
  used : ∀ x ∈ written, V.used x.key x.generation
  unique : ∀ x ∈ written, ∀ y ∈ written, x.key = y.key → x.generation = y.generation → x = y

namespace Tracks
variable {κ γ ℓ ω : Type*} {V V' : VersionView κ γ ℓ} {written : List (Written κ γ ω)} {k : κ} {g : Nat}
  {c : γ} {l : ℓ}

/-- a version is what its record says -/
theorem content_eq (h : Tracks V written) {x : Written κ γ ω} (hx : x ∈ written) {v : Version κ γ ℓ}
    (hv : V.get? x.key = some v) (hg : x.generation = v.generation) : x.content = v.content := by
  obtain ⟨y, hy, hkey, hgeneration, hcontent⟩ := h.live x.key v hv
  rw [h.unique x hx y hy hkey.symm (hg.trans hgeneration.symm)]
  exact hcontent

theorem empty (h : ∀ k, V.get? k = none) : Tracks V ([] : List (Written κ γ ω)) where
  live k v hv := by
    rw [h k] at hv
    cases hv
  used := nofun
  unique := nofun

/-- what writes nothing keeps the record -/
theorem of_live (h : Tracks V written) (hused : ∀ j n, V.used j n → V'.used j n)
    (hlive : ∀ j v, V'.get? j = some v →
      ∃ u, V.get? j = some u ∧ u.generation = v.generation ∧ u.content = v.content) : Tracks V' written where
  live j v hv := by
    obtain ⟨u, hu, hg, hc⟩ := hlive j v hv
    obtain ⟨x, hx, hkey, hgeneration, hcontent⟩ := h.live j u hu
    exact ⟨x, hx, hkey, hgeneration.trans hg, hcontent.trans hc⟩
  used x hx := hused _ _ (h.used x hx)
  unique := h.unique

theorem same (h : Tracks V written) (hs : V.Same V') : Tracks V' written := by
  refine h.of_live hs.used fun j v hv => ?_
  rw [hs.get?] at hv
  exact ⟨v, hv, rfl, rfl⟩

theorem relabelled (h : Tracks V written) (hr : V.Relabelled V' k g l) : Tracks V' written := by
  refine h.of_live hr.used fun j v hv => ?_
  rcases hr.get?_iff.mp hv with ⟨hold, -⟩ | ⟨u, hu, -, -, rfl⟩
  · exact ⟨v, hold, rfl, rfl⟩
  · exact ⟨u, hu, rfl, rfl⟩

theorem removedIf (h : Tracks V written) (hr : V.RemovedIf V' k g) : Tracks V' written :=
  h.of_live hr.used fun _ v hv => ⟨v, (hr.get?_iff.mp hv).1, rfl, rfl⟩

theorem removed (h : Tracks V written) (hr : V.Removed V' k) : Tracks V' written :=
  h.of_live hr.used fun _ v hv => ⟨v, (hr.get?_iff.mp hv).2, rfl, rfl⟩

/-- **A new version is recorded as one of its own**, since its generation is fresh. -/
theorem wrote (h : Tracks V written) (hw : V.Wrote V' k g c l) (writer : ω) :
    Tracks V' (⟨k, g, writer, c⟩ :: written) where
  live j v hv := by
    rcases hw.get?_iff.mp hv with ⟨rfl, rfl⟩ | ⟨-, hold⟩
    · exact ⟨⟨j, g, writer, c⟩, List.mem_cons_self, rfl, rfl, rfl⟩
    · obtain ⟨x, hx, hsame⟩ := h.live j v hold
      exact ⟨x, List.mem_cons_of_mem _ hx, hsame⟩
  used x hx := by
    rcases List.mem_cons.mp hx with rfl | hold
    · exact V'.made k _ hw.written
    · exact hw.used _ _ (h.used x hold)
  unique := by
    have hnew : ∀ x ∈ written, x.key = k → x.generation ≠ g := by
      intro x hx hk hg
      have hused := h.used x hx
      rw [hk, hg] at hused
      exact hw.fresh hused
    intro x hx y hy hkey hgeneration
    rcases List.mem_cons.mp hx with rfl | hxold
    · rcases List.mem_cons.mp hy with rfl | hyold
      · rfl
      · exact absurd hgeneration.symm (hnew y hyold hkey.symm)
    · rcases List.mem_cons.mp hy with rfl | hyold
      · exact absurd hgeneration (hnew x hxold hkey)
      · exact h.unique x hxold y hyold hkey hgeneration

end Tracks

/-! ## Versions in a table -/

/-- the current versions; `next` is the generation of the next one -/
structure Versions (κ γ ℓ : Type*) where
  live : Table (Version.key (κ := κ) (γ := γ) (ℓ := ℓ))
  next : Nat
  below : ∀ v ∈ live.rows, v.generation < next

namespace Versions
variable {κ γ ℓ : Type*} [DecidableEq κ]

def view (s : Versions κ γ ℓ) : VersionView κ γ ℓ where
  get? := s.live.get?
  used _ g := g < s.next
  made _ v hv := s.below v (Table.get?_mem hv)

def empty : Versions κ γ ℓ := ⟨.empty, 0, fun _ hv => absurd hv List.not_mem_nil⟩

def write (s : Versions κ γ ℓ) (k : κ) (c : γ) (l : ℓ) : Versions κ γ ℓ where
  live := s.live.upsert ⟨k, s.next, c, l⟩
  next := s.next + 1
  below := by
    intro v hv
    rcases Table.mem_upsert.mp hv with rfl | ⟨hold, -⟩
    · exact Nat.lt_succ_self _
    · exact Nat.lt_succ_of_lt (s.below v hold)

def setLabel (s : Versions κ γ ℓ) (k : κ) (g : Nat) (l : ℓ) : Versions κ γ ℓ where
  live := s.live.modify k (Version.relabel g l) (Version.relabel_key g l)
  next := s.next
  below := by
    intro v hv
    rcases Table.mem_modify.mp hv with ⟨hv', -⟩ | ⟨u, hu, -, rfl⟩
    · exact s.below v hv'
    · exact s.below u hu

def remove (s : Versions κ γ ℓ) (k : κ) : Versions κ γ ℓ :=
  ⟨s.live.delete k, s.next, fun v hv => s.below v (Table.mem_delete.mp hv).1⟩

def removeIf (s : Versions κ γ ℓ) (k : κ) (g : Nat) : Versions κ γ ℓ :=
  if (s.live.get? k).any fun v => v.generation = g then s.remove k else s

theorem write_wrote (s : Versions κ γ ℓ) (k : κ) (c : γ) (l : ℓ) :
    s.view.Wrote (s.write k c l).view k s.next c l where
  fresh := Nat.lt_irrefl _
  written := Table.get?_upsert_self s.live ⟨k, s.next, c, l⟩
  others _ hj := (Table.get?_upsert s.live ⟨k, s.next, c, l⟩ _).trans (if_neg (Ne.symm hj))
  used _ _ h := Nat.lt_succ_of_lt h

theorem setLabel_relabelled (s : Versions κ γ ℓ) (k : κ) (g : Nat) (l : ℓ) :
    s.view.Relabelled (s.setLabel k g l).view k g l where
  relabelled := (Table.get?_modify s.live k _ (Version.relabel_key g l) k).trans (if_pos rfl)
  others _ hj := (Table.get?_modify s.live k _ (Version.relabel_key g l) _).trans (if_neg hj)
  used _ _ h := h

theorem remove_removed (s : Versions κ γ ℓ) (k : κ) : s.view.Removed (s.remove k).view k where
  removed := (Table.get?_delete s.live k k).trans (if_pos rfl)
  others _ hj := (Table.get?_delete s.live k _).trans (if_neg hj)
  used _ _ h := h

theorem removeIf_removedIf (s : Versions κ γ ℓ) (k : κ) (g : Nat) :
    s.view.RemovedIf (s.removeIf k g).view k g := by
  unfold removeIf
  by_cases hthere : ((s.live.get? k).any fun v => v.generation = g) = true
  · rw [if_pos hthere]
    have hremoved := s.remove_removed k
    refine ⟨?_, hremoved.others, hremoved.used⟩
    obtain ⟨v, hv, hg⟩ := (Option.any_eq_true _ _).mp hthere
    rw [hremoved.removed, show s.view.get? k = some v from hv]
    exact (Option.filter_some_neg (by simpa using hg)).symm
  · rw [if_neg hthere]
    refine ⟨?_, fun _ _ => rfl, fun _ _ h => h⟩
    show s.live.get? k = (s.live.get? k).filter fun v => v.generation ≠ g
    cases hv : s.live.get? k with
    | none => rfl
    | some v =>
      rw [hv] at hthere
      exact (Option.filter_some_pos (by simpa using hthere)).symm

/-- versions in a table are a store -/
def store : VersionStore (Versions κ γ ℓ) κ γ ℓ where
  view := view
  empty := empty
  refuse s := s
  read s k := (s.live.get? k).map Version.content
  write s k c l := (s.next, s.write k c l)
  copy s k j := (s.live.get? k).map fun v => (s.next, s.write j v.content v.label)
  setLabel := setLabel
  removeIf := removeIf
  remove := remove
  empty_get? _ := rfl
  refuse_same _ := .refl _
  read_eq _ _ := rfl
  write_fresh := write_wrote
  copy_source s k j r h := by
    obtain ⟨v, hv, rfl⟩ := Option.map_eq_some_iff.mp h
    exact ⟨v, hv, s.write_wrote j v.content v.label⟩
  setLabel_conditional := setLabel_relabelled
  removeIf_conditional := removeIf_removedIf
  remove_any := remove_removed

end Versions

end Base
