import Mathlib.Data.List.Basic

/-!
# Text between separators

* `segments`            the text between the separators, at least one;
* `joinSegments`        the way back, `joinSegments_segments`;
* `segments_append`     the segments of a text that is put together from two;
* `segments_eq_iff`     **a text has these segments exactly when it is their join and none of them has
                      the separator in it**.
-/

namespace Base

/-- the text cut at every separator -/
def segments (sep : Char) (s : String) : List String := (s.toList.splitOn sep).map String.ofList

/-- the texts with a separator between them -/
def joinSegments (sep : Char) (l : List String) : String :=
  String.ofList ([sep].intercalate (l.map String.toList))

variable {sep : Char}

theorem joinSegments_singleton (a : String) : joinSegments sep [a] = a := by
  unfold joinSegments
  simp

theorem joinSegments_cons (a b : String) (l : List String) :
    joinSegments sep (a :: b :: l) = a ++ String.ofList [sep] ++ joinSegments sep (b :: l) := by
  unfold joinSegments
  rw [← String.toList_inj]
  simp [String.toList_append, List.intercalate_cons_cons]

theorem notMem_splitOn {cs : List Char} {part : List Char} (h : part ∈ cs.splitOn sep) : sep ∉ part := by
  induction cs generalizing part with
  | nil =>
    rw [List.splitOn_nil, List.mem_singleton] at h
    rw [h]
    exact List.not_mem_nil
  | cons c cs ih =>
    rw [List.splitOn_cons_eq_if_modifyHead] at h
    by_cases hc : (c == sep) = true
    · rw [if_pos hc] at h
      rcases List.mem_cons.mp h with rfl | h
      · exact List.not_mem_nil
      · exact ih h
    · rw [if_neg hc] at h
      have hne : ¬ c = sep := fun heq => hc (beq_iff_eq.mpr heq)
      cases hs : cs.splitOn sep with
      | nil => exact absurd hs (List.splitOn_ne_nil _ _)
      | cons p ps =>
        rw [hs] at h ih
        rcases List.mem_cons.mp h with rfl | h
        · have hp := ih List.mem_cons_self
          intro hmem
          rcases List.mem_cons.mp hmem with heq | hmem
          · exact hne heq.symm
          · exact hp hmem
        · exact ih (List.mem_cons_of_mem _ h)

theorem joinSegments_segments (sep : Char) (s : String) : joinSegments sep (segments sep s) = s := by
  unfold joinSegments segments
  rw [List.map_map]
  have hid : (String.toList ∘ String.ofList) = id := funext fun l => String.toList_ofList
  rw [hid, List.map_id, List.intercalate_splitOn, String.ofList_toList]

theorem notMem_segments {s part : String} (h : part ∈ segments sep s) : sep ∉ part.toList := by
  obtain ⟨cs, hcs, rfl⟩ := List.mem_map.mp h
  rw [String.toList_ofList]
  exact notMem_splitOn hcs

theorem segments_joinSegments {l : List String} (hne : l ≠ []) (h : ∀ part ∈ l, sep ∉ part.toList) :
    segments sep (joinSegments sep l) = l := by
  unfold joinSegments segments
  rw [String.toList_ofList, List.splitOn_intercalate, List.map_map]
  · have hid : (String.ofList ∘ String.toList) = id := funext fun s => String.ofList_toList
    rw [hid, List.map_id]
  · intro cs hcs
    obtain ⟨part, hpart, rfl⟩ := List.mem_map.mp hcs
    exact h part hpart
  · exact fun hnil => hne (List.map_eq_nil_iff.mp hnil)

theorem segments_eq_iff {s : String} {l : List String} (hne : l ≠ []) :
    segments sep s = l ↔ s = joinSegments sep l ∧ ∀ part ∈ l, sep ∉ part.toList := by
  constructor
  · rintro rfl
    exact ⟨(joinSegments_segments sep s).symm, fun part hpart => notMem_segments hpart⟩
  · rintro ⟨rfl, h⟩
    exact segments_joinSegments hne h

theorem segments_ne_nil (sep : Char) (s : String) : segments sep s ≠ [] := by
  unfold segments
  intro h
  exact List.splitOn_ne_nil _ _ (List.map_eq_nil_iff.mp h)

theorem segments_of_notMem {s : String} (h : sep ∉ s.toList) : segments sep s = [s] := by
  refine (segments_eq_iff (List.cons_ne_nil _ _)).mpr ⟨(joinSegments_singleton s).symm, ?_⟩
  intro part hpart
  rw [List.mem_singleton.mp hpart]
  exact h

theorem joinSegments_append {l l' : List String} (hl : l ≠ []) (hl' : l' ≠ []) :
    joinSegments sep (l ++ l') = joinSegments sep l ++ String.ofList [sep] ++ joinSegments sep l' := by
  obtain ⟨b, l', rfl⟩ := List.exists_cons_of_ne_nil hl'
  induction l with
  | nil => exact absurd rfl hl
  | cons a l ih =>
    cases l with
    | nil =>
      show joinSegments sep (a :: b :: l') = _
      rw [joinSegments_cons, joinSegments_singleton]
    | cons a' l =>
      show joinSegments sep (a :: a' :: (l ++ b :: l')) = _
      rw [joinSegments_cons, joinSegments_cons, ← List.cons_append, ih (List.cons_ne_nil _ _)]
      simp only [String.append_assoc]

/-- **A separator between two texts is one between their segments.** -/
theorem segments_append (s t : String) :
    segments sep (s ++ String.ofList [sep] ++ t) = segments sep s ++ segments sep t := by
  have hs := segments_ne_nil sep s
  have ht := segments_ne_nil sep t
  refine (segments_eq_iff (List.append_ne_nil_of_left_ne_nil hs _)).mpr ⟨?_, ?_⟩
  · rw [joinSegments_append hs ht, joinSegments_segments, joinSegments_segments]
  · intro part hpart
    rcases List.mem_append.mp hpart with hpart | hpart
    · exact notMem_segments hpart
    · exact notMem_segments hpart

end Base
