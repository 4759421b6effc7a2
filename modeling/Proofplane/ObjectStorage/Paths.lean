import Proofplane.Base.Paths
import Proofplane.ObjectStorage.Filesystem
import Proofplane.Uploads.Staging

/-!
# Where the files of an object are

The segments of a key are names of directories, and the last of them the name of a file; the description
of the object is a file of that name with `.json` behind it, below another directory.

* `ObjectKey.new`          the key of a workspace, a prefix and a name, `parse_new`;
* `segment_of_key`         what is in a key that was accepted;
* `objectPath`, `metadataPath`   the two files of an object, `components_objectPath`,
                        `components_metadataPath`;
* `objectPath_injective`, `metadataPath_injective`, `objectPath_ne_metadataPath`   **no two of them are one
                        file**.
-/

namespace Proofplane
open Base

/-! ## Canonical paths -/

theorem pathSegments_eq (value : String) : pathSegments value = segments '/' value := rfl

theorem canonicalSegment_iff {segment : String} :
    canonicalSegment segment = true ↔
      segment ≠ "" ∧ segment ≠ "." ∧ segment ≠ ".." ∧ '\\' ∉ segment.toList ∧
        Char.ofNat 0 ∉ segment.toList := by
  unfold canonicalSegment
  rw [Bool.and_eq_true, Bool.and_eq_true, Bool.and_eq_true, Bool.not_eq_true', List.any_eq_false,
    decide_eq_true_eq, decide_eq_true_eq, decide_eq_true_eq]
  constructor
  · rintro ⟨⟨⟨hempty, hdot⟩, hdotdot⟩, hany⟩
    exact ⟨hempty, hdot, hdotdot, fun hmem => hany _ hmem (by simp), fun hmem => hany _ hmem (by simp)⟩
  · rintro ⟨hempty, hdot, hdotdot, hback, hnul⟩
    refine ⟨⟨⟨hempty, hdot⟩, hdotdot⟩, ?_⟩
    intro c hc hor
    rw [Bool.or_eq_true, decide_eq_true_eq, decide_eq_true_eq] at hor
    rcases hor with rfl | rfl
    · exact hback hc
    · exact hnul hc

theorem not_canonicalSegment_empty : ¬ canonicalSegment "" = true := by decide

/-- the other conditions follow: a `/` at either end makes an empty segment -/
theorem isCanonicalRelativePath_iff {value : String} :
    isCanonicalRelativePath value = true ↔ ∀ s ∈ segments '/' value, canonicalSegment s = true := by
  unfold isCanonicalRelativePath
  rw [Bool.and_eq_true, Bool.and_eq_true, Bool.and_eq_true, List.all_eq_true, pathSegments_eq]
  constructor
  · rintro ⟨-, h⟩
    exact h
  · intro h
    refine ⟨⟨⟨?_, ?_⟩, ?_⟩, h⟩
    · rw [decide_eq_true_eq]
      rintro rfl
      exact not_canonicalSegment_empty (h "" (by decide))
    · rw [decide_eq_true_eq]
      intro hhead
      obtain ⟨rest, hrest⟩ := List.head?_eq_some_iff.mp hhead
      have hvalue : value = "" ++ "/" ++ String.ofList rest := by
        rw [← String.toList_inj, hrest, String.toList_append, String.toList_ofList]
        rfl
      rw [hvalue, segments_slash] at h
      exact not_canonicalSegment_empty (h "" (List.mem_append_left _ (by decide)))
    · rw [decide_eq_true_eq]
      intro hlast
      obtain ⟨front, hfront⟩ := List.getLast?_eq_some_iff.mp hlast
      have hvalue : value = String.ofList front ++ "/" ++ "" := by
        rw [← String.toList_inj, hfront, String.append_empty, String.toList_append, String.toList_ofList]
        rfl
      rw [hvalue, segments_slash] at h
      exact not_canonicalSegment_empty (h "" (List.mem_append_right _ (by decide)))

theorem canonicalSegment_plain {value s : String} (hs : s ∈ segments '/' value)
    (h : canonicalSegment s = true) : Plain s := by
  obtain ⟨hempty, hdot, hdotdot, -, -⟩ := canonicalSegment_iff.mp h
  exact ⟨hempty, hdot, hdotdot, notMem_segments hs⟩

theorem validatedPath_ok {value : String} {parts : List String} (h : validatedPath value = some parts) :
    parts = segments '/' value ∧ ∀ s ∈ parts, canonicalSegment s = true := by
  unfold validatedPath at h
  split at h
  · next hcanonical =>
    cases h
    exact ⟨rfl, isCanonicalRelativePath_iff.mp hcanonical⟩
  · cases h

/-! ## The text of a UUID -/

theorem mem_hyphenate {gs : List Nat} {cs : List Char} {c : Char} (h : c ∈ Uuid.hyphenate gs cs) :
    c = '-' ∨ c ∈ cs := by
  induction gs generalizing cs with
  | nil => exact .inr h
  | cons n gs ih =>
    cases gs with
    | nil => exact .inr h
    | cons m gs =>
      rcases List.mem_append.mp h with h | h
      · exact .inr (List.mem_of_mem_take h)
      · rcases List.mem_cons.mp h with h | h
        · exact .inl h
        · rcases ih h with h | h
          · exact .inl h
          · exact .inr (List.mem_of_mem_drop h)

/-- the characters of the text of a UUID -/
theorem mem_uuidText {u : Uuid} {c : Char} (h : c ∈ u.text.toList) :
    c = '-' ∨ ∃ d < 16, c = Uuid.hexDigit d := by
  have htext : u.text.toList = Uuid.hyphenate Uuid.groups ((Uuid.nibbles 32 u.toNat).map Uuid.hexDigit) :=
    String.toList_ofList
  rw [htext] at h
  rcases mem_hyphenate h with h | h
  · exact .inl h
  · obtain ⟨d, hd, rfl⟩ := List.mem_map.mp h
    exact .inr ⟨d, Uuid.nibbles_lt 32 _ d hd, rfl⟩

theorem notMem_uuidText (u : Uuid) {c : Char} (hc : c ≠ '-')
    (hdigits : ∀ d < 16, Uuid.hexDigit d ≠ c) : c ∉ u.text.toList := by
  intro hmem
  rcases mem_uuidText hmem with h | ⟨d, hd, h⟩
  · exact hc h
  · exact hdigits d hd h.symm

theorem uuidText_plain (u : Uuid) : Plain u.text := by
  have hlength := length_text u
  refine ⟨?_, ?_, ?_, notMem_uuidText u (by decide) (by decide)⟩
  · intro h
    rw [h] at hlength
    exact absurd hlength (by decide)
  · intro h
    rw [h] at hlength
    exact absurd hlength (by decide)
  · intro h
    rw [h] at hlength
    exact absurd hlength (by decide)

theorem uuidText_canonical (u : Uuid) : canonicalSegment u.text = true :=
  canonicalSegment_iff.mpr ⟨(uuidText_plain u).ne_empty, (uuidText_plain u).ne_dot,
    (uuidText_plain u).ne_dotdot, notMem_uuidText u (by decide) (by decide),
    notMem_uuidText u (by decide) (by decide)⟩

/-! ## Keys -/

namespace ObjectKey

def segments (k : ObjectKey) : List String := Base.segments '/' k.text

/-- the text of the key that `ObjectKey::new` makes -/
def new (workspaceId : WorkspaceId) (stablePrefix objectName : String) : Option String :=
  match validatedPath stablePrefix, validatedPath objectName with
  | some front, some names =>
    some (joinSegments '/' (["workspaces", workspaceId.uuid.text] ++ front ++ names))
  | _, _ => none

end ObjectKey

theorem validatedPath_eq {value : String} (h : isCanonicalRelativePath value = true) :
    validatedPath value = some (segments '/' value) := if_pos h

/-- the segments, joined again, are the text that the paths are put together to -/
theorem objectKeyText_eq_new (workspaceId : WorkspaceId) (stablePrefix objectName : String) :
    objectKeyText workspaceId stablePrefix objectName
      = ObjectKey.new workspaceId stablePrefix objectName := by
  unfold objectKeyText ObjectKey.new
  by_cases hfront : isCanonicalRelativePath stablePrefix = true
  · by_cases hname : isCanonicalRelativePath objectName = true
    · rw [if_pos ⟨hfront, hname⟩, validatedPath_eq hfront, validatedPath_eq hname]
      dsimp only
      rw [joinSegments_append (List.append_ne_nil_of_left_ne_nil (List.cons_ne_nil _ _) _)
          (segments_ne_nil _ _), joinSegments_append (List.cons_ne_nil _ _) (segments_ne_nil _ _),
        joinSegments_segments, joinSegments_segments, joinSegments_cons, joinSegments_singleton]
      rfl
    · rw [if_neg fun h => hname h.2]
      have hnone : validatedPath objectName = none := if_neg hname
      rw [hnone]
      cases validatedPath stablePrefix with
      | none => rfl
      | some front => rfl
  · rw [if_neg fun h => hfront h.1]
    have hnone : validatedPath stablePrefix = none := if_neg hfront
    rw [hnone]

/-- what `new` makes, segment by segment -/
theorem ObjectKey.new_ok {workspaceId : WorkspaceId} {stablePrefix objectName key : String}
    (h : ObjectKey.new workspaceId stablePrefix objectName = some key) :
    Base.segments '/' key
        = ["workspaces", workspaceId.uuid.text] ++ Base.segments '/' stablePrefix ++
          Base.segments '/' objectName ∧
      ∀ s ∈ Base.segments '/' key, canonicalSegment s = true := by
  unfold ObjectKey.new at h
  split at h
  · next front names hfront hnames =>
    cases h
    obtain ⟨rfl, hfront⟩ := validatedPath_ok hfront
    obtain ⟨rfl, hnames⟩ := validatedPath_ok hnames
    have hall : ∀ s ∈ ["workspaces", workspaceId.uuid.text] ++ Base.segments '/' stablePrefix ++
        Base.segments '/' objectName, canonicalSegment s = true ∧ '/' ∉ s.toList := by
      intro s hs
      rcases List.mem_append.mp hs with hs | hs
      · rcases List.mem_append.mp hs with hs | hs
        · rcases List.mem_cons.mp hs with rfl | hs
          · exact ⟨by decide, by decide⟩
          · rw [List.mem_singleton.mp hs]
            exact ⟨uuidText_canonical _, (uuidText_plain _).noSlash⟩
        · exact ⟨hfront s hs, notMem_segments hs⟩
      · exact ⟨hnames s hs, notMem_segments hs⟩
    have hsegments := @segments_joinSegments '/' _
      (List.append_ne_nil_of_left_ne_nil (List.append_ne_nil_of_left_ne_nil (List.cons_ne_nil _ _) _) _)
      fun s hs => (hall s hs).2
    rw [hsegments]
    exact ⟨rfl, fun s hs => (hall s hs).1⟩
  · cases h

/-- what `ObjectKey::parse` accepts, by its segments -/
theorem validObjectKey_iff {value : String} :
    validObjectKey value = true ↔
      (∀ s ∈ segments '/' value, canonicalSegment s = true) ∧ 4 ≤ (segments '/' value).length ∧
        (segments '/' value).head? = some "workspaces" ∧
        (((segments '/' value)[1]?).bind Uuid.parseStr).isSome = true := by
  unfold validObjectKey
  by_cases h : isCanonicalRelativePath value = true
  · rw [validatedPath_eq h]
    dsimp only
    rw [Bool.and_eq_true, Bool.and_eq_true, decide_eq_true_eq, decide_eq_true_eq, and_assoc]
    exact (and_iff_right (isCanonicalRelativePath_iff.mp h)).symm
  · have hnone : validatedPath value = none := if_neg h
    rw [hnone]
    exact iff_of_false Bool.false_ne_true fun hall => h (isCanonicalRelativePath_iff.mpr hall.1)

/-- **What `new` makes, `parse` accepts.** -/
theorem ObjectKey.parse_new {workspaceId : WorkspaceId} {stablePrefix objectName key : String}
    (h : ObjectKey.new workspaceId stablePrefix objectName = some key) :
    ∃ k, ObjectKey.parse key = some k ∧ k.text = key := by
  obtain ⟨hsegments, hcanonical⟩ := ObjectKey.new_ok h
  have hvalid : validObjectKey key = true := by
    refine validObjectKey_iff.mpr ⟨hcanonical, ?_⟩
    rw [hsegments]
    refine ⟨?_, rfl, ?_⟩
    · have hfront := List.length_pos_iff.mpr (segments_ne_nil '/' stablePrefix)
      have hname := List.length_pos_iff.mpr (segments_ne_nil '/' objectName)
      simp only [List.length_append, List.length_cons, List.length_nil]
      omega
    · show ((some workspaceId.uuid.text).bind Uuid.parseStr).isSome = true
      rw [Option.bind_some, Uuid.parseStr_text]
      rfl
  exact ⟨⟨key, hvalid⟩, dif_pos hvalid, rfl⟩

/-- a segment of a key: one component of a path, without separators of any kind -/
theorem segment_of_key (k : ObjectKey) {s : String} (h : s ∈ k.segments) :
    Plain s ∧ '\\' ∉ s.toList ∧ Char.ofNat 0 ∉ s.toList := by
  have hcanonical := (validObjectKey_iff.mp k.valid).1 s h
  obtain ⟨-, -, -, hback, hnul⟩ := canonicalSegment_iff.mp hcanonical
  exact ⟨canonicalSegment_plain h hcanonical, hback, hnul⟩

theorem segments_plain_of_key (k : ObjectKey) : ∀ s ∈ k.segments, Plain s :=
  fun _ h => (segment_of_key k h).1

theorem segments_injective {k k' : ObjectKey} (h : k.segments = k'.segments) : k = k' := by
  have htext : k.text = k'.text := by
    rw [← joinSegments_segments '/' k.text, ← joinSegments_segments '/' k'.text]
    exact congrArg _ h
  obtain ⟨text, valid⟩ := k
  cases htext
  rfl

/-- the workspace that a key names -/
def ObjectKey.workspace (k : ObjectKey) : Option Uuid := (k.segments[1]?).bind Uuid.parseStr

/-! ## Files -/

def objectPath (root : String) (k : ObjectKey) : String :=
  below (joinPath root "objects") k.segments

def metadataPath (root : String) (k : ObjectKey) : String :=
  below (joinPath root "metadata") k.segments ++ ".json"

theorem objects_plain : Plain "objects" := ⟨by decide, by decide, by decide, by decide⟩

theorem metadata_plain : Plain "metadata" := ⟨by decide, by decide, by decide, by decide⟩

theorem components_objectPath (root : String) (k : ObjectKey) :
    components (objectPath root k) = components root ++ ("objects" :: k.segments).map .normal := by
  unfold objectPath
  rw [components_below _ (segments_plain_of_key k), components_joinPath root objects_plain,
    List.append_assoc]
  rfl

/-- the segments of a key but for the last, and the last -/
theorem ObjectKey.exists_last (k : ObjectKey) :
    ∃ front name, k.segments = front ++ [name] ∧ Plain name ∧ ∀ s ∈ front, Plain s := by
  have hne : k.segments ≠ [] := segments_ne_nil '/' k.text
  have hlast := List.dropLast_append_getLast hne
  refine ⟨k.segments.dropLast, k.segments.getLast hne, hlast.symm, ?_, ?_⟩
  · exact segments_plain_of_key k _ (List.getLast_mem hne)
  · exact fun s hs => segments_plain_of_key k s (List.mem_of_mem_dropLast hs)

/-- a name with `.json` behind it is one component -/
theorem json_plain {name : String} (h : Plain name) : Plain (name ++ ".json") :=
  h.append (by decide) (by decide)

theorem components_metadataPath (root : String) (k : ObjectKey) {front : List String} {name : String}
    (h : k.segments = front ++ [name]) :
    components (metadataPath root k)
      = components root ++ ("metadata" :: (front ++ [name ++ ".json"])).map .normal := by
  have hplain : ∀ s ∈ front ++ [name], Plain s := fun s hs => segments_plain_of_key k s (h ▸ hs)
  have hname : Plain name := hplain name (List.mem_append_right _ List.mem_cons_self)
  have hall : ∀ s ∈ front ++ [name ++ ".json"], Plain s := by
    intro s hs
    rcases List.mem_append.mp hs with hs | hs
    · exact hplain s (List.mem_append_left _ hs)
    · rw [List.mem_singleton.mp hs]
      exact json_plain hname
  unfold metadataPath
  rw [h, below_append_text _ front hname, components_below _ hall, components_joinPath root metadata_plain,
    List.append_assoc]
  rfl

/-- **The files of an object are below the root of the store.** -/
theorem objectPath_inside (root : String) (k : ObjectKey) : Inside root (objectPath root k) :=
  ⟨_, List.cons_ne_nil _ _, components_objectPath root k⟩

theorem metadataPath_inside (root : String) (k : ObjectKey) : Inside root (metadataPath root k) := by
  obtain ⟨front, name, h, -, -⟩ := k.exists_last
  exact ⟨_, List.cons_ne_nil _ _, components_metadataPath root k h⟩

theorem objectPath_injective {root : String} {k k' : ObjectKey}
    (h : components (objectPath root k) = components (objectPath root k')) : k = k' := by
  rw [components_objectPath, components_objectPath] at h
  have hnames := append_names_inj h
  exact segments_injective (List.cons.inj hnames).2

theorem metadataPath_injective {root : String} {k k' : ObjectKey}
    (h : components (metadataPath root k) = components (metadataPath root k')) : k = k' := by
  obtain ⟨front, name, hk, -, -⟩ := k.exists_last
  obtain ⟨front', name', hk', -, -⟩ := k'.exists_last
  rw [components_metadataPath root k hk, components_metadataPath root k' hk'] at h
  have hnames := append_names_inj h
  obtain ⟨hfront, hlast⟩ := List.append_inj' (List.cons.inj hnames).2 rfl
  have hname : name = name' := by
    have htext := congrArg String.toList (List.cons.inj hlast).1
    rw [String.toList_append, String.toList_append] at htext
    exact String.toList_injective (List.append_cancel_right htext)
  refine segments_injective ?_
  rw [hk, hk', hfront, hname]

theorem objectPath_ne_metadataPath (root : String) (k k' : ObjectKey) :
    components (objectPath root k) ≠ components (metadataPath root k') := by
  obtain ⟨front, name, hk', -, -⟩ := k'.exists_last
  rw [components_objectPath, components_metadataPath root k' hk']
  intro h
  have hnames := append_names_inj h
  exact absurd (List.cons.inj hnames).1 (by decide)

end Proofplane
