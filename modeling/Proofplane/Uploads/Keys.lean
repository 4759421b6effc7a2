import Proofplane.Domain.Filename
import Proofplane.ObjectStorage.Paths

/-!
# The keys that the services build

Every key that an upload, the worker or a download builds has seven segments, the last of them the name of
the document.

* `ServiceKey`                    such a key, `segments_stagedObjectKey`;
* `stagedObjectKey_some`          a valid name always gives a key;
* `object_keys_canonical`         **keys are canonical, and their files apart and below the root**;
* `namesFit_iff`                  the names of both files fit exactly when the document's name leaves room for
                              `.json`.
-/

namespace Proofplane
open Base

/-! ## Segments -/

def DocumentOwner.directory : DocumentOwner → String
  | .evidenceSubmission _ => "evidence-submissions"
  | .policy _ => "policies"

def DocumentOwner.uuid : DocumentOwner → Uuid
  | .evidenceSubmission id => id.uuid
  | .policy id => id.uuid

theorem DocumentOwner.directory_plain (owner : DocumentOwner) : Plain owner.directory := by
  have hevidence : Plain "evidence-submissions" := ⟨by decide, by decide, by decide, by decide⟩
  have hpolicies : Plain "policies" := ⟨by decide, by decide, by decide, by decide⟩
  cases owner with
  | evidenceSubmission id => exact hevidence
  | policy id => exact hpolicies

theorem documents_plain : Plain "documents" := ⟨by decide, by decide, by decide, by decide⟩

theorem stagedPrefix_segments (owner : DocumentOwner) (uploadId : Uuid) :
    segments '/' (stagedPrefix owner uploadId)
      = [owner.directory, owner.uuid.text, "documents", uploadId.text] := by
  refine (segments_eq_iff (List.cons_ne_nil _ _)).mpr ⟨?_, ?_⟩
  · rw [joinSegments_cons, joinSegments_cons, joinSegments_cons, joinSegments_singleton]
    have hdocuments : "/documents/" = "/" ++ ("documents" ++ "/") := rfl
    cases owner with
    | evidenceSubmission id =>
      have hkind : "evidence-submissions/" = "evidence-submissions" ++ "/" := rfl
      show "evidence-submissions/" ++ id.uuid.text ++ "/documents/" ++ uploadId.text = _
      rw [hkind, hdocuments]
      simp only [String.append_assoc]
      rfl
    | policy id =>
      have hkind : "policies/" = "policies" ++ "/" := rfl
      show "policies/" ++ id.uuid.text ++ "/documents/" ++ uploadId.text = _
      rw [hkind, hdocuments]
      simp only [String.append_assoc]
      rfl
  · intro part hpart
    simp only [List.mem_cons, List.not_mem_nil, or_false] at hpart
    rcases hpart with rfl | rfl | rfl | rfl
    · exact owner.directory_plain.noSlash
    · exact (uuidText_plain _).noSlash
    · exact documents_plain.noSlash
    · exact (uuidText_plain _).noSlash

theorem stagedPrefix_canonical (owner : DocumentOwner) (uploadId : Uuid) :
    isCanonicalRelativePath (stagedPrefix owner uploadId) = true := by
  refine isCanonicalRelativePath_iff.mpr ?_
  rw [stagedPrefix_segments]
  intro part hpart
  simp only [List.mem_cons, List.not_mem_nil, or_false] at hpart
  rcases hpart with rfl | rfl | rfl | rfl
  · cases owner with
    | evidenceSubmission id => exact (by decide : canonicalSegment "evidence-submissions" = true)
    | policy id => exact (by decide : canonicalSegment "policies" = true)
  · exact uuidText_canonical _
  · decide
  · exact uuidText_canonical _

section
variable {workspaceId workspaceId' : WorkspaceId} {owner owner' : DocumentOwner} {uploadId uploadId' : Uuid}
  {filename filename' key : String}

theorem DocumentFilename.canonical (h : DocumentFilename filename) :
    isCanonicalRelativePath filename = true := by
  refine isCanonicalRelativePath_iff.mpr ?_
  rw [segments_plain h.plain]
  intro part hpart
  rw [List.mem_singleton.mp hpart]
  exact canonicalSegment_iff.mpr ⟨h.ne_empty, h.notDot, h.notDotdot, h.notMem (by decide),
    h.notMem (by decide)⟩

theorem segments_stagedObjectKey (hname : DocumentFilename filename)
    (h : stagedObjectKey workspaceId owner uploadId filename = some key) :
    segments '/' key = ["workspaces", workspaceId.uuid.text, owner.directory, owner.uuid.text, "documents",
      uploadId.text, filename] := by
  unfold stagedObjectKey at h
  rw [objectKeyText_eq_new] at h
  obtain ⟨hsegments, -⟩ := ObjectKey.new_ok h
  rw [hsegments, stagedPrefix_segments, segments_plain hname.plain]
  rfl

/-- **A valid name gives a key that is accepted.** -/
theorem stagedObjectKey_some (workspaceId : WorkspaceId) (owner : DocumentOwner) (uploadId : Uuid)
    (hname : DocumentFilename filename) :
    ∃ k : ObjectKey, stagedObjectKey workspaceId owner uploadId filename = some k.text := by
  have hsome : stagedObjectKey workspaceId owner uploadId filename = some _ :=
    if_pos ⟨stagedPrefix_canonical owner uploadId, hname.canonical⟩
  have hnew := hsome
  unfold stagedObjectKey at hnew
  rw [objectKeyText_eq_new] at hnew
  obtain ⟨k, -, hk⟩ := ObjectKey.parse_new hnew
  exact ⟨k, hk ▸ hsome⟩

theorem DocumentOwner.ext (hdirectory : owner.directory = owner'.directory)
    (huuid : owner.uuid = owner'.uuid) : owner = owner' := by
  have hne : "evidence-submissions" ≠ "policies" := by decide
  cases owner with
  | evidenceSubmission id =>
    cases owner' with
    | evidenceSubmission id' => exact congrArg _ (Id.ext huuid)
    | policy id' => exact absurd hdirectory hne
  | policy id =>
    cases owner' with
    | evidenceSubmission id' => exact absurd hdirectory hne.symm
    | policy id' => exact congrArg _ (Id.ext huuid)

/-- **A key says of which workspace, owner and upload it is, and under which name.** -/
theorem stagedObjectKey_all (hname : DocumentFilename filename) (hname' : DocumentFilename filename')
    (h : stagedObjectKey workspaceId owner uploadId filename = some key)
    (h' : stagedObjectKey workspaceId' owner' uploadId' filename' = some key) :
    workspaceId = workspaceId' ∧ owner = owner' ∧ uploadId = uploadId' ∧ filename = filename' := by
  have hsegments := segments_stagedObjectKey hname h
  rw [segments_stagedObjectKey hname' h'] at hsegments
  simp only [List.cons.injEq, and_true, true_and] at hsegments
  obtain ⟨hworkspace, hdirectory, howner, hupload, hfilename⟩ := hsegments
  exact ⟨Id.ext (Uuid.text_injective hworkspace).symm,
    DocumentOwner.ext hdirectory.symm (Uuid.text_injective howner).symm,
    (Uuid.text_injective hupload).symm, hfilename.symm⟩

end

/-- a key of the shape that the services build, of an upload or of a document -/
def ServiceKey (k : ObjectKey) : Prop :=
  ∃ workspaceId owner uploadId filename, DocumentFilename filename ∧
    stagedObjectKey workspaceId owner uploadId filename = some k.text

theorem ServiceKey.segments {k : ObjectKey} (h : ServiceKey k) : k.segments.length = 7 := by
  obtain ⟨workspaceId, owner, uploadId, filename, hname, hkey⟩ := h
  have hsegments : k.segments = _ := segments_stagedObjectKey hname hkey
  rw [hsegments]
  rfl

/-- the files of an object -/
def objectFiles (root : String) (k : ObjectKey) : List String := [objectPath root k, metadataPath root k]

theorem ServiceKey.depth {k : ObjectKey} (h : ServiceKey k) (root : String) :
    ∀ path ∈ objectFiles root k, (components path).length = (components root).length + 8 := by
  intro path hpath
  rcases List.mem_cons.mp hpath with rfl | hpath
  · rw [components_objectPath, List.length_append, List.length_map, List.length_cons, h.segments]
  · rw [List.mem_singleton.mp hpath]
    obtain ⟨front, name, hk, -, -⟩ := k.exists_last
    have hlength := h.segments
    rw [hk, List.length_append] at hlength
    rw [components_metadataPath root k hk, List.length_append, List.length_map, List.length_cons,
      List.length_append]
    exact congrArg (fun n => (components root).length + (n + 1)) hlength

theorem ServiceKey.not_ancestor {root : String} {k k' : ObjectKey} (h : ServiceKey k) (h' : ServiceKey k') :
    ∀ path ∈ objectFiles root k, ∀ path' ∈ objectFiles root k', ¬ Ancestor path path' := by
  intro path hpath path' hpath' hancestor
  have hlength := hancestor.length
  rw [h.depth root path hpath, h'.depth root path' hpath'] at hlength
  exact Nat.lt_irrefl _ hlength

/-! ## Workspaces -/

theorem hasSameWorkspace_iff {key key' : String} :
    hasSameWorkspace key key' = true ↔ (segments '/' key)[1]? = (segments '/' key')[1]? := decide_eq_true_iff

theorem new_workspace {workspaceId : WorkspaceId} {stablePrefix objectName key : String}
    (h : ObjectKey.new workspaceId stablePrefix objectName = some key) :
    (segments '/' key)[1]? = some workspaceId.uuid.text := by
  rw [(ObjectKey.new_ok h).1]
  rfl

theorem stagedObjectKey_workspace {workspaceId : WorkspaceId} {owner : DocumentOwner} {uploadId : Uuid}
    {filename key : String} (h : stagedObjectKey workspaceId owner uploadId filename = some key) :
    (segments '/' key)[1]? = some workspaceId.uuid.text := by
  unfold stagedObjectKey at h
  rw [objectKeyText_eq_new] at h
  exact new_workspace h

/-- **Keys are canonical, their files below the root and apart, and the workspace of a key is in its
text.** -/
theorem object_keys_canonical :
    (∀ workspaceId stablePrefix objectName key, ObjectKey.new workspaceId stablePrefix objectName = some key →
      ∃ k, ObjectKey.parse key = some k ∧ k.text = key) ∧
    (∀ value k, ObjectKey.parse value = some k →
      4 ≤ (segments '/' value).length ∧ (segments '/' value).head? = some "workspaces" ∧
      (((segments '/' value)[1]?).bind Uuid.parseStr).isSome = true ∧
      ∀ s ∈ segments '/' value, s ≠ "" ∧ s ≠ "." ∧ s ≠ ".." ∧ '/' ∉ s.toList ∧ '\\' ∉ s.toList) ∧
    (∀ root k k', Inside root (objectPath root k) ∧ Inside root (metadataPath root k) ∧
      (components (objectPath root k) = components (objectPath root k') → k = k') ∧
      (components (metadataPath root k) = components (metadataPath root k') → k = k') ∧
      components (objectPath root k) ≠ components (metadataPath root k')) ∧
    (∀ k k' : ObjectKey, hasSameWorkspace k.text k'.text = true →
      ∃ workspace, k.workspace = some workspace ∧ k'.workspace = some workspace) ∧
    (∀ workspaceId workspaceId' stablePrefix stablePrefix' objectName objectName' key key',
      ObjectKey.new workspaceId stablePrefix objectName = some key →
      ObjectKey.new workspaceId' stablePrefix' objectName' = some key' →
      (hasSameWorkspace key key' = true ↔ workspaceId = workspaceId')) ∧
    (∀ root k k', ServiceKey k → ServiceKey k' →
      ∀ path ∈ objectFiles root k, ∀ path' ∈ objectFiles root k', ¬ Ancestor path path') := by
  refine ⟨fun _ _ _ _ => ObjectKey.parse_new, ?_, ?_, ?_, ?_, fun _ _ _ h h' => h.not_ancestor h'⟩
  · intro value k h
    rw [← ObjectKey.text_of_parse h]
    obtain ⟨-, hlength, hhead, huuid⟩ := validObjectKey_iff.mp k.valid
    refine ⟨hlength, hhead, huuid, ?_⟩
    intro s hs
    obtain ⟨hplain, hback, -⟩ := segment_of_key k hs
    exact ⟨hplain.ne_empty, hplain.ne_dot, hplain.ne_dotdot, hplain.noSlash, hback⟩
  · exact fun root k k' => ⟨objectPath_inside root k, metadataPath_inside root k, objectPath_injective,
      metadataPath_injective, objectPath_ne_metadataPath root k k'⟩
  · intro k k' h
    obtain ⟨-, -, -, huuid⟩ := validObjectKey_iff.mp k.valid
    obtain ⟨workspace, hworkspace⟩ := Option.isSome_iff_exists.mp huuid
    refine ⟨workspace, hworkspace, ?_⟩
    show ((segments '/' k'.text)[1]?).bind Uuid.parseStr = some workspace
    rw [← hasSameWorkspace_iff.mp h]
    exact hworkspace
  · intro workspaceId workspaceId' _ _ _ _ key key' h h'
    rw [hasSameWorkspace_iff, new_workspace h, new_workspace h', Option.some.injEq]
    constructor
    · exact fun htext => Id.ext (Uuid.text_injective htext)
    · rintro rfl
      rfl

theorem object_keys_canonical_report :
    ∃ k : ObjectKey, ObjectKey.new ⟨1⟩ (stagedPrefix (.policy ⟨7⟩) 11) "report.pdf" = some k.text ∧
      (∃ k', ObjectKey.parse k.text = some k' ∧ k'.text = k.text) ∧ 4 ≤ (segments '/' k.text).length ∧
      (∃ workspace, k.workspace = some workspace ∧ k.workspace = some workspace) ∧
      (hasSameWorkspace k.text k.text = true ↔ (⟨1⟩ : WorkspaceId) = ⟨1⟩) ∧
      ¬ Ancestor (objectPath "/var/objects" k) (metadataPath "/var/objects" k) := by
  have hname : DocumentFilename "report.pdf" := documentFilename_iff.mp (by decide)
  obtain ⟨k, hkey⟩ := stagedObjectKey_some ⟨1⟩ (.policy ⟨7⟩) 11 hname
  have hnew : ObjectKey.new ⟨1⟩ (stagedPrefix (.policy ⟨7⟩) 11) "report.pdf" = some k.text :=
    (objectKeyText_eq_new _ _ _).symm.trans hkey
  have hservice : ServiceKey k := ⟨_, _, _, _, hname, hkey⟩
  obtain ⟨hparses, hsegments, -, hworkspace, hsame, hancestor⟩ := object_keys_canonical
  exact ⟨k, hnew, hparses _ _ _ _ hnew, (hsegments _ k (ObjectKey.parse_text k)).1,
    hworkspace k k (hasSameWorkspace_iff.mpr rfl), hsame _ _ _ _ _ _ _ _ hnew hnew,
    hancestor "/var/objects" k k hservice hservice _ List.mem_cons_self _
      (List.mem_cons_of_mem _ List.mem_cons_self)⟩

/-! ## The limit of the file system -/

/-- the longest name that a file system takes, in bytes -/
def nameMax : Nat := 255

/-- every name on the way to either file of the object fits -/
def NamesFit (root : String) (k : ObjectKey) : Prop :=
  ∀ path ∈ objectFiles root k, ∀ c ∈ components path, c.fits nameMax = true

theorem utf8ByteSize_ofList_le (l : List Char) : (String.ofList l).utf8ByteSize ≤ 4 * l.length := by
  induction l with
  | nil => decide
  | cons c l ih =>
    have happend : String.ofList (c :: l) = String.singleton c ++ String.ofList l := by
      rw [← String.toList_inj]
      simp
    have hc := Char.utf8Size_le_four c
    rw [happend, String.utf8ByteSize_append, String.utf8ByteSize_singleton, List.length_cons]
    omega

theorem uuidText_fits (u : Uuid) : u.text.utf8ByteSize ≤ nameMax := by
  have hle := utf8ByteSize_ofList_le u.text.toList
  rw [String.ofList_toList, length_text] at hle
  exact le_trans hle (by decide)

/-- **The names of both files of a document fit exactly when the document's name leaves room for
`.json`.** -/
theorem namesFit_iff {root : String} (hroot : ∀ c ∈ components root, c.fits nameMax = true)
    {workspaceId : WorkspaceId} {owner : DocumentOwner} {uploadId : Uuid} {filename : String}
    (hname : DocumentFilename filename) {k : ObjectKey}
    (hkey : stagedObjectKey workspaceId owner uploadId filename = some k.text) :
    NamesFit root k ↔ filename.utf8ByteSize ≤ 250 := by
  have hsegments : k.segments = ["workspaces", workspaceId.uuid.text, owner.directory, owner.uuid.text,
      "documents", uploadId.text] ++ [filename] := segments_stagedObjectKey hname hkey
  have hjson : (filename ++ ".json").utf8ByteSize = filename.utf8ByteSize + 5 := by
    rw [String.utf8ByteSize_append]
    rfl
  constructor
  · intro hfit
    have hmem : Component.normal (filename ++ ".json") ∈ components (metadataPath root k) := by
      rw [components_metadataPath root k hsegments]
      simp
    have hlast := hfit _ (List.mem_cons_of_mem _ List.mem_cons_self) _ hmem
    have hle : (filename ++ ".json").utf8ByteSize ≤ 255 := of_decide_eq_true hlast
    omega
  · intro hle
    have hdirectory : owner.directory.utf8ByteSize ≤ nameMax := by
      cases owner with
      | evidenceSubmission id => exact (by decide : "evidence-submissions".utf8ByteSize ≤ nameMax)
      | policy id => exact (by decide : "policies".utf8ByteSize ≤ nameMax)
    have hfront : ∀ s ∈ ["workspaces", workspaceId.uuid.text, owner.directory, owner.uuid.text, "documents",
        uploadId.text], s.utf8ByteSize ≤ nameMax := by
      intro s hs
      simp only [List.mem_cons, List.not_mem_nil, or_false] at hs
      rcases hs with rfl | rfl | rfl | rfl | rfl | rfl
      · decide
      · exact uuidText_fits _
      · exact hdirectory
      · exact uuidText_fits _
      · decide
      · exact uuidText_fits _
    -- below the root, every name is one of these, or one of the two that the filename makes
    have hnames : ∀ (directory last : String), directory.utf8ByteSize ≤ nameMax →
        last.utf8ByteSize ≤ nameMax → ∀ c ∈ components root ++
          (directory :: (["workspaces", workspaceId.uuid.text, owner.directory, owner.uuid.text, "documents",
            uploadId.text] ++ [last])).map Component.normal, c.fits nameMax = true := by
      intro directory last hdir hlast c hc
      rcases List.mem_append.mp hc with hc | hc
      · exact hroot c hc
      · obtain ⟨name, hmem, rfl⟩ := List.mem_map.mp hc
        show decide (name.utf8ByteSize ≤ nameMax) = true
        rw [decide_eq_true_eq]
        rcases List.mem_cons.mp hmem with rfl | hmem
        · exact hdir
        · rcases List.mem_append.mp hmem with hmem | hmem
          · exact hfront name hmem
          · rw [List.mem_singleton.mp hmem]
            exact hlast
    intro path hpath
    rcases List.mem_cons.mp hpath with rfl | hpath
    · rw [components_objectPath, hsegments]
      exact hnames "objects" filename (by decide) hname.short
    · rw [List.mem_singleton.mp hpath, components_metadataPath root k hsegments]
      refine hnames "metadata" (filename ++ ".json") (by decide) ?_
      rw [hjson]
      show filename.utf8ByteSize + 5 ≤ 255
      omega

end Proofplane
