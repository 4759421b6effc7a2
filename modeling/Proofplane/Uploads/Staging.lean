import Proofplane.Domain.Document
import Proofplane.ObjectStorage.Key

/-!
# Staged objects

An upload is first stored in quarantine, under a key that ends in a random upload id and the name of
the file; only then is a document created for it.

* `objectKeyText`           the text of `ObjectKey::new`;
* `stagedObjectKey`         the key of a staged upload;
* `stagedObjectKey_inj`     **two uploads with different upload ids never share a key**.
-/

namespace Proofplane
open Base

/-- `workspaces/{workspace}/{prefix}/{name}`, refused unless prefix and name are canonical paths (whose
segments, joined again, are the path) -/
def objectKeyText (workspaceId : WorkspaceId) (stablePrefix objectName : String) : Option String :=
  if isCanonicalRelativePath stablePrefix ∧ isCanonicalRelativePath objectName then
    some ("workspaces/" ++ workspaceId.uuid.text ++ "/" ++ stablePrefix ++ "/" ++ objectName)
  else none

def stagedPrefix (owner : DocumentOwner) (uploadId : Uuid) : String :=
  match owner with
  | .evidenceSubmission id => "evidence-submissions/" ++ id.uuid.text ++ "/documents/" ++ uploadId.text
  | .policy id => "policies/" ++ id.uuid.text ++ "/documents/" ++ uploadId.text

def stagedObjectKey (workspaceId : WorkspaceId) (owner : DocumentOwner) (uploadId : Uuid)
    (filename : String) : Option String :=
  objectKeyText workspaceId (stagedPrefix owner uploadId) filename

/-- what staging an upload reports -/
structure StagedDocument where
  filename : String
  contentType : String
  contentLength : Int
  objectKey : String
  checksumSha256 : String
  checksumCrc32c : String
  deriving DecidableEq, Repr

def StagedDocument.payload (s : StagedDocument) (owner : DocumentOwner) : CreateDocumentPayload where
  owner := owner
  filename := s.filename
  contentType := s.contentType
  contentLength := s.contentLength
  objectKey := s.objectKey
  checksumSha256 := s.checksumSha256
  checksumCrc32c := s.checksumCrc32c

/-! ## Keys of different uploads -/

theorem objectKeyText_eq {workspaceId : WorkspaceId} {stablePrefix objectName key : String}
    (h : objectKeyText workspaceId stablePrefix objectName = some key) :
    key.toList = "workspaces/".toList ++ (workspaceId.uuid.text.toList ++
      ("/".toList ++ (stablePrefix.toList ++ ("/".toList ++ objectName.toList)))) := by
  unfold objectKeyText at h
  split at h
  · cases h
    simp only [String.toList_append, List.append_assoc]
  · cases h

theorem length_text (u : Uuid) : u.text.toList.length = 36 := by
  have htext : u.text.toList
      = Uuid.hyphenate Uuid.groups ((Uuid.nibbles 32 u.toNat).map Uuid.hexDigit) :=
    String.toList_ofList
  rw [htext]
  apply Uuid.length_hyphenate_groups
  rw [List.length_map, Uuid.length_nibbles]

theorem toList_append4 (a b c d : String) :
    (a ++ b ++ c ++ d).toList = a.toList ++ (b.toList ++ (c.toList ++ d.toList)) := by
  rw [String.toList_append, String.toList_append, String.toList_append, List.append_assoc,
    List.append_assoc]

/-- the part of a staged prefix behind the kind of its owner -/
theorem stagedPrefix_eq (owner : DocumentOwner) (uploadId : Uuid) :
    ∃ (kind : String) (id : Uuid),
      (stagedPrefix owner uploadId).toList
        = kind.toList ++ (id.text.toList ++ ("/documents/".toList ++ uploadId.text.toList)) ∧
      (kind = "evidence-submissions/" ∨ kind = "policies/") := by
  cases owner with
  | evidenceSubmission id =>
    exact ⟨"evidence-submissions/", id.uuid, toList_append4 _ _ _ _, .inl rfl⟩
  | policy id => exact ⟨"policies/", id.uuid, toList_append4 _ _ _ _, .inr rfl⟩

/-- the two kinds of owners differ in their first letter -/
theorem kind_eq {kind kind' : String} {l l' : List Char}
    (h : kind = "evidence-submissions/" ∨ kind = "policies/")
    (h' : kind' = "evidence-submissions/" ∨ kind' = "policies/")
    (heq : kind.toList ++ l = kind'.toList ++ l') : kind = kind' := by
  have hhead := congrArg List.head? heq
  rcases h with rfl | rfl
  · rcases h' with rfl | rfl
    · rfl
    · simp at hhead
  · rcases h' with rfl | rfl
    · simp at hhead
    · rfl

/-- **Two uploads with different upload ids never share a key.** -/
theorem stagedObjectKey_inj {workspaceId workspaceId' : WorkspaceId} {owner owner' : DocumentOwner}
    {uploadId uploadId' : Uuid} {filename filename' key : String}
    (h : stagedObjectKey workspaceId owner uploadId filename = some key)
    (h' : stagedObjectKey workspaceId' owner' uploadId' filename' = some key) :
    uploadId = uploadId' := by
  have hkey := objectKeyText_eq h
  rw [objectKeyText_eq h'] at hkey
  obtain ⟨kind, id, hbegins, hkind⟩ := stagedPrefix_eq owner uploadId
  obtain ⟨kind', id', hbegins', hkind'⟩ := stagedPrefix_eq owner' uploadId'
  have hws := List.append_cancel_left hkey
  obtain ⟨-, hrest⟩ := List.append_inj hws (by rw [length_text, length_text])
  have htail := List.append_cancel_left hrest
  rw [hbegins, hbegins'] at htail
  simp only [List.append_assoc] at htail
  have hkinds := kind_eq hkind' hkind htail
  subst hkinds
  have hids := List.append_cancel_left htail
  obtain ⟨-, hdocs⟩ := List.append_inj hids (by rw [length_text, length_text])
  have hups := List.append_cancel_left hdocs
  obtain ⟨hup, -⟩ := List.append_inj hups (by rw [length_text, length_text])
  exact (Uuid.text_injective (String.toList_injective hup)).symm

end Proofplane
