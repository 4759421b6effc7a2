import Proofplane.Base.Files
import Proofplane.Base.Machine
import Proofplane.ObjectStorage.Key

/-!
# The object store on a file system

An object is two files under its key: its bytes, and the description of them.  A description is written
after the bytes and read before them.

* `FilesystemObjectStore`   the two directories of a store;
* `headObject`, `openObject`   the two reads of `get_object`;
* `truncateObject`, `writeChunk`, `truncateMetadata`, `writeMetadata`   the writes of `put_object`, one
  by one;
* `removeObject`, `removeMetadata`   the two removals of `delete_object`;
* `Elsewhere`               **none of them touches another key**;
* `Deleted`                 a file of an object is gone.

SHA-256 is a parameter: the digest of a stream is the digest of all its bytes.
-/

namespace Proofplane
open Base

structure ObjectMetadata where
  key : String
  contentType : String
  contentLength : Nat
  sha256 : String
  deriving DecidableEq, Repr

/-- the files of a store; a description that was cut short is `none`, it does not parse -/
structure FilesystemObjectStore where
  objects : Files String (List UInt8)
  metadata : Files String (Option ObjectMetadata)

/-- keys of one workspace: their second segments agree -/
def hasSameWorkspace (key key' : String) : Bool :=
  decide ((pathSegments key)[1]? = (pathSegments key')[1]?)

/-- the most that one read of an object returns -/
def objectChunkSize : Nat := 65536

namespace FilesystemObjectStore

def empty : FilesystemObjectStore := ⟨.empty [], .empty none⟩

/-! ## Reads -/

def headObject (s : FilesystemObjectStore) (key : String) : Option ObjectMetadata :=
  (s.metadata.get key).join

def openObject (s : FilesystemObjectStore) (key : String) : Option Nat := s.objects.entries key

/-- one read of an opened object: up to `size` bytes behind the offset -/
def readChunk (s : FilesystemObjectStore) (file offset size : Nat) : List UInt8 :=
  ((s.objects.nodes file).drop offset).take size

/-! ## Writes -/

def truncateObject (s : FilesystemObjectStore) (key : String) : FilesystemObjectStore :=
  { s with objects := s.objects.create key [] }

def writeChunk (s : FilesystemObjectStore) (file offset : Nat) (chunk : List UInt8) :
    FilesystemObjectStore :=
  { s with objects := s.objects.write file (overwrite 0 (s.objects.nodes file) offset chunk) }

def truncateMetadata (s : FilesystemObjectStore) (key : String) : FilesystemObjectStore :=
  { s with metadata := s.metadata.create key none }

/-- the whole text of a description, or a part that does not parse -/
def writeMetadata (s : FilesystemObjectStore) (file : Nat) (text : Option ObjectMetadata) :
    FilesystemObjectStore :=
  { s with metadata := s.metadata.write file text }

def removeObject (s : FilesystemObjectStore) (key : String) : FilesystemObjectStore :=
  { s with objects := s.objects.remove key }

def removeMetadata (s : FilesystemObjectStore) (key : String) : FilesystemObjectStore :=
  { s with metadata := s.metadata.remove key }

/-! ## Other keys -/

/-- a file of the object under this key is gone -/
def Deleted (s s' : FilesystemObjectStore) (key : String) : Prop :=
  s.objects.get key ≠ none ∧ s'.objects.get key = none ∨
    s.metadata.get key ≠ none ∧ s'.metadata.get key = none

/-- nothing but the object under this key has changed -/
structure Elsewhere (s s' : FilesystemObjectStore) (key : String) : Prop where
  objects : s.objects.SameElsewhere s'.objects key
  metadata : s.metadata.SameElsewhere s'.metadata key

variable {s : FilesystemObjectStore}

theorem Elsewhere.refl (s : FilesystemObjectStore) (key : String) : Elsewhere s s key :=
  ⟨.refl _ _, .refl _ _⟩

theorem Elsewhere.trans {s' s'' : FilesystemObjectStore} {key : String} (h : Elsewhere s s' key)
    (h' : Elsewhere s' s'' key) : Elsewhere s s'' key :=
  ⟨h.objects.trans h'.objects, h.metadata.trans h'.metadata⟩

/-- what has not changed is not gone -/
theorem Elsewhere.eq_of_deleted {s' : FilesystemObjectStore} {key key' : String}
    (h : Elsewhere s s' key) (hd : Deleted s s' key') : key' = key := by
  by_contra hne
  rcases hd with ⟨hin, hout⟩ | ⟨hin, hout⟩
  · exact hin ((h.objects.get hne).symm.trans hout)
  · exact hin ((h.metadata.get hne).symm.trans hout)

theorem not_deleted (s : FilesystemObjectStore) (key : String) : ¬ Deleted s s key := by
  rintro (⟨hin, hout⟩ | ⟨hin, hout⟩)
  · exact hin hout
  · exact hin hout

theorem elsewhere_truncateObject (key : String) : Elsewhere s (s.truncateObject key) key :=
  ⟨Files.sameElsewhere_create _ _ _, .refl _ _⟩

theorem elsewhere_writeChunk {key : String} {file : Nat} (h : s.objects.entries key = some file)
    (offset : Nat) (chunk : List UInt8) : Elsewhere s (s.writeChunk file offset chunk) key :=
  ⟨Files.sameElsewhere_write h _, .refl _ _⟩

theorem elsewhere_truncateMetadata (key : String) : Elsewhere s (s.truncateMetadata key) key :=
  ⟨.refl _ _, Files.sameElsewhere_create _ _ _⟩

theorem elsewhere_writeMetadata {key : String} {file : Nat} (h : s.metadata.entries key = some file)
    (text : Option ObjectMetadata) : Elsewhere s (s.writeMetadata file text) key :=
  ⟨.refl _ _, Files.sameElsewhere_write h _⟩

theorem elsewhere_removeObject (key : String) : Elsewhere s (s.removeObject key) key :=
  ⟨Files.sameElsewhere_remove _ _, .refl _ _⟩

theorem elsewhere_removeMetadata (key : String) : Elsewhere s (s.removeMetadata key) key :=
  ⟨.refl _ _, Files.sameElsewhere_remove _ _⟩

end FilesystemObjectStore

end Proofplane
