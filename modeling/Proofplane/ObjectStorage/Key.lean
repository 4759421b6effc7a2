import Proofplane.Domain.Ids

/-!
# Object keys

The key of a stored object: `workspaces/{workspace id}/{prefix}/{name}`, a canonical relative path
of at least four segments.  An `ObjectKey` carries the proof that its text was accepted, so no other
text can stand where a key is expected.
-/

namespace Proofplane
open Base

/-- the segments of a path -/
def pathSegments (value : String) : List String :=
  (value.toList.splitOn '/').map String.ofList

/-- a segment that is neither empty nor a dot path and has no backslash and no NUL -/
def canonicalSegment (segment : String) : Bool :=
  segment ≠ "" && segment ≠ "." && segment ≠ ".." &&
    !segment.toList.any fun c => c = '\\' || c = Char.ofNat 0

def isCanonicalRelativePath (value : String) : Bool :=
  value ≠ "" && value.toList.head? ≠ some '/' && value.toList.getLast? ≠ some '/' &&
    (pathSegments value).all canonicalSegment

/-- the segments of a canonical path -/
def validatedPath (value : String) : Option (List String) :=
  if isCanonicalRelativePath value then some (pathSegments value) else none

/-- what `ObjectKey::parse` accepts -/
def validObjectKey (value : String) : Bool :=
  match validatedPath value with
  | none => false
  | some segments =>
    decide (4 ≤ segments.length) && segments.head? = some "workspaces" &&
      ((segments[1]?).bind Uuid.parseStr).isSome

/-- the text of a key, with the proof that it is one -/
structure ObjectKey where
  text : String
  valid : validObjectKey text = true
  deriving DecidableEq

namespace ObjectKey

def parse (value : String) : Option ObjectKey :=
  if h : validObjectKey value = true then some ⟨value, h⟩ else none

theorem parse_text (k : ObjectKey) : parse k.text = some k := by
  unfold parse
  rw [dif_pos k.valid]

theorem text_of_parse {value : String} {k : ObjectKey} (h : parse value = some k) :
    k.text = value := by
  unfold parse at h
  split at h
  · cases h
    rfl
  · cases h

end ObjectKey

/-- the key of a document of evidence submission 7 in workspace 1 -/
def sampleEvidenceKey : ObjectKey :=
  ⟨"workspaces/00000000-0000-0000-0000-000000000001/evidence-submissions/00000000-0000-0000-0000-000000000007/documents/00000000-0000-0000-0000-00000000000b/a.pdf",
    by decide +kernel⟩

end Proofplane
