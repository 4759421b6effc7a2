import Proofplane.ObjectStorage.Filesystem

/-!
# The operations of an object store

Each operation from its start to its end, over any number of stores, while every single operation on a
file succeeds.  The files of an object are named by its key: the keys that the services build are
canonical paths of the same number of segments, so no file of one lies in the way of another's.

* `ObjectByteStream`        a stream of chunks, which may fail, or the rest of an opened file, which is
                            read as the copy goes on;
* `writeObjectStream`, `putObject`, `getObject`, `streamCopyObject`, `deleteObject`   the operations;
* `writeObjectStream_writes`   **what the loop leaves behind**;
* `writeObjectStream_ends`     **and that it ends**.
-/

set_option linter.unusedSectionVars false

namespace Proofplane
open Base

inductive StorageError
  | invalidKey | notFound | metadataPersistence
  | streamRead (message : String) (payloadTooLarge : Bool)
  | integrity
  deriving DecidableEq, Repr

/-- the stores of a deployment, by name -/
abbrev ObjectStores (ι : Type) := ι → FilesystemObjectStore

/-- a stream of chunks, or the rest of an opened file -/
inductive ObjectByteStream (ι : Type)
  | items (chunks : List (Except StorageError (List UInt8)))
  | file (store : ι) (node offset : Nat)

namespace FilesystemObjectStore

def headResult (s : FilesystemObjectStore) (key : String) : Except StorageError ObjectMetadata :=
  match s.metadata.get key with
  | none => .error .notFound
  | some none => .error .metadataPersistence
  | some (some metadata) => .ok metadata

/-- the description of the object, and its opened file -/
def getObject (s : FilesystemObjectStore) (key : String) :
    Except StorageError (ObjectMetadata × Nat) :=
  match s.headResult key with
  | .error e => .error e
  | .ok metadata =>
    match s.openObject key with
    | none => .error .notFound
    | some node => .ok (metadata, node)

/-- `fs::write` of a whole description -/
def describe (s : FilesystemObjectStore) (metadata : ObjectMetadata) : FilesystemObjectStore :=
  (s.truncateMetadata metadata.key).writeMetadata (s.metadata.created metadata.key) (some metadata)

def deleteObject (s : FilesystemObjectStore) (key : String) : FilesystemObjectStore :=
  (s.removeObject key).removeMetadata key

end FilesystemObjectStore

variable {ι : Type} [DecidableEq ι]

namespace ObjectStores

/-- one store changes -/
def change (stores : ObjectStores ι) (i : ι) (f : FilesystemObjectStore → FilesystemObjectStore) :
    ObjectStores ι :=
  Function.update stores i (f (stores i))

@[simp] theorem change_self (stores : ObjectStores ι) (i : ι)
    (f : FilesystemObjectStore → FilesystemObjectStore) : stores.change i f i = f (stores i) :=
  Function.update_self i _ stores

theorem change_of_ne (stores : ObjectStores ι) {i j : ι} (h : j ≠ i)
    (f : FilesystemObjectStore → FilesystemObjectStore) : stores.change i f j = stores j :=
  Function.update_of_ne h _ stores

end ObjectStores

/-! ## Streams -/

namespace ObjectByteStream

/-- the next chunk, if there is one, and the stream behind it -/
def next (stores : ObjectStores ι) :
    ObjectByteStream ι → Option (Except StorageError (List UInt8) × ObjectByteStream ι)
  | .items [] => none
  | .items (chunk :: rest) => some (chunk, .items rest)
  | .file store node offset =>
    let chunk := (stores store).readChunk node offset objectChunkSize
    if chunk = [] then none else some (.ok chunk, .file store node (offset + chunk.length))

/-- no stream has more chunks than this -/
def length (stores : ObjectStores ι) : ObjectByteStream ι → Nat
  | .items chunks => chunks.length
  | .file store node offset => ((stores store).objects.nodes node).length - offset

/-- all that the stream delivers, if it does not fail; at most `fuel` chunks -/
def collect (stores : ObjectStores ι) : Nat → ObjectByteStream ι → Option (List UInt8)
  | 0, _ => none
  | fuel + 1, stream =>
    match stream.next stores with
    | none => some []
    | some (.error _, _) => none
    | some (.ok chunk, rest) => (collect stores fuel rest).map (chunk ++ ·)

end ObjectByteStream

/-- all that a list of chunks delivers -/
def delivered : List (Except StorageError (List UInt8)) → Option (List UInt8)
  | [] => some []
  | .error _ :: _ => none
  | .ok chunk :: rest => (delivered rest).map (chunk ++ ·)

theorem take_append_drop_length {α : Type} (l : List α) (k : Nat) :
    l.take k ++ l.drop (l.take k).length = l := by
  rw [List.length_take]
  rcases Nat.le_total k l.length with h | h
  · rw [Nat.min_eq_left h, List.take_append_drop]
  · rw [Nat.min_eq_right h, List.drop_length, List.append_nil, List.take_of_length_le h]

namespace ObjectByteStream
variable {stores : ObjectStores ι}

theorem collect_items {chunks : List (Except StorageError (List UInt8))} {fuel : Nat}
    (h : chunks.length < fuel) : (items chunks).collect stores fuel = delivered chunks := by
  induction chunks generalizing fuel with
  | nil =>
    obtain ⟨n, rfl⟩ := Nat.exists_eq_succ_of_ne_zero (Nat.ne_of_gt h)
    rfl
  | cons chunk rest ih =>
    obtain ⟨n, rfl⟩ := Nat.exists_eq_succ_of_ne_zero (Nat.ne_of_gt (Nat.zero_lt_of_lt h))
    have hrest : rest.length < n := by simpa using h
    cases chunk with
    | error e => rfl
    | ok bytes =>
      show ((items rest).collect stores n).map (bytes ++ ·) = _
      rw [ih hrest]
      rfl

/-- an opened file delivers the rest of its bytes -/
theorem collect_file {i : ι} {node offset fuel : Nat}
    (h : ((stores i).objects.nodes node).length - offset < fuel) :
    (file i node offset).collect stores fuel
      = some (((stores i).objects.nodes node).drop offset) := by
  induction fuel generalizing offset with
  | zero => exact absurd h (Nat.not_lt_zero _)
  | succ fuel ih =>
    unfold collect next
    dsimp only
    by_cases hend : (stores i).readChunk node offset objectChunkSize = []
    · rw [if_pos hend]
      have hdrop : ((stores i).objects.nodes node).drop offset = [] := by
        unfold FilesystemObjectStore.readChunk objectChunkSize at hend
        simpa using hend
      rw [hdrop]
    · rw [if_neg hend]
      dsimp only
      have hpos : 0 < ((stores i).readChunk node offset objectChunkSize).length :=
        List.length_pos_of_ne_nil hend
      have hlt : offset < ((stores i).objects.nodes node).length := by
        by_contra hge
        apply hend
        unfold FilesystemObjectStore.readChunk
        rw [List.drop_eq_nil_of_le (by omega), List.take_nil]
      rw [ih (by omega), Option.map_some]
      congr 1
      unfold FilesystemObjectStore.readChunk
      rw [← List.drop_drop]
      exact take_append_drop_length _ _

end ObjectByteStream

/-! ## Operations -/

/-- the most bytes that a digest counts -/
def maxContentLength : Nat := 2 ^ 64

namespace ObjectStores

/-- the loop of `write_object_stream` on an opened file; `none` where `fuel` is less than the number of
chunks -/
def writeObjectStream (i : ι) (node : Nat) :
    Nat → ObjectByteStream ι → List UInt8 → ObjectStores ι →
      Option (Except StorageError (List UInt8)) × ObjectStores ι
  | 0, _, _, stores => (none, stores)
  | fuel + 1, stream, written, stores =>
    match stream.next stores with
    | none => (some (.ok written), stores)
    | some (.error e, _) => (some (.error e), stores)
    | some (.ok chunk, rest) =>
      let stores := stores.change i fun s => s.writeChunk node written.length chunk
      if maxContentLength ≤ written.length + chunk.length then
        (some (.error (.streamRead "object stream is too large" true)), stores)
      else writeObjectStream i node fuel rest (written ++ chunk) stores

def putObject (sha256 : List UInt8 → String) (stores : ObjectStores ι) (i : ι) (key contentType : String)
    (chunks : ObjectByteStream ι) : Option (Except StorageError ObjectMetadata × ObjectStores ι) :=
  match writeObjectStream i ((stores i).objects.created key) (chunks.length stores + 1) chunks []
      (stores.change i fun s => s.truncateObject key) with
  | (none, _) => none
  | (some (.error e), stores) => some (.error e, stores.change i fun s => s.removeObject key)
  | (some (.ok written), stores) =>
    let metadata : ObjectMetadata := ⟨key, contentType, written.length, sha256 written⟩
    some (.ok metadata, stores.change i fun s => s.describe metadata)

/-- `copy_object`, which reads one store and writes another or the same -/
def streamCopyObject (sha256 : List UInt8 → String) (stores : ObjectStores ι) (i : ι) (source : String)
    (j : ι) (destination : String) : Option (Except StorageError ObjectMetadata × ObjectStores ι) :=
  if hasSameWorkspace source destination = false then some (.error .invalidKey, stores)
  else
    match (stores i).getObject source with
    | .error e => some (.error e, stores)
    | .ok (metadata, node) =>
      match stores.putObject sha256 j destination metadata.contentType (.file i node 0) with
      | none => none
      | some (.error e, stores) => some (.error e, stores)
      | some (.ok copied, stores) =>
        if copied.contentType ≠ metadata.contentType ∨
            copied.contentLength ≠ metadata.contentLength ∨ copied.sha256 ≠ metadata.sha256 then
          some (.error .integrity, stores.change j fun s => s.deleteObject destination)
        else some (.ok copied, stores)

end ObjectStores

/-! ## What the loop leaves behind -/

/-- nothing but the object under this key of this store has changed -/
structure ElsewhereIn (stores stores' : ObjectStores ι) (i : ι) (key : String) : Prop where
  others : ∀ j, j ≠ i → stores' j = stores j
  keys : FilesystemObjectStore.Elsewhere (stores i) (stores' i) key

namespace ElsewhereIn
variable {stores stores' stores'' : ObjectStores ι} {i : ι} {key : String}

theorem refl (stores : ObjectStores ι) (i : ι) (key : String) : ElsewhereIn stores stores i key :=
  ⟨fun _ _ => rfl, .refl _ _⟩

theorem trans (h : ElsewhereIn stores stores' i key) (h' : ElsewhereIn stores' stores'' i key) :
    ElsewhereIn stores stores'' i key :=
  ⟨fun j hj => (h'.others j hj).trans (h.others j hj), h.keys.trans h'.keys⟩

theorem change {f : FilesystemObjectStore → FilesystemObjectStore}
    (h : FilesystemObjectStore.Elsewhere (stores i) (f (stores i)) key) :
    ElsewhereIn stores (stores.change i f) i key := by
  refine ⟨fun j hj => ObjectStores.change_of_ne stores hj f, ?_⟩
  rw [ObjectStores.change_self]
  exact h

end ElsewhereIn

/-- the bytes of an object were written, and nothing else -/
structure Writes (stores stores' : ObjectStores ι) (i : ι) (key : String) (node : Nat) : Prop where
  elsewhere : ElsewhereIn stores stores' i key
  metadata : (stores' i).metadata = (stores i).metadata
  entry : (stores' i).objects.entries key = some node

namespace ObjectStores
variable {stores stores' : ObjectStores ι} {i : ι} {key : String} {node fuel : Nat}
  {stream : ObjectByteStream ι} {written : List UInt8}

/-- a chunk behind what was written -/
theorem writeChunk_writes (hentry : (stores i).objects.entries key = some node)
    (hnode : (stores i).objects.nodes node = written) (chunk : List UInt8) :
    Writes stores (stores.change i fun s => s.writeChunk node written.length chunk) i key node ∧
      ((stores.change i fun s => s.writeChunk node written.length chunk) i).objects.nodes node
        = written ++ chunk := by
  refine ⟨⟨.change (FilesystemObjectStore.elsewhere_writeChunk hentry _ _), ?_, ?_⟩, ?_⟩
  · rw [change_self]
    rfl
  · rw [change_self]
    exact hentry
  · rw [change_self]
    show Function.update (stores i).objects.nodes node
      (overwrite 0 ((stores i).objects.nodes node) written.length chunk) node = written ++ chunk
    rw [Function.update_self, hnode, overwrite_end]

/-- **The loop writes the bytes of one object, and reports the bytes that it has written.** -/
theorem writeObjectStream_writes (stream : ObjectByteStream ι) (fuel : Nat)
    (hentry : (stores i).objects.entries key = some node)
    (hnode : (stores i).objects.nodes node = written) :
    Writes stores (writeObjectStream i node fuel stream written stores).2 i key node ∧
      ∀ w, (writeObjectStream i node fuel stream written stores).1 = some (.ok w) →
        ((writeObjectStream i node fuel stream written stores).2 i).objects.nodes node = w := by
  induction fuel generalizing stores stream written with
  | zero => exact ⟨⟨.refl _ _ _, rfl, hentry⟩, fun w h => (by cases h)⟩
  | succ fuel ih =>
    unfold writeObjectStream
    split
    · refine ⟨⟨.refl _ _ _, rfl, hentry⟩, fun w h => ?_⟩
      cases h
      exact hnode
    · exact ⟨⟨.refl _ _ _, rfl, hentry⟩, fun w h => (by cases h)⟩
    · next chunk rest hnext =>
      obtain ⟨hwrites, hnode'⟩ := writeChunk_writes hentry hnode chunk
      dsimp only
      split
      · exact ⟨hwrites, fun w h => (by cases h)⟩
      · obtain ⟨hrest, hbytes⟩ := ih rest hwrites.entry hnode'
        exact ⟨⟨hwrites.elsewhere.trans hrest.elsewhere, hrest.metadata.trans hwrites.metadata,
          hrest.entry⟩, hbytes⟩

/-! ## That it ends, and with what -/

end ObjectStores

namespace ObjectByteStream

/-- the stream does not read the file that is written -/
def Apart (i : ι) (node : Nat) : ObjectByteStream ι → Prop
  | .items _ => True
  | .file store node' _ => ¬ (store = i ∧ node' = node)

variable {stores : ObjectStores ι} {i : ι} {node : Nat} {stream rest : ObjectByteStream ι}
  {chunk : Except StorageError (List UInt8)}

theorem Apart.next (h : stream.Apart i node) (hnext : stream.next stores = some (chunk, rest)) :
    rest.Apart i node := by
  cases stream with
  | items chunks =>
    cases chunks with
    | nil => cases hnext
    | cons c cs =>
      cases hnext
      trivial
  | file store node' offset =>
    unfold ObjectByteStream.next at hnext
    dsimp only at hnext
    split at hnext
    · cases hnext
    · cases hnext
      exact h

/-- a chunk less -/
theorem length_next (hnext : stream.next stores = some (chunk, rest)) :
    rest.length stores < stream.length stores := by
  cases stream with
  | items chunks =>
    cases chunks with
    | nil => cases hnext
    | cons c cs =>
      cases hnext
      exact Nat.lt_succ_self _
  | file store node' offset =>
    unfold ObjectByteStream.next at hnext
    dsimp only at hnext
    split at hnext
    · cases hnext
    · next hne =>
      cases hnext
      have hpos : 0 < ((stores store).readChunk node' offset objectChunkSize).length :=
        List.length_pos_of_ne_nil hne
      have hlt : offset < ((stores store).objects.nodes node').length := by
        by_contra hge
        apply hne
        unfold FilesystemObjectStore.readChunk
        rw [List.drop_eq_nil_of_le (by omega), List.take_nil]
      show ((stores store).objects.nodes node').length - (offset + _)
        < ((stores store).objects.nodes node').length - offset
      omega

/-- the file that the stream reads has not changed -/
def SameFile (stores stores' : ObjectStores ι) : ObjectByteStream ι → Prop
  | .items _ => True
  | .file store node _ => (stores' store).objects.nodes node = (stores store).objects.nodes node

section
variable {stores' : ObjectStores ι}

theorem SameFile.next (h : stream.SameFile stores stores') :
    stream.next stores' = stream.next stores := by
  cases stream with
  | items chunks =>
    cases chunks with
    | nil => rfl
    | cons c cs => rfl
  | file store node offset =>
    have hnodes : (stores' store).objects.nodes node = (stores store).objects.nodes node := h
    unfold ObjectByteStream.next FilesystemObjectStore.readChunk
    dsimp only
    rw [hnodes]

theorem SameFile.behind (h : stream.SameFile stores stores')
    (hnext : stream.next stores = some (chunk, rest)) : rest.SameFile stores stores' := by
  cases stream with
  | items chunks =>
    cases chunks with
    | nil => cases hnext
    | cons c cs =>
      cases hnext
      trivial
  | file store node offset =>
    unfold ObjectByteStream.next at hnext
    dsimp only at hnext
    split at hnext
    · cases hnext
    · cases hnext
      exact h

theorem SameFile.length (h : stream.SameFile stores stores') :
    stream.length stores' = stream.length stores := by
  cases stream with
  | items chunks => rfl
  | file store node offset =>
    show ((stores' store).objects.nodes node).length - offset = _
    rw [show (stores' store).objects.nodes node = _ from h]
    rfl

theorem SameFile.collect (h : stream.SameFile stores stores') (fuel : Nat) :
    stream.collect stores' fuel = stream.collect stores fuel := by
  induction fuel generalizing stream with
  | zero => rfl
  | succ fuel ih =>
    unfold ObjectByteStream.collect
    rw [h.next]
    split
    · rfl
    · rfl
    · next chunk rest hnext => rw [ih (h.behind hnext)]

end

/-- a write to another file changes no byte that the stream reads -/
theorem Apart.writeChunk (h : stream.Apart i node) (offset : Nat) (bytes : List UInt8) :
    stream.SameFile stores (stores.change i fun s => s.writeChunk node offset bytes) := by
  cases stream with
  | items chunks => trivial
  | file store node' offset' =>
    show (stores.change i _ store).objects.nodes node' = _
    by_cases hstore : store = i
    · subst hstore
      rw [ObjectStores.change_self]
      exact Function.update_of_ne (fun hn => h ⟨rfl, hn⟩) _ _
    · rw [ObjectStores.change_of_ne stores hstore]

/-- nor does opening another file for writing -/
theorem Apart.truncateObject {key : String}
    (h : stream.Apart i ((stores i).objects.created key)) :
    stream.SameFile stores (stores.change i fun s => s.truncateObject key) := by
  cases stream with
  | items chunks => trivial
  | file store node' offset' =>
    show (stores.change i _ store).objects.nodes node' = _
    by_cases hstore : store = i
    · subst hstore
      rw [ObjectStores.change_self]
      exact Files.nodes_create_of_ne (fun hn => h ⟨rfl, hn⟩) _
    · rw [ObjectStores.change_of_ne stores hstore]

end ObjectByteStream

namespace ObjectStores
variable {stores stores' : ObjectStores ι} {i : ι} {key : String} {node fuel : Nat}
  {stream : ObjectByteStream ι} {written : List UInt8}

/-- **The loop ends.** -/
theorem writeObjectStream_ends (hapart : stream.Apart i node) (hfuel : stream.length stores < fuel) :
    (writeObjectStream i node fuel stream written stores).1 ≠ none := by
  induction fuel generalizing stores stream written with
  | zero => exact absurd hfuel (Nat.not_lt_zero _)
  | succ fuel ih =>
    unfold writeObjectStream
    split
    · exact fun h => (by cases h)
    · exact fun h => (by cases h)
    · next chunk rest hnext =>
      dsimp only
      split
      · exact fun h => (by cases h)
      · apply ih (hapart.next hnext)
        rw [((hapart.next hnext).writeChunk _ _).length]
        have hless := ObjectByteStream.length_next hnext
        omega

/-- **It succeeds if and only if the stream delivers, and then it has written what was delivered.** -/
theorem writeObjectStream_ok_iff (hapart : stream.Apart i node)
    (hwritten : written.length < maxContentLength) (w : List UInt8) :
    (writeObjectStream i node fuel stream written stores).1 = some (.ok w) ↔
      ∃ b, stream.collect stores fuel = some b ∧ (written ++ b).length < maxContentLength ∧
        w = written ++ b := by
  induction fuel generalizing stores stream written with
  | zero =>
    constructor
    · intro h
      cases h
    · rintro ⟨b, hb, -⟩
      cases hb
  | succ fuel ih =>
    unfold writeObjectStream ObjectByteStream.collect
    split
    · constructor
      · intro h
        cases h
        exact ⟨[], rfl, by rwa [List.append_nil], (List.append_nil _).symm⟩
      · rintro ⟨b, hb, -, rfl⟩
        cases hb
        rw [List.append_nil]
    · constructor
      · intro h
        cases h
      · rintro ⟨b, hb, -⟩
        cases hb
    · next chunk rest hnext =>
      dsimp only
      by_cases hmax : maxContentLength ≤ written.length + chunk.length
      · rw [if_pos hmax]
        constructor
        · intro h
          cases h
        · rintro ⟨b, hb, hlt, -⟩
          obtain ⟨b', -, rfl⟩ := Option.map_eq_some_iff.mp hb
          rw [List.length_append, List.length_append] at hlt
          omega
      · rw [if_neg hmax, ih (hapart.next hnext) (by rw [List.length_append]; omega),
          ((hapart.next hnext).writeChunk _ _).collect]
        constructor
        · rintro ⟨b, hb, hlt, rfl⟩
          rw [hb]
          exact ⟨chunk ++ b, rfl, by rwa [← List.append_assoc], List.append_assoc _ _ _⟩
        · rintro ⟨b, hb, hlt, rfl⟩
          obtain ⟨b', hb', rfl⟩ := Option.map_eq_some_iff.mp hb
          exact ⟨b', hb', by rwa [List.append_assoc], (List.append_assoc _ _ _).symm⟩

end ObjectStores

end Proofplane
