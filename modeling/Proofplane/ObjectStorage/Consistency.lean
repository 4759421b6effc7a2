import Proofplane.Base.Run
import Proofplane.ObjectStorage.Operations

/-!
# What an object store serves

An object is two files, and a `put_object` whose stream fails removes one of them.  Under a key without
an object that leaves nothing; over an object it leaves the description of bytes that are gone.

* `StoredObject`            the contents of the two files;
* `putObject_written`, `putObject_failed`, `streamCopyObject_cases`   what the operations leave of them;
* `storeStep`               one operation, on any stores and keys;
* `Served`                  what `head_object` and `get_object` promise of a key;
* `storeStep_sound`, `storeStep_breaks`   which operations keep it, and which break it;
* `object_store_consistent`   **it holds of every key while no stream fails over an object, and no
                            operation shows at another key**;
* `object_store_orphan`     a failed stream over an object of one byte.
-/

set_option linter.unusedSectionVars false

namespace Proofplane
open Base

/-- the two files of an object; a description that does not parse is `some none` -/
@[ext] structure StoredObject where
  metadata : Option (Option ObjectMetadata)
  bytes : Option (List UInt8)

namespace StoredObject

def absent : StoredObject := ⟨none, none⟩

/-- bytes with the description of them -/
def of (sha256 : List UInt8 → String) (key contentType : String) (bytes : List UInt8) :
    StoredObject :=
  ⟨some (some ⟨key, contentType, bytes.length, sha256 bytes⟩), some bytes⟩

/-- no object, or bytes with the description of them -/
def Sound (sha256 : List UInt8 → String) (o : StoredObject) : Prop :=
  o = absent ∨ ∃ key contentType bytes, bytes.length < maxContentLength ∧
    o = of sha256 key contentType bytes

end StoredObject

variable {ι : Type} [DecidableEq ι]

namespace ObjectStores
variable {stores stores' : ObjectStores ι} {i j : ι} {key key' : String}

def object (stores : ObjectStores ι) (i : ι) (key : String) : StoredObject :=
  ⟨(stores i).metadata.get key, (stores i).objects.get key⟩

/-- `get_object`, with all the bytes that it streams -/
def readObject (stores : ObjectStores ι) (i : ι) (key : String) :
    Except StorageError (ObjectMetadata × Option (List UInt8)) :=
  match (stores i).getObject key with
  | .error e => .error e
  | .ok (metadata, node) =>
    let stream : ObjectByteStream ι := .file i node 0
    .ok (metadata, stream.collect stores (stream.length stores + 1))

/-! ## What is read -/

theorem headResult_eq (stores : ObjectStores ι) (i : ι) (key : String) :
    (stores i).headResult key
      = match (stores.object i key).metadata with
        | none => .error .notFound
        | some none => .error .metadataPersistence
        | some (some metadata) => .ok metadata := rfl

theorem readObject_eq (stores : ObjectStores ι) (i : ι) (key : String) :
    stores.readObject i key
      = match (stores i).headResult key with
        | .error e => .error e
        | .ok metadata =>
          match (stores.object i key).bytes with
          | none => .error .notFound
          | some bytes => .ok (metadata, some bytes) := by
  unfold readObject FilesystemObjectStore.getObject FilesystemObjectStore.openObject object Files.get
  cases (stores i).headResult key with
  | error e => rfl
  | ok metadata =>
    dsimp only
    cases hentry : (stores i).objects.entries key with
    | none => rfl
    | some node =>
      dsimp only
      have hlength : ((stores i).objects.nodes node).length - 0
          < ObjectByteStream.length stores (.file i node 0) + 1 := Nat.lt_succ_self _
      rw [ObjectByteStream.collect_file hlength]
      rfl

/-- what is read is decided by the two files -/
theorem reads_congr (h : stores'.object i key = stores.object i key) :
    (stores' i).headResult key = (stores i).headResult key ∧
      stores'.readObject i key = stores.readObject i key := by
  have hhead : (stores' i).headResult key = (stores i).headResult key := by
    rw [headResult_eq, headResult_eq, h]
  refine ⟨hhead, ?_⟩
  rw [readObject_eq, readObject_eq, hhead, h]

end ObjectStores

theorem ElsewhereIn.object {stores stores' : ObjectStores ι} {i j : ι} {key key' : String}
    (h : ElsewhereIn stores stores' i key) (hne : (j, key') ≠ (i, key)) :
    stores'.object j key' = stores.object j key' := by
  by_cases hj : j = i
  · subst hj
    have hkey : key' ≠ key := fun hk => hne (by rw [hk])
    unfold ObjectStores.object
    rw [h.keys.metadata.get hkey, h.keys.objects.get hkey]
  · unfold ObjectStores.object
    rw [h.others j hj]

/-! ## What the operations leave -/

namespace ObjectStores
variable {sha256 : List UInt8 → String} {stores : ObjectStores ι} {i j : ι}
  {key contentType source destination : String} {chunks : ObjectByteStream ι}

/-- the stores after the destination was opened -/
def opened (stores : ObjectStores ι) (i : ι) (key : String) : ObjectStores ι :=
  stores.change i fun s => s.truncateObject key

/-- the loop of a `put_object` -/
def putLoop (stores : ObjectStores ι) (i : ι) (key : String) (chunks : ObjectByteStream ι) :
    Option (Except StorageError (List UInt8)) × ObjectStores ι :=
  writeObjectStream i ((stores i).objects.created key) (chunks.length stores + 1) chunks []
    (stores.opened i key)

/-- what the loop leaves of the object: its bytes, and the description as it was -/
theorem putLoop_leaves (stores : ObjectStores ι) (i : ι) (key : String)
    (chunks : ObjectByteStream ι) :
    ElsewhereIn stores (stores.putLoop i key chunks).2 i key ∧
      ((stores.putLoop i key chunks).2 i).metadata = (stores i).metadata ∧
      ∀ b, (stores.putLoop i key chunks).1 = some (.ok b) →
        ((stores.putLoop i key chunks).2 i).objects.get key = some b := by
  have hentry : (stores.opened i key i).objects.entries key
      = some ((stores i).objects.created key) := by
    unfold opened
    rw [change_self]
    exact Files.entries_create_self _ _ _
  have hnode : (stores.opened i key i).objects.nodes ((stores i).objects.created key) = [] := by
    unfold opened
    rw [change_self]
    exact Files.nodes_create_self _ _ _
  have hmetadata : (stores.opened i key i).metadata = (stores i).metadata := by
    unfold opened
    rw [change_self]
    rfl
  obtain ⟨hwrites, hbytes⟩ := writeObjectStream_writes chunks
    (chunks.length stores + 1) hentry hnode
  have hopened : ElsewhereIn stores (stores.opened i key) i key :=
    .change (FilesystemObjectStore.elsewhere_truncateObject key)
  refine ⟨hopened.trans hwrites.elsewhere, hwrites.metadata.trans hmetadata, fun b hb => ?_⟩
  exact (Files.get_of_entry hwrites.entry).trans (congrArg some (hbytes b hb))

/-- **A stream that was written: the bytes, and the description of them.** -/
theorem putObject_written (sha256 : List UInt8 → String) (contentType : String) {b : List UInt8}
    (h : (stores.putLoop i key chunks).1 = some (.ok b)) :
    ∃ stores', stores.putObject sha256 i key contentType chunks
        = some (.ok ⟨key, contentType, b.length, sha256 b⟩, stores') ∧
      ElsewhereIn stores stores' i key ∧
      stores'.object i key = .of sha256 key contentType b := by
  obtain ⟨helsewhere, -, hbytes⟩ := putLoop_leaves stores i key chunks
  have hget := hbytes b h
  revert helsewhere hget
  unfold putObject
  rw [show writeObjectStream i ((stores i).objects.created key) (chunks.length stores + 1) chunks []
      (stores.change i fun s => s.truncateObject key) = stores.putLoop i key chunks from rfl]
  revert h
  generalize stores.putLoop i key chunks = r
  obtain ⟨r, written⟩ := r
  rintro rfl helsewhere hget
  refine ⟨_, rfl, helsewhere.trans (.change ?_), ?_⟩
  · exact (FilesystemObjectStore.elsewhere_truncateMetadata key).trans
      (FilesystemObjectStore.elsewhere_writeMetadata (Files.entries_create_self _ _ _) _)
  · unfold object
    rw [change_self]
    refine StoredObject.ext ?_ hget
    exact Files.get_write_self (Files.entries_create_self _ _ _) _

/-- **A stream that failed: the bytes are gone, and the description is as it was.** -/
theorem putObject_failed (sha256 : List UInt8 → String) (contentType : String) {e : StorageError}
    (h : (stores.putLoop i key chunks).1 = some (.error e)) :
    ∃ stores', stores.putObject sha256 i key contentType chunks = some (.error e, stores') ∧
      ElsewhereIn stores stores' i key ∧
      stores'.object i key = ⟨(stores.object i key).metadata, none⟩ := by
  obtain ⟨helsewhere, hmetadata, -⟩ := putLoop_leaves stores i key chunks
  revert helsewhere hmetadata
  unfold putObject
  rw [show writeObjectStream i ((stores i).objects.created key) (chunks.length stores + 1) chunks []
      (stores.change i fun s => s.truncateObject key) = stores.putLoop i key chunks from rfl]
  revert h
  generalize stores.putLoop i key chunks = r
  obtain ⟨r, written⟩ := r
  rintro rfl helsewhere hmetadata
  refine ⟨_, rfl, helsewhere.trans (.change (FilesystemObjectStore.elsewhere_removeObject key)), ?_⟩
  unfold object
  rw [change_self]
  refine StoredObject.ext ?_ (Files.get_remove_self _ _)
  show Files.get (written i).metadata key = Files.get (stores i).metadata key
  exact congrArg (fun f => Files.get f key) hmetadata

/-- the loop on a stream that does not read the file it writes -/
theorem putLoop_ok_iff (hapart : chunks.Apart i ((stores i).objects.created key)) (b : List UInt8) :
    (stores.putLoop i key chunks).1 = some (.ok b) ↔
      chunks.collect stores (chunks.length stores + 1) = some b ∧ b.length < maxContentLength := by
  have hsame := hapart.truncateObject
  unfold putLoop opened
  rw [writeObjectStream_ok_iff hapart (by decide), hsame.collect]
  constructor
  · rintro ⟨b, hb, hlt, rfl⟩
    exact ⟨hb, hlt⟩
  · rintro ⟨hb, hlt⟩
    exact ⟨b, hb, hlt, rfl⟩

theorem putLoop_ends (hapart : chunks.Apart i ((stores i).objects.created key)) :
    (stores.putLoop i key chunks).1 ≠ none := by
  apply writeObjectStream_ends hapart
  rw [show chunks.length (stores.opened i key) = chunks.length stores from
    hapart.truncateObject.length]
  exact Nat.lt_succ_self _

/-- the loop on a list of chunks -/
theorem putLoop_items_ok_iff {chunks : List (Except StorageError (List UInt8))} (b : List UInt8) :
    (stores.putLoop i key (.items chunks)).1 = some (.ok b) ↔
      delivered chunks = some b ∧ b.length < maxContentLength := by
  have hapart : (ObjectByteStream.items chunks).Apart i ((stores i).objects.created key) := trivial
  have hall : (ObjectByteStream.items chunks).collect stores
      ((ObjectByteStream.items chunks).length stores + 1) = delivered chunks :=
    ObjectByteStream.collect_items (Nat.lt_succ_self _)
  rw [putLoop_ok_iff hapart, hall]

theorem putLoop_items_ends {chunks : List (Except StorageError (List UInt8))} :
    (stores.putLoop i key (.items chunks)).1 ≠ none := by
  have hapart : (ObjectByteStream.items chunks).Apart i ((stores i).objects.created key) := trivial
  exact putLoop_ends hapart

/-- the loop on the very file that it writes, which is empty by then -/
theorem putLoop_self (stores : ObjectStores ι) (i : ι) (key : String) :
    (stores.putLoop i key (.file i ((stores i).objects.created key) 0)).1 = some (.ok []) := by
  have hnode : (stores.opened i key i).objects.nodes ((stores i).objects.created key) = [] := by
    unfold opened
    rw [change_self]
    exact Files.nodes_create_self _ _ _
  have hnext : (ObjectByteStream.file i ((stores i).objects.created key) 0).next
      (stores.opened i key) = none := by
    unfold ObjectByteStream.next FilesystemObjectStore.readChunk
    dsimp only
    rw [hnode]
    rfl
  unfold putLoop writeObjectStream
  rw [hnext]

/-- a deletion -/
theorem object_deleteObject (stores : ObjectStores ι) (i : ι) (key : String) :
    ElsewhereIn stores (stores.change i fun s => s.deleteObject key) i key ∧
      (stores.change i fun s => s.deleteObject key).object i key = .absent := by
  refine ⟨.change ?_, ?_⟩
  · exact (FilesystemObjectStore.elsewhere_removeObject key).trans
      (FilesystemObjectStore.elsewhere_removeMetadata key)
  · unfold object
    rw [change_self]
    exact StoredObject.ext (Files.get_remove_self _ _) (Files.get_remove_self _ _)

/-- what `get_object` has found -/
theorem getObject_ok {metadata : ObjectMetadata} {node : Nat}
    (h : (stores i).getObject key = .ok (metadata, node)) :
    (stores i).objects.entries key = some node ∧
      stores.object i key = ⟨some (some metadata), some ((stores i).objects.nodes node)⟩ := by
  unfold FilesystemObjectStore.getObject at h
  split at h
  · cases h
  · next m hhead =>
    split at h
    · cases h
    · next n hopen =>
      cases h
      refine ⟨hopen, StoredObject.ext ?_ (Files.get_of_entry hopen)⟩
      unfold FilesystemObjectStore.headResult at hhead
      show (stores i).metadata.get key = some (some metadata)
      split at hhead
      · cases hhead
      · cases hhead
      · next m' hget =>
        cases hhead
        exact hget

/-- a source that is sound is delivered whole -/
theorem putLoop_sound_source {metadata : ObjectMetadata} {node : Nat}
    (hget : (stores i).getObject source = .ok (metadata, node))
    (hsound : (stores.object i source).Sound sha256)
    (hapart : ObjectByteStream.Apart j ((stores j).objects.created destination) (.file i node 0)) :
    ∃ b, (stores.putLoop j destination (.file i node 0)).1 = some (.ok b) := by
  obtain ⟨hentry, hobject⟩ := getObject_ok hget
  refine ⟨(stores i).objects.nodes node, (putLoop_ok_iff hapart _).mpr ⟨?_, ?_⟩⟩
  · exact ObjectByteStream.collect_file (Nat.lt_succ_self _)
  · rw [hobject] at hsound
    rcases hsound with h | ⟨k, c, bytes, hlt, h⟩
    · cases congrArg StoredObject.bytes h
    · have hbytes : (stores i).objects.nodes node = bytes :=
        Option.some.inj (congrArg StoredObject.bytes h)
      rw [hbytes]
      exact hlt

/-- a copy that was written is kept if it has the metadata of its source, and deleted otherwise -/
def keepCopy (metadata : ObjectMetadata) (j : ι) (destination : String) :
    Option (Except StorageError ObjectMetadata × ObjectStores ι) →
      Option (Except StorageError ObjectMetadata × ObjectStores ι)
  | none => none
  | some (.error e, stores) => some (.error e, stores)
  | some (.ok copied, stores) =>
    if copied.contentType ≠ metadata.contentType ∨ copied.contentLength ≠ metadata.contentLength ∨
        copied.sha256 ≠ metadata.sha256 then
      some (.error .integrity, stores.change j fun s => s.deleteObject destination)
    else some (.ok copied, stores)

theorem streamCopyObject_eq (sha256 : List UInt8 → String) (stores : ObjectStores ι) (i : ι)
    {source : String} (j : ι) {destination : String} {metadata : ObjectMetadata} {node : Nat}
    (hworkspace : ¬ hasSameWorkspace source destination = false)
    (hget : (stores i).getObject source = .ok (metadata, node)) :
    stores.streamCopyObject sha256 i source j destination
      = keepCopy metadata j destination
        (stores.putObject sha256 j destination metadata.contentType (.file i node 0)) := by
  unfold streamCopyObject
  rw [if_neg hworkspace, hget]
  rfl

/-- **A copy ends, touches its destination only, and leaves it sound if its source was.** -/
theorem streamCopyObject_cases (sha256 : List UInt8 → String) (stores : ObjectStores ι) (i : ι)
    (source : String) (j : ι) (destination : String) :
    ∃ r stores', stores.streamCopyObject sha256 i source j destination = some (r, stores') ∧
      ElsewhereIn stores stores' j destination ∧
      ((stores.object i source).Sound sha256 →
        stores'.object j destination = stores.object j destination ∨
          (stores'.object j destination).Sound sha256) := by
  by_cases hworkspace : hasSameWorkspace source destination = false
  · unfold streamCopyObject
    rw [if_pos hworkspace]
    exact ⟨_, _, rfl, .refl _ _ _, fun _ => .inl rfl⟩
  · cases hget : (stores i).getObject source with
    | error e =>
      unfold streamCopyObject
      rw [if_neg hworkspace, hget]
      exact ⟨_, _, rfl, .refl _ _ _, fun _ => .inl rfl⟩
    | ok p =>
      obtain ⟨metadata, node⟩ := p
      rw [streamCopyObject_eq sha256 stores i j hworkspace hget]
      -- the bytes were copied: the copy is kept or deleted
      have hcopied : ∀ b, (stores.putLoop j destination (.file i node 0)).1 = some (.ok b) →
          b.length < maxContentLength →
          ∃ r stores', keepCopy metadata j destination (stores.putObject sha256 j destination
              metadata.contentType (.file i node 0)) = some (r, stores') ∧
            ElsewhereIn stores stores' j destination ∧
            (stores'.object j destination).Sound sha256 := by
        intro b hb hlt
        obtain ⟨written, hput, helsewhere, hobject⟩ := putObject_written sha256
          metadata.contentType hb
        rw [hput]
        unfold keepCopy
        dsimp only
        split
        · obtain ⟨hdeleted, habsent⟩ := object_deleteObject written j destination
          exact ⟨_, _, rfl, helsewhere.trans hdeleted, .inl habsent⟩
        · exact ⟨_, _, rfl, helsewhere, .inr ⟨_, _, b, hlt, hobject⟩⟩
      by_cases hself : i = j ∧ node = (stores j).objects.created destination
      · obtain ⟨rfl, rfl⟩ := hself
        obtain ⟨r, stores', hr, helsewhere, hsound⟩ :=
          hcopied [] (putLoop_self stores i destination) (by decide)
        exact ⟨r, stores', hr, helsewhere, fun _ => .inr hsound⟩
      · have hapart : ObjectByteStream.Apart j ((stores j).objects.created destination)
            (.file i node 0) := hself
        cases hloop : (stores.putLoop j destination (.file i node 0)).1 with
        | none => exact absurd hloop (putLoop_ends hapart)
        | some result =>
          cases result with
          | ok b =>
            obtain ⟨-, hlt⟩ := (putLoop_ok_iff hapart b).mp hloop
            obtain ⟨r, stores', hr, helsewhere, hsound⟩ := hcopied b hloop hlt
            exact ⟨r, stores', hr, helsewhere, fun _ => .inr hsound⟩
          | error e =>
            obtain ⟨failed, hput, helsewhere, -⟩ := putObject_failed sha256
              metadata.contentType hloop
            rw [hput]
            refine ⟨_, _, rfl, helsewhere, fun hsound => ?_⟩
            obtain ⟨b, hb⟩ := putLoop_sound_source hget hsound hapart
            rw [hb] at hloop
            cases hloop

end ObjectStores

/-! ## One operation -/

inductive StoreOp (ι : Type)
  | put (store : ι) (key contentType : String) (chunks : List (Except StorageError (List UInt8)))
  | copy (store : ι) (source : String) (destinationStore : ι) (destination : String)
  | delete (store : ι) (key : String)

namespace StoreOp

/-- the key that the operation is on -/
def target : StoreOp ι → ι × String
  | put store key _ _ => (store, key)
  | copy _ _ store destination => (store, destination)
  | delete store key => (store, key)

end StoreOp

def storeStep (sha256 : List UInt8 → String) (stores : ObjectStores ι) :
    StoreOp ι → Option (ObjectStores ι)
  | .put i key contentType chunks =>
    (stores.putObject sha256 i key contentType (.items chunks)).map Prod.snd
  | .copy i source j destination =>
    (stores.streamCopyObject sha256 i source j destination).map Prod.snd
  | .delete i key => some (stores.change i fun s => s.deleteObject key)

/-- the stream does not fail, and a digest can count its bytes -/
def delivers (chunks : List (Except StorageError (List UInt8))) : Bool :=
  match delivered chunks with
  | none => false
  | some b => decide (b.length < maxContentLength)

/-- a stream that fails is put only under a key that `head_object` does not find -/
def FailsOnlyAnew (stores : ObjectStores ι) : StoreOp ι → Prop
  | .put i key _ chunks =>
    delivers chunks = false → ∀ metadata, (stores i).headResult key ≠ .ok metadata
  | .copy .. => True
  | .delete .. => True

/-- what the store promises of a key: `head_object` finds it if and only if `get_object` does, and then
the bytes are those that the description tells of -/
def Served (sha256 : List UInt8 → String) (stores : ObjectStores ι) (i : ι) (key : String) : Prop :=
  ((∃ metadata, (stores i).headResult key = .ok metadata) ↔
    ∃ object, stores.readObject i key = .ok object) ∧
  ∀ metadata streamed, stores.readObject i key = .ok (metadata, streamed) →
    (stores i).headResult key = .ok metadata ∧
    ∃ bytes, streamed = some bytes ∧ metadata.contentLength = bytes.length ∧
      metadata.sha256 = sha256 bytes

section
variable {sha256 : List UInt8 → String} {stores : ObjectStores ι} {i : ι} {key : String}

theorem StoredObject.Sound.served (h : (stores.object i key).Sound sha256) :
    Served sha256 stores i key := by
  unfold Served
  rw [ObjectStores.readObject_eq, ObjectStores.headResult_eq]
  rcases h with h | ⟨k, c, bytes, -, h⟩
  · rw [h]
    refine ⟨⟨fun ⟨_, hm⟩ => (by cases hm), fun ⟨_, ho⟩ => (by cases ho)⟩, fun _ _ hm => (by cases hm)⟩
  · rw [h]
    refine ⟨⟨fun _ => ⟨_, rfl⟩, fun _ => ⟨_, rfl⟩⟩, fun m streamed hm => ?_⟩
    cases hm
    exact ⟨rfl, bytes, rfl, rfl, rfl⟩

/-- a description without its bytes is not what the store promises -/
theorem not_served (metadata : ObjectMetadata)
    (h : stores.object i key = ⟨some (some metadata), none⟩) : ¬ Served sha256 stores i key := by
  unfold Served
  rw [ObjectStores.readObject_eq, ObjectStores.headResult_eq, h]
  rintro ⟨hiff, -⟩
  obtain ⟨object, hobject⟩ := hiff.mp ⟨metadata, rfl⟩
  cases hobject

/-- what a `put_object` of a list of chunks leaves -/
theorem put_leaves (sha256 : List UInt8 → String) (stores : ObjectStores ι) (i : ι)
    (key contentType : String) (chunks : List (Except StorageError (List UInt8))) :
    ∃ stores', storeStep sha256 stores (.put i key contentType chunks) = some stores' ∧
      ElsewhereIn stores stores' i key ∧
      (delivers chunks = true ∧ (stores'.object i key).Sound sha256 ∨
        delivers chunks = false ∧
          stores'.object i key = ⟨(stores.object i key).metadata, none⟩) := by
  cases hloop : (stores.putLoop i key (.items chunks)).1 with
  | none => exact absurd hloop ObjectStores.putLoop_items_ends
  | some result =>
    cases result with
    | ok b =>
      obtain ⟨hdelivered, hlt⟩ := (ObjectStores.putLoop_items_ok_iff b).mp hloop
      obtain ⟨stores', hput, helsewhere, hobject⟩ := ObjectStores.putObject_written sha256
        contentType hloop
      refine ⟨stores', ?_, helsewhere, .inl ⟨?_, .inr ⟨_, _, b, hlt, hobject⟩⟩⟩
      · show (stores.putObject sha256 i key contentType (.items chunks)).map Prod.snd = _
        rw [hput]
        rfl
      · unfold delivers
        rw [hdelivered]
        exact decide_eq_true hlt
    | error e =>
      obtain ⟨stores', hput, helsewhere, hobject⟩ := ObjectStores.putObject_failed sha256
        contentType hloop
      refine ⟨stores', ?_, helsewhere, .inr ⟨?_, hobject⟩⟩
      · show (stores.putObject sha256 i key contentType (.items chunks)).map Prod.snd = _
        rw [hput]
        rfl
      · unfold delivers
        cases hdelivered : delivered chunks with
        | none => rfl
        | some b =>
          apply decide_eq_false
          intro hlt
          rw [(ObjectStores.putLoop_items_ok_iff b).mpr ⟨hdelivered, hlt⟩] at hloop
          cases hloop

/-- **Every operation ends, and shows at its own key only.** -/
theorem storeStep_ends (sha256 : List UInt8 → String) (stores : ObjectStores ι)
    (op : StoreOp ι) :
    ∃ stores', storeStep sha256 stores op = some stores' ∧
      ElsewhereIn stores stores' op.target.1 op.target.2 := by
  cases op with
  | put i key contentType chunks =>
    obtain ⟨stores', hstep, helsewhere, -⟩ := put_leaves sha256 stores i key contentType chunks
    exact ⟨stores', hstep, helsewhere⟩
  | copy i source j destination =>
    obtain ⟨r, stores', hcopy, helsewhere, -⟩ :=
      ObjectStores.streamCopyObject_cases sha256 stores i source j destination
    refine ⟨stores', ?_, helsewhere⟩
    show (stores.streamCopyObject sha256 i source j destination).map Prod.snd = _
    rw [hcopy]
    rfl
  | delete i key => exact ⟨_, rfl, (ObjectStores.object_deleteObject stores i key).1⟩

/-- every object of every store is sound -/
def AllSound (sha256 : List UInt8 → String) (stores : ObjectStores ι) : Prop :=
  ∀ i key, (stores.object i key).Sound sha256

/-- a step that meets the condition keeps every object sound -/
theorem storeStep_sound (stores : ObjectStores ι) (op : StoreOp ι) (stores' : ObjectStores ι)
    (hsound : AllSound sha256 stores) (hop : FailsOnlyAnew stores op)
    (hstep : storeStep sha256 stores op = some stores') : AllSound sha256 stores' := by
  obtain ⟨final, hfinal, helsewhere⟩ := storeStep_ends sha256 stores op
  rw [hstep] at hfinal
  cases hfinal
  -- only the target of the operation is of interest
  suffices htarget : (stores'.object op.target.1 op.target.2).Sound sha256 by
    intro i key
    by_cases hkey : (i, key) = op.target
    · rw [show i = op.target.1 from congrArg Prod.fst hkey,
        show key = op.target.2 from congrArg Prod.snd hkey]
      exact htarget
    · rw [helsewhere.object hkey]
      exact hsound i key
  cases op with
  | put i key contentType chunks =>
    obtain ⟨final, hfinal, -, hleaves⟩ :=
      put_leaves sha256 stores i key contentType chunks
    rw [hstep] at hfinal
    cases hfinal
    rcases hleaves with ⟨-, hs⟩ | ⟨hfails, hobject⟩
    · exact hs
    · left
      rcases hsound i key with h | ⟨k, c, bytes, -, h⟩
      · rw [h] at hobject
        exact hobject
      · have hhead := hop hfails ⟨k, c, bytes.length, sha256 bytes⟩
        rw [ObjectStores.headResult_eq, h] at hhead
        exact absurd rfl hhead
  | copy i source j destination =>
    obtain ⟨r, final, hcopy, -, hleaves⟩ :=
      ObjectStores.streamCopyObject_cases sha256 stores i source j destination
    have hfinal : storeStep sha256 stores (.copy i source j destination) = some final := by
      show (stores.streamCopyObject sha256 i source j destination).map Prod.snd = _
      rw [hcopy]
      rfl
    rw [hstep] at hfinal
    cases hfinal
    rcases hleaves (hsound i source) with h | h
    · show (stores'.object j destination).Sound sha256
      rw [h]
      exact hsound j destination
    · exact h
  | delete i key =>
    cases hstep
    exact .inl (ObjectStores.object_deleteObject stores i key).2

/-- **A `put_object` that does not meet the condition breaks the promise.** -/
theorem storeStep_breaks {stores' : ObjectStores ι} {op : StoreOp ι}
    (hop : ¬ FailsOnlyAnew stores op) (hstep : storeStep sha256 stores op = some stores') :
    ¬ Served sha256 stores' op.target.1 op.target.2 := by
  cases op with
  | copy i source j destination => exact absurd trivial hop
  | delete i key => exact absurd trivial hop
  | put i key contentType chunks =>
    obtain ⟨final, hfinal, -, hleaves⟩ :=
      put_leaves sha256 stores i key contentType chunks
    rw [hstep] at hfinal
    cases hfinal
    rcases hleaves with ⟨hdelivers, -⟩ | ⟨-, hobject⟩
    · exact absurd (fun hfails => (by rw [hdelivers] at hfails; cases hfails)) hop
    · -- a description was there, and it is there still
      have hfound : ∃ metadata, (stores i).headResult key = .ok metadata := by
        by_contra hnone
        exact hop fun _ metadata hm => hnone ⟨metadata, hm⟩
      obtain ⟨metadata, hhead⟩ := hfound
      rw [ObjectStores.headResult_eq] at hhead
      have hmetadata : (stores.object i key).metadata = some (some metadata) := by
        split at hhead
        · cases hhead
        · cases hhead
        · next m hm =>
          cases hhead
          exact hm
      rw [hmetadata] at hobject
      exact not_served _ hobject

/-- every sequence of operations ends -/
theorem storeRun_ends (sha256 : List UInt8 → String) (stores : ObjectStores ι)
    (ops : List (StoreOp ι)) :
    ∃ stores', run (storeStep sha256) stores ops = some stores' := by
  induction ops generalizing stores with
  | nil => exact ⟨stores, rfl⟩
  | cons op ops ih =>
    obtain ⟨next, hnext, -⟩ := storeStep_ends sha256 stores op
    obtain ⟨final, hfinal⟩ := ih next
    refine ⟨final, ?_⟩
    rw [run_cons, hnext]
    exact hfinal

/-- a stream that fails over an object leaves its description, without the bytes -/
theorem failed_put_leaves (sha256 : List UInt8 → String) (stores : ObjectStores ι) (i : ι)
    (key contentType again : String) {bytes : List UInt8}
    {a b : List (Except StorageError (List UInt8))} (ha : delivered a = some bytes)
    (hlength : bytes.length < maxContentLength) (hb : delivers b = false) :
    ∃ stores', run (storeStep sha256) stores [.put i key contentType a, .put i key again b] = some stores' ∧
      stores'.object i key = ⟨some (some ⟨key, contentType, bytes.length, sha256 bytes⟩), none⟩ := by
  have hloop : (stores.putLoop i key (.items a)).1 = some (.ok bytes) :=
    (ObjectStores.putLoop_items_ok_iff bytes).mpr ⟨ha, hlength⟩
  obtain ⟨mid, hput, -, hobject⟩ := ObjectStores.putObject_written sha256 contentType hloop
  have hfirst : storeStep sha256 stores (.put i key contentType a) = some mid := by
    show (stores.putObject sha256 i key contentType (.items a)).map Prod.snd = _
    rw [hput]
    rfl
  obtain ⟨final, hsecond, -, hleaves⟩ := put_leaves sha256 mid i key again b
  refine ⟨final, ?_, ?_⟩
  · rw [run_cons, hfirst]
    show run (storeStep sha256) mid [.put i key again b] = _
    rw [run_cons, hsecond]
    rfl
  · rcases hleaves with ⟨hdelivers, -⟩ | ⟨-, hfinal⟩
    · rw [hb] at hdelivers
      cases hdelivers
    · rw [hfinal, hobject]
      rfl

end

/-- **What the stores of a deployment promise.**  Every sequence of operations ends, from empty stores.
While streams fail only under keys without an object, `head_object` and `get_object` agree on every key;
a stream that fails over an object ends that.  And no operation shows at another key, whatever fails. -/
theorem object_store_consistent (sha256 : List UInt8 → String) (ops : List (StoreOp ι)) :
    ∃ stores, run (storeStep sha256) (fun _ => .empty) ops = some stores ∧
      (Along (storeStep sha256) FailsOnlyAnew (fun _ => .empty) ops →
        ∀ i key, Served sha256 stores i key) ∧
      ∀ op, ∃ stores', storeStep sha256 stores op = some stores' ∧
        (∀ i key, (i, key) ≠ op.target →
          (stores' i).headResult key = (stores i).headResult key ∧
            stores'.readObject i key = stores.readObject i key) ∧
        (¬ FailsOnlyAnew stores op → ¬ Served sha256 stores' op.target.1 op.target.2) := by
  obtain ⟨stores, hrun⟩ := storeRun_ends sha256 (fun _ => .empty) ops
  refine ⟨stores, hrun, fun halong i key => ?_, fun op => ?_⟩
  · have hempty : AllSound sha256 (fun _ : ι => FilesystemObjectStore.empty) :=
      fun _ _ => .inl rfl
    exact (run_inv_along (AllSound sha256) storeStep_sound hempty halong hrun i key).served
  · obtain ⟨stores', hstep, helsewhere⟩ := storeStep_ends sha256 stores op
    exact ⟨stores', hstep, fun i key hkey => ObjectStores.reads_congr (helsewhere.object hkey),
      fun hop => storeStep_breaks hop hstep⟩

/-- **A failed stream over an object of one byte**, under the key of an evidence document.  `head_object`
still finds the object, and `get_object` does not. -/
theorem object_store_orphan :
    let key := sampleEvidenceKey.text
    let put : StoreOp Unit := .put () key "application/pdf" [.ok [7]]
    let again : StoreOp Unit :=
      .put () key "application/pdf" [.ok [8], .error (.streamRead "connection reset" false)]
    ∃ stores, run (storeStep fun _ => "digest") (fun _ => .empty) [put, again] = some stores ∧
      (stores ()).headResult key = .ok ⟨key, "application/pdf", 1, "digest"⟩ ∧
      stores.readObject () key = .error .notFound ∧
      ¬ Served (fun _ => "digest") stores () key := by
  intro key put again
  obtain ⟨stores, hrun, hobject⟩ := failed_put_leaves (fun _ => "digest") (fun _ : Unit => .empty) () key
    "application/pdf" "application/pdf" (a := [.ok [7]])
    (b := [.ok [8], .error (.streamRead "connection reset" false)]) rfl (by decide) rfl
  have hhead : (stores ()).headResult key = .ok ⟨key, "application/pdf", 1, "digest"⟩ := by
    rw [ObjectStores.headResult_eq, hobject]
    rfl
  refine ⟨stores, hrun, hhead, ?_, not_served _ hobject⟩
  rw [ObjectStores.readObject_eq, hhead, hobject]

end Proofplane
