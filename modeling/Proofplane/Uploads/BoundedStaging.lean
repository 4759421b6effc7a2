import Proofplane.Base.Base64
import Proofplane.Base.Crc32c
import Proofplane.ObjectStorage.Consistency
import Proofplane.Uploads.Keys

/-!
# Bounded staging

An upload goes into quarantine while its bytes are counted, chunk by chunk, and their checksum is taken.
The store takes a digest of its own and removes what it has written when the stream fails.

* `ObjectDigest`            the digest of the store, `objectDigest_run`;
* `boundedChunks`           the stream as the store sees it, with the counters beside it;
* `delivered_boundedChunks`   what gets through, and what the counters say then;
* `stageDocument`, `stageBoundedDocument`   the two services;
* `bounded_staging`         **what is staged is what came in, whatever the chunks, and nothing is left of what
                            is refused**.
-/

set_option linter.unusedSectionVars false

namespace Proofplane
open Base

/-! ## The digest of the store -/

/-- a hash function that takes its bytes in pieces -/
structure RunningHash (σ : Type) where
  start : σ
  update : σ → List UInt8 → σ
  finish : σ → String

/-- in pieces as at once -/
def RunningHash.Computes {σ : Type} (H : RunningHash σ) (sha256 : List UInt8 → String) : Prop :=
  ∀ pieces : List (List UInt8), H.finish (pieces.foldl H.update H.start) = sha256 pieces.flatten

structure ObjectDigest (σ : Type) where
  sha256 : σ
  contentLength : Nat

namespace ObjectDigest
variable {σ : Type} (H : RunningHash σ)

def new : ObjectDigest σ := ⟨H.start, 0⟩

def update (d : ObjectDigest σ) (chunk : List UInt8) : Except StorageError (ObjectDigest σ) :=
  if maxContentLength ≤ d.contentLength + chunk.length then
    .error (.streamRead "object stream is too large" true)
  else .ok ⟨H.update d.sha256 chunk, d.contentLength + chunk.length⟩

def finish (d : ObjectDigest σ) : Nat × String := (d.contentLength, H.finish d.sha256)

/-- the digest of chunk after chunk -/
def run (d : ObjectDigest σ) : List (List UInt8) → Except StorageError (ObjectDigest σ)
  | [] => .ok d
  | chunk :: rest =>
    match d.update H chunk with
    | .error e => .error e
    | .ok d => run d rest

variable {H}

theorem run_eq (pieces : List (List UInt8)) (d : ObjectDigest σ)
    (h : d.contentLength + pieces.flatten.length < maxContentLength) :
    d.run H pieces = .ok ⟨pieces.foldl H.update d.sha256, d.contentLength + pieces.flatten.length⟩ := by
  induction pieces generalizing d with
  | nil => rfl
  | cons chunk rest ih =>
    rw [List.flatten_cons, List.length_append] at h
    have hfits : ¬ maxContentLength ≤ d.contentLength + chunk.length := by omega
    unfold run update
    rw [if_neg hfits]
    dsimp only
    rw [ih _ (by dsimp only; omega), List.flatten_cons, List.length_append, List.foldl_cons, Nat.add_assoc]

end ObjectDigest

/-- the digest of the store is that of all the bytes -/
theorem objectDigest_run {σ : Type} {H : RunningHash σ} {sha256 : List UInt8 → String}
    (hH : H.Computes sha256) {pieces : List (List UInt8)} (h : pieces.flatten.length < maxContentLength) :
    ∃ d, (ObjectDigest.new H).run H pieces = .ok d ∧
      d.finish H = (pieces.flatten.length, sha256 pieces.flatten) := by
  have hrun := ObjectDigest.run_eq (H := H) pieces (.new H) (by rwa [ObjectDigest.new, Nat.zero_add])
  refine ⟨_, hrun, ?_⟩
  unfold ObjectDigest.finish ObjectDigest.new
  rw [Nat.zero_add, hH]

/-! ## The stream that is counted -/

def streamTooLarge : StorageError := .streamRead "request payload is too large" true

/-- what has come through so far -/
structure Counters where
  contentLength : Nat
  checksumCrc32c : UInt32

/-- one chunk on its way to the store -/
def boundedChunk (maxBytes : Nat) (c : Counters) :
    Except StorageError (List UInt8) → Except StorageError (List UInt8 × Counters)
  | .error e => .error e
  | .ok chunk =>
    let nextLength := c.contentLength + chunk.length
    if maxContentLength ≤ nextLength then .error streamTooLarge
    else if maxBytes < nextLength then .error streamTooLarge
    else .ok (chunk, ⟨nextLength, crc32cAppend c.checksumCrc32c chunk⟩)

/-- the stream as the store sees it -/
def boundedChunks (maxBytes : Nat) :
    Counters → List (Except StorageError (List UInt8)) → List (Except StorageError (List UInt8))
  | _, [] => []
  | c, item :: rest =>
    match boundedChunk maxBytes c item with
    | .error e => .error e :: boundedChunks maxBytes c rest
    | .ok (chunk, c') => .ok chunk :: boundedChunks maxBytes c' rest

/-- the counters when the store has stopped reading, at the end or at the first error -/
def countersAfter (maxBytes : Nat) : Counters → List (Except StorageError (List UInt8)) → Counters
  | c, [] => c
  | c, item :: rest =>
    match boundedChunk maxBytes c item with
    | .error _ => c
    | .ok (_, c') => countersAfter maxBytes c' rest

section
variable {maxBytes : Nat} {c : Counters} {rest : List (Except StorageError (List UInt8))}

theorem boundedChunk_fits {chunk : List UInt8} (hmax : (maxBytes : Int) ≤ i64Max)
    (h : c.contentLength + chunk.length ≤ maxBytes) :
    boundedChunk maxBytes c (.ok chunk)
      = .ok (chunk, ⟨c.contentLength + chunk.length, crc32cAppend c.checksumCrc32c chunk⟩) := by
  have hcounted : ¬ maxContentLength ≤ c.contentLength + chunk.length := by
    unfold maxContentLength
    unfold i64Max at hmax
    omega
  unfold boundedChunk
  dsimp only
  rw [if_neg hcounted, if_neg (Nat.not_lt.mpr h)]

theorem boundedChunk_over {chunk : List UInt8} (h : maxBytes < c.contentLength + chunk.length) :
    boundedChunk maxBytes c (.ok chunk) = .error streamTooLarge := by
  unfold boundedChunk
  dsimp only
  rw [if_pos h, ite_self]

end

/-- **What gets through is all or not enough: every chunk has to be there, and all of them within the
limit.** -/
theorem delivered_boundedChunks {maxBytes : Nat} (hmax : (maxBytes : Int) ≤ i64Max)
    (chunks : List (Except StorageError (List UInt8))) (c : Counters) (hc : c.contentLength ≤ maxBytes)
    (bytes : List UInt8) :
    delivered (boundedChunks maxBytes c chunks) = some bytes ↔
      ∃ pieces : List (List UInt8), chunks = pieces.map .ok ∧ bytes = pieces.flatten ∧
        c.contentLength + bytes.length ≤ maxBytes := by
  induction chunks generalizing c bytes with
  | nil =>
    constructor
    · intro h
      obtain rfl := Option.some.inj h
      exact ⟨[], rfl, rfl, hc⟩
    · rintro ⟨pieces, hpieces, rfl, -⟩
      obtain rfl := List.map_eq_nil_iff.mp hpieces.symm
      rfl
  | cons item rest ih =>
    cases item with
    | error e =>
      constructor
      · intro h
        cases h
      · rintro ⟨pieces, hpieces, -⟩
        cases pieces with
        | nil => cases hpieces
        | cons piece pieces => cases hpieces
    | ok chunk =>
      unfold boundedChunks
      by_cases hfits : c.contentLength + chunk.length ≤ maxBytes
      · rw [boundedChunk_fits hmax hfits]
        dsimp only
        unfold delivered
        rw [Option.map_eq_some_iff]
        constructor
        · rintro ⟨b, hb, rfl⟩
          obtain ⟨pieces, rfl, rfl, hle⟩ := (ih _ hfits b).mp hb
          dsimp only at hle
          refine ⟨chunk :: pieces, rfl, rfl, ?_⟩
          rw [List.length_append]
          omega
        · rintro ⟨pieces, hpieces, rfl, hle⟩
          cases pieces with
          | nil => cases hpieces
          | cons piece pieces =>
            obtain ⟨hchunk, rfl⟩ := List.cons.inj hpieces
            obtain rfl := Except.ok.inj hchunk
            rw [List.flatten_cons, List.length_append] at hle
            refine ⟨pieces.flatten, (ih _ hfits _).mpr ⟨pieces, rfl, rfl, ?_⟩, rfl⟩
            dsimp only
            omega
      · rw [boundedChunk_over (Nat.lt_of_not_le hfits)]
        constructor
        · intro h
          cases h
        · rintro ⟨pieces, hpieces, rfl, hle⟩
          cases pieces with
          | nil => cases hpieces
          | cons piece pieces =>
            obtain ⟨hchunk, rfl⟩ := List.cons.inj hpieces
            obtain rfl := Except.ok.inj hchunk
            rw [List.flatten_cons, List.length_append] at hle
            omega

/-- where all chunks get through, the counters are those of all bytes -/
theorem countersAfter_pieces {maxBytes : Nat} (hmax : (maxBytes : Int) ≤ i64Max) (pieces : List (List UInt8))
    (c : Counters) (h : c.contentLength + pieces.flatten.length ≤ maxBytes) :
    countersAfter maxBytes c (pieces.map .ok)
      = ⟨c.contentLength + pieces.flatten.length, crc32cAppend c.checksumCrc32c pieces.flatten⟩ := by
  induction pieces generalizing c with
  | nil =>
    rw [List.flatten_nil, crc32cAppend_nil]
    rfl
  | cons piece pieces ih =>
    rw [List.flatten_cons, List.length_append] at h
    rw [List.map_cons]
    unfold countersAfter
    rw [boundedChunk_fits hmax (by omega)]
    dsimp only
    rw [ih _ (by dsimp only; omega), List.flatten_cons, List.length_append, crc32cAppend_append,
      Nat.add_assoc]

/-! ## Staging -/

structure BoundedStagingRequest where
  workspaceId : WorkspaceId
  owner : DocumentOwner
  uploadId : Uuid
  filename : String
  contentType : String
  maxBytes : Nat

variable {ι : Type} [DecidableEq ι]

namespace ObjectStores

def deleteStagedDocument (stores : ObjectStores ι) (quarantine : ι) (objectKey : String) : ObjectStores ι :=
  match ObjectKey.parse objectKey with
  | none => stores
  | some key => stores.change quarantine fun s => s.deleteObject key.text

/-- a stream into quarantine; the checksum of it is not known here -/
def stageDocument (sha256 : List UInt8 → String) (stores : ObjectStores ι) (quarantine : ι)
    (workspaceId : WorkspaceId) (owner : DocumentOwner) (uploadId : Uuid) (filename contentType : String)
    (chunks : ObjectByteStream ι) : Option (Except StorageError StagedDocument × ObjectStores ι) :=
  match stagedObjectKey workspaceId owner uploadId filename with
  | none => some (.error .invalidKey, stores)
  | some key =>
    match stores.putObject sha256 quarantine key contentType chunks with
    | none => none
    | some (.error e, stores) => some (.error e, stores)
    | some (.ok metadata, stores) =>
      if i64Max < metadata.contentLength then some (.error (.streamRead "file is too large" true), stores)
      else
        some (.ok
          { filename
            contentType := metadata.contentType
            contentLength := metadata.contentLength
            objectKey := metadata.key
            checksumSha256 := metadata.sha256
            checksumCrc32c := "" }, stores)

def stageBoundedDocument (sha256 : List UInt8 → String) (stores : ObjectStores ι) (quarantine : ι)
    (request : BoundedStagingRequest) (chunks : List (Except StorageError (List UInt8))) :
    Option (Except StorageError StagedDocument × ObjectStores ι) :=
  let counters := countersAfter request.maxBytes ⟨0, 0⟩ chunks
  match stores.stageDocument sha256 quarantine request.workspaceId request.owner request.uploadId
      request.filename request.contentType (.items (boundedChunks request.maxBytes ⟨0, 0⟩ chunks)) with
  | none => none
  | some (.error e, stores) => some (.error e, stores)
  | some (.ok staged, stores) =>
    if staged.contentLength ≠ counters.contentLength then
      some (.error (.streamRead "staged object length does not match received bytes" false),
        stores.deleteStagedDocument quarantine staged.objectKey)
    else
      some (.ok { staged with
        checksumCrc32c := Base64.encodeStandard (toBeBytes counters.checksumCrc32c) }, stores)

end ObjectStores

/-- the bytes are in quarantine, and everything that is said of them is true -/
structure StagedBytes (sha256 : List UInt8 → String) (stores : ObjectStores ι) (quarantine : ι)
    (request : BoundedStagingRequest) (key : String) (bytes : List UInt8) (staged : StagedDocument) :
    Prop where
  object : stores.readObject quarantine key
    = .ok (⟨key, request.contentType, bytes.length, sha256 bytes⟩, some bytes)
  staged : staged = ⟨request.filename, request.contentType, bytes.length, key, sha256 bytes,
    Base64.encodeStandard (toBeBytes (crc32c bytes))⟩

/-- there is no object -/
def NotStored (stores : ObjectStores ι) (quarantine : ι) (key : String) : Prop :=
  (stores quarantine).headResult key = .error .notFound ∧
    stores.readObject quarantine key = .error .notFound

section
variable {sha256 : List UInt8 → String} {stores : ObjectStores ι} {quarantine : ι}
  {request : BoundedStagingRequest} {chunks : List (Except StorageError (List UInt8))} {key : String}

theorem notStored_of_absent (h : stores.object quarantine key = .absent) : NotStored stores quarantine key := by
  have hhead : (stores quarantine).headResult key = .error .notFound := by
    rw [ObjectStores.headResult_eq, h]
    rfl
  refine ⟨hhead, ?_⟩
  rw [ObjectStores.readObject_eq, hhead]

theorem readObject_of {contentType : String} {bytes : List UInt8}
    (h : stores.object quarantine key = .of sha256 key contentType bytes) :
    stores.readObject quarantine key = .ok (⟨key, contentType, bytes.length, sha256 bytes⟩, some bytes) := by
  rw [ObjectStores.readObject_eq, ObjectStores.headResult_eq, h]
  rfl

/-- the chunks are all there and within the limit -/
theorem stageBounded_pieces (hmax : (request.maxBytes : Int) ≤ i64Max)
    (hkey : stagedObjectKey request.workspaceId request.owner request.uploadId request.filename = some key)
    {pieces : List (List UInt8)} (hfits : pieces.flatten.length ≤ request.maxBytes) :
    ∃ staged stores',
      stores.stageBoundedDocument sha256 quarantine request (pieces.map .ok) = some (.ok staged, stores') ∧
      ElsewhereIn stores stores' quarantine key ∧
      StagedBytes sha256 stores' quarantine request key pieces.flatten staged := by
  have hfits' : (⟨0, 0⟩ : Counters).contentLength + pieces.flatten.length ≤ request.maxBytes := by
    dsimp only
    omega
  have hdelivered : delivered (boundedChunks request.maxBytes ⟨0, 0⟩ (pieces.map .ok))
      = some pieces.flatten :=
    (delivered_boundedChunks hmax _ ⟨0, 0⟩ (Nat.zero_le _) _).mpr ⟨pieces, rfl, rfl, hfits'⟩
  have hloop : (stores.putLoop quarantine key
      (.items (boundedChunks request.maxBytes ⟨0, 0⟩ (pieces.map .ok)))).1 = some (.ok pieces.flatten) := by
    refine (ObjectStores.putLoop_items_ok_iff _).mpr ⟨hdelivered, ?_⟩
    unfold i64Max at hmax
    unfold maxContentLength
    omega
  obtain ⟨stores', hput, helsewhere, hobject⟩ := ObjectStores.putObject_written sha256 request.contentType hloop
  have hlength : ¬ i64Max < ((pieces.flatten.length : Nat) : Int) := by omega
  refine ⟨_, stores', ?_, helsewhere, readObject_of hobject, rfl⟩
  unfold ObjectStores.stageBoundedDocument ObjectStores.stageDocument
  rw [hkey]
  dsimp only
  rw [hput]
  dsimp only
  rw [if_neg hlength]
  dsimp only
  rw [countersAfter_pieces hmax pieces ⟨0, 0⟩ hfits', Nat.zero_add, if_neg (not_not.mpr rfl)]
  rfl

/-- a chunk fails, or they are too many -/
theorem stageBounded_refused (hmax : (request.maxBytes : Int) ≤ i64Max)
    (hkey : stagedObjectKey request.workspaceId request.owner request.uploadId request.filename = some key)
    (hfresh : stores.object quarantine key = .absent)
    (h : ¬ ∃ pieces : List (List UInt8), chunks = pieces.map .ok ∧ pieces.flatten.length ≤ request.maxBytes) :
    ∃ e stores', stores.stageBoundedDocument sha256 quarantine request chunks = some (.error e, stores') ∧
      ElsewhereIn stores stores' quarantine key ∧ NotStored stores' quarantine key := by
  have hfailed : ∃ e, (stores.putLoop quarantine key
      (.items (boundedChunks request.maxBytes ⟨0, 0⟩ chunks))).1 = some (.error e) := by
    cases hloop : (stores.putLoop quarantine key
        (.items (boundedChunks request.maxBytes ⟨0, 0⟩ chunks))).1 with
    | none => exact absurd hloop (ObjectStores.putLoop_items_ends)
    | some r =>
      cases r with
      | error e => exact ⟨e, rfl⟩
      | ok bytes =>
        obtain ⟨pieces, hpieces, rfl, hle⟩ := (delivered_boundedChunks hmax _ ⟨0, 0⟩ (Nat.zero_le _) _).mp
          ((ObjectStores.putLoop_items_ok_iff _).mp hloop).1
        dsimp only at hle
        exact absurd ⟨pieces, hpieces, by omega⟩ h
  obtain ⟨e, hloop⟩ := hfailed
  obtain ⟨stores', hput, helsewhere, hobject⟩ := ObjectStores.putObject_failed sha256 request.contentType hloop
  rw [hfresh] at hobject
  refine ⟨e, stores', ?_, helsewhere, notStored_of_absent hobject⟩
  unfold ObjectStores.stageBoundedDocument ObjectStores.stageDocument
  rw [hkey]
  dsimp only
  rw [hput]

end

/-- **Whatever the chunks: a bounded upload under a fresh key succeeds exactly when every chunk is there and
they are within the limit.  Then the stored bytes are all of them, and length and digests are theirs; else
no object is left.** -/
theorem bounded_staging (sha256 : List UInt8 → String) (stores : ObjectStores ι) (quarantine : ι)
    (request : BoundedStagingRequest) (chunks : List (Except StorageError (List UInt8)))
    (hmax : (request.maxBytes : Int) ≤ i64Max) (hname : DocumentFilename request.filename) :
    ∃ k : ObjectKey,
      stagedObjectKey request.workspaceId request.owner request.uploadId request.filename = some k.text ∧
      (stores.object quarantine k.text = .absent →
        ∃ result stores',
          stores.stageBoundedDocument sha256 quarantine request chunks = some (result, stores') ∧
          ElsewhereIn stores stores' quarantine k.text ∧
          ((∃ staged, result = .ok staged) ↔
            ∃ pieces : List (List UInt8), chunks = pieces.map .ok ∧
              pieces.flatten.length ≤ request.maxBytes) ∧
          (∀ staged, result = .ok staged →
            ∃ pieces : List (List UInt8), chunks = pieces.map .ok ∧
              StagedBytes sha256 stores' quarantine request k.text pieces.flatten staged ∧
              ∀ (σ : Type) (H : RunningHash σ), H.Computes sha256 →
                ∃ d, (ObjectDigest.new H).run H pieces = .ok d ∧
                  d.finish H = (pieces.flatten.length, staged.checksumSha256)) ∧
          ∀ e, result = .error e → NotStored stores' quarantine k.text) := by
  obtain ⟨k, hkey⟩ := stagedObjectKey_some request.workspaceId request.owner request.uploadId hname
  refine ⟨k, hkey, fun hfresh => ?_⟩
  by_cases h : ∃ pieces : List (List UInt8), chunks = pieces.map .ok ∧
      pieces.flatten.length ≤ request.maxBytes
  · have hpieces := h
    obtain ⟨pieces, rfl, hfits⟩ := hpieces
    obtain ⟨staged, stores', hstage, helsewhere, hstaged⟩ :=
      @stageBounded_pieces _ _ sha256 stores quarantine _ _ hmax hkey _ hfits
    refine ⟨.ok staged, stores', hstage, helsewhere, iff_of_true ⟨staged, rfl⟩ h, ?_, ?_⟩
    · intro staged' hok
      obtain rfl := Except.ok.inj hok
      refine ⟨pieces, rfl, hstaged, fun σ H hH => ?_⟩
      have hcounted : pieces.flatten.length < maxContentLength := by
        unfold i64Max at hmax
        unfold maxContentLength
        omega
      obtain ⟨d, hrun, hfinish⟩ := objectDigest_run hH hcounted
      rw [hstaged.staged]
      exact ⟨d, hrun, hfinish⟩
    · intro e herror
      cases herror
  · obtain ⟨e, stores', hstage, helsewhere, hgone⟩ :=
      @stageBounded_refused _ _ sha256 _ _ _ _ _ hmax hkey hfresh h
    refine ⟨.error e, stores', hstage, helsewhere, iff_of_false ?_ h, ?_, fun _ _ => hgone⟩
    · rintro ⟨staged, hok⟩
      cases hok
    · intro staged hok
      cases hok

theorem bounded_staging_report :
    ∃ (k : ObjectKey) (staged : StagedDocument) (stores' : ObjectStores Unit),
      ObjectStores.stageBoundedDocument (fun _ => "") (fun _ => .empty) ()
        ⟨⟨1⟩, .policy ⟨7⟩, 11, "report.pdf", "application/pdf", 3⟩ [.ok [1, 2], .ok [], .ok [3]]
        = some (.ok staged, stores') ∧
      stagedObjectKey ⟨1⟩ (.policy ⟨7⟩) 11 "report.pdf" = some k.text := by
  have hname : DocumentFilename "report.pdf" := documentFilename_iff.mp (by decide)
  obtain ⟨k, hkey, hstaging⟩ := bounded_staging (fun _ => "") (fun _ : Unit => .empty) ()
    ⟨⟨1⟩, .policy ⟨7⟩, 11, "report.pdf", "application/pdf", 3⟩ [.ok [1, 2], .ok [], .ok [3]] (by decide) hname
  obtain ⟨result, stores', hstage, -, hiff, -⟩ := hstaging rfl
  obtain ⟨staged, rfl⟩ := hiff.mpr ⟨[[1, 2], [], [3]], rfl, by decide⟩
  exact ⟨k, staged, stores', hstage, hkey⟩

end Proofplane
