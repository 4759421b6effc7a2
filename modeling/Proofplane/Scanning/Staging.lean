import Proofplane.Base.WriteOnce
import Proofplane.Scanning.Delivery

/-!
# The files of staged uploads

Upload ids are random, so an upload has its key to itself: the file under it is the one that the upload
has made, as long as it is there, and nobody but the upload writes to that file.

* `Made`, `Closed`      the file that an upload has made, and that it has ceased to write to;
* `StagingMove`         all that one step of an upload can do, `stagingStep_move`;
* `StagingInv`          every file in quarantine belongs to its upload;
* `StagingKept`         **a file that its upload has ceased to write to does not change**.
-/

namespace Proofplane
open Base

/-- the upload does not write to its file any more -/
def StagingPhase.closed : StagingPhase → Bool
  | .creating => false
  | .copying _ _ => false
  | _ => true

abbrev Uploads := Table StagedUpload.uploadId

/-- an upload has made this file under its key -/
def Made (uploads : Uploads) (key : String) (n : Nat) : Prop :=
  ∃ u ∈ uploads.rows, u.objectKey = key ∧ u.file = some n

/-- the same, and it has ceased to write to it -/
def Closed (uploads : Uploads) (key : String) (n : Nat) : Prop :=
  ∃ u ∈ uploads.rows, u.objectKey = key ∧ u.file = some n ∧ u.phase.closed = true

theorem Closed.made {uploads : Uploads} {key : String} {n : Nat} (h : Closed uploads key n) :
    Made uploads key n := by
  obtain ⟨u, hu, hkey, hfile, -⟩ := h
  exact ⟨u, hu, hkey, hfile⟩

/-- **An upload has its key to itself.** -/
theorem upload_eq_of_key {uploads : Uploads} {u v : StagedUpload} (hu : u ∈ uploads.rows)
    (hv : v ∈ uploads.rows) (h : u.objectKey = v.objectKey) : u = v := by
  have hkey := v.key_eq
  rw [← h] at hkey
  exact uploads.eq_of_key hu hv (stagedObjectKey_inj u.key_eq hkey)

/-- what an upload knows of its file -/
def StagedUpload.Writes (sha256 : List UInt8 → String) (s : FilesystemObjectStore) (u : StagedUpload) : Prop :=
  match u.phase with
  | .creating => u.file = none
  | .copying file written => u.file = some file ∧ s.objects.nodes file = written
  | .describing written => ∃ file, u.file = some file ∧ s.objects.nodes file = written
  | .describingFile written _ => ∃ file, u.file = some file ∧ s.objects.nodes file = written
  | .staged document => ∃ file, u.file = some file ∧ document.objectKey = u.objectKey ∧
      document.contentLength = (s.objects.nodes file).length ∧ document.contentLength ≤ i64Max ∧
      document.checksumSha256 = sha256 (s.objects.nodes file)
  | _ => True

/-- it depends on that file only -/
theorem StagedUpload.Writes.congr {sha256 : List UInt8 → String} {s s' : FilesystemObjectStore}
    {u : StagedUpload} (h : u.Writes sha256 s)
    (hnodes : ∀ n, u.file = some n → s'.objects.nodes n = s.objects.nodes n) : u.Writes sha256 s' := by
  unfold Writes at *
  split
  · next hphase =>
    rw [hphase] at h
    exact h
  · next file written hphase =>
    rw [hphase] at h
    exact ⟨h.1, (hnodes file h.1).trans h.2⟩
  · next written hphase =>
    rw [hphase] at h
    obtain ⟨file, hfile, hwritten⟩ := h
    exact ⟨file, hfile, (hnodes file hfile).trans hwritten⟩
  · next written metadataFile hphase =>
    rw [hphase] at h
    obtain ⟨file, hfile, hwritten⟩ := h
    exact ⟨file, hfile, (hnodes file hfile).trans hwritten⟩
  · next document hphase =>
    rw [hphase] at h
    obtain ⟨file, hfile, hkey, hlength, hmax, hsum⟩ := h
    refine ⟨file, hfile, hkey, ?_, hmax, ?_⟩
    · rw [hnodes file hfile]
      exact hlength
    · rw [hnodes file hfile]
      exact hsum
  · exact trivial

/-! ## One step of an upload -/

/-- all that one step of an upload can do: it goes on or stops, makes its file, or writes to it -/
inductive StagingMove (sha256 : List UInt8 → String) (s s' : FilesystemObjectStore) (u u' : StagedUpload) : Prop
  | kept (phase : StagingPhase) (hs : s.objects.Unlinked s'.objects) (hu : u' = { u with phase })
      (hclosed : phase.closed = true) (hwrites : u.Writes sha256 s → u'.Writes sha256 s) :
      StagingMove sha256 s s' u u'
  | created (hphase : u.phase = .creating) (hs : s' = s.truncateObject u.objectKey)
      (hu : u' = { u with
        file := some (s.objects.created u.objectKey)
        phase := .copying (s.objects.created u.objectKey) [] }) : StagingMove sha256 s s' u u'
  | wrote (file : Nat) (written chunk : List UInt8) (phase : StagingPhase)
      (hphase : u.phase = .copying file written) (hs : s' = s.writeChunk file written.length chunk)
      (hu : u' = { u with phase }) (hp : phase = .discarding ∨ phase = .copying file (written ++ chunk)) :
      StagingMove sha256 s s' u u'

section
variable {sha256 : List UInt8 → String} {s s' : FilesystemObjectStore} {u u' : StagedUpload}

theorem StagingMove.uploadId (h : StagingMove sha256 s s' u u') :
    u'.uploadId = u.uploadId ∧ u'.objectKey = u.objectKey := by
  cases h with
  | kept phase hs hu hclosed hwrites =>
    subst hu
    exact ⟨rfl, rfl⟩
  | created hphase hs hu =>
    subst hu
    exact ⟨rfl, rfl⟩
  | wrote file written chunk phase hphase hs hu hp =>
    subst hu
    exact ⟨rfl, rfl⟩

/-- an upload that gives up or stops -/
theorem stagingMove_over {phase : StagingPhase} (h : phase = .discarding ∨ phase = .stopped)
    (hs : s.objects.Unlinked s'.objects) : StagingMove sha256 s s' u { u with phase } := by
  rcases h with rfl | rfl
  · exact .kept .discarding hs rfl rfl fun _ => trivial
  · exact .kept .stopped hs rfl rfl fun _ => trivial

/-- what `stage_document` returns is true of the file -/
theorem writes_staged {written : List UInt8} {metadataFile : Nat}
    (hphase : u.phase = .describingFile written metadataFile) (h : u.Writes sha256 s) :
    ({ u with phase := u.stagedPhase sha256 written } : StagedUpload).Writes sha256 s ∧
      (u.stagedPhase sha256 written).closed = true := by
  unfold StagedUpload.Writes at h
  rw [hphase] at h
  obtain ⟨file, hfile, hwritten⟩ := h
  unfold StagedUpload.stagedPhase
  split
  · exact ⟨trivial, rfl⟩
  · next hmax =>
    refine ⟨⟨file, hfile, rfl, ?_, Int.not_lt.mp hmax, ?_⟩, rfl⟩
    · rw [hwritten]
    · rw [hwritten]

/-- **All that one step of an upload can do.** -/
theorem stagingStep_move {e : StagingEvent} (h : stagingStep sha256 s u e = some (s', u')) :
    StagingMove sha256 s s' u u' := by
  unfold stagingStep at h
  split at h
  case h_1 => cases h
  case h_2 =>
    cases h
    exact stagingMove_over (.inr rfl) (.refl _)
  case h_3 result hphase =>
    cases result with
    | directoryFailed =>
      cases h
      exact stagingMove_over (.inr rfl) (.refl _)
    | failed =>
      cases h
      exact stagingMove_over (.inl rfl) (.refl _)
    | created =>
      cases h
      exact .created hphase rfl rfl
  case h_4 file written chunk fault hphase =>
    cases fault with
    | read =>
      cases h
      exact stagingMove_over (.inl rfl) (.refl _)
    | write part =>
      cases h
      exact .wrote file written _ _ hphase rfl rfl (.inl rfl)
    | none =>
      cases h
      refine .wrote file written chunk _ hphase rfl rfl ?_
      split
      · exact .inl rfl
      · exact .inr rfl
  case h_5 file written ok hphase =>
    cases h
    cases ok with
    | false => exact stagingMove_over (.inl rfl) (.refl _)
    | true =>
      refine .kept (.describing written) (.refl _) rfl rfl fun hw => ?_
      unfold StagedUpload.Writes at hw ⊢
      rw [hphase] at hw
      exact ⟨file, hw⟩
  case h_6 ok hphase =>
    cases h
    refine stagingMove_over (.inr rfl) ?_
    cases ok with
    | false => exact .refl _
    | true => exact Files.unlinked_remove _ _
  case h_7 written result hphase =>
    cases result with
    | directoryFailed =>
      cases h
      exact stagingMove_over (.inr rfl) (.refl _)
    | failed =>
      cases h
      exact stagingMove_over (.inl rfl) (.refl _)
    | created =>
      cases h
      refine .kept _ (.refl _) rfl rfl fun hw => ?_
      unfold StagedUpload.Writes at hw ⊢
      rw [hphase] at hw
      exact hw
  case h_8 written metadataFile ok hphase =>
    split at h
    · cases h
      refine .kept _ (.refl _) rfl ?_ fun hw => (writes_staged hphase hw).1
      unfold StagedUpload.stagedPhase
      split
      · rfl
      · rfl
    · cases h
      exact stagingMove_over (.inl rfl) (.refl _)
  case h_9 => cases h

end

/-! ## All uploads -/

/-- every file in quarantine belongs to its upload -/
structure StagingInv (sha256 : List UInt8 → String) (s : FilesystemObjectStore) (uploads : Uploads) : Prop where
  files : WriteOnce s.objects (Made uploads)
  writes : ∀ u ∈ uploads.rows, u.Writes sha256 s

/-- files that are closed stay as they are -/
structure StagingKept (s s' : FilesystemObjectStore) (uploads uploads' : Uploads) : Prop where
  closed : ∀ key n, Closed uploads key n → Closed uploads' key n
  nodes : ∀ key n, Closed uploads key n → s'.objects.nodes n = s.objects.nodes n

section
variable {sha256 : List UInt8 → String} {s s' : FilesystemObjectStore} {uploads : Uploads}
  {u u' : StagedUpload}

theorem StagingKept.refl (s : FilesystemObjectStore) (uploads : Uploads) :
    StagingKept s s uploads uploads :=
  ⟨fun _ _ h => h, fun _ _ _ => rfl⟩

/-- what was made before a step of an upload, and what it makes -/
theorem made_upsert (hid : u'.uploadId = u.uploadId) (hkey : u'.objectKey = u.objectKey) (hu : u ∈ uploads.rows)
    (key : String) (n : Nat) :
    Made (uploads.upsert u') key n ↔
      (∃ v ∈ uploads.rows, v ≠ u ∧ v.objectKey = key ∧ v.file = some n) ∨
        u.objectKey = key ∧ u'.file = some n := by
  constructor
  · rintro ⟨v, hv, hvkey, hfile⟩
    rcases Table.mem_upsert.mp hv with rfl | ⟨hvm, hne⟩
    · exact .inr ⟨hkey.symm.trans hvkey, hfile⟩
    · refine .inl ⟨v, hvm, ?_, hvkey, hfile⟩
      rintro rfl
      exact hne hid.symm
  · rintro (⟨v, hv, hne, hvkey, hfile⟩ | ⟨hukey, hfile⟩)
    · refine ⟨v, Table.mem_upsert.mpr (.inr ⟨hv, ?_⟩), hvkey, hfile⟩
      intro heq
      exact hne (uploads.eq_of_key hv hu (heq.trans hid))
    · exact ⟨u', Table.mem_upsert.mpr (.inl rfl), hkey.trans hukey, hfile⟩

/-- a step that leaves the file of an upload where it was makes nothing new -/
theorem made_upsert_same (hid : u'.uploadId = u.uploadId) (hkey : u'.objectKey = u.objectKey)
    (hu : u ∈ uploads.rows) (hfile : u'.file = u.file) (key : String) (n : Nat) :
    Made (uploads.upsert u') key n ↔ Made uploads key n := by
  rw [made_upsert hid hkey hu, hfile]
  constructor
  · rintro (⟨v, hv, -, hvkey, hvfile⟩ | ⟨hukey, hufile⟩)
    · exact ⟨v, hv, hvkey, hvfile⟩
    · exact ⟨u, hu, hukey, hufile⟩
  · rintro ⟨v, hv, hvkey, hvfile⟩
    by_cases hne : v = u
    · subst hne
      exact .inr ⟨hvkey, hvfile⟩
    · exact .inl ⟨v, hv, hne, hvkey, hvfile⟩

/-- a closed file of another upload -/
theorem closed_upsert (hid : u'.uploadId = u.uploadId) (hkey : u'.objectKey = u.objectKey) (hu : u ∈ uploads.rows)
    (hfile : u.phase.closed = true → u'.file = u.file ∧ u'.phase.closed = true) {key : String} {n : Nat}
    (h : Closed uploads key n) : Closed (uploads.upsert u') key n := by
  obtain ⟨v, hv, hvkey, hvfile, hclosed⟩ := h
  by_cases hne : v = u
  · subst hne
    obtain ⟨hsame, hclosed'⟩ := hfile hclosed
    exact ⟨u', Table.mem_upsert.mpr (.inl rfl), hkey.trans hvkey, hsame.trans hvfile, hclosed'⟩
  · refine ⟨v, Table.mem_upsert.mpr (.inr ⟨hv, ?_⟩), hvkey, hvfile, hclosed⟩
    intro heq
    exact hne (uploads.eq_of_key hv hu (heq.trans hid))

/-- **One step of an upload**: the files of the others stay as they are. -/
theorem StagingInv.move (hi : StagingInv sha256 s uploads) (hu : u ∈ uploads.rows)
    (h : StagingMove sha256 s s' u u') :
    StagingInv sha256 s' (uploads.upsert u') ∧ StagingKept s s' uploads (uploads.upsert u') := by
  obtain ⟨hid, hkey⟩ := h.uploadId
  -- who has a file has it to itself
  have halone : ∀ v ∈ uploads.rows, v ≠ u → ∀ n, v.file = some n → u.file ≠ some n := by
    intro v hv hne n hvfile hufile
    exact hne (upload_eq_of_key hv hu (hi.files.separate _ _ n ⟨v, hv, rfl, hvfile⟩ ⟨u, hu, rfl, hufile⟩))
  cases h with
  | kept phase hs hu' hclosed hwrites =>
    have hmade : ∀ key n, Made (uploads.upsert u') key n ↔ Made uploads key n :=
      made_upsert_same hid hkey hu (by rw [hu'])
    refine ⟨⟨(hi.files.unlinked hs).congr hmade, ?_⟩, ⟨?_, ?_⟩⟩
    · intro v hv
      have hnodes : ∀ n, v.file = some n → s'.objects.nodes n = s.objects.nodes n := by
        intro n _
        rw [hs.nodes]
      rcases Table.mem_upsert.mp hv with rfl | ⟨hvm, -⟩
      · exact (hwrites (hi.writes u hu)).congr hnodes
      · exact (hi.writes v hvm).congr hnodes
    · intro key n hc
      exact closed_upsert hid hkey hu (fun _ => by rw [hu']; exact ⟨rfl, hclosed⟩) hc
    · intro key n _
      rw [hs.nodes]
  | created hphase hs hu' =>
    have hnone : u.file = none := by
      have hw := hi.writes u hu
      unfold StagedUpload.Writes at hw
      rw [hphase] at hw
      exact hw
    -- the key was never used: the upload that has it has made no file yet
    have hnew : ∀ n, ¬ Made uploads u.objectKey n := by
      rintro n ⟨v, hv, hvkey, hvfile⟩
      rw [upload_eq_of_key hv hu hvkey, hnone] at hvfile
      cases hvfile
    have hcreated : s.objects.created u.objectKey = s.objects.next := hi.files.created hnew
    have hnodes : ∀ key n, Made uploads key n → s'.objects.nodes n = s.objects.nodes n := by
      intro key n hmade
      rw [hs]
      exact hi.files.nodes_create hnew hmade []
    refine ⟨⟨?_, ?_⟩, ⟨?_, ?_⟩⟩
    · rw [hs]
      refine (hi.files.create hnew []).congr fun key n => ?_
      have hufile : u'.file = some n ↔ n = s.objects.next := by
        rw [hu', ← hcreated]
        exact ⟨fun h => (Option.some.inj h).symm, fun h => congrArg some h.symm⟩
      rw [made_upsert hid hkey hu, hufile]
      constructor
      · rintro (⟨v, hv, -, hvkey, hvfile⟩ | ⟨hukey, hn⟩)
        · exact .inl ⟨v, hv, hvkey, hvfile⟩
        · exact .inr ⟨hukey.symm, hn⟩
      · rintro (⟨v, hv, hvkey, hvfile⟩ | ⟨hukey, hn⟩)
        · refine .inl ⟨v, hv, ?_, hvkey, hvfile⟩
          rintro rfl
          rw [hnone] at hvfile
          cases hvfile
        · exact .inr ⟨hukey.symm, hn⟩
    · intro v hv
      rcases Table.mem_upsert.mp hv with rfl | ⟨hvm, -⟩
      · rw [hu', hs]
        exact ⟨rfl, Files.nodes_create_self _ _ _⟩
      · exact (hi.writes v hvm).congr fun n hvfile => hnodes _ n ⟨v, hvm, rfl, hvfile⟩
    · intro key n hc
      refine closed_upsert hid hkey hu (fun hclosed => ?_) hc
      rw [hphase] at hclosed
      cases hclosed
    · intro key n hc
      exact hnodes key n hc.made
  | wrote file written chunk phase hphase hs hu' hp =>
    obtain ⟨hfile, hwritten⟩ : u.file = some file ∧ s.objects.nodes file = written := by
      have hw := hi.writes u hu
      unfold StagedUpload.Writes at hw
      rw [hphase] at hw
      exact hw
    have hnodes : ∀ n, n ≠ file → s'.objects.nodes n = s.objects.nodes n := by
      intro n hne
      rw [hs]
      exact Function.update_of_ne hne _ _
    refine ⟨⟨?_, ?_⟩, ⟨?_, ?_⟩⟩
    · rw [hs]
      exact (hi.files.write file _).congr (made_upsert_same hid hkey hu (by rw [hu']))
    · intro v hv
      rcases Table.mem_upsert.mp hv with rfl | ⟨hvm, hne⟩
      · rw [hu']
        rcases hp with rfl | rfl
        · exact trivial
        · refine ⟨hfile, ?_⟩
          rw [hs]
          show Function.update s.objects.nodes file _ file = _
          rw [Function.update_self, hwritten, overwrite_end]
      · refine (hi.writes v hvm).congr fun n hvfile => hnodes n ?_
        rintro rfl
        refine halone v hvm ?_ n hvfile hfile
        rintro rfl
        exact hne hid.symm
    · intro key n hc
      refine closed_upsert hid hkey hu (fun hclosed => ?_) hc
      rw [hphase] at hclosed
      cases hclosed
    · rintro key n ⟨v, hv, -, hvfile, hclosed⟩
      refine hnodes n ?_
      rintro rfl
      refine halone v hv ?_ n hvfile hfile
      rintro rfl
      rw [hphase] at hclosed
      cases hclosed

/-- names may go -/
theorem StagingInv.unlinked (hi : StagingInv sha256 s uploads) (hs : s.objects.Unlinked s'.objects) :
    StagingInv sha256 s' uploads ∧ StagingKept s s' uploads uploads := by
  have hnodes : ∀ n, s'.objects.nodes n = s.objects.nodes n := by
    intro n
    rw [hs.nodes]
  exact ⟨⟨hi.files.unlinked hs, fun u hu => (hi.writes u hu).congr fun n _ => hnodes n⟩,
    ⟨fun _ _ h => h, fun _ n _ => hnodes n⟩⟩

/-- an upload comes in, under an id that no other has -/
theorem StagingInv.begin (hi : StagingInv sha256 s uploads) (hnew : ∀ v ∈ uploads.rows, v.uploadId ≠ u.uploadId)
    (hfile : u.file = none) (hphase : u.phase = .creating) :
    StagingInv sha256 s (uploads.upsert u) ∧ StagingKept s s uploads (uploads.upsert u) := by
  have hmem : ∀ v, v ∈ (uploads.upsert u).rows ↔ v = u ∨ v ∈ uploads.rows := by
    intro v
    rw [Table.mem_upsert]
    exact or_congr_right ⟨fun h => h.1, fun h => ⟨h, hnew v h⟩⟩
  refine ⟨⟨hi.files.congr fun key n => ⟨?_, ?_⟩, ?_⟩, ⟨?_, fun _ _ _ => rfl⟩⟩
  · rintro ⟨v, hv, hkey, hvfile⟩
    rcases (hmem v).mp hv with rfl | hvm
    · rw [hfile] at hvfile
      cases hvfile
    · exact ⟨v, hvm, hkey, hvfile⟩
  · rintro ⟨v, hv, hkey, hvfile⟩
    exact ⟨v, (hmem v).mpr (.inr hv), hkey, hvfile⟩
  · intro v hv
    rcases (hmem v).mp hv with rfl | hvm
    · unfold StagedUpload.Writes
      rw [hphase]
      exact hfile
    · exact hi.writes v hvm
  · rintro key n ⟨v, hv, hkey, hvfile, hclosed⟩
    exact ⟨v, (hmem v).mpr (.inr hv), hkey, hvfile, hclosed⟩

theorem stagingInv_empty : StagingInv sha256 .empty .empty where
  files := (writeOnce_empty []).congr fun _ _ =>
    ⟨fun ⟨u, hu, _⟩ => absurd hu (Table.mem_rows_empty u), False.elim⟩
  writes := fun u hu => absurd hu (Table.mem_rows_empty u)

end

end Proofplane
