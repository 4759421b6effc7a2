import Proofplane.Finalization.Delivery

/-!
# What a delivery can do

* `DocumentsAdvance`            what a command does to the stored documents;
* `DeliveryPhase.holds` from the opening of its destination to its unit of work a delivery may change the
                        destination;
* `HolderOk`            what it then knows of it;
* `deliveryStep_move`   **all that one step of a delivery can do**.
-/

namespace Proofplane
open Base

/-! ## What a command does to documents -/

/-- how a command moves a stored document -/
inductive DocumentAdvance (effect : DocumentEffect) (d d' : Document) : Prop
  | same (h : d'.uploadWork = d.uploadWork) (hs : d'.uploadStatus = d.uploadStatus) : DocumentAdvance effect d d'
  | scanned (h : d'.uploadWork = d.uploadWork) (hs : d.uploadStatus = .pendingUpload)
      (hs' : d'.uploadStatus ≠ .uploaded) : DocumentAdvance effect d d'
  | finalized (key : String) (he : effect = .finalized d.identity d.objectKey key)
      (h : d'.uploadWork = { d.uploadWork with objectKey := key }) (hs : d.uploadStatus = .finalizing)
      (hs' : d'.uploadStatus = .uploaded) : DocumentAdvance effect d d'

/-- every document goes on, and none comes from nowhere -/
structure DocumentsAdvance (effect : DocumentEffect) (db db' : DocumentDb) : Prop where
  forward : ∀ d ∈ db.documents.rows, ∃ d' ∈ db'.documents.rows, DocumentAdvance effect d d'
  back : ∀ d' ∈ db'.documents.rows, ∃ d ∈ db.documents.rows, DocumentAdvance effect d d'

theorem advances_of_eq {db db' : DocumentDb} (effect : DocumentEffect)
    (h : db'.documents = db.documents) : DocumentsAdvance effect db db' := by
  refine ⟨?_, ?_⟩
  · intro d hd
    rw [h]
    exact ⟨d, hd, .same rfl rfl⟩
  · intro d hd
    rw [h] at hd
    exact ⟨d, hd, .same rfl rfl⟩

theorem advances_moved {effect : DocumentEffect} {db db' : DocumentDb} {d d' : Document}
    (hm : Moved db db' d d') (h : DocumentAdvance effect d d'.toRow) : DocumentsAdvance effect db db' := by
  refine ⟨?_, ?_⟩
  · intro x hx
    rw [hm.documents]
    by_cases hxd : x.id = d'.id
    · have heq : x = d := db.documents.eq_of_key hx hm.mem (hxd.trans hm.id_eq)
      subst heq
      exact ⟨d'.toRow, Table.mem_upsert.mpr (.inl rfl), h⟩
    · exact ⟨x, Table.mem_upsert.mpr (.inr ⟨hx, hxd⟩), .same rfl rfl⟩
  · intro x hx
    rw [hm.documents] at hx
    rcases Table.mem_upsert.mp hx with rfl | ⟨hxm, -⟩
    · exact ⟨d, hm.mem, h⟩
    · exact ⟨x, hxm, .same rfl rfl⟩

theorem advances_move {effect : DocumentEffect} {db db' : DocumentDb}
    (h : DocumentMove db db' effect) (hnot : ∀ d, effect ≠ .created d) : DocumentsAdvance effect db db' := by
  cases h with
  | unchanged hd => exact advances_of_eq _ hd
  | created d => exact absurd rfl (hnot d)
  | scanned d result ha hstatus hm =>
    refine advances_moved hm (.scanned rfl hstatus ?_)
    cases result with
    | clean => simp [Document.toRow, ScanDocumentResult.status]
    | malicious => simp [Document.toRow, ScanDocumentResult.status]
    | failed => simp [Document.toRow, ScanDocumentResult.status]
  | finalized d key ha hstatus hm => exact advances_moved hm (.finalized key rfl rfl hstatus rfl)
  | archived d ha ht hm => exact advances_moved hm (.same rfl rfl)

/-! ## Destinations -/

/-- from the opening of its destination to its unit of work a delivery may change the destination -/
def DeliveryPhase.holds : DeliveryPhase → Bool
  | .copying _ _ _ _ => true
  | .discarding => true
  | .describing _ _ => true
  | .describingFile _ _ _ => true
  | .deletingObject => true
  | .deletingMetadata => true
  | .finalizing => true
  | _ => false

/-- what a delivery that has opened its destination knows of it -/
def HolderOk (sha256 : List UInt8 → String) (store : FilesystemObjectStore) (x : Delivery) : Prop :=
  match x.phase with
  | .copying _ _ file written =>
    store.objects.entries x.destination = some file ∧ store.objects.nodes file = written
  | .describing _ written => store.objects.get x.destination = some written
  | .describingFile _ written file =>
    store.objects.get x.destination = some written ∧
      store.metadata.entries x.destination = some file
  | .finalizing =>
    ∃ bytes, store.objects.get x.destination = some bytes ∧
      bytes.length = asU64 x.work.contentLength ∧ sha256 bytes = x.work.checksumSha256 ∧
      store.metadata.get x.destination
        = some (some ⟨x.destination, x.work.contentType, bytes.length, x.work.checksumSha256⟩)
  | _ => True

/-! ## One step of a delivery -/

section
variable {sha256 : List UInt8 → String} {w w' : FinalizationWorld} {x : Delivery}
  {e : DeliveryEvent} {phase phase' : DeliveryPhase}

/-- a step that leaves the tables alone, and of the evidence store everything but the destination -/
structure Confined (sha256 : List UInt8 → String) (w w' : FinalizationWorld) (x : Delivery)
    (phase' : DeliveryPhase) : Prop where
  db : w'.db = w.db
  deliveries : w'.deliveries = w.deliveries
  idle : x.phase.holds = false → w'.evidence = w.evidence ∧ phase'.holds = false
  held : x.phase.holds = true → HolderOk sha256 w.evidence x →
    FilesystemObjectStore.Elsewhere w.evidence w'.evidence x.destination ∧
      HolderOk sha256 w'.evidence { x with phase := phase' }
  source : phase' = .deletingSource ∨ phase' = .deletingSourceMetadata → x.phase = .deletingSource
  quarantine : ∀ key, FilesystemObjectStore.Deleted w.quarantine w'.quarantine key →
    (x.phase = .deletingSource ∨ x.phase = .deletingSourceMetadata) ∧ key = x.work.objectKey

/-- all that one step of a delivery can do -/
inductive DeliveryMove (sha256 : List UInt8 → String) (w w' : FinalizationWorld) (x : Delivery)
    (e : DeliveryEvent) (phase' : DeliveryPhase) : Prop
  | confined (h : Confined sha256 w w' x phase') : DeliveryMove sha256 w w' x e phase'
  | seized (result : CreateResult) (he : e = .createDestination result)
      (hresult : result ≠ .directoryFailed) (hidle : x.phase.holds = false) (evidence' : FilesystemObjectStore)
      (hw : w' = { w with evidence := evidence' })
      (hel : FilesystemObjectStore.Elsewhere w.evidence evidence' x.destination)
      (hok : HolderOk sha256 evidence' { x with phase := phase' })
      (hsource : phase' ≠ .deletingSource ∧ phase' ≠ .deletingSourceMetadata) :
      DeliveryMove sha256 w w' x e phase'
  | finalized (fault : CommitFault) (hphase : x.phase = .finalizing)
      (hw : w' = { w with db := (committed fault w.db (finalizeDocument w.db
        ⟨x.work.identity, x.work.objectKey, x.destination⟩)).2 })
      (hphase' : phase' = finalizedPhase (committed fault w.db (finalizeDocument w.db
        ⟨x.work.identity, x.work.objectKey, x.destination⟩)).1) :
      DeliveryMove sha256 w w' x e phase'

theorem holderOk_idle {store : FilesystemObjectStore} (h : phase.holds = false) :
    HolderOk sha256 store { x with phase } := by
  cases phase <;> first | exact trivial | cases h

/-- a delivery that stops, or goes on reading -/
theorem confined_idle (h : phase'.holds = false)
    (hs : phase' ≠ .deletingSource ∧ phase' ≠ .deletingSourceMetadata) :
    Confined sha256 w w x phase' where
  db := rfl
  deliveries := rfl
  idle := fun _ => ⟨rfl, h⟩
  held := fun _ _ => ⟨.refl _ _, holderOk_idle h⟩
  source := by
    intro hp
    rcases hp with hp | hp
    · exact absurd hp hs.1
    · exact absurd hp hs.2
  quarantine := fun _ hdel => absurd hdel (FilesystemObjectStore.not_deleted _ _)

/-- a change of the evidence store by a delivery that holds its destination -/
theorem confined_held (evidence' : FilesystemObjectStore) (hx : x.phase.holds = true)
    (hs : phase' ≠ .deletingSource ∧ phase' ≠ .deletingSourceMetadata)
    (held : HolderOk sha256 w.evidence x →
      FilesystemObjectStore.Elsewhere w.evidence evidence' x.destination ∧
        HolderOk sha256 evidence' { x with phase := phase' }) :
    Confined sha256 w { w with evidence := evidence' } x phase' where
  db := rfl
  deliveries := rfl
  idle := by
    intro h
    rw [hx] at h
    cases h
  held := fun _ hok => held hok
  source := by
    intro hp
    rcases hp with hp | hp
    · exact absurd hp hs.1
    · exact absurd hp hs.2
  quarantine := fun _ hdel => absurd hdel (FilesystemObjectStore.not_deleted _ _)

/-- a failed `put_object` goes on to remove what it has written -/
theorem confined_discarding (hx : x.phase.holds = true) : Confined sha256 w w x .discarding :=
  confined_held w.evidence hx ⟨by simp, by simp⟩ fun _ => ⟨.refl _ _, trivial⟩

/-- **One chunk**: what was written so far is what the destination holds. -/
theorem copyChunk_confined {source : ObjectMetadata} {file destinationFile : Nat}
    {written : List UInt8} (hphase : x.phase = .copying source file destinationFile written)
    (size : Nat) (fault : ChunkFault) :
    Confined sha256 w (w.copyChunk source file destinationFile written size fault).1 x
      (w.copyChunk source file destinationFile written size fault).2 := by
  have hx : x.phase.holds = true := by
    rw [hphase]
    rfl
  -- a write of the delivery goes to its own destination
  have hwrite : ∀ chunk, HolderOk sha256 w.evidence x →
      FilesystemObjectStore.Elsewhere w.evidence
        (w.evidence.writeChunk destinationFile written.length chunk) x.destination := by
    intro chunk hok
    unfold HolderOk at hok
    rw [hphase] at hok
    exact FilesystemObjectStore.elsewhere_writeChunk hok.1 _ _
  unfold FinalizationWorld.copyChunk
  cases fault with
  | read => exact confined_discarding hx
  | write part => exact confined_held _ hx ⟨by simp, by simp⟩ fun hok => ⟨hwrite _ hok, trivial⟩
  | none =>
    dsimp only
    split
    · refine confined_held w.evidence hx ⟨by simp, by simp⟩ fun hok => ⟨.refl _ _, ?_⟩
      unfold HolderOk at hok ⊢
      rw [hphase] at hok
      dsimp only
      rw [Files.get_of_entry hok.1, hok.2]
    · split
      · exact confined_held _ hx ⟨by simp, by simp⟩ fun hok => ⟨hwrite _ hok, trivial⟩
      · refine confined_held _ hx ⟨by simp, by simp⟩ fun hok => ⟨hwrite _ hok, ?_⟩
        unfold HolderOk at hok ⊢
        rw [hphase] at hok
        obtain ⟨hentry, hnode⟩ := hok
        refine ⟨hentry, ?_⟩
        show Function.update w.evidence.objects.nodes destinationFile _ destinationFile = _
        rw [Function.update_self, hnode, overwrite_end]

/-- **The description**: the copy agrees with source and document, or it is deleted. -/
theorem writeMetadata_confined {source : ObjectMetadata} {written : List UInt8} {file : Nat}
    (hphase : x.phase = .describingFile source written file) :
    Confined sha256 w
      { w with evidence := w.evidence.writeMetadata file (some (x.copied sha256 source written)) } x
      (x.comparedPhase sha256 source written) := by
  have hx : x.phase.holds = true := by
    rw [hphase]
    rfl
  unfold Delivery.comparedPhase
  dsimp only
  have hel : HolderOk sha256 w.evidence x → FilesystemObjectStore.Elsewhere w.evidence
      (w.evidence.writeMetadata file (some (x.copied sha256 source written))) x.destination := by
    intro hok
    unfold HolderOk at hok
    rw [hphase] at hok
    exact FilesystemObjectStore.elsewhere_writeMetadata hok.2 _
  split
  · exact confined_held _ hx ⟨by simp, by simp⟩ fun hok => ⟨hel hok, trivial⟩
  · split
    · exact confined_held _ hx ⟨by simp, by simp⟩ fun hok => ⟨hel hok, trivial⟩
    · next hagree =>
      refine confined_held _ hx ⟨by simp, by simp⟩ fun hok => ⟨hel hok, ?_⟩
      push Not at hagree
      obtain ⟨-, htype, hlength, hsha⟩ := hagree
      unfold HolderOk at hok ⊢
      rw [hphase] at hok
      refine ⟨written, hok.1, hlength, hsha, ?_⟩
      show (w.evidence.metadata.write file _).get x.destination = _
      rw [Files.get_write_self hok.2]
      rw [← htype, ← hsha]
      rfl

/-- a step of `delete_object` on the source -/
theorem confined_source {quarantine' : FilesystemObjectStore} (hidle : x.phase.holds = false)
    (hidle' : phase'.holds = false)
    (hsource : phase' = .deletingSource ∨ phase' = .deletingSourceMetadata →
      x.phase = .deletingSource)
    (hphase : x.phase = .deletingSource ∨ x.phase = .deletingSourceMetadata)
    (hq : FilesystemObjectStore.Elsewhere w.quarantine quarantine' x.work.objectKey) :
    Confined sha256 w { w with quarantine := quarantine' } x phase' where
  db := rfl
  deliveries := rfl
  idle := fun _ => ⟨rfl, hidle'⟩
  held := by
    intro h
    rw [hidle] at h
    cases h
  source := hsource
  quarantine := fun _ hdel => ⟨hphase, hq.eq_of_deleted hdel⟩

/-- **All that one step of a delivery can do.** -/
theorem deliveryStep_move (h : deliveryStep sha256 w x e = some (w', phase')) :
    DeliveryMove sha256 w w' x e phase' := by
  unfold deliveryStep at h
  split at h
  case h_1 ok hphase =>
    split at h
    · cases h
      exact .confined (confined_idle rfl ⟨by simp, by simp⟩)
    · cases h
      exact .confined (confined_idle rfl ⟨by simp, by simp⟩)
  case h_2 source ok hphase =>
    split at h
    · cases h
      exact .confined (confined_idle rfl ⟨by simp, by simp⟩)
    · cases h
      exact .confined (confined_idle rfl ⟨by simp, by simp⟩)
  case h_3 source file result hphase =>
    have hidle : x.phase.holds = false := by
      rw [hphase]
      rfl
    cases result with
    | directoryFailed =>
      cases h
      exact .confined (confined_idle rfl ⟨by simp, by simp⟩)
    | failed =>
      cases h
      exact .seized .failed rfl (by simp) hidle w.evidence rfl (.refl _ _) trivial
        ⟨by simp, by simp⟩
    | created =>
      cases h
      exact .seized .created rfl (by simp) hidle _ rfl
        (FilesystemObjectStore.elsewhere_truncateObject _)
        ⟨Files.entries_create_self _ _ _, Files.nodes_create_self _ _ _⟩ ⟨by simp, by simp⟩
  case h_4 source file destinationFile written size fault hphase =>
    split at h
    · cases h
    · have hchunk : Confined sha256 w (w.copyChunk source file destinationFile written size fault).1
          x (w.copyChunk source file destinationFile written size fault).2 :=
        copyChunk_confined hphase size fault
      rw [Option.some.inj h] at hchunk
      exact .confined hchunk
  case h_5 ok hphase =>
    have hx : x.phase.holds = true := by
      rw [hphase]
      rfl
    cases h
    cases ok with
    | false => exact .confined (confined_idle rfl ⟨by simp, by simp⟩)
    | true =>
      exact .confined (confined_held _ hx ⟨by simp, by simp⟩ fun _ =>
        ⟨FilesystemObjectStore.elsewhere_removeObject _, trivial⟩)
  case h_6 source written result hphase =>
    have hx : x.phase.holds = true := by
      rw [hphase]
      rfl
    cases result with
    | directoryFailed =>
      cases h
      exact .confined (confined_idle rfl ⟨by simp, by simp⟩)
    | failed =>
      cases h
      exact .confined (confined_discarding hx)
    | created =>
      cases h
      refine .confined (confined_held _ hx ⟨by simp, by simp⟩ fun hok => ⟨?_, ?_⟩)
      · exact FilesystemObjectStore.elsewhere_truncateMetadata _
      · unfold HolderOk at hok ⊢
        rw [hphase] at hok
        exact ⟨hok, Files.entries_create_self _ _ _⟩
  case h_7 source written file ok hphase =>
    have hx : x.phase.holds = true := by
      rw [hphase]
      rfl
    split at h
    · cases h
      exact .confined (writeMetadata_confined hphase)
    · cases h
      refine .confined (confined_held _ hx ⟨by simp, by simp⟩ fun hok => ⟨?_, trivial⟩)
      unfold HolderOk at hok
      rw [hphase] at hok
      exact FilesystemObjectStore.elsewhere_writeMetadata hok.2 _
  case h_8 ok hphase =>
    have hx : x.phase.holds = true := by
      rw [hphase]
      rfl
    split at h
    · cases h
      exact .confined (confined_held _ hx ⟨by simp, by simp⟩ fun _ =>
        ⟨FilesystemObjectStore.elsewhere_removeObject _, trivial⟩)
    · cases h
      exact .confined (confined_idle rfl ⟨by simp, by simp⟩)
  case h_9 ok hphase =>
    have hx : x.phase.holds = true := by
      rw [hphase]
      rfl
    cases h
    cases ok with
    | false => exact .confined (confined_idle rfl ⟨by simp, by simp⟩)
    | true =>
      exact .confined (confined_held _ hx ⟨by simp, by simp⟩ fun _ =>
        ⟨FilesystemObjectStore.elsewhere_removeMetadata _, trivial⟩)
  case h_10 fault hphase =>
    cases h
    exact .finalized fault hphase rfl rfl
  case h_11 ok hphase =>
    have hidle : x.phase.holds = false := by
      rw [hphase]
      rfl
    split at h
    · cases h
      exact .confined (confined_source hidle rfl (fun _ => hphase) (.inl hphase)
        (FilesystemObjectStore.elsewhere_removeObject _))
    · cases h
      exact .confined (confined_idle rfl ⟨by simp, by simp⟩)
  case h_12 ok hphase =>
    have hidle : x.phase.holds = false := by
      rw [hphase]
      rfl
    cases h
    cases ok with
    | false => exact .confined (confined_idle rfl ⟨by simp, by simp⟩)
    | true =>
      exact .confined (confined_source hidle rfl (by simp) (.inr hphase)
        (FilesystemObjectStore.elsewhere_removeMetadata _))
  case h_13 => cases h

end

end Proofplane
