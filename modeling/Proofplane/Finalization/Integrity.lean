import Proofplane.Finalization.Steps

/-!
# The object of a finalized document

* `Sound`           the object under a key is what a document says of it;
* `exclusive`       a delivery opens its destination only while the document still waits for it and no
                    other delivery that has opened it is under way;
* `DeliveriesInv`   what holds of deliveries and documents whatever happens;
* `FinalizationInv` what holds besides while destinations are opened exclusively;
* `finalized_object_integrity`   **with that, the object of every uploaded document is sound; and with or
                    without it, a staged object is deleted only when its document is uploaded**;
* `finalized_object_truncated`   without it, an uploaded document loses its bytes.
-/

namespace Proofplane
open Base

/-! ## The condition -/

/-- the object under the document's key is what the document says: its bytes and their description -/
def Sound (sha256 : List UInt8 → String) (store : FilesystemObjectStore) (d : Document) : Prop :=
  ∃ bytes, store.objects.get d.objectKey = some bytes ∧ (bytes.length : Int) = d.contentLength ∧
    sha256 bytes = d.checksumSha256 ∧
    ∃ m, store.metadata.get d.objectKey = some (some m) ∧ m.key = d.objectKey ∧
      m.contentType = d.contentType ∧ (m.contentLength : Int) = d.contentLength ∧
      m.sha256 = d.checksumSha256

/-- a destination is opened only while the document waits for it and nobody else has it -/
def FinalizationWorld.exclusive (w : FinalizationWorld) : FinalizationEvent → Bool
  | .step delivery (.createDestination result) =>
    match result, w.deliveries.get? delivery with
    | .directoryFailed, _ => true
    | _, none => true
    | _, some x =>
      ((w.db.getDocument x.work.identity.documentId x.work.identity.owner).any fun d =>
        d.uploadStatus = .finalizing) &&
      !w.deliveries.rows.any fun y =>
        y.id ≠ x.id && y.destination = x.destination && y.phase.holds
  | _ => true

/-- the stored document that a delivery works for: it has not changed but for key and status, and its
key only with its status -/
structure Serves (d : Document) (x : Delivery) : Prop where
  work : x.work = { d.uploadWork with objectKey := x.work.objectKey }
  key : d.uploadStatus = .finalizing → d.objectKey = x.work.objectKey
  status : d.uploadStatus = .finalizing ∨ d.uploadStatus = .uploaded
  destination : finalDocumentObjectKey d.uploadWork = some x.destination

/-- what holds in every state, whatever the deliveries do -/
structure DeliveriesInv (w : FinalizationWorld) : Prop where
  served : ∀ x ∈ w.deliveries.rows, ∃ d ∈ w.db.documents.rows, Serves d x
  released : ∀ x ∈ w.deliveries.rows,
    x.phase = .deletingSource ∨ x.phase = .deletingSourceMetadata →
      ∃ d ∈ w.db.documents.rows, Serves d x ∧ d.uploadStatus = .uploaded

structure FinalizationInv (sha256 : List UInt8 → String) (w : FinalizationWorld) : Prop where
  lengths : ∀ d ∈ w.db.documents.rows, 0 ≤ d.contentLength ∧ d.contentLength ≤ i64Max
  holders : ∀ x ∈ w.deliveries.rows, x.phase.holds = true →
    (∃ d ∈ w.db.documents.rows, Serves d x ∧ d.uploadStatus = .finalizing) ∧
      HolderOk sha256 w.evidence x
  single : ∀ x ∈ w.deliveries.rows, ∀ y ∈ w.deliveries.rows, x.phase.holds = true →
    y.phase.holds = true → x.destination = y.destination → x.id = y.id
  uploaded : ∀ d ∈ w.db.documents.rows, d.uploadStatus = .uploaded →
    Sound sha256 w.evidence d ∧ finalDocumentObjectKey d.uploadWork = some d.objectKey

/-! ## Keys -/

/-- the final key is made like a staged one, of the document id in place of an upload id -/
theorem finalDocumentObjectKey_eq (work : UploadWork) :
    finalDocumentObjectKey work
      = stagedObjectKey work.workspaceId work.identity.owner work.identity.documentId.uuid
        work.filename := by
  obtain ⟨workspaceId, identity, filename, contentType, contentLength, objectKey, checksum⟩ := work
  cases identity with
  | evidence submissionId documentId => rfl
  | policy policyId documentId => rfl

/-- **Different documents have different final keys.** -/
theorem finalDocumentObjectKey_inj {work work' : UploadWork} {key : String}
    (h : finalDocumentObjectKey work = some key) (h' : finalDocumentObjectKey work' = some key) :
    work.identity.documentId = work'.identity.documentId := by
  rw [finalDocumentObjectKey_eq] at h h'
  exact Id.ext (stagedObjectKey_inj h h')

/-- the key of the document does not enter its final key -/
theorem finalDocumentObjectKey_key (work : UploadWork) (key : String) :
    finalDocumentObjectKey { work with objectKey := key } = finalDocumentObjectKey work := rfl

/-! ## Documents that deliveries serve -/

section
variable {effect : DocumentEffect} {d d' : Document} {x : Delivery}

theorem Serves.phase (h : Serves d x) (phase : DeliveryPhase) : Serves d { x with phase } :=
  ⟨h.work, h.key, h.status, h.destination⟩

theorem Serves.identity (h : Serves d x) : x.work.identity = d.identity := by
  rw [h.work]
  rfl

/-- a command leaves a served document to its delivery -/
theorem Serves.advance (h : Serves d x) (ha : DocumentAdvance effect d d') : Serves d' x := by
  cases ha with
  | same hw hs =>
    have hkey : d'.objectKey = d.objectKey := congrArg UploadWork.objectKey hw
    refine ⟨?_, ?_, ?_, ?_⟩
    · rw [hw]
      exact h.work
    · intro hf
      rw [hkey]
      exact h.key (hs.symm.trans hf)
    · rw [hs]
      exact h.status
    · rw [hw]
      exact h.destination
  | scanned hw hs hs' =>
    rcases h.status with hst | hst
    · rw [hs] at hst
      cases hst
    · rw [hs] at hst
      cases hst
  | finalized key he hw hs hs' =>
    refine ⟨?_, ?_, .inr hs', ?_⟩
    · rw [hw]
      exact h.work
    · intro hf
      rw [hs'] at hf
      cases hf
    · rw [hw, finalDocumentObjectKey_key]
      exact h.destination

/-- an uploaded document stays uploaded -/
theorem DocumentAdvance.uploaded (ha : DocumentAdvance effect d d') (h : d.uploadStatus = .uploaded) :
    d'.uploadStatus = .uploaded := by
  cases ha with
  | same hw hs => exact hs.trans h
  | scanned hw hs hs' =>
    rw [h] at hs
    cases hs
  | finalized key he hw hs hs' => exact hs'

theorem DocumentAdvance.contentLength (ha : DocumentAdvance effect d d') : d'.contentLength = d.contentLength := by
  cases ha with
  | same hw hs => exact congrArg UploadWork.contentLength hw
  | scanned hw hs hs' => exact congrArg UploadWork.contentLength hw
  | finalized key he hw hs hs' => exact congrArg UploadWork.contentLength hw

end

/-- a document of a table is known by its identity -/
theorem document_eq_of_identity {db : DocumentDb} {d d' : Document} (hd : d ∈ db.documents.rows)
    (hd' : d' ∈ db.documents.rows) (h : d.identity = d'.identity) : d = d' := by
  refine db.documents.eq_of_key hd hd' ?_
  show d.identity.documentId = d'.identity.documentId
  rw [h]

/-! ## Steps of other parties and of deliveries: what always holds -/

section
variable {sha256 : List UInt8 → String} {w w' : FinalizationWorld} {effect : DocumentEffect}
  {x : Delivery}

theorem DeliveriesInv.advance {db' : DocumentDb} (hi : DeliveriesInv w)
    (ha : DocumentsAdvance effect w.db db') : DeliveriesInv { w with db := db' } := by
  refine ⟨?_, ?_⟩
  · intro x hx
    obtain ⟨d, hd, hserves⟩ := hi.served x hx
    obtain ⟨d', hd', hadv⟩ := ha.forward d hd
    exact ⟨d', hd', hserves.advance hadv⟩
  · intro x hx hphase
    obtain ⟨d, hd, hserves, hup⟩ := hi.released x hx hphase
    obtain ⟨d', hd', hadv⟩ := ha.forward d hd
    exact ⟨d', hd', hserves.advance hadv, hadv.uploaded hup⟩

/-- a delivery comes in or goes on -/
theorem DeliveriesInv.put (hi : DeliveriesInv w)
    (hserved : ∃ d ∈ w.db.documents.rows, Serves d x)
    (hreleased : x.phase = .deletingSource ∨ x.phase = .deletingSourceMetadata →
      ∃ d ∈ w.db.documents.rows, Serves d x ∧ d.uploadStatus = .uploaded) :
    DeliveriesInv (w.put x) := by
  refine ⟨?_, ?_⟩
  · intro y hy
    rcases Table.mem_upsert.mp hy with rfl | ⟨hym, -⟩
    · exact hserved
    · exact hi.served y hym
  · intro y hy hphase
    rcases Table.mem_upsert.mp hy with rfl | ⟨hym, -⟩
    · exact hreleased hphase
    · exact hi.released y hym hphase

/-- the unit of work of a delivery: nothing, or the document goes to its destination -/
theorem committed_finalize (fault : CommitFault) (command : FinalizeDocument) (db : DocumentDb) :
    (finalizedPhase (committed fault db (finalizeDocument db command)).1 = .finished ∧
      (committed fault db (finalizeDocument db command)).2 = db) ∨
    ((finalizedPhase (committed fault db (finalizeDocument db command)).1 = .finished ∨
        finalizedPhase (committed fault db (finalizeDocument db command)).1 = .deletingSource) ∧
      DocumentMove db (committed fault db (finalizeDocument db command)).2
        (.finalized command.identity command.quarantineObjectKey command.finalObjectKey)) := by
  cases hr : finalizeDocument db command with
  | error e =>
    left
    cases fault with
    | none => exact ⟨rfl, rfl⟩
    | beforeCommit => exact ⟨rfl, rfl⟩
    | lostAcknowledgement => exact ⟨rfl, rfl⟩
  | ok p =>
    obtain ⟨outcome, db'⟩ := p
    rcases finalizeDocument_ok hr with ⟨hne, rfl⟩ | ⟨rfl, hmove, -⟩
    · left
      cases fault with
      | none =>
        refine ⟨?_, rfl⟩
        cases outcome with
        | applied => exact absurd rfl hne
        | _ => rfl
      | beforeCommit => exact ⟨rfl, rfl⟩
      | lostAcknowledgement => exact ⟨rfl, rfl⟩
    · cases fault with
      | none => exact .inr ⟨.inr rfl, hmove⟩
      | beforeCommit => exact .inl ⟨rfl, rfl⟩
      | lostAcknowledgement => exact .inr ⟨.inl rfl, hmove⟩

/-- the document of an applied unit of work -/
theorem finalized_advance {db db' : DocumentDb} {identity : DocumentIdentity} {key finalKey : String}
    (hmove : DocumentMove db db' (.finalized identity key finalKey)) :
    ∃ d ∈ db.documents.rows, d.identity = identity ∧ d.uploadStatus = .finalizing ∧
      ∃ d' ∈ db'.documents.rows,
        d'.uploadWork = { d.uploadWork with objectKey := finalKey } ∧ d'.uploadStatus = .uploaded := by
  cases hmove with
  | finalized d _ ha hstatus hm =>
    refine ⟨d, hm.mem, rfl, hstatus,
      ({ d with objectKey := finalKey, uploadStatus := .uploaded } : Document).toRow, ?_, rfl, rfl⟩
    rw [hm.documents]
    exact Table.mem_upsert.mpr (.inl rfl)

/-- **A step of a delivery keeps the documents with their deliveries.** -/
theorem DeliveriesInv.move {e : DeliveryEvent} {phase' : DeliveryPhase} (hi : DeliveriesInv w)
    (hx : x ∈ w.deliveries.rows) (h : DeliveryMove sha256 w w' x e phase') :
    DeliveriesInv (w'.put { x with phase := phase' }) := by
  obtain ⟨d, hd, hserves⟩ := hi.served x hx
  cases h with
  | confined h =>
    have hi' : DeliveriesInv w' := by
      refine ⟨?_, ?_⟩
      · rw [h.db, h.deliveries]
        exact hi.served
      · rw [h.db, h.deliveries]
        exact hi.released
    refine hi'.put ?_ ?_
    · rw [h.db]
      exact ⟨d, hd, hserves.phase _⟩
    · intro hphase
      obtain ⟨d1, hd1, hserves1, hup⟩ := hi.released x hx (.inl (h.source hphase))
      rw [h.db]
      exact ⟨d1, hd1, hserves1.phase _, hup⟩
  | seized result he hresult hidle evidence' hw hel hok hsource =>
    subst hw
    have hi' : DeliveriesInv { w with evidence := evidence' } := ⟨hi.served, hi.released⟩
    refine hi'.put ⟨d, hd, hserves.phase _⟩ ?_
    intro hphase
    rcases hphase with hphase | hphase
    · exact absurd hphase hsource.1
    · exact absurd hphase hsource.2
  | finalized fault hphase hw hphase' =>
    subst hw
    rcases committed_finalize fault ⟨x.work.identity, x.work.objectKey, x.destination⟩ w.db with
      ⟨hfin, hdb⟩ | ⟨hfin, hmove⟩
    · rw [hdb]
      refine hi.put ⟨d, hd, hserves.phase _⟩ ?_
      intro hp
      rw [show ({ x with phase := phase' } : Delivery).phase = .finished from hphase'.trans hfin] at hp
      simp at hp
    · have hi' := hi.advance (advances_move hmove (by simp))
      obtain ⟨d1, hd1, hid1, hst1, d', hd', hw', hst'⟩ := finalized_advance hmove
      have heq : d1 = d := document_eq_of_identity hd1 hd (hid1.trans hserves.identity)
      subst heq
      have hserves' : Serves d' { x with phase := phase' } :=
        (hserves.phase phase').advance
          (.finalized _ rfl hw' hst1 hst')
      exact hi'.put ⟨d', hd', hserves'⟩ fun _ => ⟨d', hd', hserves', hst'⟩

end

/-! ## The same while destinations are opened exclusively -/

section
variable {sha256 : List UInt8 → String} {store store' : FilesystemObjectStore} {key : String}

theorem Sound.elsewhere {d : Document} (h : Sound sha256 store d)
    (hel : FilesystemObjectStore.Elsewhere store store' key) (hne : d.objectKey ≠ key) :
    Sound sha256 store' d := by
  unfold Sound
  rw [hel.objects.get hne, hel.metadata.get hne]
  exact h

/-- soundness is about what an upload says of its object -/
theorem Sound.congr {d d' : Document} (h : Sound sha256 store d) (hw : d'.uploadWork = d.uploadWork) :
    Sound sha256 store d' := by
  unfold Sound
  rw [show d'.objectKey = d.objectKey from congrArg UploadWork.objectKey hw,
    show d'.contentLength = d.contentLength from congrArg UploadWork.contentLength hw,
    show d'.contentType = d.contentType from congrArg UploadWork.contentType hw,
    show d'.checksumSha256 = d.checksumSha256 from congrArg UploadWork.checksumSha256 hw]
  exact h

theorem finalKey_congr {d d' : Document} (hw : d'.uploadWork = d.uploadWork)
    (h : finalDocumentObjectKey d.uploadWork = some d.objectKey) :
    finalDocumentObjectKey d'.uploadWork = some d'.objectKey := by
  rw [hw, h, show d'.objectKey = d.objectKey from congrArg UploadWork.objectKey hw]

/-- a change under another key does not reach a delivery's destination -/
theorem HolderOk.elsewhere {y : Delivery} (h : HolderOk sha256 store y)
    (hel : FilesystemObjectStore.Elsewhere store store' key) (hne : y.destination ≠ key) :
    HolderOk sha256 store' y := by
  unfold HolderOk at *
  split
  · next hphase =>
    rw [hphase] at h
    obtain ⟨hentry, hnode⟩ := h
    obtain ⟨hentries, hnodes⟩ := hel.objects _ hne
    exact ⟨hentries.trans hentry, (hnodes _ hentry).trans hnode⟩
  · next hphase =>
    rw [hphase] at h
    exact (hel.objects.get hne).trans h
  · next hphase =>
    rw [hphase] at h
    exact ⟨(hel.objects.get hne).trans h.1, (hel.metadata _ hne).1.trans h.2⟩
  · next hphase =>
    rw [hphase] at h
    rw [hel.objects.get hne, hel.metadata.get hne]
    exact h
  · exact trivial

end

section
variable {sha256 : List UInt8 → String} {w w' : FinalizationWorld} {effect : DocumentEffect}
  {x : Delivery} {phase' : DeliveryPhase}

/-- a command that uploads no document -/
theorem FinalizationInv.advance {db' : DocumentDb} (hi : FinalizationInv sha256 w)
    (ha : DocumentsAdvance effect w.db db') (hnot : ∀ identity key key', effect ≠ .finalized identity key key') :
    FinalizationInv sha256 { w with db := db' } where
  lengths := by
    intro d' hd'
    obtain ⟨d, hd, hadv⟩ := ha.back d' hd'
    rw [hadv.contentLength]
    exact hi.lengths d hd
  holders := by
    intro x hx hholds
    obtain ⟨⟨d, hd, hserves, hst⟩, hok⟩ := hi.holders x hx hholds
    obtain ⟨d', hd', hadv⟩ := ha.forward d hd
    refine ⟨⟨d', hd', hserves.advance hadv, ?_⟩, hok⟩
    cases hadv with
    | same hw hs => exact hs.trans hst
    | scanned hw hs hs' =>
      rw [hst] at hs
      cases hs
    | finalized key he hw hs hs' => exact absurd he (hnot _ _ _)
  single := hi.single
  uploaded := by
    intro d' hd' hup
    obtain ⟨d, hd, hadv⟩ := ha.back d' hd'
    cases hadv with
    | same hw hs =>
      obtain ⟨hsound, hkey⟩ := hi.uploaded d hd (hs.symm.trans hup)
      exact ⟨hsound.congr hw, finalKey_congr hw hkey⟩
    | scanned hw hs hs' => exact absurd hup hs'
    | finalized key he hw hs hs' => exact absurd he (hnot _ _ _)

/-- a delivery that does not hold its destination comes in or goes on -/
theorem FinalizationInv.put_idle (hi : FinalizationInv sha256 w) (h : x.phase.holds = false) :
    FinalizationInv sha256 (w.put x) where
  lengths := hi.lengths
  holders := by
    intro y hy hholds
    rcases Table.mem_upsert.mp hy with rfl | ⟨hym, -⟩
    · rw [h] at hholds
      cases hholds
    · exact hi.holders y hym hholds
  single := by
    intro y hy z hz hyh hzh hdest
    rcases Table.mem_upsert.mp hy with rfl | ⟨hym, -⟩
    · rw [h] at hyh
      cases hyh
    · rcases Table.mem_upsert.mp hz with rfl | ⟨hzm, -⟩
      · rw [h] at hzh
        cases hzh
      · exact hi.single y hym z hzm hyh hzh hdest
  uploaded := hi.uploaded

/-- **The delivery that has its destination to itself changes it.**  No uploaded document has that key,
since the document that would have it still waits. -/
theorem FinalizationInv.put_held {evidence' : FilesystemObjectStore} (hi : FinalizationInv sha256 w)
    (hserves : ∃ d ∈ w.db.documents.rows, Serves d x ∧ d.uploadStatus = .finalizing)
    (halone : ∀ y ∈ w.deliveries.rows, y.phase.holds = true → y.destination = x.destination →
      y.id = x.id)
    (hel : FilesystemObjectStore.Elsewhere w.evidence evidence' x.destination)
    (hok : HolderOk sha256 evidence' { x with phase := phase' })
    (hdb : w'.db = w.db) (hdeliveries : w'.deliveries = w.deliveries)
    (hevidence : w'.evidence = evidence') :
    FinalizationInv sha256 (w'.put { x with phase := phase' }) := by
  obtain ⟨d, hd, hs, hst⟩ := hserves
  refine ⟨?_, ?_, ?_, ?_⟩
  · show ∀ d ∈ w'.db.documents.rows, _
    rw [hdb]
    exact hi.lengths
  · intro y hy hholds
    show (∃ d ∈ w'.db.documents.rows, _) ∧ HolderOk sha256 w'.evidence y
    rw [hdb, hevidence]
    rcases Table.mem_upsert.mp hy with rfl | ⟨hym, hne⟩
    · exact ⟨⟨d, hd, hs.phase _, hst⟩, hok⟩
    · rw [hdeliveries] at hym
      obtain ⟨hserved, hyok⟩ := hi.holders y hym hholds
      refine ⟨hserved, hyok.elsewhere hel ?_⟩
      intro hdest
      exact hne (halone y hym hholds hdest)
  · intro y hy z hz hyh hzh hdest
    rcases Table.mem_upsert.mp hy with rfl | ⟨hym, -⟩
    · rcases Table.mem_upsert.mp hz with rfl | ⟨hzm, -⟩
      · rfl
      · rw [hdeliveries] at hzm
        exact (halone z hzm hzh hdest.symm).symm
    · rw [hdeliveries] at hym
      rcases Table.mem_upsert.mp hz with rfl | ⟨hzm, -⟩
      · exact halone y hym hyh hdest
      · rw [hdeliveries] at hzm
        exact hi.single y hym z hzm hyh hzh hdest
  · show ∀ u ∈ w'.db.documents.rows, u.uploadStatus = .uploaded → Sound sha256 w'.evidence u ∧ _
    rw [hdb, hevidence]
    intro u hu hup
    obtain ⟨hsound, hkey⟩ := hi.uploaded u hu hup
    refine ⟨hsound.elsewhere hel ?_, hkey⟩
    intro heq
    rw [heq] at hkey
    have hsame : u = d := w.db.documents.eq_of_key hu hd (finalDocumentObjectKey_inj hkey hs.destination)
    subst hsame
    rw [hst] at hup
    cases hup

/-- what a delivery has compared is what the document says -/
theorem sound_of_finalizing {store : FilesystemObjectStore} {d d' : Document} (hs : Serves d x) (hphase : x.phase = .finalizing)
    (hok : HolderOk sha256 store x)
    (hlength : 0 ≤ d.contentLength ∧ d.contentLength ≤ i64Max)
    (hw : d'.uploadWork = { d.uploadWork with objectKey := x.destination }) :
    Sound sha256 store d' := by
  unfold HolderOk at hok
  rw [hphase] at hok
  obtain ⟨bytes, hget, hlen, hsha, hmeta⟩ := hok
  have hkey : d'.objectKey = x.destination := congrArg UploadWork.objectKey hw
  have hlen' : d'.contentLength = d.contentLength := congrArg UploadWork.contentLength hw
  have hlen'' : x.work.contentLength = d.contentLength := congrArg UploadWork.contentLength hs.work
  have htype : d'.contentType = x.work.contentType := by
    rw [hs.work]
    exact congrArg UploadWork.contentType hw
  have hsum : d'.checksumSha256 = x.work.checksumSha256 := by
    rw [hs.work]
    exact congrArg UploadWork.checksumSha256 hw
  have hbytes : (bytes.length : Int) = d'.contentLength := by
    rw [hlen, hlen'', asU64_of_nonneg hlength.1 hlength.2, hlen']
  unfold Sound
  rw [hkey, hsum, htype]
  exact ⟨bytes, hget, hbytes, hsha, _, hmeta, rfl, rfl, hbytes, rfl⟩

/-- **The unit of work of the delivery that has the destination to itself.** -/
theorem FinalizationInv.finalize {db' : DocumentDb} (hi : FinalizationInv sha256 w)
    (hx : x ∈ w.deliveries.rows) (hphase : x.phase = .finalizing)
    (hmove : DocumentMove w.db db' (.finalized x.work.identity x.work.objectKey x.destination))
    (hidle : phase'.holds = false) :
    FinalizationInv sha256 (({ w with db := db' } : FinalizationWorld).put { x with phase := phase' }) := by
  have hholds : x.phase.holds = true := by
    rw [hphase]
    rfl
  obtain ⟨⟨d, hd, hs, hst⟩, hok⟩ := hi.holders x hx hholds
  have ha := advances_move hmove (by simp)
  refine ⟨?_, ?_, ?_, ?_⟩
  · intro u' hu'
    obtain ⟨u, hu, hadv⟩ := ha.back u' hu'
    rw [hadv.contentLength]
    exact hi.lengths u hu
  · intro y hy hyh
    rcases Table.mem_upsert.mp hy with rfl | ⟨hym, hne⟩
    · rw [hidle] at hyh
      cases hyh
    · obtain ⟨⟨dy, hdy, hsy, hsty⟩, hoky⟩ := hi.holders y hym hyh
      obtain ⟨d', hd', hadv⟩ := ha.forward dy hdy
      refine ⟨⟨d', hd', hsy.advance hadv, ?_⟩, hoky⟩
      cases hadv with
      | same hw hs => exact hs.trans hsty
      | scanned hw hs hs' =>
        rw [hsty] at hs
        cases hs
      | finalized key he hw hs1 hs' =>
        -- the other delivery would serve the same document, and so have the same destination
        obtain ⟨hid, -, -⟩ := DocumentEffect.finalized.inj he
        have hsame : d = dy := document_eq_of_identity hd hdy (hs.identity.symm.trans hid)
        subst hsame
        have hdest : x.destination = y.destination :=
          Option.some.inj (hs.destination.symm.trans hsy.destination)
        exact absurd (hi.single x hx y hym hholds hyh hdest).symm hne
  · intro y hy z hz hyh hzh hdest
    rcases Table.mem_upsert.mp hy with rfl | ⟨hym, -⟩
    · rw [hidle] at hyh
      cases hyh
    · rcases Table.mem_upsert.mp hz with rfl | ⟨hzm, -⟩
      · rw [hidle] at hzh
        cases hzh
      · exact hi.single y hym z hzm hyh hzh hdest
  · intro u' hu' hup
    obtain ⟨u, hu, hadv⟩ := ha.back u' hu'
    cases hadv with
    | same hw hs1 =>
      obtain ⟨hsound, hkey⟩ := hi.uploaded u hu (hs1.symm.trans hup)
      exact ⟨hsound.congr hw, finalKey_congr hw hkey⟩
    | scanned hw hs1 hs' => exact absurd hup hs'
    | finalized key he hw hs1 hs' =>
      obtain ⟨hid, -, hkey⟩ := DocumentEffect.finalized.inj he
      have hsame : d = u := document_eq_of_identity hd hu (hs.identity.symm.trans hid)
      subst hsame
      subst hkey
      refine ⟨sound_of_finalizing hs hphase hok (hi.lengths d hd) hw, ?_⟩
      rw [hw, finalDocumentObjectKey_key, hs.destination,
        show u'.objectKey = x.destination from congrArg UploadWork.objectKey hw]

end

/-! ## One step of the system -/

/-- all that one step can do -/
inductive FinalizationMove (sha256 : List UInt8 → String) (w w' : FinalizationWorld) :
    FinalizationEvent → Prop
  | idle (e : FinalizationEvent) (hw : w' = w) : FinalizationMove sha256 w w' e
  | delivered (e : FinalizationEvent) (x : Delivery) (hphase : x.phase = .promoting)
      (hserves : ∃ d ∈ w.db.documents.rows, Serves d x) (hw : w' = w.put x) :
      FinalizationMove sha256 w w' e
  | stepped (x : Delivery) (e : DeliveryEvent) (phase' : DeliveryPhase) (w1 : FinalizationWorld)
      (hx : x ∈ w.deliveries.rows) (hmove : DeliveryMove sha256 w w1 x e phase')
      (hw : w' = w1.put { x with phase := phase' }) : FinalizationMove sha256 w w' (.step x.id e)
  | crashed (x : Delivery) (hx : x ∈ w.deliveries.rows)
      (hw : w' = w.put { x with phase := .finished }) : FinalizationMove sha256 w w' (.crash x.id)
  | advanced (e : FinalizationEvent) (effect : DocumentEffect) (db' : DocumentDb)
      (ha : DocumentsAdvance effect w.db db')
      (hnot : ∀ identity key key', effect ≠ .finalized identity key key')
      (hw : w' = { w with db := db' }) : FinalizationMove sha256 w w' e

section
variable {sha256 : List UInt8 → String} {w w' : FinalizationWorld} {e : FinalizationEvent}

/-- a delivery that comes in serves a document that waits for it -/
theorem deliver_move (delivery : Nat) (identity : DocumentIdentity) (objectKey : String) (ok : Bool) :
    FinalizationMove sha256 w (w.deliver delivery identity objectKey ok) e := by
  unfold FinalizationWorld.deliver
  split
  · exact .idle e rfl
  · next work hload =>
    split
    · exact .idle e rfl
    · next destination hdest =>
      split
      · rw [Option.ite_none_right_eq_some] at hload
        obtain ⟨-, hload⟩ := hload
        obtain ⟨d, hfilter, rfl⟩ := Option.map_eq_some_iff.mp hload
        obtain ⟨hget, hcond⟩ := Option.filter_eq_some_iff.mp hfilter
        obtain ⟨hd, -⟩ := identity_of_getDocument hget
        obtain ⟨-, hst, -, -⟩ := of_decide_eq_true hcond
        exact .delivered e _ rfl ⟨d, hd, rfl, fun _ => rfl, .inl hst, hdest⟩ rfl
      · exact .idle e rfl

/-- a command of the rest of the application -/
theorem commandEvent_move {α : Type} {r : Except DocumentCommandError (α × DocumentDb)} (commits : Bool)
    (h : ∀ a db', r = .ok (a, db') → db' = w.db ∨
      ∃ effect, DocumentMove w.db db' effect ∧ (∀ d, effect ≠ .created d) ∧
        ∀ identity key key', effect ≠ .finalized identity key key') :
    FinalizationMove sha256 w (w.command commits r) e := by
  cases r with
  | error _ => exact .idle e rfl
  | ok p =>
    obtain ⟨a, db'⟩ := p
    cases commits with
    | false => exact .idle e rfl
    | true =>
      rcases h a db' rfl with rfl | ⟨effect, hmove, hnew, hnot⟩
      · exact .idle e rfl
      · exact .advanced e effect db' (advances_move hmove hnew) hnot rfl

theorem finalizationStep_move (h : finalizationStep sha256 w e = some w') :
    FinalizationMove sha256 w w' e := by
  cases e with
  | deliver delivery identity objectKey ok =>
    simp only [finalizationStep] at h
    split at h
    · cases h
    · cases h
      exact deliver_move _ _ _ _
  | step delivery event =>
    obtain ⟨x, hget, hx⟩ := Option.bind_eq_some_iff.mp h
    obtain ⟨p, hp, rfl⟩ := Option.map_eq_some_iff.mp hx
    obtain ⟨hmem, rfl⟩ := Table.get?_eq_some_iff.mp hget
    exact .stepped x event p.2 p.1 hmem (deliveryStep_move hp) rfl
  | crash delivery =>
    obtain ⟨x, hget, rfl⟩ := Option.map_eq_some_iff.mp h
    obtain ⟨hmem, rfl⟩ := Table.get?_eq_some_iff.mp hget
    exact .crashed x hmem rfl
  | scan command metadata messageId commits =>
    cases h
    refine commandEvent_move commits fun outcome db' hr => ?_
    rcases scanDocument_ok hr with ⟨-, hdb⟩ | ⟨-, hmove, -, -⟩
    · exact .inl hdb
    · exact .inr ⟨_, hmove, by simp, by simp⟩
  | archive command commits =>
    cases h
    refine commandEvent_move commits fun outcome db' hr => ?_
    rcases archiveDocument_ok hr with ⟨-, hdb⟩ | ⟨-, hmove, -⟩
    · exact .inl hdb
    · exact .inr ⟨_, hmove, by simp, by simp⟩
  | housekeeping change =>
    obtain ⟨db', hdb, rfl⟩ := Option.map_eq_some_iff.mp h
    exact .advanced _ .unchanged db' (advances_of_eq _ (housekept hdb).documents) (by simp) rfl

/-- a step that opens the destination finds the document waiting, and nobody else there -/
theorem exclusive_createDestination {x : Delivery} {result : CreateResult}
    (hx : x ∈ w.deliveries.rows) (hresult : result ≠ .directoryFailed)
    (h : w.exclusive (.step x.id (.createDestination result)) = true) :
    (∃ d ∈ w.db.documents.rows, d.identity = x.work.identity ∧ d.uploadStatus = .finalizing) ∧
      ∀ y ∈ w.deliveries.rows, y.phase.holds = true → y.destination = x.destination → y.id = x.id := by
  have hget : w.deliveries.get? x.id = some x := Table.get?_eq_some_iff.mpr ⟨hx, rfl⟩
  unfold FinalizationWorld.exclusive at h
  dsimp only at h
  rw [hget] at h
  cases result with
  | directoryFailed => exact absurd rfl hresult
  | _ =>
    dsimp only at h
    obtain ⟨hdoc, hothers⟩ := Bool.and_eq_true_iff.mp h
    refine ⟨?_, ?_⟩
    · obtain ⟨d, hd, hst⟩ := (Option.any_eq_true _ _).mp hdoc
      obtain ⟨hmem, hid⟩ := identity_of_getDocument hd
      exact ⟨d, hmem, hid, of_decide_eq_true hst⟩
    · intro y hy hholds hdest
      by_contra hne
      rw [Bool.not_eq_true', List.any_eq_false] at hothers
      exact hothers y hy (by simp [hne, hdest, hholds])

/-! ## Runs -/

theorem deliveriesInv_step (hi : DeliveriesInv w) (h : finalizationStep sha256 w e = some w') :
    DeliveriesInv w' := by
  cases finalizationStep_move h with
  | idle _ hw =>
    subst hw
    exact hi
  | delivered _ x hphase hserves hw =>
    subst hw
    refine hi.put hserves ?_
    intro hp
    rw [hphase] at hp
    simp at hp
  | stepped x event phase' w1 hx hmove hw =>
    subst hw
    exact hi.move hx hmove
  | crashed x hx hw =>
    subst hw
    obtain ⟨d, hd, hs⟩ := hi.served x hx
    exact hi.put ⟨d, hd, hs.phase _⟩ (by simp)
  | advanced _ effect db' ha hnot hw =>
    subst hw
    exact hi.advance ha

/-- **A step of a delivery**: what it changes it has to itself. -/
theorem FinalizationInv.move {x : Delivery} {event : DeliveryEvent} {phase' : DeliveryPhase}
    (hi : FinalizationInv sha256 w) (hd : DeliveriesInv w) (hx : x ∈ w.deliveries.rows)
    (hexclusive : w.exclusive (.step x.id event) = true)
    (h : DeliveryMove sha256 w w' x event phase') :
    FinalizationInv sha256 (w'.put { x with phase := phase' }) := by
  cases h with
  | confined h =>
    cases hholds : x.phase.holds with
    | false =>
      obtain ⟨hevidence, hidle⟩ := h.idle hholds
      have hi' : FinalizationInv sha256 w' := by
        refine ⟨?_, ?_, ?_, ?_⟩
        · rw [h.db]
          exact hi.lengths
        · rw [h.db, h.deliveries, hevidence]
          exact hi.holders
        · rw [h.deliveries]
          exact hi.single
        · rw [h.db, hevidence]
          exact hi.uploaded
      exact hi'.put_idle hidle
    | true =>
      obtain ⟨hserves, hok⟩ := hi.holders x hx hholds
      obtain ⟨hel, hok'⟩ := h.held hholds hok
      refine hi.put_held hserves ?_ hel hok' h.db h.deliveries rfl
      intro y hy hyh hdest
      exact hi.single y hy x hx hyh hholds hdest
  | seized result he hresult hidle evidence' hw hel hok hsource =>
    subst hw he
    obtain ⟨⟨d, hdm, hid, hst⟩, halone⟩ := exclusive_createDestination hx hresult hexclusive
    obtain ⟨d1, hd1, hs⟩ := hd.served x hx
    have hsame : d1 = d := document_eq_of_identity hd1 hdm (hs.identity.symm.trans hid.symm)
    subst hsame
    exact hi.put_held ⟨d1, hd1, hs, hst⟩ halone hel hok rfl rfl rfl
  | finalized fault hphase hw hphase' =>
    subst hw
    rcases committed_finalize fault ⟨x.work.identity, x.work.objectKey, x.destination⟩ w.db with
      ⟨hfin, hdb⟩ | ⟨hfin, hmove⟩
    · rw [hdb]
      refine hi.put_idle ?_
      show phase'.holds = false
      rw [hphase', hfin]
      rfl
    · refine hi.finalize hx hphase hmove ?_
      rw [hphase']
      rcases hfin with hfin | hfin
      · rw [hfin]
        rfl
      · rw [hfin]
        rfl

theorem finalizationInv_step (hd : DeliveriesInv w) (hi : FinalizationInv sha256 w)
    (hexclusive : w.exclusive e = true) (h : finalizationStep sha256 w e = some w') :
    FinalizationInv sha256 w' := by
  cases finalizationStep_move h with
  | idle _ hw =>
    subst hw
    exact hi
  | delivered _ x hphase hserves hw =>
    subst hw
    refine hi.put_idle ?_
    rw [hphase]
    rfl
  | stepped x event phase' w1 hx hmove hw =>
    subst hw
    exact hi.move hd hx hexclusive hmove
  | crashed x hx hw =>
    subst hw
    exact hi.put_idle rfl
  | advanced _ effect db' ha hnot hw =>
    subst hw
    exact hi.advance ha hnot

/-- where a run starts: no delivery, lengths as their column keeps them, and what is uploaded already is
sound -/
structure Start (sha256 : List UInt8 → String) (w : FinalizationWorld) : Prop where
  deliveries : w.deliveries.rows = []
  lengths : ∀ d ∈ w.db.documents.rows, 0 ≤ d.contentLength ∧ d.contentLength ≤ i64Max
  uploaded : ∀ d ∈ w.db.documents.rows, d.uploadStatus = .uploaded →
    Sound sha256 w.evidence d ∧ finalDocumentObjectKey d.uploadWork = some d.objectKey

theorem Start.deliveriesInv (h : Start sha256 w) : DeliveriesInv w := by
  refine ⟨?_, ?_⟩
  · intro x hx
    rw [h.deliveries] at hx
    exact absurd hx List.not_mem_nil
  · intro x hx
    rw [h.deliveries] at hx
    exact absurd hx List.not_mem_nil

theorem Start.finalizationInv (h : Start sha256 w) : FinalizationInv sha256 w := by
  refine ⟨h.lengths, ?_, ?_, h.uploaded⟩
  · intro x hx
    rw [h.deliveries] at hx
    exact absurd hx List.not_mem_nil
  · intro x hx
    rw [h.deliveries] at hx
    exact absurd hx List.not_mem_nil

/-- a staged object goes only by a delivery that was loaded with it, and whose document is uploaded -/
def QuarantineKept (sha256 : List UInt8 → String) (w : FinalizationWorld) : Prop :=
  ∀ e w' key, finalizationStep sha256 w e = some w' →
    FilesystemObjectStore.Deleted w.quarantine w'.quarantine key →
    ∃ x ∈ w.deliveries.rows, x.work.objectKey = key ∧
      ∃ d ∈ w.db.documents.rows, d.identity = x.work.identity ∧ d.uploadStatus = .uploaded

theorem DeliveriesInv.quarantineKept (hi : DeliveriesInv w) : QuarantineKept sha256 w := by
  intro e w' key h hdel
  cases finalizationStep_move h with
  | idle _ hw =>
    subst hw
    exact absurd hdel (FilesystemObjectStore.not_deleted _ _)
  | delivered _ x hphase hserves hw =>
    subst hw
    exact absurd hdel (FilesystemObjectStore.not_deleted _ _)
  | stepped x event phase' w1 hx hmove hw =>
    subst hw
    cases hmove with
    | confined hc =>
      obtain ⟨hphase, hkey⟩ := hc.quarantine key hdel
      obtain ⟨d, hd, hs, hup⟩ := hi.released x hx hphase
      exact ⟨x, hx, hkey.symm, d, hd, hs.identity.symm, hup⟩
    | seized result he hresult hidle evidence' hw hel hok hsource =>
      subst hw
      exact absurd hdel (FilesystemObjectStore.not_deleted _ _)
    | finalized fault hphase hw hphase' =>
      subst hw
      exact absurd hdel (FilesystemObjectStore.not_deleted _ _)
  | crashed x hx hw =>
    subst hw
    exact absurd hdel (FilesystemObjectStore.not_deleted _ _)
  | advanced _ effect db' ha hnot hw =>
    subst hw
    exact absurd hdel (FilesystemObjectStore.not_deleted _ _)

/-- **In every run a staged object is deleted only when its document is uploaded; and in every run
whose deliveries open their destinations exclusively the object of every uploaded document is what the
document says.** -/
theorem finalized_object_integrity {w0 : FinalizationWorld} {es : List FinalizationEvent}
    (h0 : Start sha256 w0) (h : run (finalizationStep sha256) w0 es = some w) :
    QuarantineKept sha256 w ∧
      (Along (finalizationStep sha256) (fun w e => w.exclusive e = true) w0 es →
        ∀ d ∈ w.db.documents.rows, d.uploadStatus = .uploaded → Sound sha256 w.evidence d) := by
  refine ⟨?_, ?_⟩
  · have hi := run_inv DeliveriesInv (fun s e s' hs => deliveriesInv_step hs) h0.deliveriesInv h
    exact hi.quarantineKept
  · intro halong d hd hup
    have hboth : DeliveriesInv w ∧ FinalizationInv sha256 w := by
      refine run_inv_along (fun w => DeliveriesInv w ∧ FinalizationInv sha256 w) ?_
        ⟨h0.deliveriesInv, h0.finalizationInv⟩ halong h
      rintro s e s' ⟨hdel, hfin⟩ hp hstep
      exact ⟨deliveriesInv_step hdel hstep, finalizationInv_step hdel hfin hp hstep⟩
    exact (hboth.2.uploaded d hd hup).1

end

/-! A policy document of three bytes: one delivery promotes it; of two deliveries that were loaded while it
waited, the second empties what the first has uploaded. -/

def sampleBytes : List UInt8 := [1, 2, 3]

/-- the digests of the two byte strings of the sample -/
def sampleSha256 (bytes : List UInt8) : String :=
  if bytes = sampleBytes then "039058c6f2c0cb492c533b0a4d14ef77cc0f78abccced5287d84a1a2011cfb81"
  else "e3b0c44298fc1c149afbf4c8996fb92427ae41e4649b934ca495991b7852b855"

def sampleStagedKey : ObjectKey :=
  ⟨"workspaces/00000000-0000-0000-0000-000000000001/policies/00000000-0000-0000-0000-000000000007/documents/00000000-0000-0000-0000-00000000000b/a.pdf",
    by decide +kernel⟩

def sampleFinalKey : String :=
  "workspaces/00000000-0000-0000-0000-000000000001/policies/00000000-0000-0000-0000-000000000007/documents/00000000-0000-0000-0000-000000000009/a.pdf"

def sampleWaiting : Document :=
  ⟨.policy ⟨7⟩ ⟨9⟩, ⟨1⟩, ⟨2⟩, "a.pdf", "application/pdf", 3, sampleStagedKey.text,
    sampleSha256 sampleBytes, "crc", .finalizing, false, 0⟩

def sampleQuarantine : FilesystemObjectStore :=
  let key := sampleStagedKey.text
  let s := (FilesystemObjectStore.empty.truncateObject key).writeChunk 0 0 sampleBytes
  (s.truncateMetadata key).writeMetadata 0
    (some ⟨key, "application/pdf", 3, sampleSha256 sampleBytes⟩)

def sampleFinalization : FinalizationWorld where
  db := { DocumentDb.empty with
    policies := DocumentDb.empty.policies.upsert ⟨⟨7⟩, ⟨1⟩, none⟩
    documents := DocumentDb.empty.documents.upsert sampleWaiting }
  quarantine := sampleQuarantine
  evidence := .empty
  deliveries := .empty

/-- a delivery up to its destination -/
def sampleLoad (delivery : Nat) : List FinalizationEvent :=
  [.deliver delivery (.policy ⟨7⟩ ⟨9⟩) sampleStagedKey true,
    .step delivery (.head true), .step delivery (.openSource true)]

/-- the rest of a delivery that meets no fault -/
def samplePromote (delivery : Nat) : List FinalizationEvent :=
  [.step delivery (.createDestination .created), .step delivery (.copyChunk 2 .none),
    .step delivery (.copyChunk 2 .none), .step delivery (.copyChunk 2 .none),
    .step delivery (.createMetadata .created), .step delivery (.writeMetadata true),
    .step delivery (.finalize .none), .step delivery (.deleteSource true),
    .step delivery (.deleteSourceMetadata true)]

/-- a document, and the bytes under its key -/
structure Promoted where
  uploadStatus : DocumentUploadStatus
  contentLength : Int
  objectKey : String
  bytes : Option (List UInt8)
  deriving DecidableEq

/-- the documents with their bytes, and whether the staged object is still there -/
def FinalizationWorld.promoted (w : FinalizationWorld) : List Promoted × Bool :=
  (w.db.documents.rows.map fun d =>
    ⟨d.uploadStatus, d.contentLength, d.objectKey, w.evidence.objects.get d.objectKey⟩,
    (w.quarantine.objects.get sampleStagedKey.text).isSome)

theorem sampleFinalization_start : Start sampleSha256 sampleFinalization where
  deliveries := rfl
  lengths := by
    intro d hd
    rcases Table.mem_upsert.mp hd with rfl | ⟨hd, -⟩
    · decide
    · exact absurd hd (Table.mem_rows_empty d)
  uploaded := by
    intro d hd hup
    rcases Table.mem_upsert.mp hd with rfl | ⟨hd, -⟩
    · cases hup
    · exact absurd hd (Table.mem_rows_empty d)

theorem finalized_object_integrity_once :
    ∃ w, run (finalizationStep sampleSha256) sampleFinalization (sampleLoad 1 ++ samplePromote 1)
        = some w ∧
      w.promoted = ([⟨.uploaded, 3, sampleFinalKey, some sampleBytes⟩], false) ∧
      QuarantineKept sampleSha256 w ∧
      ∀ d ∈ w.db.documents.rows, d.uploadStatus = .uploaded → Sound sampleSha256 w.evidence d := by
  -- one evaluation for both, since they go through the same states
  have hboth : ((run (finalizationStep sampleSha256) sampleFinalization
        (sampleLoad 1 ++ samplePromote 1)).map fun w => w.promoted,
      checkAlong (finalizationStep sampleSha256) FinalizationWorld.exclusive sampleFinalization
        (sampleLoad 1 ++ samplePromote 1))
      = (some ([⟨.uploaded, 3, sampleFinalKey, some sampleBytes⟩], false), true) := by
    decide +kernel
  obtain ⟨hrun, hexclusive⟩ := Prod.mk.inj hboth
  obtain ⟨w, hw, hdata⟩ := Option.map_eq_some_iff.mp hrun
  obtain ⟨hkept, hsound⟩ := finalized_object_integrity sampleFinalization_start hw
  exact ⟨w, hw, hdata, hkept, hsound (along_of_check hexclusive)⟩

theorem finalized_object_truncated :
    ∃ w, run (finalizationStep sampleSha256) sampleFinalization
        (sampleLoad 1 ++ sampleLoad 2 ++ samplePromote 1 ++
          [.step 2 (.createDestination .created)]) = some w ∧
      w.promoted = ([⟨.uploaded, 3, sampleFinalKey, some []⟩], false) ∧
      ¬ ∀ d ∈ w.db.documents.rows, d.uploadStatus = .uploaded → Sound sampleSha256 w.evidence d := by
  have hrun : ((run (finalizationStep sampleSha256) sampleFinalization
      (sampleLoad 1 ++ sampleLoad 2 ++ samplePromote 1 ++
        [.step 2 (.createDestination .created)])).map fun w => w.promoted)
      = some ([⟨.uploaded, 3, sampleFinalKey, some []⟩], false) := by
    decide +kernel
  obtain ⟨w, hw, hdata⟩ := Option.map_eq_some_iff.mp hrun
  refine ⟨w, hw, hdata, ?_⟩
  intro hsound
  have hmem : (⟨.uploaded, 3, sampleFinalKey, some []⟩ : Promoted) ∈ w.promoted.1 := by
    rw [hdata]
    exact List.mem_cons_self
  obtain ⟨d, hd, heq⟩ := List.mem_map.mp hmem
  obtain ⟨hup, hlen, -, hget⟩ := Promoted.mk.inj heq
  obtain ⟨bytes, hbytes, hlength, -⟩ := hsound d hd hup
  rw [hget] at hbytes
  cases hbytes
  rw [hlen] at hlength
  cases hlength

end Proofplane
