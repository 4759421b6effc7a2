import Proofplane.Scanning.Gate

/-!
# The bytes that are served

While destinations are opened exclusively, what the gate has let through is what the evidence store holds.

* `DeliveryPhase.Reads`   what a promotion has copied so far is a part of the staged file;
* `PromotionOk`           what holds of a promotion: it copies what was scanned, and before its unit of work
                          the destination holds it;
* `UploadedOk`            what holds of an uploaded document, `BytesInv` of all of them;
* `evidence_change`       what a promotion changes in the evidence store belongs to no uploaded document;
* `uploaded_bytes_scanned`   **the object of every uploaded document is, byte for byte, what the scanner was
                          sent and answered clean**.
-/

namespace Proofplane
open Base

/-! ## What a promotion copies -/

/-- what a promotion has read of the file `n`, which has these bytes -/
def DeliveryPhase.Reads (n : Nat) (bytes : List UInt8) : DeliveryPhase → Prop
  | .opened _ file => file = n
  | .copying _ file _ written => file = n ∧ written <+: bytes
  | .describing _ written => written = bytes
  | .describingFile _ written _ => written = bytes
  | _ => True

section
variable {sha256 : List UInt8 → String} {w w' : FinalizationWorld} {x : Delivery} {phase' : DeliveryPhase}
  {e : DeliveryEvent} {n : Nat}

theorem comparedPhase_reads (x : Delivery) (source : ObjectMetadata) (written bytes : List UInt8) :
    (x.comparedPhase sha256 source written).Reads n bytes := by
  unfold Delivery.comparedPhase
  dsimp only
  split
  · exact trivial
  · split
    · exact trivial
    · exact trivial

theorem copyChunk_reads {source : ObjectMetadata} {file destinationFile size : Nat} {written : List UInt8}
    (fault : ChunkFault) (hsize : size ≠ 0)
    (hphase : (DeliveryPhase.copying source file destinationFile written).Reads n (w.quarantine.objects.nodes n)) :
    (w.copyChunk source file destinationFile written size fault).2.Reads n (w.quarantine.objects.nodes n) := by
  obtain ⟨rfl, hprefix⟩ := hphase
  unfold FinalizationWorld.copyChunk
  cases fault with
  | read => exact trivial
  | write part => exact trivial
  | none =>
    dsimp only
    split
    · next hend => exact prefix_end hprefix hsize hend
    · split
      · exact trivial
      · exact ⟨rfl, prefix_append_take hprefix size⟩

/-- **One step of a promotion** goes on with the same file, and compares after the whole of it. -/
theorem deliveryStep_reads (h : deliveryStep sha256 w x e = some (w', phase'))
    (hopen : ∀ m, w.quarantine.openObject x.work.objectKey = some m → m = n)
    (hreads : x.phase.Reads n (w.quarantine.objects.nodes n)) :
    phase'.Reads n (w.quarantine.objects.nodes n) ∧
      (phase' = .finalizing → ∃ source metadataFile,
        x.phase = .describingFile source (w.quarantine.objects.nodes n) metadataFile ∧
          w'.evidence.objects = w.evidence.objects) := by
  unfold deliveryStep at h
  split at h
  case h_1 =>
    split at h
    · cases h
      exact ⟨trivial, by simp⟩
    · cases h
      exact ⟨trivial, by simp⟩
  case h_2 source ok hphase =>
    split at h
    · cases h
      exact ⟨trivial, by simp⟩
    · next file hfile =>
      cases h
      rw [Option.ite_none_right_eq_some] at hfile
      exact ⟨hopen file hfile.2, by simp⟩
  case h_3 source file result hphase =>
    rw [hphase] at hreads
    cases result with
    | directoryFailed =>
      cases h
      exact ⟨trivial, by simp⟩
    | failed =>
      cases h
      exact ⟨trivial, by simp⟩
    | created =>
      cases h
      exact ⟨⟨hreads, List.nil_prefix⟩, by simp⟩
  case h_4 source file destinationFile written size fault hphase =>
    rw [hphase] at hreads
    split at h
    · cases h
    · next hsize =>
      have hcopied := copyChunk_reads fault (fun hzero => hsize (.inl hzero)) hreads
      have hphase' : phase' = (w.copyChunk source file destinationFile written size fault).2 :=
        congrArg Prod.snd (Option.some.inj h).symm
      rw [← hphase'] at hcopied
      refine ⟨hcopied, ?_⟩
      rintro rfl
      unfold FinalizationWorld.copyChunk at hphase'
      cases fault with
      | read => cases hphase'
      | write part => cases hphase'
      | none =>
        dsimp only at hphase'
        split at hphase'
        · cases hphase'
        · split at hphase'
          · cases hphase'
          · cases hphase'
  case h_5 =>
    cases h
    exact ⟨trivial, by simp⟩
  case h_6 source written result hphase =>
    rw [hphase] at hreads
    cases result with
    | directoryFailed =>
      cases h
      exact ⟨trivial, by simp⟩
    | failed =>
      cases h
      exact ⟨trivial, by simp⟩
    | created =>
      cases h
      exact ⟨hreads, by simp⟩
  case h_7 source written metadataFile ok hphase =>
    rw [hphase] at hreads
    split at h
    · cases h
      refine ⟨comparedPhase_reads x source written _, fun _ => ⟨source, metadataFile, ?_, rfl⟩⟩
      rw [hphase, show written = w.quarantine.objects.nodes n from hreads]
    · cases h
      exact ⟨trivial, by simp⟩
  case h_8 =>
    split at h
    · cases h
      exact ⟨trivial, by simp⟩
    · cases h
      exact ⟨trivial, by simp⟩
  case h_9 =>
    cases h
    exact ⟨trivial, by simp⟩
  case h_10 fault hphase =>
    have hphase' : phase' = finalizedPhase (committed fault w.db
        (finalizeDocument w.db ⟨x.work.identity, x.work.objectKey, x.destination⟩)).1 :=
      congrArg Prod.snd (Option.some.inj h).symm
    rcases committed_finalize fault ⟨x.work.identity, x.work.objectKey, x.destination⟩ w.db with
      ⟨hfin, -⟩ | ⟨hfin | hfin, -⟩
    · rw [hphase', hfin]
      exact ⟨trivial, by simp⟩
    · rw [hphase', hfin]
      exact ⟨trivial, by simp⟩
    · rw [hphase', hfin]
      exact ⟨trivial, by simp⟩
  case h_11 =>
    split at h
    · cases h
      exact ⟨trivial, by simp⟩
    · cases h
      exact ⟨trivial, by simp⟩
  case h_12 =>
    cases h
    exact ⟨trivial, by simp⟩
  case h_13 => cases h

/-! ## What a promotion changes -/

/-- a step of one delivery leaves the other deliveries to themselves -/
theorem DeliveryMove.deliveries (h : DeliveryMove sha256 w w' x e phase') : w'.deliveries = w.deliveries := by
  cases h with
  | confined h => exact h.deliveries
  | seized result he hresult hidle evidence' hw hel hok hsource => rw [hw]
  | finalized fault hphase hw hphase' => rw [hw]

/-- a command touches the tables only -/
theorem command_stores {α : Type} (w : FinalizationWorld) (commits : Bool)
    (r : Except DocumentCommandError (α × DocumentDb)) :
    (w.command commits r).deliveries = w.deliveries ∧ (w.command commits r).evidence = w.evidence := by
  unfold FinalizationWorld.command
  split
  · cases commits with
    | false => exact ⟨rfl, rfl⟩
    | true => exact ⟨rfl, rfl⟩
  · exact ⟨rfl, rfl⟩

/-- **The evidence store changes under the key of a document that still waits, and of no other delivery.** -/
theorem evidence_change (hi : FinalizationInv sha256 w) (hd : DeliveriesInv w) (hx : x ∈ w.deliveries.rows)
    (hexclusive : w.exclusive (.step x.id e) = true) (h : DeliveryMove sha256 w w' x e phase') :
    w'.evidence = w.evidence ∨
      FilesystemObjectStore.Elsewhere w.evidence w'.evidence x.destination ∧
        (∀ d ∈ w.db.documents.rows, d.uploadStatus = .uploaded → d.objectKey ≠ x.destination) ∧
        ∀ y ∈ w.deliveries.rows, y.phase.holds = true → y.destination = x.destination → y.id = x.id := by
  -- the document that would have the destination still waits
  have hapart : ∀ d1 ∈ w.db.documents.rows, Serves d1 x → d1.uploadStatus = .finalizing →
      ∀ d ∈ w.db.documents.rows, d.uploadStatus = .uploaded → d.objectKey ≠ x.destination := by
    intro d1 hd1 hs hst d hdm hup heq
    obtain ⟨-, hkey⟩ := hi.uploaded d hdm hup
    rw [heq] at hkey
    have hsame : d = d1 := w.db.documents.eq_of_key hdm hd1 (finalDocumentObjectKey_inj hkey hs.destination)
    subst hsame
    rw [hst] at hup
    cases hup
  cases h with
  | confined h =>
    cases hholds : x.phase.holds with
    | false => exact .inl (h.idle hholds).1
    | true =>
      obtain ⟨⟨d1, hd1, hs, hst⟩, hok⟩ := hi.holders x hx hholds
      exact .inr ⟨(h.held hholds hok).1, hapart d1 hd1 hs hst, fun y hy hyh hdest =>
        hi.single y hy x hx hyh hholds hdest⟩
  | seized result he hresult hidle evidence' hw hel hok hsource =>
    subst hw he
    obtain ⟨⟨d, hdm, hid, hst⟩, halone⟩ := exclusive_createDestination hx hresult hexclusive
    obtain ⟨d1, hd1, hs⟩ := hd.served x hx
    have hsame : d1 = d := document_eq_of_identity hd1 hdm (hs.identity.symm.trans hid.symm)
    subst hsame
    exact .inr ⟨hel, hapart d1 hd1 hs hst, halone⟩
  | finalized fault hphase hw hphase' =>
    subst hw
    exact .inl rfl

end

/-! ## The invariant -/

/-- a promotion copies what was scanned, and before its unit of work its destination holds it -/
def PromotionOk (w : ScanningWorld) (x : Delivery) : Prop :=
  ∃ n, Closed w.uploads x.work.objectKey n ∧
    ScannedClean w.exchanges x.work.identity x.work.objectKey (w.quarantine.objects.nodes n) ∧
    x.phase.Reads n (w.quarantine.objects.nodes n) ∧
    (x.phase = .finalizing →
      w.promotion.evidence.objects.get x.destination = some (w.quarantine.objects.nodes n))

/-- the object of an uploaded document is what was scanned -/
def UploadedOk (w : ScanningWorld) (d : Document) : Prop :=
  ∃ key n, Closed w.uploads key n ∧
    ScannedClean w.exchanges d.identity key (w.quarantine.objects.nodes n) ∧
    w.promotion.evidence.objects.get d.objectKey = some (w.quarantine.objects.nodes n)

structure BytesInv (sha256 : List UInt8 → String) (w : ScanningWorld) : Prop where
  gate : GateInv sha256 w
  deliveries : DeliveriesInv w.promotion
  finalization : FinalizationInv sha256 w.promotion
  promotions : ∀ x ∈ w.promotion.deliveries.rows, PromotionOk w x
  uploaded : ∀ d ∈ w.promotion.db.documents.rows, d.uploadStatus = .uploaded → UploadedOk w d

section
variable {sha256 : List UInt8 → String} {maxDeliveryAttempts : Nat} {w w' : ScanningWorld} {x : Delivery}
  {d : Document}

theorem PromotionOk.later (h : PromotionOk w x) (hl : ScanningLater w w')
    (hevidence : x.phase = .finalizing →
      w'.promotion.evidence.objects.get x.destination = w.promotion.evidence.objects.get x.destination) :
    PromotionOk w' x := by
  obtain ⟨n, hclosed, hscanned, hreads, hheld⟩ := h
  refine ⟨n, hl.kept.closed _ _ hclosed, ?_⟩
  rw [hl.kept.nodes _ _ hclosed]
  exact ⟨hscanned.mono hl.exchanges, hreads, fun hphase => (hevidence hphase).trans (hheld hphase)⟩

theorem UploadedOk.later (h : UploadedOk w d) (hl : ScanningLater w w')
    (hevidence : w'.promotion.evidence.objects.get d.objectKey = w.promotion.evidence.objects.get d.objectKey) :
    UploadedOk w' d := by
  obtain ⟨key, n, hclosed, hscanned, hheld⟩ := h
  refine ⟨key, n, hl.kept.closed _ _ hclosed, ?_⟩
  rw [hl.kept.nodes _ _ hclosed]
  exact ⟨hscanned.mono hl.exchanges, hevidence.trans hheld⟩

theorem UploadedOk.congr {d' : Document} (h : UploadedOk w d) (hw : d'.uploadWork = d.uploadWork) :
    UploadedOk w d' := by
  unfold UploadedOk
  rw [show d'.identity = d.identity from congrArg UploadWork.identity hw,
    show d'.objectKey = d.objectKey from congrArg UploadWork.objectKey hw]
  exact h

/-- a step that leaves promotions and the evidence store alone, and uploads no document -/
theorem BytesInv.aside (hi : BytesInv sha256 w) (hg : GateInv sha256 w') (hl : ScanningLater w w')
    (hdeliveries : w'.promotion.deliveries = w.promotion.deliveries)
    (hevidence : w'.promotion.evidence = w.promotion.evidence) (hinv : DeliveriesInv w'.promotion)
    (hfin : FinalizationInv sha256 w'.promotion)
    (hdocs : ∀ d ∈ w'.promotion.db.documents.rows, d.uploadStatus = .uploaded →
      ∃ d0 ∈ w.promotion.db.documents.rows, d0.uploadStatus = .uploaded ∧ d.identity = d0.identity ∧
        d.objectKey = d0.objectKey) : BytesInv sha256 w' where
  gate := hg
  deliveries := hinv
  finalization := hfin
  promotions := by
    rw [hdeliveries]
    intro x hx
    exact (hi.promotions x hx).later hl fun _ => by rw [hevidence]
  uploaded := by
    intro d hd hup
    obtain ⟨d0, hd0, hup0, hid, hkey⟩ := hdocs d hd hup
    unfold UploadedOk
    rw [hid, hkey]
    exact (hi.uploaded d0 hd0 hup0).later hl (by rw [hevidence])

/-- a step of an upload or a removal -/
theorem BytesInv.staging {s : FilesystemObjectStore} {uploads : Uploads} (hi : BytesInv sha256 w)
    (hg : GateInv sha256 { w.withQuarantine s with uploads })
    (hl : ScanningLater w { w.withQuarantine s with uploads }) :
    BytesInv sha256 { w.withQuarantine s with uploads } :=
  hi.aside hg hl rfl rfl ⟨hi.deliveries.served, hi.deliveries.released⟩
    ⟨hi.finalization.lengths, hi.finalization.holders, hi.finalization.single, hi.finalization.uploaded⟩
    fun d hd hup => ⟨d, hd, hup, rfl, rfl⟩

/-- a command that uploads no document -/
theorem BytesInv.advance {db' : DocumentDb} {effect : DocumentEffect} (hi : BytesInv sha256 w)
    (hpromotion : w'.promotion = { w.promotion with db := db' }) (hg : GateInv sha256 w') (hl : ScanningLater w w')
    (ha : DocumentsAdvance effect w.promotion.db db')
    (hnot : ∀ identity key key', effect ≠ .finalized identity key key') : BytesInv sha256 w' := by
  refine hi.aside hg hl ?_ ?_ ?_ ?_ ?_
  · rw [hpromotion]
  · rw [hpromotion]
  · rw [hpromotion]
    exact hi.deliveries.advance ha
  · rw [hpromotion]
    exact hi.finalization.advance ha hnot
  · rw [hpromotion]
    intro d' hd' hup
    obtain ⟨d, hd, hadv⟩ := ha.back d' hd'
    cases hadv with
    | same hw hs =>
      exact ⟨d, hd, hs.symm.trans hup, congrArg UploadWork.identity hw, congrArg UploadWork.objectKey hw⟩
    | scanned hw hs hs' => exact absurd hup hs'
    | finalized key he hw hs hs' => exact absurd he (hnot _ _ _)

/-- a document that is created leaves the deliveries and the other documents as they are -/
theorem finalizationInv_created {w : FinalizationWorld} {db' : DocumentDb} {d : Document}
    (hi : FinalizationInv sha256 w) (hnew : NewDocumentId w.db d.id) (hstatus : d.uploadStatus = .pendingUpload)
    (hlength : 0 ≤ d.contentLength ∧ d.contentLength ≤ i64Max)
    (hdb : db'.documents = w.db.documents.upsert d.toRow) : FinalizationInv sha256 { w with db := db' } := by
  have hmem : ∀ u, u ∈ db'.documents.rows → u = d.toRow ∨ u ∈ w.db.documents.rows := by
    intro u hu
    rw [hdb] at hu
    rcases Table.mem_upsert.mp hu with rfl | ⟨hum, -⟩
    · exact .inl rfl
    · exact .inr hum
  refine ⟨?_, ?_, hi.single, ?_⟩
  · intro u hu
    rcases hmem u hu with rfl | hum
    · exact hlength
    · exact hi.lengths u hum
  · intro x hx hholds
    obtain ⟨⟨u, hu, hserves⟩, hok⟩ := hi.holders x hx hholds
    refine ⟨⟨u, ?_, hserves⟩, hok⟩
    show u ∈ db'.documents.rows
    rw [hdb]
    exact Table.mem_upsert.mpr (.inr ⟨hu, hnew u hu⟩)
  · intro u hu hup
    rcases hmem u hu with rfl | hum
    · rw [show d.toRow.uploadStatus = d.uploadStatus from rfl, hstatus] at hup
      cases hup
    · exact hi.uploaded u hum hup

/-- what is staged is not longer than a length can be -/
theorem offers_length {s : FilesystemObjectStore} {u : StagedUpload} {payload : CreateDocumentPayload}
    (hw : u.Writes sha256 s) (h : u.offers payload = true) :
    0 ≤ payload.contentLength ∧ payload.contentLength ≤ i64Max := by
  unfold StagedUpload.offers at h
  split at h
  · next document hphase =>
    unfold StagedUpload.Writes at hw
    rw [hphase] at hw
    obtain ⟨file, -, -, hlength, hmax, -⟩ := hw
    rw [of_decide_eq_true h]
    refine ⟨?_, hmax⟩
    show 0 ≤ document.contentLength
    rw [hlength]
    exact Int.natCast_nonneg _
  · cases h

/-- **A creating command.** -/
theorem bytes_create {u : StagedUpload} {command : DocumentCommand} {metadata : ExecutionMetadata}
    {messageId : Uuid} (commits : Bool) (hi : BytesInv sha256 w) (hu : u ∈ w.uploads.rows)
    (hcreates : command.creates = true) (hoffers : command.document?.any u.offers = true)
    (hnew : ∀ d db', command.handle w.promotion.db metadata messageId = .ok (.created d, db') →
      NewDocumentId w.promotion.db d.id) {promotion : FinalizationWorld}
    (hw : promotion = w.promotion.command commits (command.handle w.promotion.db metadata messageId)) :
    BytesInv sha256 { w with promotion } := by
  have hg := gate_create commits hi.gate hu hcreates hoffers hw
  unfold FinalizationWorld.command at hw
  split at hw
  · next effect db' hr =>
    cases commits with
    | false =>
      subst hw
      exact hi
    | true =>
      subst hw
      have hl : ScanningLater w { w with promotion := { w.promotion with db := db' } } :=
        later_of_eq rfl rfl fun _ hmem => hmem
      rcases creates_move hcreates hr with hdocs | ⟨d, rfl, hstatus, hdocs⟩
      · exact hi.advance rfl hg hl (advances_of_eq .unchanged hdocs) (by simp)
      · obtain ⟨payload, hp, hoffer⟩ := (Option.any_eq_true _ _).mp hoffers
        have hlength := offers_length (hi.gate.staging.writes u hu) hoffer
        obtain ⟨identity, workspaceId, userId, createdAt, hd⟩ := creates_payload hp hr
        have hkeys := uploadedKeys_created (w := w.promotion)
          ⟨hi.deliveries, fun d hd hup => (hi.finalization.uploaded d hd hup).2⟩ (hnew d db' hr) hstatus hdocs
        refine hi.aside hg hl rfl rfl hkeys.deliveries
          (finalizationInv_created hi.finalization (hnew d db' hr) hstatus ?_ hdocs) ?_
        · rw [hd]
          exact hlength
        · intro u hu hup
          have hmem : u ∈ (w.promotion.db.documents.upsert d.toRow).rows := hdocs ▸ hu
          rcases Table.mem_upsert.mp hmem with rfl | ⟨hum, -⟩
          · rw [show d.toRow.uploadStatus = d.uploadStatus from rfl, hstatus] at hup
            cases hup
          · exact ⟨u, hum, hup, rfl, rfl⟩
  · subst hw
    exact hi

/-- **One step of a scan.** -/
theorem bytes_scan {x : ScanDelivery} {db' : DocumentDb} {phase' : ScanPhase} {exchanges : List ScanExchange}
    (hi : BytesInv sha256 w) (hx : x ∈ w.scans.rows)
    (h : ScanMove w.promotion.db db' w.quarantine x phase' exchanges) :
    BytesInv sha256 (w.scanned x db' phase' exchanges) := by
  have hg := gate_scan hi.gate hx h
  have hl : ScanningLater w (w.scanned x db' phase' exchanges) :=
    later_of_eq rfl rfl fun exchange hmem => List.mem_append_left _ hmem
  have hsame : db' = w.promotion.db → BytesInv sha256 (w.scanned x db' phase' exchanges) := fun hdb =>
    hi.advance rfl hg hl (advances_of_eq .unchanged (congrArg DocumentDb.documents hdb)) (by simp)
  cases h with
  | rested hdb _ _ => exact hsame hdb
  | opened file hdb hopen hphase' => exact hsame hdb
  | sent file size chunks hdb hbefore hphase' => exact hsame hdb
  | ended file size chunks hdb hsize hbefore hend hphase' => exact hsame hdb
  | answered chunks reads hdb hbefore hphase' => exact hsame hdb
  | recorded result messageId fault hbefore hdb hphase' =>
    rcases committed_scan fault x.metadata messageId ⟨x.work.identity, x.work.objectKey, result⟩
      w.promotion.db with hunchanged | hmove
    · exact hsame (hdb.trans hunchanged)
    · rw [← hdb] at hmove
      exact hi.advance rfl hg hl (advances_move hmove (by simp)) (by simp)

/-! ## Promotions -/

/-- a promotion comes in, or goes on without touching the evidence store -/
theorem BytesInv.promotion_put {x : Delivery} (hi : BytesInv sha256 w)
    (hg : GateInv sha256 { w with promotion := w.promotion.put x })
    (hinv : DeliveriesInv (w.promotion.put x)) (hfin : FinalizationInv sha256 (w.promotion.put x))
    (hx : PromotionOk w x) : BytesInv sha256 { w with promotion := w.promotion.put x } where
  gate := hg
  deliveries := hinv
  finalization := hfin
  promotions := by
    intro y hy
    rcases Table.mem_upsert.mp hy with rfl | ⟨hym, -⟩
    · exact hx
    · exact hi.promotions y hym
  uploaded := hi.uploaded

/-- a message comes in for a document that was scanned clean -/
theorem delivered_cases (w : FinalizationWorld) (delivery : Nat) (identity : DocumentIdentity) (objectKey : String)
    (ok : Bool) : w.deliver delivery identity objectKey ok = w ∨
      ∃ d ∈ w.db.documents.rows, d.uploadStatus = .finalizing ∧ ∃ destination,
        w.deliver delivery identity objectKey ok = w.put ⟨delivery, d.uploadWork, destination, .promoting⟩ := by
  unfold FinalizationWorld.deliver
  split
  · exact .inl rfl
  · next work hload =>
    split
    · exact .inl rfl
    · next destination hdest =>
      split
      · rw [Option.ite_none_right_eq_some] at hload
        obtain ⟨d, hfilter, rfl⟩ := Option.map_eq_some_iff.mp hload.2
        obtain ⟨hget, hcond⟩ := Option.filter_eq_some_iff.mp hfilter
        obtain ⟨-, hst, -, -⟩ := of_decide_eq_true hcond
        exact .inr ⟨d, (identity_of_getDocument hget).1, hst, destination, rfl⟩
      · exact .inl rfl

/-- **One step of a promotion.** -/
theorem bytes_step {x : Delivery} {e : DeliveryEvent} {promotion : FinalizationWorld} {phase' : DeliveryPhase}
    (hi : BytesInv sha256 w) (hx : x ∈ w.promotion.deliveries.rows)
    (hexclusive : w.promotion.exclusive (.step x.id e) = true)
    (h : deliveryStep sha256 w.promotion x e = some (promotion, phase')) :
    BytesInv sha256 { w with promotion := promotion.put { x with phase := phase' } } := by
  have hmove := deliveryStep_move h
  have hkept := deliveryStep_kept h
  have hg : GateInv sha256 { w with promotion := promotion.put { x with phase := phase' } } :=
    gate_finalization hi.gate ⟨hkept.unlinked, hkept.documents⟩
  have hl : ScanningLater w { w with promotion := promotion.put { x with phase := phase' } } :=
    ⟨(hi.gate.staging.unlinked hkept.unlinked).2, fun _ hmem => hmem⟩
  obtain ⟨n, hclosed, hscanned, hreads, hheld⟩ := hi.promotions x hx
  obtain ⟨hreads', hcompared⟩ := deliveryStep_reads h
    (fun m hopen => hi.gate.staging.files.opened hclosed.made hopen) hreads
  have hchange := evidence_change hi.finalization hi.deliveries hx hexclusive hmove
  have hrest : ∀ y ∈ w.promotion.deliveries.rows, y.id ≠ x.id →
      PromotionOk { w with promotion := promotion.put { x with phase := phase' } } y := by
    intro y hy hne
    refine (hi.promotions y hy).later hl fun hphase => ?_
    rcases hchange with heq | ⟨hel, -, halone⟩
    · show promotion.evidence.objects.get y.destination = _
      rw [heq]
    · refine hel.objects.get fun hdest => hne (halone y hy ?_ hdest)
      rw [hphase]
      rfl
  refine ⟨hg, hi.deliveries.move hx hmove, hi.finalization.move hi.deliveries hx hexclusive hmove, ?_, ?_⟩
  · intro y hy
    rcases Table.mem_upsert.mp hy with rfl | ⟨hym, hne⟩
    · refine ⟨n, hclosed, ?_⟩
      show ScannedClean w.exchanges x.work.identity x.work.objectKey (promotion.quarantine.objects.nodes n) ∧
        phase'.Reads n (promotion.quarantine.objects.nodes n) ∧ (phase' = .finalizing →
          promotion.evidence.objects.get x.destination = some (promotion.quarantine.objects.nodes n))
      rw [hkept.unlinked.nodes]
      refine ⟨hscanned, hreads', fun hphase => ?_⟩
      -- the comparison comes after the whole file, which is what the destination has
      obtain ⟨source, metadataFile, hbefore, hobjects⟩ := hcompared hphase
      rw [hobjects]
      have hok := (hi.finalization.holders x hx (by rw [hbefore]; rfl)).2
      unfold HolderOk at hok
      rw [hbefore] at hok
      exact hok.1
    · rw [hmove.deliveries] at hym
      exact hrest y hym hne
  · have hold : ∀ d ∈ w.promotion.db.documents.rows, d.uploadStatus = .uploaded →
        UploadedOk { w with promotion := promotion.put { x with phase := phase' } } d := by
      intro d hd hup
      refine (hi.uploaded d hd hup).later hl ?_
      rcases hchange with heq | ⟨hel, hapart, -⟩
      · show promotion.evidence.objects.get d.objectKey = _
        rw [heq]
      · exact hel.objects.get (hapart d hd hup)
    cases hmove with
    | confined h =>
      show ∀ d ∈ promotion.db.documents.rows, _
      rw [h.db]
      exact hold
    | seized result he hresult hidle evidence' hw hel hok hsource =>
      subst hw
      exact hold
    | finalized fault hphase hw hphase' =>
      rcases committed_finalize fault ⟨x.work.identity, x.work.objectKey, x.destination⟩ w.promotion.db with
        ⟨-, hdb⟩ | ⟨-, hfinalized⟩
      · rw [hdb] at hw
        subst hw
        exact hold
      · intro d' hd'
        subst hw
        obtain ⟨d, hd, hadv⟩ := (advances_move hfinalized (by simp)).back d' hd'
        intro hup
        cases hadv with
        | same hw hs => exact (hold d hd (hs.symm.trans hup)).congr hw
        | scanned hw hs hs' => exact absurd hup hs'
        | finalized key he hw hs hs' =>
          -- the document that goes up is the one that the promotion serves
          obtain ⟨hid, -, hkey⟩ := DocumentEffect.finalized.inj he
          have hidentity : d'.identity = x.work.identity := (congrArg UploadWork.identity hw).trans hid.symm
          have hdestination : d'.objectKey = x.destination := (congrArg UploadWork.objectKey hw).trans hkey.symm
          refine ⟨x.work.objectKey, n, hclosed, ?_, ?_⟩
          · rw [hidentity]
            exact hscanned
          · rw [hdestination]
            exact hheld hphase

/-- **One step of the deliveries of finalization messages, and of the rest of the application.** -/
theorem bytes_finalization {e : FinalizationEvent} {promotion : FinalizationWorld} (hi : BytesInv sha256 w)
    (hg : GateInv sha256 { w with promotion }) (hexclusive : w.promotion.exclusive e = true)
    (hscan : e.isScan = false) (h : finalizationStep sha256 w.promotion e = some promotion) :
    BytesInv sha256 { w with promotion } := by
  have hinv := deliveriesInv_step hi.deliveries h
  have hfin := finalizationInv_step hi.deliveries hi.finalization hexclusive h
  have hl : ScanningLater w { w with promotion } :=
    ⟨(hi.gate.staging.unlinked (finalizationStep_kept hscan h).unlinked).2, fun _ hmem => hmem⟩
  cases e with
  | deliver delivery identity objectKey ok =>
    simp only [finalizationStep] at h
    split at h
    · cases h
    · have hw := Option.some.inj h
      rcases delivered_cases w.promotion delivery identity objectKey.text ok with hsame | ⟨d, hd, hst, dest, hput⟩
      · rw [hsame] at hw
        subst hw
        exact hi
      · rw [hput] at hw
        subst hw
        obtain ⟨key, n, hclosed, hkey, -, -, hscanned⟩ := hi.gate.documents d hd
        refine hi.promotion_put hg hinv hfin ⟨n, ?_, ?_, trivial, by simp⟩
        · rw [show d.uploadWork.objectKey = key from hkey (.inr hst)]
          exact hclosed
        · rw [show d.uploadWork.objectKey = key from hkey (.inr hst)]
          exact hscanned (.inl hst)
  | step delivery event =>
    obtain ⟨x, hget, hx⟩ := Option.bind_eq_some_iff.mp h
    obtain ⟨p, hp, rfl⟩ := Option.map_eq_some_iff.mp hx
    obtain ⟨hmem, rfl⟩ := Table.get?_eq_some_iff.mp hget
    exact bytes_step hi hmem hexclusive hp
  | crash delivery =>
    obtain ⟨x, hget, rfl⟩ := Option.map_eq_some_iff.mp h
    obtain ⟨n, hclosed, hscanned, -, -⟩ := hi.promotions x (Table.get?_mem hget)
    exact hi.promotion_put hg hinv hfin ⟨n, hclosed, hscanned, trivial, by simp⟩
  | scan command metadata messageId commits => cases hscan
  | archive command commits =>
    cases h
    refine hi.aside hg hl ?_ ?_ hinv hfin ?_
    · exact (command_stores _ _ _).1
    · exact (command_stores _ _ _).2
    · unfold FinalizationWorld.command
      split
      · next outcome db' hr =>
        cases commits with
        | false => exact fun d hd hup => ⟨d, hd, hup, rfl, rfl⟩
        | true =>
          rcases archiveDocument_ok hr with ⟨-, hdb⟩ | ⟨-, hmove, -⟩
          · subst hdb
            exact fun d hd hup => ⟨d, hd, hup, rfl, rfl⟩
          · intro d' hd' hup
            obtain ⟨d, hd, hadv⟩ := (advances_move hmove (by simp)).back d' hd'
            cases hadv with
            | same hw hs =>
              exact ⟨d, hd, hs.symm.trans hup, congrArg UploadWork.identity hw, congrArg UploadWork.objectKey hw⟩
            | scanned hw hs hs' => exact absurd hup hs'
            | finalized key he hw hs hs' => cases he
      · exact fun d hd hup => ⟨d, hd, hup, rfl, rfl⟩
  | housekeeping change =>
    obtain ⟨db', hdb, rfl⟩ := Option.map_eq_some_iff.mp h
    exact hi.advance rfl hg hl (advances_of_eq .unchanged (housekept hdb).documents) (by simp)

/-! ## Runs -/

/-- **Every step keeps the invariant.** -/
theorem bytes_step_all {e : ScanningEvent} (hi : BytesInv sha256 w) (hnew : NewUploads w e)
    (hexclusive : w.exclusive e = true) (h : scanningStep sha256 maxDeliveryAttempts w e = some w') :
    BytesInv sha256 w' := by
  have hg := gate_step hi.gate hnew h
  cases e with
  | beginUpload uploadId workspaceId owner filename contentType =>
    simp only [scanningStep] at h
    split at h
    · cases h
      exact hi
    · next objectKey hkey =>
      cases h
      obtain ⟨-, hkept⟩ := hi.gate.staging.begin (u := ⟨uploadId, workspaceId, owner, filename, contentType,
        objectKey, hkey, none, .creating⟩) hnew rfl rfl
      exact hi.staging (s := w.quarantine) hg ⟨hkept, fun _ hmem => hmem⟩
  | upload uploadId event =>
    obtain ⟨u, hget, hu⟩ := Option.bind_eq_some_iff.mp h
    obtain ⟨p, hp, rfl⟩ := Option.map_eq_some_iff.mp hu
    obtain ⟨-, hkept⟩ := hi.gate.staging.move (Table.get?_mem hget) (stagingStep_move hp)
    exact hi.staging hg ⟨hkept, fun _ hmem => hmem⟩
  | create uploadId command metadata messageId commits =>
    obtain ⟨u, hget, hu⟩ := Option.bind_eq_some_iff.mp h
    obtain ⟨hcond, hw⟩ := Option.ite_none_right_eq_some.mp hu
    obtain ⟨hcreates, hoffers⟩ := Bool.and_eq_true_iff.mp hcond
    cases hw
    exact bytes_create commits hi (Table.get?_mem hget) hcreates hoffers hnew rfl
  | removeObject key =>
    cases h
    have hkept : StagingKept w.quarantine (w.quarantine.removeObject key) w.uploads w.uploads :=
      (hi.gate.staging.unlinked (Files.unlinked_remove _ _)).2
    exact hi.staging hg ⟨hkept, fun _ hmem => hmem⟩
  | removeMetadata key =>
    cases h
    have hsame : w.quarantine.objects.Unlinked (w.quarantine.removeMetadata key).objects := .refl _
    exact hi.staging hg ⟨(hi.gate.staging.unlinked hsame).2, fun _ hmem => hmem⟩
  | receive delivery message ok =>
    simp only [scanningStep] at h
    split at h
    · cases h
    · split at h
      · cases h
        exact hi
      · cases h
        exact hi.aside hg (later_of_eq rfl rfl fun _ hmem => hmem) rfl rfl hi.deliveries hi.finalization
          fun d hd hup => ⟨d, hd, hup, rfl, rfl⟩
  | scan delivery event =>
    obtain ⟨x, hget, hx⟩ := Option.bind_eq_some_iff.mp h
    obtain ⟨p, hp, rfl⟩ := Option.map_eq_some_iff.mp hx
    exact bytes_scan hi (Table.get?_mem hget) (scanStep_move hp)
  | finalization event =>
    simp only [scanningStep] at h
    split at h
    · cases h
    · next hscan =>
      obtain ⟨promotion, hp, rfl⟩ := Option.map_eq_some_iff.mp h
      exact bytes_finalization hi hg hexclusive (Bool.not_eq_true _ ▸ hscan) hp

theorem bytesInv_empty : BytesInv sha256 .empty where
  gate := gateInv_empty
  deliveries := uploadedKeys_empty.deliveries
  finalization := ⟨fun d hd => absurd hd (Table.mem_rows_empty d), fun x hx => absurd hx (Table.mem_rows_empty x),
    fun x hx => absurd hx (Table.mem_rows_empty x), fun d hd => absurd hd (Table.mem_rows_empty d)⟩
  promotions := fun x hx => absurd hx (Table.mem_rows_empty x)
  uploaded := fun d hd => absurd hd (Table.mem_rows_empty d)

/-- **While destinations are opened exclusively, the object of every uploaded document is, byte for byte,
what the scanner was sent for it and answered clean, and what the document says of it is true.** -/
theorem uploaded_bytes_scanned {es : List ScanningEvent}
    (halong : Along (scanningStep sha256 maxDeliveryAttempts)
      (fun w e => NewUploads w e ∧ w.exclusive e = true) .empty es)
    (h : run (scanningStep sha256 maxDeliveryAttempts) .empty es = some w)
    (hd : d ∈ w.promotion.db.documents.rows) (hup : d.uploadStatus = .uploaded) :
    ∃ key bytes, w.promotion.evidence.objects.get d.objectKey = some bytes ∧
      ScannedClean w.exchanges d.identity key bytes ∧
      d.contentLength = bytes.length ∧ d.checksumSha256 = sha256 bytes := by
  have hi : BytesInv sha256 w :=
    run_inv_along (BytesInv sha256) (fun _ _ _ hi hp hs => bytes_step_all hi hp.1 hp.2 hs) bytesInv_empty
      halong h
  obtain ⟨key, n, -, hscanned, hget⟩ := hi.uploaded d hd hup
  obtain ⟨bytes, hbytes, hlength, hsum, -⟩ := (hi.finalization.uploaded d hd hup).1
  rw [hget] at hbytes
  cases hbytes
  exact ⟨key, _, hget, hscanned, hlength.symm, hsum.symm⟩

end

/-! The same document, from its upload to the evidence store. -/

def sampleScanning : List ScanningEvent :=
  sampleStaging ++ sampleScan "stream: OK" ++ (sampleLoad 1 ++ samplePromote 1).map .finalization

theorem uploaded_bytes_scanned_sample :
    ∃ w, run (scanningStep sampleSha256 5) .empty sampleScanning = some w ∧
      ∃ d ∈ w.promotion.db.documents.rows, d.uploadStatus = .uploaded ∧
        ∃ key bytes, w.promotion.evidence.objects.get d.objectKey = some bytes ∧
          ScannedClean w.exchanges d.identity key bytes ∧
          d.contentLength = bytes.length ∧ d.checksumSha256 = sampleSha256 bytes := by
  have hrun : ((runChecked (scanningStep sampleSha256 5) (fun w e => w.drawsNew e && w.exclusive e) .empty
      sampleScanning).any fun w => w.promotion.db.documents.rows.any fun d => d.uploadStatus = .uploaded) = true := by
    decide +kernel
  obtain ⟨w, hchecked, hany⟩ := (Option.any_eq_true _ _).mp hrun
  obtain ⟨hw, halong⟩ := runChecked_some hchecked
  have halong' : Along (scanningStep sampleSha256 5) (fun w e => NewUploads w e ∧ w.exclusive e = true) .empty
      sampleScanning := by
    refine halong.imp fun w e h => ?_
    obtain ⟨hnew, hexclusive⟩ := Bool.and_eq_true_iff.mp h
    exact ⟨newUploads_of_drawsNew hnew, hexclusive⟩
  obtain ⟨d, hd, hup⟩ := List.any_eq_true.mp hany
  exact ⟨w, hw, d, hd, of_decide_eq_true hup, uploaded_bytes_scanned halong' hw hd (of_decide_eq_true hup)⟩

end Proofplane
