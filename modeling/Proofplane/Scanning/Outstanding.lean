import Proofplane.Scanning.Requests

/-!
# No document is forgotten

* `scanningStep_kept`       those under way were so before, unless a message comes in;
* `QueueInv`, `QueueInv.enqueueAll`   what holds of the outbox, and what a transaction adds to it;
* `PipelineInv`             **what holds of the whole**: what is under way carries the message that it came with,
                            and every document that waits has its message outstanding;
* `answered_over`           a message that is acknowledged is one that no document waits for any more;
* `pipeline_step`           every step keeps the invariant;
* `documents_outstanding`   **every document that is not at its end, and whose owner is active, has a message in
                            the outbox or at the broker that will be pushed to its handler**.
-/

namespace Proofplane
open Base

/-! ## Those that are under way -/

section
variable {sha256 : List UInt8 → String} {maxDeliveryAttempts : Nat} {w w' : ScanningWorld}

/-- those that are under way were so before, with the same work -/
structure WorkKept (w w' : ScanningWorld) : Prop where
  scans : ∀ x ∈ w'.scans.rows, ∃ x0 ∈ w.scans.rows, x.id = x0.id ∧ x.work = x0.work
  deliveries : ∀ x ∈ w'.promotion.deliveries.rows, ∃ x0 ∈ w.promotion.deliveries.rows,
    x.id = x0.id ∧ x.work = x0.work

theorem workKept_of_eq (hscans : w'.scans = w.scans) (hdeliveries : w'.promotion.deliveries = w.promotion.deliveries) :
    WorkKept w w' := by
  refine ⟨?_, ?_⟩
  · rw [hscans]
    exact fun x hx => ⟨x, hx, rfl, rfl⟩
  · rw [hdeliveries]
    exact fun x hx => ⟨x, hx, rfl, rfl⟩

/-- a delivery goes on -/
theorem WorkKept.put {x x0 : Delivery} {promotion : FinalizationWorld} (hx0 : x0 ∈ w.promotion.deliveries.rows)
    (hid : x.id = x0.id) (hwork : x.work = x0.work) (hp : promotion.deliveries = w.promotion.deliveries) :
    WorkKept w { w with promotion := promotion.put x } := by
  refine ⟨fun y hy => ⟨y, hy, rfl, rfl⟩, ?_⟩
  intro y hy
  rcases Table.mem_upsert.mp hy with rfl | ⟨hym, -⟩
  · exact ⟨x0, hx0, hid, hwork⟩
  · exact ⟨y, hp ▸ hym, rfl, rfl⟩

/-- **A step in which no message comes in.** -/
theorem scanningStep_kept {e : ScanningEvent} (hin : e.comesIn = false)
    (h : scanningStep sha256 maxDeliveryAttempts w e = some w') : WorkKept w w' := by
  cases e with
  | beginUpload uploadId workspaceId owner filename contentType =>
    simp only [scanningStep] at h
    split at h
    · cases h
      exact workKept_of_eq rfl rfl
    · cases h
      exact workKept_of_eq rfl rfl
  | upload uploadId event =>
    obtain ⟨u, -, hu⟩ := Option.bind_eq_some_iff.mp h
    obtain ⟨p, -, rfl⟩ := Option.map_eq_some_iff.mp hu
    exact workKept_of_eq rfl rfl
  | create uploadId command metadata messageId commits =>
    obtain ⟨u, -, hu⟩ := Option.bind_eq_some_iff.mp h
    obtain ⟨-, hw⟩ := Option.ite_none_right_eq_some.mp hu
    cases hw
    exact workKept_of_eq rfl (command_stores _ _ _).1
  | removeObject key =>
    cases h
    exact workKept_of_eq rfl rfl
  | removeMetadata key =>
    cases h
    exact workKept_of_eq rfl rfl
  | receive delivery message ok => cases hin
  | scan delivery event =>
    obtain ⟨x0, hget, hx0⟩ := Option.bind_eq_some_iff.mp h
    obtain ⟨p, hp, rfl⟩ := Option.map_eq_some_iff.mp hx0
    refine ⟨?_, fun x hx => ⟨x, hx, rfl, rfl⟩⟩
    intro x hx
    rcases Table.mem_upsert.mp hx with rfl | ⟨hxm, -⟩
    · exact ⟨x0, Table.get?_mem hget, rfl, rfl⟩
    · exact ⟨x, hxm, rfl, rfl⟩
  | finalization event =>
    simp only [scanningStep] at h
    split at h
    · cases h
    · obtain ⟨promotion, hp, rfl⟩ := Option.map_eq_some_iff.mp h
      cases event with
      | deliver delivery identity objectKey ok => cases hin
      | step delivery event =>
        obtain ⟨x, hget, hx⟩ := Option.bind_eq_some_iff.mp hp
        obtain ⟨p, hstep, rfl⟩ := Option.map_eq_some_iff.mp hx
        exact .put (Table.get?_mem hget) rfl rfl (deliveryStep_move hstep).deliveries
      | crash delivery =>
        obtain ⟨x, hget, rfl⟩ := Option.map_eq_some_iff.mp hp
        exact .put (Table.get?_mem hget) rfl rfl rfl
      | scan command metadata messageId commits =>
        cases hp
        exact workKept_of_eq rfl (command_stores _ _ _).1
      | archive command commits =>
        cases hp
        exact workKept_of_eq rfl (command_stores _ _ _).1
      | housekeeping change =>
        obtain ⟨db', -, rfl⟩ := Option.map_eq_some_iff.mp hp
        exact workKept_of_eq rfl rfl

end

/-! ## The outbox -/

/-- the message was committed -/
def Sent (queue : OutboxWorld) (data : Json) : Prop :=
  ∃ row ∈ queue.committed, (outboundMessage row).data = data

structure QueueInv (queue : OutboxWorld) : Prop where
  outbox : OutboxInv queue
  /-- rows of the first version are not written any more -/
  typed : ∀ row ∈ queue.committed, row.messageVersion ≠ 0
  published : ∀ p ∈ queue.published, Sent queue p.2.2.data

theorem Sent.mono {queue queue' : OutboxWorld} {data : Json} (h : Sent queue data)
    (hqueue : ∀ row ∈ queue.committed, row ∈ queue'.committed) : Sent queue' data := by
  obtain ⟨row, hrow, hdata⟩ := h
  exact ⟨row, hqueue row hrow, hdata⟩

theorem outboxRow_typed (new : NewOutboxMessage) (id now : Int) : (outboxRow new id now).messageVersion ≠ 0 := by
  show (1 : Int) ≠ 0
  decide

section
variable {config : Nat → OutboxDequeuerConfig} {queue queue' : OutboxWorld}

theorem queueInv_init : QueueInv .init where
  outbox := .init
  typed := fun row hrow => by cases hrow
  published := fun p hp => by cases hp

/-- **A step of the outbox.** -/
theorem QueueInv.step {e : OutboxEvent} (hi : QueueInv queue) (h : dequeue config queue e = some queue') :
    QueueInv queue' ∧ ∀ row ∈ queue.committed, row ∈ queue'.committed := by
  have hmove := dequeue_move h
  have hlater := move_committed hmove
  refine ⟨⟨move_inv hi.outbox hmove, ?_, ?_⟩, hlater⟩
  · cases hmove with
    | committed hfresh =>
      intro row hrow
      rcases List.mem_append.mp hrow with hold | hnew
      · exact hi.typed row hold
      · rw [List.mem_singleton.mp hnew]
        exact outboxRow_typed _ _ _
    | moved hheld hdel => exact hi.typed
    | published hd => exact hi.typed
    | deleted hd hheld hdel => exact hi.typed
    | recorded hd ht hheld hdel => exact hi.typed
  · cases hmove with
    | committed hfresh => exact fun p hp => (hi.published p hp).mono hlater
    | moved hheld hdel => exact hi.published
    | @published d now row rest hd =>
      intro p hp
      rcases List.mem_cons.mp hp with rfl | hold
      · -- the row that a dequeuer has in its hands is a committed one
        obtain ⟨c, hc, hsame⟩ := hi.outbox.held d row (by rw [hd]; exact List.mem_cons_self)
        refine ⟨c, hc, ?_⟩
        rw [hsame.outboundMessage_eq]
      · exact hi.published p hold
    | deleted hd hheld hdel => exact hi.published
    | recorded hd ht hheld hdel => exact hi.published

/-- **The messages of a transaction.** -/
theorem QueueInv.enqueueAll {now : Int} {news : List NewOutboxMessage} {rowId : Int} (hi : QueueInv queue)
    (h : queue.enqueueAll config now rowId news = some queue') :
    QueueInv queue' ∧ (∀ row ∈ queue.committed, row ∈ queue'.committed) ∧
      ∀ new ∈ news, ∃ id now, outboxRow new id now ∈ queue'.committed := by
  induction news generalizing queue rowId with
  | nil =>
    cases h
    exact ⟨hi, fun _ hrow => hrow, fun new hnew => by cases hnew⟩
  | cons new rest ih =>
    obtain ⟨middle, hstep, hrest⟩ := Option.bind_eq_some_iff.mp h
    obtain ⟨hi', hlater⟩ := hi.step hstep
    obtain ⟨hi'', hlater', hnews⟩ := ih hi' hrest
    refine ⟨hi'', fun row hrow => hlater' row (hlater row hrow), ?_⟩
    intro x hx
    rcases List.mem_cons.mp hx with rfl | hxm
    · refine ⟨rowId, pgTimestamp now, hlater' _ ?_⟩
      simp only [dequeue] at hstep
      split at hstep
      · cases hstep
      · cases hstep
        exact List.mem_append_right _ (List.mem_singleton.mpr rfl)
    · exact hnews x hxm

end

/-! ## The whole -/

structure PipelineInv (sha256 : List UInt8 → String) (w : PipelineWorld) : Prop where
  gate : GateInv sha256 w.scanning
  keys : UploadedKeys w.scanning.promotion
  fit : DocumentsFit w.db
  queue : QueueInv w.queue
  acknowledged : ∀ data ∈ w.acknowledged, Sent w.queue data
  scans : ∀ x ∈ w.scanning.scans.rows, ∀ data, w.scanMessages x.id = some data → Sent w.queue data ∧
    ∃ key : ObjectKey, key.text = x.work.objectKey ∧ Carries data (.scan x.work.identity key)
  promotions : ∀ x ∈ w.scanning.promotion.deliveries.rows, ∀ data, w.promotionMessages x.id = some data →
    Sent w.queue data ∧
      ∃ key : ObjectKey, key.text = x.work.objectKey ∧ Carries data (.finalize x.work.identity key)
  waiting : Waiting w.db w.queue w.acknowledged

theorem pipelineInv_empty {sha256 : List UInt8 → String} : PipelineInv sha256 .empty where
  gate := gateInv_empty
  keys := uploadedKeys_empty
  fit := ⟨fun d hd => absurd hd (Table.mem_rows_empty d), fun d hd => absurd hd (Table.mem_rows_empty d)⟩
  queue := queueInv_init
  acknowledged := fun data hdata => by cases hdata
  scans := fun x hx => absurd hx (Table.mem_rows_empty x)
  promotions := fun x hx => absurd hx (Table.mem_rows_empty x)
  waiting := fun d hd => absurd hd (Table.mem_rows_empty d)

section
variable {config : Nat → OutboxDequeuerConfig} {sha256 : List UInt8 → String} {maxDeliveryAttempts : Nat}
  {w w' : PipelineWorld}

/-- the key of a document that waits is one that uploads are staged under -/
theorem GateInv.objectKey {w : ScanningWorld} (hi : GateInv sha256 w) {d : Document}
    (hd : d ∈ w.promotion.db.documents.rows) (hterminal : d.terminal = false) :
    ∃ key : ObjectKey, key.text = d.objectKey := by
  obtain ⟨key, n, ⟨u, -, rfl, -⟩, hkey, -⟩ := hi.documents d hd
  have hnew := u.key_eq
  unfold stagedObjectKey at hnew
  rw [objectKeyText_eq_new] at hnew
  obtain ⟨k, -, hk⟩ := ObjectKey.parse_new hnew
  exact ⟨k, hk.trans (hkey (terminal_iff.mp hterminal)).symm⟩

/-! ## Answers -/

/-- **A scan whose handler returns without an error leaves no document that waits for it.** -/
theorem scan_over {db db' : DocumentDb} {quarantine : FilesystemObjectStore} {x : ScanDelivery}
    {exchanges : List ScanExchange} (h : ScanMove db db' quarantine x (.returned true) exchanges)
    (hfit : DocumentsFit db') {key : ObjectKey} (hkey : key.text = x.work.objectKey) {d : Document}
    (hd : d ∈ db'.documents.rows) (hterminal : d.terminal = false) : ¬ d.awaits (.scan x.work.identity key) := by
  intro hawaits
  obtain ⟨hid, hdkey, hst⟩ := hawaits.scan
  cases h with
  | rested hdb hidle hnot => exact hnot rfl
  | opened file hdb hopen hphase' => cases hphase'
  | sent file size chunks hdb hbefore hphase' => cases hphase'
  | ended file size chunks hdb hsize hbefore hend hphase' => cases hphase'
  | answered chunks reads hdb hbefore hphase' =>
    rcases hphase' with hfailed | ⟨result, -, hrecording⟩
    · exact (failed_idle x).2 hfailed.symm
    · cases hrecording
  | recorded result messageId fault hbefore hdb hphase' =>
    have hok := ScanPhase.returned.inj hphase'
    cases hr : (committed fault db
        (scanDocument db x.metadata messageId ⟨x.work.identity, x.work.objectKey, result⟩)).1 with
    | error e =>
      rw [hr] at hok
      cases hok
    | ok outcome =>
      obtain ⟨hscan, -⟩ := settle_ok hr
      subst hdb
      exact scanDocument_over hscan hd hid (hdkey.trans hkey) (hfit.live d hd hterminal) hst

/-- **So does a promotion.** -/
theorem promotion_over {w w' : FinalizationWorld} {x : Delivery} {e : DeliveryEvent} {phase' : DeliveryPhase}
    (h : deliveryStep sha256 w x e = some (w', phase')) (hok : x.returnsOk w.db e = true)
    (hx : x ∈ w.deliveries.rows) (hi : DeliveriesInv w) (hfit : DocumentsFit w'.db) {key : ObjectKey}
    (hkey : key.text = x.work.objectKey) {d : Document} (hd : d ∈ w'.db.documents.rows)
    (hterminal : d.terminal = false) : ¬ d.awaits (.finalize x.work.identity key) := by
  intro hawaits
  obtain ⟨hid, hdkey, hst⟩ := hawaits.finalize
  -- a delivery that deletes its source has a document that is uploaded
  have hreleased : x.phase = .deletingSource ∨ x.phase = .deletingSourceMetadata →
      w'.db = w.db → False := by
    intro hphase hdb
    obtain ⟨d0, hd0, hserves, hup⟩ := hi.released x hx hphase
    rw [hdb] at hd
    have hsame : d = d0 := document_eq_of_identity hd hd0 (hid.trans hserves.identity)
    rw [hsame, hup] at hst
    cases hst
  unfold Delivery.returnsOk at hok
  split at hok
  · next fault hphase =>
    simp only [deliveryStep, hphase] at h
    have hdb : w'.db = (committed fault w.db (finalizeDocument w.db
        ⟨x.work.identity, x.work.objectKey, x.destination⟩)).2 := by
      have hw := (Prod.mk.inj (Option.some.inj h)).1
      rw [← hw]
    cases hr : (committed fault w.db (finalizeDocument w.db
        ⟨x.work.identity, x.work.objectKey, x.destination⟩)).1 with
    | error e =>
      rw [hr] at hok
      cases hok
    | ok outcome =>
      obtain ⟨hfinalize, -⟩ := settle_ok hr
      rw [hdb] at hd
      refine finalizeDocument_over hfinalize hd hid (hdkey.trans hkey) ?_ hst
      rw [← hdb] at hd
      exact hfit.live d hd hterminal
  · next ok hphase =>
    simp only [deliveryStep, hphase] at h
    refine hreleased (.inl hphase) ?_
    cases ok with
    | false =>
      cases h
      rfl
    | true => cases hok
  · next ok hphase =>
    simp only [deliveryStep, hphase] at h
    refine hreleased (.inr hphase) ?_
    cases ok with
    | false =>
      cases h
      rfl
    | true =>
      cases h
      rfl
  · cases hok

/-- **What a step of the application acknowledges is a message that no document waits for any more.** -/
theorem answered_over {event : ScanningEvent} {scanning : ScanningWorld} (hi : PipelineInv sha256 w)
    (hstep : scanningStep sha256 maxDeliveryAttempts w.scanning event = some scanning)
    (hfit : DocumentsFit scanning.promotion.db) {data : Json} (h : w.answered scanning event = some data) :
    Sent w.queue data ∧ ∃ r0, Carries data r0 ∧
      ∀ d ∈ scanning.promotion.db.documents.rows, d.terminal = false → ¬ d.awaits r0 := by
  cases event with
  | scan delivery event =>
    obtain ⟨hany, hdata⟩ := Option.ite_none_right_eq_some.mp h
    obtain ⟨x, hget, hx⟩ := Option.bind_eq_some_iff.mp hstep
    obtain ⟨hmem, rfl⟩ := Table.get?_eq_some_iff.mp hget
    obtain ⟨⟨db', phase', exchanges⟩, hp, rfl⟩ := Option.map_eq_some_iff.mp hx
    obtain ⟨hsent, key, hkey, hcarries⟩ := hi.scans x hmem data hdata
    have hafter : (w.scanning.scanned x db' phase' exchanges).scans.get? x.id = some { x with phase := phase' } :=
      Table.get?_upsert_self _ _
    rw [hafter] at hany
    have hphase : phase' = .returned true := of_decide_eq_true hany
    subst hphase
    exact ⟨hsent, _, hcarries, fun d hd hterminal => scan_over (scanStep_move hp) hfit hkey hd hterminal⟩
  | finalization event =>
    cases event with
    | step delivery event =>
      obtain ⟨hany, hdata⟩ := Option.ite_none_right_eq_some.mp h
      simp only [scanningStep, FinalizationEvent.isScan] at hstep
      obtain ⟨promotion, hp, rfl⟩ := Option.map_eq_some_iff.mp hstep
      obtain ⟨x, hget, hx⟩ := Option.bind_eq_some_iff.mp hp
      obtain ⟨p, hdelivery, rfl⟩ := Option.map_eq_some_iff.mp hx
      rw [hget] at hany
      obtain ⟨hmem, rfl⟩ := Table.get?_eq_some_iff.mp hget
      obtain ⟨hsent, key, hkey, hcarries⟩ := hi.promotions x hmem data hdata
      exact ⟨hsent, _, hcarries, fun d hd hterminal =>
        promotion_over hdelivery hany hmem hi.keys.deliveries hfit hkey hd hterminal⟩
    | deliver delivery identity objectKey ok => cases h
    | crash delivery => cases h
    | scan command metadata messageId commits => cases h
    | archive command commits => cases h
    | housekeeping change => cases h
  | beginUpload uploadId workspaceId owner filename contentType => cases h
  | upload uploadId event => cases h
  | create uploadId command metadata messageId commits => cases h
  | removeObject key => cases h
  | removeMetadata key => cases h
  | receive delivery message ok => cases h

/-! ## Steps of the whole -/

/-- an answer to a message that nobody waits for -/
theorem PipelineInv.acknowledge (hi : PipelineInv sha256 w) {answered : Option Json}
    (hsent : ∀ data, answered = some data → Sent w.queue data)
    (hover : ∀ data, answered = some data → ∀ d ∈ w.db.documents.rows, d.terminal = false →
      w.db.ownerActive d = true → ∀ r row, d.awaits r → row ∈ w.queue.committed → Asking r row →
        (outboundMessage row).data ≠ data) : PipelineInv sha256 (w.acknowledge answered) where
  gate := hi.gate
  keys := hi.keys
  fit := hi.fit
  queue := hi.queue
  acknowledged := by
    intro data hdata
    rcases List.mem_append.mp hdata with hold | hnew
    · exact hi.acknowledged data hold
    · exact hsent data (Option.mem_toList.mp hnew)
  scans := hi.scans
  promotions := hi.promotions
  waiting := hi.waiting.acknowledge hover

/-- nothing is acknowledged -/
theorem PipelineInv.unanswered (hi : PipelineInv sha256 w) : PipelineInv sha256 (w.acknowledge none) :=
  hi.acknowledge (fun _ h => by cases h) (fun _ h => by cases h)

/-- **A step of the application**: its messages are appended, and one may be acknowledged. -/
theorem pipeline_scanning {event : ScanningEvent} {rowId now : Int} (hi : PipelineInv sha256 w)
    (hnew : NewMessages sha256 maxDeliveryAttempts w (.scanning event rowId now))
    (h : pipelineStep config sha256 maxDeliveryAttempts w (.scanning event rowId now) = some w') :
    PipelineInv sha256 w' := by
  obtain ⟨huploads, hids⟩ := hnew
  simp only [pipelineStep] at h
  split at h
  · cases h
  · next hin =>
    obtain ⟨scanning, hstep, hrest⟩ := Option.bind_eq_some_iff.mp h
    obtain ⟨queue, hqueue, rfl⟩ := Option.map_eq_some_iff.mp hrest
    have happlied : Applied w.db scanning.promotion.db := scanningStep_applied hstep
    have hgate := gate_step hi.gate huploads hstep
    have hfit := hi.fit.applied happlied
    obtain ⟨hqueueInv, hlater, hrows⟩ := hi.queue.enqueueAll hqueue
    have hkept := scanningStep_kept (Bool.not_eq_true _ ▸ hin) hstep
    have hanswered := fun data (hdata : w.answered scanning event = some data) =>
      answered_over hi hstep hfit hdata
    -- the new messages are not among those that were ever acknowledged
    have hfresh : ∀ message ∈ appendedMessages w.db scanning.promotion.db, ∃ id now,
        outboxRow message id now ∈ queue.committed ∧
          (outboundMessage (outboxRow message id now)).data ∉ w.acknowledged := by
      intro message hmessage
      obtain ⟨id, now, hrow⟩ := hrows message hmessage
      refine ⟨id, now, hrow, fun hdata => ?_⟩
      obtain ⟨row, hold, hsame⟩ := hi.acknowledged _ hdata
      exact hids scanning hstep message hmessage row hold
        (messageId_of_data (hi.queue.typed row hold) (outboxRow_typed _ _ _) hsame)
    have hwaiting : Waiting scanning.promotion.db queue w.acknowledged :=
      hi.waiting.applied hi.fit happlied hlater hfresh fun d hd hterminal => hgate.objectKey hd hterminal
    have hnext : PipelineInv sha256 { w with scanning, queue } := by
      refine ⟨hgate, uploadedKeys_scanning hi.keys huploads hstep, hfit, hqueueInv, ?_, ?_, ?_, hwaiting⟩
      · exact fun data hdata => (hi.acknowledged data hdata).mono hlater
      · intro x hx data hdata
        obtain ⟨x0, hx0, hid, hwork⟩ := hkept.scans x hx
        have hdata0 : w.scanMessages x0.id = some data := hid ▸ hdata
        obtain ⟨hsent, hcarries⟩ := hi.scans x0 hx0 data hdata0
        rw [hwork]
        exact ⟨hsent.mono hlater, hcarries⟩
      · intro x hx data hdata
        obtain ⟨x0, hx0, hid, hwork⟩ := hkept.deliveries x hx
        have hdata0 : w.promotionMessages x0.id = some data := hid ▸ hdata
        obtain ⟨hsent, hcarries⟩ := hi.promotions x0 hx0 data hdata0
        rw [hwork]
        exact ⟨hsent.mono hlater, hcarries⟩
    refine hnext.acknowledge ?_ ?_
    · exact fun data hdata => (hanswered data hdata).1.mono hlater
    · rintro data hdata d hd hterminal hactive r row hr hrow hask rfl
      obtain ⟨-, r0, hcarries, hover⟩ := hanswered _ hdata
      have hsame := hcarries.eq hask hr.wellFormed
      subst hsame
      exact hover d hd hterminal hr

theorem pipeline_queue {event : OutboxEvent} (hi : PipelineInv sha256 w)
    (h : pipelineStep config sha256 maxDeliveryAttempts w (.queue event) = some w') : PipelineInv sha256 w' := by
  obtain ⟨-, hrest⟩ := Option.ite_none_right_eq_some.mp h
  obtain ⟨queue, hqueue, rfl⟩ := Option.map_eq_some_iff.mp hrest
  obtain ⟨hqueueInv, hlater⟩ := hi.queue.step hqueue
  refine ⟨hi.gate, hi.keys, hi.fit, hqueueInv, ?_, ?_, ?_, ?_⟩
  · exact fun data hdata => (hi.acknowledged data hdata).mono hlater
  · intro x hx data hdata
    obtain ⟨hsent, hcarries⟩ := hi.scans x hx data hdata
    exact ⟨hsent.mono hlater, hcarries⟩
  · intro x hx data hdata
    obtain ⟨hsent, hcarries⟩ := hi.promotions x hx data hdata
    exact ⟨hsent.mono hlater, hcarries⟩
  · intro d hd hterminal hactive
    obtain ⟨r, hr, hout⟩ := hi.waiting d hd hterminal hactive
    exact ⟨r, hr, hout.mono hlater⟩

/-! ## Pushes -/

/-- the work of a document that waits for its scan is found -/
theorem loadPendingUploadWork_awaits {db : DocumentDb} {d : Document} {identity : DocumentIdentity} {key : ObjectKey}
    (hd : d ∈ db.documents.rows) (ha : d.archived = false) (hactive : db.ownerActive d = true)
    (h : d.awaits (.scan identity key)) : db.loadPendingUploadWork identity key.text = some d.uploadWork := by
  obtain ⟨hid, hkey, hst⟩ := h.scan
  unfold DocumentDb.loadPendingUploadWork
  rw [getDocument_stored hd hid, Option.filter_some, if_pos (by simp [hkey, hst, ha, hactive])]
  rfl

theorem loadFinalizingUploadWork_awaits {db : DocumentDb} {d : Document} {identity : DocumentIdentity}
    {key : ObjectKey} (hd : d ∈ db.documents.rows) (ha : d.archived = false) (hactive : db.ownerActive d = true)
    (h : d.awaits (.finalize identity key)) :
    db.loadFinalizingUploadWork identity key.text = some d.uploadWork := by
  obtain ⟨hid, hkey, hst⟩ := h.finalize
  unfold DocumentDb.loadFinalizingUploadWork
  rw [getDocument_stored hd hid, Option.filter_some, if_pos (by simp [hkey, hst, ha, hactive])]
  rfl

/-- **The scan handler does not return, without having scanned, to a message that a document waits for.** -/
theorem receiveScan_awaits {db : DocumentDb} {m : WorkerMessage} {ok : Bool} {d : Document}
    {identity : DocumentIdentity} {key : ObjectKey} (hm : scanRequestedPayload m = .ok (identity, key))
    (hd : d ∈ db.documents.rows) (ha : d.archived = false) (hactive : db.ownerActive d = true)
    (h : d.awaits (.scan identity key)) : db.receiveScan m ok ≠ .returned true := by
  unfold DocumentDb.receiveScan
  rw [hm]
  dsimp only
  cases ok with
  | false => simp
  | true =>
    rw [if_pos rfl, loadPendingUploadWork_awaits hd ha hactive h]
    dsimp only
    split
    · simp
    · simp

/-- what a message that goes to the scanner carries -/
theorem receiveScan_carries {db : DocumentDb} {m : WorkerMessage} {ok : Bool} {work : UploadWork} {data : Json}
    {pushId : String} {attempt : Option Int} (hm : decodeData data pushId attempt = .ok m)
    (hdispatch : dispatch m = some .documentScan) (h : db.receiveScan m ok = .working work) :
    ∃ key : ObjectKey, key.text = work.objectKey ∧ Carries data (.scan work.identity key) := by
  unfold DocumentDb.receiveScan at h
  split at h
  · cases h
  · next identity key hpayload =>
    split at h
    · split at h
      · cases h
      · next work' hload =>
        split at h
        · cases h
          obtain ⟨d, hfilter, rfl⟩ := Option.map_eq_some_iff.mp hload
          obtain ⟨hget, hcond⟩ := Option.filter_eq_some_iff.mp hfilter
          obtain ⟨-, hid⟩ := identity_of_getDocument hget
          obtain ⟨hkey, -⟩ := of_decide_eq_true hcond
          refine ⟨key, hkey.symm, pushId, attempt, m, hm, hdispatch, ?_⟩
          show scanRequestedPayload m = .ok (d.identity, key)
          rw [hid, hpayload]
        · cases h
    · cases h

/-- a row that is there is not the one of an id that is free -/
theorem ne_of_free {α β : Type} [DecidableEq β] {key : α → β} {t : Table key} {k : β}
    (h : ¬ (t.get? k).isSome = true) {x : α} (hx : x ∈ t.rows) : key x ≠ k := by
  rintro rfl
  rw [Table.get?_of_mem hx] at h
  exact h rfl

/-- the message that has just come in -/
theorem update_some {α β : Type} [DecidableEq α] {f : α → Option β} {k : α} {a b : β}
    (h : Function.update f k (some a) k = some b) : a = b := by
  rw [Function.update_self] at h
  exact Option.some.inj h

/-- **A push to the scan handler.** -/
theorem pushScan_inv {data : Json} {m : WorkerMessage} {pushId : String} {attempt : Option Int} {delivery : Nat}
    {ok : Bool} {scanning : ScanningWorld} (hi : PipelineInv sha256 w) (hsent : Sent w.queue data)
    (hm : decodeData data pushId attempt = .ok m) (hdispatch : dispatch m = some .documentScan)
    (hstep : scanningStep sha256 maxDeliveryAttempts w.scanning (.receive delivery m ok) = some scanning) :
    PipelineInv sha256 (w.pushScan data m delivery ok scanning) := by
  have huploads : NewUploads w.scanning (.receive delivery m ok) := trivial
  have hgate := gate_step hi.gate huploads hstep
  have hkeys := uploadedKeys_scanning hi.keys huploads hstep
  simp only [scanningStep] at hstep
  split at hstep
  · cases hstep
  · next hfree =>
    unfold PipelineWorld.pushScan
    cases hr : w.db.receiveScan m ok with
    | returned answer =>
      dsimp only
      cases answer with
      | false => exact hi.unanswered
      | true =>
        refine hi.acknowledge (fun _ hdata => Option.some.inj hdata ▸ hsent) ?_
        rintro _ hdata d hd hterminal hactive r row hr' hrow hask rfl
        cases hdata
        obtain ⟨hhandler, hrecovered⟩ := hask.decoded hr'.wellFormed hm
        have hawaits := hr'
        obtain ⟨key, hkey, hcases⟩ := hawaits
        rcases hcases with ⟨hst, rfl⟩ | ⟨hst, rfl⟩
        · exact receiveScan_awaits hrecovered hd (hi.fit.live d hd hterminal) hactive hr' hr
        · rw [hdispatch] at hhandler
          cases hhandler
    | working work =>
      rw [show w.scanning.promotion.db.receiveScan m ok = .working work from hr] at hstep
      cases hstep
      dsimp only
      refine ⟨hgate, hkeys, hi.fit, hi.queue, hi.acknowledged, ?_, hi.promotions, hi.waiting⟩
      intro x hx data' hdata'
      rcases Table.mem_upsert.mp hx with rfl | ⟨hxm, hne⟩
      · have hsame : data = data' := update_some hdata'
        subst hsame
        exact ⟨hsent, receiveScan_carries hm hdispatch hr⟩
      · refine hi.scans x hxm data' ?_
        rw [← hdata']
        exact (Function.update_of_ne hne _ _).symm

/-- what is under way after a message has come in -/
theorem deliver_deliveries {w : FinalizationWorld} {delivery : Nat} {identity : DocumentIdentity} {key : String}
    {ok : Bool} {x : Delivery} (hx : x ∈ (w.deliver delivery identity key ok).deliveries.rows) :
    x ∈ w.deliveries.rows ∨ x.id = delivery ∧ x.work.identity = identity ∧ x.work.objectKey = key := by
  unfold FinalizationWorld.deliver at hx
  split at hx
  · exact .inl hx
  · next work hload =>
    split at hx
    · exact .inl hx
    · split at hx
      · rcases Table.mem_upsert.mp hx with rfl | ⟨hxm, -⟩
        · rw [Option.ite_none_right_eq_some] at hload
          obtain ⟨d, hfilter, rfl⟩ := Option.map_eq_some_iff.mp hload.2
          obtain ⟨hget, hcond⟩ := Option.filter_eq_some_iff.mp hfilter
          exact .inr ⟨rfl, (identity_of_getDocument hget).2, (of_decide_eq_true hcond).1⟩
        · exact .inl hxm
      · exact .inl hx

/-- **A push to the finalization handler.** -/
theorem pushFinalization_inv {data : Json} {m : WorkerMessage} {pushId : String} {attempt : Option Int}
    {identity : DocumentIdentity} {key : ObjectKey} {delivery : Nat} {ok : Bool} {scanning : ScanningWorld}
    (hi : PipelineInv sha256 w) (hsent : Sent w.queue data) (hm : decodeData data pushId attempt = .ok m)
    (hdispatch : dispatch m = some .documentFinalization)
    (hpayload : finalizationRequestedPayload m = some (identity, key))
    (hstep : scanningStep sha256 maxDeliveryAttempts w.scanning
      (.finalization (.deliver delivery identity key ok)) = some scanning) :
    PipelineInv sha256 (w.pushFinalization data identity key delivery ok scanning) := by
  unfold PipelineWorld.pushFinalization
  split
  · next hnone =>
    refine hi.acknowledge (fun _ hdata => Option.some.inj hdata ▸ hsent) ?_
    rintro _ hdata d hd hterminal hactive r row hr' hrow hask rfl
    cases hdata
    obtain ⟨hhandler, hrecovered⟩ := hask.decoded hr'.wellFormed hm
    have hawaits := hr'
    obtain ⟨key', hkey', hcases⟩ := hawaits
    rcases hcases with ⟨hst, rfl⟩ | ⟨hst, rfl⟩
    · rw [hdispatch] at hhandler
      cases hhandler
    · obtain ⟨rfl, rfl⟩ := Prod.mk.inj (Option.some.inj (hrecovered.symm.trans hpayload))
      rw [loadFinalizingUploadWork_awaits hd (hi.fit.live d hd hterminal) hactive hr'] at hnone
      simp at hnone
  · have huploads : NewUploads w.scanning (.finalization (.deliver delivery identity key ok)) := trivial
    have hgate := gate_step hi.gate huploads hstep
    have hkeys := uploadedKeys_scanning hi.keys huploads hstep
    simp only [scanningStep, FinalizationEvent.isScan] at hstep
    obtain ⟨promotion, hp, rfl⟩ := Option.map_eq_some_iff.mp hstep
    simp only [finalizationStep] at hp
    split at hp
    · cases hp
    · next hfree =>
      cases hp
      have hdb : (w.scanning.promotion.deliver delivery identity key.text ok).db = w.db := by
        rcases delivered_cases w.scanning.promotion delivery identity key.text ok with hsame | ⟨d, -, -, dest, hput⟩
        · rw [hsame]
          rfl
        · rw [hput]
          rfl
      refine ⟨hgate, hkeys, ?_, hi.queue, hi.acknowledged, hi.scans, ?_, ?_⟩
      · show DocumentsFit (w.scanning.promotion.deliver delivery identity key.text ok).db
        rw [hdb]
        exact hi.fit
      · intro x hx data' hdata'
        rcases deliver_deliveries hx with hxm | ⟨rfl, rfl, hkey⟩
        · refine hi.promotions x hxm data' ?_
          rw [← hdata']
          exact (Function.update_of_ne (ne_of_free hfree hxm) _ _).symm
        · have hsame : data = data' := update_some hdata'
          subst hsame
          exact ⟨hsent, key, hkey.symm, pushId, attempt, m, hm, hdispatch, hpayload⟩
      · show Waiting (w.scanning.promotion.deliver delivery identity key.text ok).db w.queue w.acknowledged
        rw [hdb]
        exact hi.waiting

/-- **A push.** -/
theorem pushed_inv {data : Json} {pushId : String} {attempt : Option Int} {delivery : Nat} {ok : Bool}
    (hi : PipelineInv sha256 w) (hsent : Sent w.queue data)
    (h : pushed sha256 maxDeliveryAttempts w data pushId attempt delivery ok = some w') :
    PipelineInv sha256 w' := by
  have hsame : ∀ data', some data = some data' → Sent w.queue data' :=
    fun _ hdata => Option.some.inj hdata ▸ hsent
  unfold pushed at h
  split at h
  · -- what cannot be read is no message of the application
    next e hdecode =>
    cases h
    refine hi.acknowledge hsame ?_
    rintro _ hdata d hd hterminal hactive r row hr hrow hask rfl
    cases hdata
    obtain ⟨m, hm, -⟩ := hask.delivered hr.wellFormed pushId attempt
    rw [hdecode] at hm
    cases hm
  · next m hm =>
    -- who has this message waits for the request that the worker has read
    have hhandled : ∀ d : Document, ∀ r row, d.awaits r → Asking r row → (outboundMessage row).data = data →
        dispatch m = some r.handler ∧ r.Recovered m := by
      rintro d r row hr hask rfl
      exact hask.decoded hr.wellFormed hm
    split at h
    · next hdispatch =>
      cases h
      refine hi.acknowledge hsame ?_
      intro data' hdata' d hd hterminal hactive r row hr hrow hask hsame'
      cases hdata'
      rw [hdispatch] at hhandled
      cases (hhandled d r row hr hask hsame').1
    · next hdispatch =>
      cases h
      cases ok with
      | false => exact hi.unanswered
      | true =>
        refine hi.acknowledge hsame ?_
        intro data' hdata' d hd hterminal hactive r row hr hrow hask hsame'
        cases hdata'
        obtain ⟨hhandler, -⟩ := hhandled d r row hr hask hsame'
        rw [hdispatch] at hhandler
        obtain ⟨key, -, ⟨-, rfl⟩ | ⟨-, rfl⟩⟩ := hr
        · cases hhandler
        · cases hhandler
    · next hdispatch =>
      obtain ⟨scanning, hstep, rfl⟩ := Option.map_eq_some_iff.mp h
      exact pushScan_inv hi hsent hm hdispatch hstep
    · next hdispatch =>
      split at h
      · next hpayload =>
        cases h
        refine hi.acknowledge hsame ?_
        intro data' hdata' d hd hterminal hactive r row hr hrow hask hsame'
        cases hdata'
        obtain ⟨hhandler, hrecovered⟩ := hhandled d r row hr hask hsame'
        obtain ⟨key, -, ⟨-, rfl⟩ | ⟨-, rfl⟩⟩ := hr
        · rw [hdispatch] at hhandler
          cases hhandler
        · rw [show finalizationRequestedPayload m = some (d.identity, key) from hrecovered] at hpayload
          cases hpayload
      · next identity key hpayload =>
        obtain ⟨scanning, hstep, rfl⟩ := Option.map_eq_some_iff.mp h
        exact pushFinalization_inv hi hsent hm hdispatch hpayload hstep

/-! ## Runs -/

/-- **Every step keeps the invariant.** -/
theorem pipeline_step {e : PipelineEvent} (hi : PipelineInv sha256 w)
    (hnew : NewMessages sha256 maxDeliveryAttempts w e)
    (h : pipelineStep config sha256 maxDeliveryAttempts w e = some w') : PipelineInv sha256 w' := by
  cases e with
  | scanning event rowId now => exact pipeline_scanning hi hnew h
  | queue event => exact pipeline_queue hi h
  | push published pushId attempt delivery ok =>
    obtain ⟨p, hp, hpushed⟩ := Option.bind_eq_some_iff.mp h
    exact pushed_inv hi (hi.queue.published p (List.mem_of_getElem? hp)) hpushed

/-- **No document is forgotten**: whatever uploads, scans, promotions, dequeuers and pushes do in turn, and
wherever they fail, for every document that waits there is a message that asks for just what it waits for.
No handler has acknowledged it, it is in the outbox or has been published, and every push of it is read by
the worker as that request. -/
theorem documents_outstanding {es : List PipelineEvent}
    (hnew : Along (pipelineStep config sha256 maxDeliveryAttempts) (NewMessages sha256 maxDeliveryAttempts) .empty es)
    (h : run (pipelineStep config sha256 maxDeliveryAttempts) .empty es = some w) {d : Document}
    (hd : d ∈ w.db.documents.rows) (hst : d.uploadStatus = .pendingUpload ∨ d.uploadStatus = .finalizing)
    (hactive : w.db.ownerActive d = true) :
    ∃ r row, d.awaits r ∧ Asking r row ∧ (outboundMessage row).data ∉ w.acknowledged ∧
      ((∃ stored ∈ w.queue.outbox.rows, SameMessage row stored) ∨
        ∃ dequeuer, (dequeuer, row.topic, outboundMessage row) ∈ w.queue.published) ∧
      ∀ pushId attempt, ∃ m, decodeData (outboundMessage row).data pushId attempt = .ok m ∧
        dispatch m = some r.handler ∧ r.Recovered m := by
  have hi : PipelineInv sha256 w :=
    run_inv_along (PipelineInv sha256) (fun _ _ _ hi hp hs => pipeline_step hi hp hs) pipelineInv_empty hnew h
  obtain ⟨r, hr, row, hrow, hask, hnot⟩ := hi.waiting d hd (terminal_iff.mpr hst) hactive
  refine ⟨r, row, hr, hask, hnot, hi.queue.outbox.kept row hrow, fun pushId attempt => ?_⟩
  obtain ⟨m, hm, _, hdelivered⟩ := hask.delivered hr.wellFormed pushId attempt
  exact ⟨m, hm, hdelivered.handler, hdelivered.recovered⟩

end

/-! The document of three bytes again: its message is published, and the dequeuer crashes. -/

/-- a check of new ids that can be evaluated -/
def PipelineWorld.drawsNew (sha256 : List UInt8 → String) (maxDeliveryAttempts : Nat) (w : PipelineWorld) :
    PipelineEvent → Bool
  | .scanning event _ _ =>
    w.scanning.drawsNew event && (scanningStep sha256 maxDeliveryAttempts w.scanning event).all fun scanning =>
      (appendedMessages w.db scanning.promotion.db).all fun new => w.queue.committed.all fun row =>
        row.messageId ≠ new.message.metadata.messageId
  | _ => true

theorem newMessages_of_drawsNew {sha256 : List UInt8 → String} {maxDeliveryAttempts : Nat} {w : PipelineWorld}
    {e : PipelineEvent} (h : w.drawsNew sha256 maxDeliveryAttempts e = true) :
    NewMessages sha256 maxDeliveryAttempts w e := by
  cases e with
  | scanning event rowId now =>
    obtain ⟨huploads, hall⟩ := Bool.and_eq_true_iff.mp h
    refine ⟨newUploads_of_drawsNew huploads, fun scanning hstep new hnew row hrow => ?_⟩
    rw [hstep] at hall
    exact of_decide_eq_true (List.all_eq_true.mp (List.all_eq_true.mp hall new hnew) row hrow)
  | queue event => exact trivial
  | push published pushId attempt delivery ok => exact trivial

def samplePipeline : List PipelineEvent :=
  sampleStaging.map (fun event => .scanning event 1 0) ++
    [.queue (.listDue 1 1), .queue (.publish 1 true), .queue (.crash 1)]

def sampleConfig (_ : Nat) : OutboxDequeuerConfig := .default

theorem documents_outstanding_sample :
    ∃ w, run (pipelineStep sampleConfig sampleSha256 5) .empty samplePipeline = some w ∧
      ∃ d ∈ w.db.documents.rows, ∃ r row, d.awaits r ∧ Asking r row ∧
        (outboundMessage row).data ∉ w.acknowledged ∧
        ((∃ stored ∈ w.queue.outbox.rows, SameMessage row stored) ∨
          ∃ dequeuer, (dequeuer, row.topic, outboundMessage row) ∈ w.queue.published) ∧
        ∀ pushId attempt, ∃ m, decodeData (outboundMessage row).data pushId attempt = .ok m ∧
          dispatch m = some r.handler ∧ r.Recovered m := by
  have hrun : ((runChecked (pipelineStep sampleConfig sampleSha256 5) (PipelineWorld.drawsNew sampleSha256 5) .empty
      samplePipeline).any fun w => w.db.documents.rows.any fun d =>
        d.uploadStatus = .pendingUpload && w.db.ownerActive d) = true := by
    decide +kernel
  obtain ⟨w, hchecked, hany⟩ := (Option.any_eq_true _ _).mp hrun
  obtain ⟨hw, halong⟩ := runChecked_some hchecked
  obtain ⟨d, hd, hcond⟩ := List.any_eq_true.mp hany
  obtain ⟨hst, hactive⟩ := Bool.and_eq_true_iff.mp hcond
  exact ⟨w, hw, d, hd, documents_outstanding (halong.imp fun w e h => newMessages_of_drawsNew h) hw hd
    (.inl (of_decide_eq_true hst)) hactive⟩

end Proofplane
