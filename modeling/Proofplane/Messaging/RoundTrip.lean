import Proofplane.Messaging.Worker

/-!
# From the outbox to the worker and back

A request is appended to the outbox, rendered by the dequeuer, pushed, decoded by the worker and read
by a handler.  `WorkRequest` is what the application asks for; `Delivered` says that a worker message
brings exactly that to its own handler.

* `fromEnvelope_outboundMessage`   a typed row reads back to its message;
* `decodeData_typed`, `decodeData_legacy`   the two versions of the envelope;
* `isTypedEnvelope_outboundMessage`   **the key test tells the two versions apart, always**;
* `outbox_codec_roundtrip`         **every request arrives at its own handler, in both versions**.
-/

namespace Proofplane
open Base

/-- what the application can ask its worker to do -/
inductive WorkRequest
  | scan (identity : DocumentIdentity) (key : ObjectKey)
  | finalize (identity : DocumentIdentity) (key : ObjectKey)
  | invite (invitationId : Uuid) (generation : Int)

namespace WorkRequest

/-- a generation is positive and a 64-bit integer -/
def WellFormed : WorkRequest → Prop
  | .invite _ generation => 0 < generation ∧ generation ≤ i64Max
  | _ => True

/-- the integration message of a request -/
def message (r : WorkRequest) (correlationId causationId : Option Uuid) (messageId : Uuid) :
    IntegrationMessage :=
  match r with
  | .scan identity key =>
    .newScanDocument identity key.text correlationId causationId messageId
  | .finalize identity key =>
    .newFinalizeDocument identity key.text correlationId causationId messageId
  | .invite invitationId generation =>
    .newSendWorkspaceInvitation invitationId generation correlationId causationId messageId

/-- what the message is about -/
def subject : WorkRequest → Uuid
  | .scan identity _ => identity.documentId.uuid
  | .finalize identity _ => identity.documentId.uuid
  | .invite invitationId _ => invitationId

def payload : WorkRequest → IntegrationPayload
  | .scan identity key => .document (DocumentWork.new identity key.text)
  | .finalize identity key => .document (DocumentWork.new identity key.text)
  | .invite invitationId generation => .workspaceInvitation ⟨invitationId, generation⟩

def handler : WorkRequest → WorkerHandler
  | .scan _ _ => .documentScan
  | .finalize _ _ => .documentFinalization
  | .invite _ _ => .workspaceInvitationDelivery

/-- the event type under which the worker knows the request -/
def eventType : WorkRequest → String
  | .scan _ _ => legacyDocumentScanRequested
  | .finalize _ _ => legacyDocumentFinalizationRequested
  | .invite _ _ => sendWorkspaceInvitationType

/-- the handler's parser gives back what was asked for -/
def Recovered (r : WorkRequest) (w : WorkerMessage) : Prop :=
  match r with
  | .scan identity key => scanRequestedPayload w = .ok (identity, key)
  | .finalize identity key => finalizationRequestedPayload w = some (identity, key)
  | .invite invitationId generation => invitationDelivery w = some ⟨invitationId, generation⟩

section
variable (r : WorkRequest) (correlationId causationId : Option Uuid) (messageId : Uuid)

theorem message_metadata : (r.message correlationId causationId messageId).metadata
    = ⟨messageId, r.subject.text, correlationId, causationId⟩ := by
  cases r with
  | scan identity key => rfl
  | finalize identity key => rfl
  | invite invitationId generation => rfl

theorem message_payload : (r.message correlationId causationId messageId).payload = r.payload := by
  cases r with
  | scan identity key => rfl
  | finalize identity key => rfl
  | invite invitationId generation => rfl

theorem message_legacyEventType :
    (r.message correlationId causationId messageId).legacyEventType = r.eventType := by
  cases r with
  | scan identity key => rfl
  | finalize identity key => rfl
  | invite invitationId generation => rfl

end

end WorkRequest

/-- the worker message `w` brings the request, with its correlation id, to its own handler -/
structure Delivered (r : WorkRequest) (correlationId : Option Uuid) (w : WorkerMessage) : Prop where
  handler : dispatch w = some r.handler
  aggregateId : w.aggregateId = r.subject.text
  requestId : w.requestId = correlationId
  payload : w.payload = r.payload.toJson
  recovered : r.Recovered w

/-- a worker message with the right columns is a delivery -/
theorem Delivered.of_columns {r : WorkRequest} (hr : r.WellFormed) {correlationId : Option Uuid}
    {w : WorkerMessage} (hevent : w.eventType = r.eventType)
    (htype : w.aggregateType = r.payload.aggregateType) (hid : w.aggregateId = r.subject.text)
    (hreq : w.requestId = correlationId) (hpay : w.payload = r.payload.toJson) :
    Delivered r correlationId w := by
  -- a document parser on the payload of a document request
  have hdoc : ∀ identity key, w.aggregateType = (DocumentWork.new identity key.text).aggregateType →
      w.aggregateId = identity.documentId.uuid.text →
      w.payload = (DocumentWork.new identity key.text).toJson →
      scanRequestedPayload w = .ok (identity, key) := by
    intro identity key ht hi hp
    unfold scanRequestedPayload
    rw [hi, Uuid.parseStr_text, hp, ht]
    cases identity with
    | evidence s d =>
      simp [DocumentWork.new, DocumentIdentity.owner, DocumentIdentity.documentId,
        DocumentWork.toJson, DocumentWork.aggregateType, Json.field?, Json.lookup, Json.asStr?,
        ObjectKey.parse_text, payloadUuid, Json.ofUuid, Uuid.parseStr_text]
    | policy p d =>
      simp [DocumentWork.new, DocumentIdentity.owner, DocumentIdentity.documentId,
        DocumentWork.toJson, DocumentWork.aggregateType, Json.field?, Json.lookup, Json.asStr?,
        ObjectKey.parse_text, payloadUuid, Json.ofUuid, Uuid.parseStr_text]
  refine ⟨?_, hid, hreq, hpay, ?_⟩
  · unfold dispatch
    rw [hevent]
    cases r with
    | scan identity key => simp [WorkRequest.eventType, WorkRequest.handler]
    | finalize identity key =>
      simp [WorkRequest.eventType, WorkRequest.handler, legacyDocumentScanRequested,
        legacyDocumentFinalizationRequested]
    | invite invitationId generation =>
      simp [WorkRequest.eventType, WorkRequest.handler, legacyDocumentScanRequested,
        legacyDocumentFinalizationRequested, sendWorkspaceInvitationType]
  · cases r with
    | scan identity key => exact hdoc identity key htype hid hpay
    | finalize identity key =>
      show finalizationRequestedPayload w = some (identity, key)
      rw [finalizationRequestedPayload_eq, hdoc identity key htype hid hpay]
      rfl
    | invite invitationId generation =>
      obtain ⟨hpos, hmax⟩ := hr
      have hrange : i64Min ≤ generation ∧ generation ≤ i64Max := ⟨by unfold i64Min; omega, hmax⟩
      have hwork := WorkspaceInvitationDeliveryWork.fromJson_toJson ⟨invitationId, generation⟩ hrange
      have hjson : w.payload
          = WorkspaceInvitationDeliveryWork.toJson ⟨invitationId, generation⟩ := by
        rw [hpay, WorkRequest.payload, IntegrationPayload.toJson]
      show invitationDelivery w = some ⟨invitationId, generation⟩
      unfold invitationDelivery
      rw [hjson, hwork]
      dsimp only
      rw [if_neg (by omega), hid]
      exact if_neg (not_not.mpr rfl)

/-! ## Typed rows -/

theorem IntegrationMessageKind.fromJson_asStr (k : IntegrationMessageKind) :
    fromJson (.str k.asStr) = some k := by
  cases k with
  | command => rfl
  | event => rfl

theorem optional_ofUuid? (u : Option Uuid) :
    optional Json.asUuid? (some (Json.ofUuid? u)) = some u := by
  cases u with
  | none => rfl
  | some u =>
    show (Json.asUuid? (Json.ofUuid u)).map some = some (some u)
    rw [Json.asUuid?_ofUuid]
    rfl

/-- the header of a row whose version is not 0 -/
theorem header_outboundMessage {row : OutboxMessage} (hv : row.messageVersion ≠ 0)
    (hrange : i32Min ≤ row.messageVersion ∧ row.messageVersion ≤ i32Max) :
    IntegrationEnvelopeHeader.fromJson (outboundMessage row).data
      = some ⟨row.messageId, row.messageKind, row.messageType, row.messageVersion, row.subject,
          row.correlationId, row.causationId, row.payload⟩ := by
  unfold outboundMessage
  rw [if_neg hv]
  simp [IntegrationEnvelopeHeader.fromJson, structFields, Json.lookup, required, Json.asStr?,
    IntegrationMessageKind.fromJson_asStr, Json.asInt?_int hrange, optional_ofUuid?]

theorem fromEnvelope_outboundMessage {r : WorkRequest} (hr : r.WellFormed)
    {correlationId causationId : Option Uuid} {messageId : Uuid} {topic : String} {id now : Int}
    {row : OutboxMessage}
    (hrow : SameMessage (outboxRow ⟨topic, r.message correlationId causationId messageId⟩ id now)
      row) :
    fromEnvelope (outboundMessage row).data
      = .ok (r.message correlationId causationId messageId) := by
  have hversion : (outboxRow ⟨topic, r.message correlationId causationId messageId⟩ id
      now).messageVersion = 1 := rfl
  rw [hrow.outboundMessage_eq]
  unfold fromEnvelope
  rw [header_outboundMessage (by rw [hversion]; decide) (by rw [hversion]; decide)]
  cases r with
  | scan identity key =>
    have hpay := DocumentWork.fromJson_toJson (DocumentWork.new identity key.text)
    simp [outboxRow, WorkRequest.message, IntegrationMessage.newScanDocument,
      IntegrationMessage.kind, IntegrationMessage.version, IntegrationMessage.messageType,
      IntegrationMessage.payload, IntegrationPayload.toJson, IntegrationMessage.metadata,
      IntegrationEnvelopeHeader.metadata, hpay]
  | finalize identity key =>
    have hpay := DocumentWork.fromJson_toJson (DocumentWork.new identity key.text)
    simp [outboxRow, WorkRequest.message, IntegrationMessage.newFinalizeDocument,
      IntegrationMessage.kind, IntegrationMessage.version, IntegrationMessage.messageType,
      IntegrationMessage.payload, IntegrationPayload.toJson, IntegrationMessage.metadata,
      IntegrationEnvelopeHeader.metadata, hpay, scanDocumentType, finalizeDocumentType]
  | invite invitationId generation =>
    obtain ⟨hpos, hmax⟩ := hr
    have hmin : i64Min ≤ generation := by
      unfold i64Min
      omega
    have hpay := WorkspaceInvitationDeliveryWork.fromJson_toJson ⟨invitationId, generation⟩
      ⟨hmin, hmax⟩
    simp [outboxRow, WorkRequest.message, IntegrationMessage.newSendWorkspaceInvitation,
      IntegrationMessage.kind, IntegrationMessage.version, IntegrationMessage.messageType,
      IntegrationMessage.payload, IntegrationPayload.toJson, IntegrationMessage.metadata,
      IntegrationEnvelopeHeader.metadata, hpay, scanDocumentType, finalizeDocumentType,
      sendWorkspaceInvitationType]

/-- **A row is rendered as a typed envelope exactly if its version is not 0.** -/
theorem isTypedEnvelope_outboundMessage (row : OutboxMessage) :
    isTypedEnvelope (outboundMessage row).data = true ↔ row.messageVersion ≠ 0 := by
  by_cases hv : row.messageVersion = 0
  · have hfalse : isTypedEnvelope (outboundMessage row).data = false := by
      unfold outboundMessage
      rw [if_pos hv]
      simp [isTypedEnvelope, typedEnvelopeFields, Json.field?, Json.lookup]
    rw [hfalse]
    simp [hv]
  · have htrue : isTypedEnvelope (outboundMessage row).data = true := by
      unfold outboundMessage
      rw [if_neg hv]
      simp [isTypedEnvelope, typedEnvelopeFields, Json.field?, Json.lookup, Json.isObj]
    rw [htrue]
    simp [hv]

theorem decodeData_typed {r : WorkRequest} (hr : r.WellFormed)
    {correlationId causationId : Option Uuid} {messageId : Uuid} {topic : String} {id now : Int}
    {row : OutboxMessage}
    (hrow : SameMessage (outboxRow ⟨topic, r.message correlationId causationId messageId⟩ id now)
      row) (pushId : String) (attempt : Option Int) :
    ∃ w, decodeData (outboundMessage row).data pushId attempt = .ok w ∧
      Delivered r correlationId w := by
  have hversion : row.messageVersion ≠ 0 := by
    have hsame : row.messageVersion = 1 := by
      rw [hrow]
      rfl
    rw [hsame]
    decide
  unfold decodeData
  rw [if_pos ((isTypedEnvelope_outboundMessage row).mpr hversion)]
  unfold decodeTypedWorkerMessage
  rw [fromEnvelope_outboundMessage hr hrow]
  refine ⟨_, rfl, ?_⟩
  apply Delivered.of_columns hr
  · exact r.message_legacyEventType correlationId causationId messageId
  · rw [r.message_payload]
  · rw [r.message_metadata]
  · rw [r.message_metadata]
  · rw [r.message_payload]

/-! ## Rows of the first version -/

/-- a row of version 0 that asks for `r` -/
structure LegacyRow (r : WorkRequest) (correlationId : Option Uuid) (row : OutboxMessage) : Prop where
  version : row.messageVersion = 0
  eventType : row.eventType = r.eventType
  aggregateType : row.aggregateType = r.payload.aggregateType
  aggregateId : row.aggregateId = r.subject.text
  requestId : row.requestId = correlationId
  payload : row.payload = r.payload.toJson

theorem eventType_not_blank (r : WorkRequest) : isBlank r.eventType = false := by
  have h1 : isBlank legacyDocumentScanRequested = false := by decide
  have h2 : isBlank legacyDocumentFinalizationRequested = false := by decide
  have h3 : isBlank sendWorkspaceInvitationType = false := by decide
  cases r with
  | scan identity key => exact h1
  | finalize identity key => exact h2
  | invite invitationId generation => exact h3

theorem aggregateType_not_blank (p : IntegrationPayload) : isBlank p.aggregateType = false := by
  have h1 : isBlank "evidence_document" = false := by decide
  have h2 : isBlank "policy_document" = false := by decide
  have h3 : isBlank "workspace_invitation" = false := by decide
  cases p with
  | document work =>
    cases work with
    | evidence id key => exact h1
    | policy id key => exact h2
  | workspaceInvitation work => exact h3

theorem payload_toJson_ne_null (p : IntegrationPayload) :
    optional some (some p.toJson) = some (some p.toJson) := by
  cases p with
  | document work =>
    cases work with
    | evidence id key => rfl
    | policy id key => rfl
  | workspaceInvitation work => rfl

theorem optionalRequestId_ofUuid? (u : Option Uuid) :
    ∃ text, optional Json.asStr? (some (Json.ofUuid? u)) = some text ∧
      optionalRequestId text = .ok u := by
  cases u with
  | none => exact ⟨none, rfl, rfl⟩
  | some u =>
    refine ⟨some u.text, rfl, ?_⟩
    unfold optionalRequestId
    dsimp only
    rw [Uuid.parseStr_text]

theorem decodeData_legacy {r : WorkRequest} (hr : r.WellFormed) {correlationId : Option Uuid}
    {row : OutboxMessage} (hrow : LegacyRow r correlationId row) (pushId : String)
    (attempt : Option Int) :
    ∃ w, decodeData (outboundMessage row).data pushId attempt = .ok w ∧
      Delivered r correlationId w ∧ w.messageId = pushId := by
  have htyped : isTypedEnvelope (outboundMessage row).data = false := by
    rw [Bool.eq_false_iff]
    exact fun hc => (isTypedEnvelope_outboundMessage row).mp hc hrow.version
  obtain ⟨text, htext, hreq⟩ := optionalRequestId_ofUuid? row.requestId
  have hdto : WorkerMessageDataDTO.fromJson (outboundMessage row).data
      = some ⟨some row.eventType, some row.aggregateType, some row.aggregateId, text,
          some row.payload⟩ := by
    have hpay := payload_toJson_ne_null r.payload
    rw [← hrow.payload] at hpay
    unfold outboundMessage
    rw [if_pos hrow.version]
    simp [WorkerMessageDataDTO.fromJson, structFields, Json.lookup, htext, hpay]
    simp [optional, Json.asStr?]
  have hblank : ∀ field value, isBlank value = false →
      requiredMessageString field (some value) = .ok value := by
    intro field value h
    unfold requiredMessageString
    dsimp only
    rw [h]
    rfl
  unfold decodeData
  rw [htyped]
  unfold decodeLegacyWorkerMessage
  rw [hdto]
  unfold WorkerMessageDataDTO.intoMessageData
  dsimp only
  rw [hblank _ _ (hrow.eventType ▸ eventType_not_blank r),
    hblank _ _ (hrow.aggregateType ▸ aggregateType_not_blank r.payload),
    hblank _ _ (hrow.aggregateId ▸ Uuid.isBlank_text r.subject), hreq]
  refine ⟨_, rfl, ?_, rfl⟩
  exact .of_columns hr hrow.eventType hrow.aggregateType hrow.aggregateId hrow.requestId hrow.payload

/-! ## Typed envelopes in general -/

/-- the handler of an integration message -/
def handlerOfType (messageType : String) : Option WorkerHandler :=
  if messageType = scanDocumentType then some .documentScan
  else if messageType = finalizeDocumentType then some .documentFinalization
  else if messageType = sendWorkspaceInvitationType then some .workspaceInvitationDelivery
  else none

theorem dispatch_legacyEventType (m : IntegrationMessage) {w : WorkerMessage}
    (h : w.eventType = m.legacyEventType) :
    dispatch w = handlerOfType m.messageType ∧ (dispatch w).isSome = true := by
  unfold dispatch
  rw [h]
  cases m with
  | scanDocument metadata payload =>
    simp [IntegrationMessage.legacyEventType, IntegrationMessage.messageType, handlerOfType]
  | finalizeDocument metadata payload =>
    simp [IntegrationMessage.legacyEventType, IntegrationMessage.messageType, handlerOfType,
      legacyDocumentScanRequested, legacyDocumentFinalizationRequested, scanDocumentType,
      finalizeDocumentType]
  | sendWorkspaceInvitation metadata payload =>
    simp [IntegrationMessage.legacyEventType, IntegrationMessage.messageType, handlerOfType,
      legacyDocumentScanRequested, legacyDocumentFinalizationRequested, scanDocumentType,
      finalizeDocumentType, sendWorkspaceInvitationType]

/-- **A typed envelope that is accepted names the command kind, version 1 and a known type, and goes
to the handler of that type.** -/
theorem decodeData_typed_ok {data : Json} (htyped : isTypedEnvelope data = true) {pushId : String}
    {attempt : Option Int} {w : WorkerMessage} (h : decodeData data pushId attempt = .ok w) :
    (∃ v, data.field? "kind" = some v ∧ IntegrationMessageKind.fromJson v = some .command) ∧
    data.field? "version" = some (.int 1) ∧
    ∃ messageType, data.field? "type" = some (.str messageType) ∧
      dispatch w = handlerOfType messageType ∧ (dispatch w).isSome = true := by
  unfold decodeData at h
  rw [if_pos htyped] at h
  unfold decodeTypedWorkerMessage at h
  split at h
  · cases h
  · next m hm =>
    have hw := Except.ok.inj h
    have hevent : w.eventType = m.legacyEventType := by rw [← hw]
    obtain ⟨header, hheader, hkind, hversion, htype⟩ := fromEnvelope_ok hm
    cases data with
    | obj fields =>
      obtain ⟨hk, ⟨t, htl, ht⟩, ⟨n, hnl, hn⟩⟩ := IntegrationEnvelopeHeader.fromJson_obj hheader
      rw [hkind] at hk
      have ht' : t = .str header.messageType := by
        cases t with
        | str s =>
          cases ht
          rfl
        | _ => cases ht
      have hn' : n = .int 1 := by
        cases n with
        | int k =>
          simp only [Json.asInt?] at hn
          split at hn
          · cases hn
            rw [hversion]
            rfl
          · cases hn
        | _ => cases hn
      rw [ht', htype] at htl
      rw [hn'] at hnl
      refine ⟨hk, hnl, m.messageType, htl, ?_⟩
      exact dispatch_legacyEventType m hevent
    | _ => cases htyped

/-! ## The round trip -/

/-- the body of a push request that carries the text of `data`: the libraries read back what they
wrote, and the envelope holds that text in base64 beside whatever else the service puts there -/
structure Pushed (W : Wire) (data : Json) (pushId : String) (attempt : Option Int)
    (body : String) : Prop where
  parse_render : W.parse (W.render data) = some data
  decode_encode : W.base64Decode (W.base64Encode (W.render data)) = some (W.render data)
  envelope : ∃ fields message, W.parse body = some (.obj fields) ∧
    Json.lookup fields "message" = some (.obj message) ∧
    Json.lookup fields "deliveryAttempt" = attempt.map .int ∧
    Json.lookup message "messageId" = some (.str pushId) ∧
    Json.lookup message "data" = some (.str (W.base64Encode (W.render data)))
  attempt_u32 : ∀ n, attempt = some n → 0 ≤ n ∧ n ≤ 4294967295

theorem decodeWorkerMessage_pushed {W : Wire} {data : Json} {pushId : String} {attempt : Option Int}
    {body : String} (h : Pushed W data pushId attempt body) :
    decodeWorkerMessage W body = decodeData data pushId attempt := by
  obtain ⟨fields, message, hbody, hmessage, hattempt, hid, hdata⟩ := h.envelope
  have hmsg : PushEnvelopeMessage.fromJson (.obj message)
      = some ⟨pushId, W.base64Encode (W.render data)⟩ := by
    simp [PushEnvelopeMessage.fromJson, structFields, hid, hdata, required, Json.asStr?]
  have hatt : optional (Json.asInt? 0 4294967295) (attempt.map .int) = some attempt := by
    cases attempt with
    | none => rfl
    | some n =>
      show (Json.asInt? 0 4294967295 (.int n)).map some = some (some n)
      rw [Json.asInt?_int (h.attempt_u32 n rfl)]
      rfl
  have henv : PushEnvelope.fromJson (.obj fields)
      = some ⟨some ⟨pushId, W.base64Encode (W.render data)⟩, attempt⟩ := by
    simp [PushEnvelope.fromJson, structFields, hmessage, hattempt, hatt]
    simp [optional, hmsg]
  unfold decodeWorkerMessage
  rw [hbody, Option.bind_some, henv]
  dsimp only
  rw [h.decode_encode]
  dsimp only
  rw [h.parse_render]

/-- **The outbox-to-worker codec.**  For every request, a row appended for it (with any number of
attempts), or a row of version 0 in the legacy shape, is pushed, decoded and dispatched to the handler
of its own type with its aggregate id, correlation id and payload intact, and that handler's parser
recovers the request.  The envelope of a row is read by the typed decoder exactly if the row is typed;
a typed envelope that is accepted has the command kind, version 1 and a known type and goes to the
handler of that type; and the scan and the finalization parser accept the same messages with the same
result. -/
theorem outbox_codec_roundtrip (W : Wire) :
    (∀ (r : WorkRequest), r.WellFormed → ∀ (correlationId causationId : Option Uuid)
      (messageId : Uuid) (topic : String) (id now : Int) (row : OutboxMessage),
      SameMessage (outboxRow ⟨topic, r.message correlationId causationId messageId⟩ id now) row →
      ∀ pushId attempt body, Pushed W (outboundMessage row).data pushId attempt body →
        ∃ w, decodeWorkerMessage W body = .ok w ∧ Delivered r correlationId w) ∧
    (∀ (r : WorkRequest), r.WellFormed → ∀ (correlationId : Option Uuid) (row : OutboxMessage),
      LegacyRow r correlationId row →
      ∀ pushId attempt body, Pushed W (outboundMessage row).data pushId attempt body →
        ∃ w, decodeWorkerMessage W body = .ok w ∧ Delivered r correlationId w) ∧
    (∀ row : OutboxMessage, isTypedEnvelope (outboundMessage row).data = true ↔
      row.messageVersion ≠ 0) ∧
    (∀ data pushId attempt w, isTypedEnvelope data = true → decodeData data pushId attempt = .ok w →
      (∃ v, data.field? "kind" = some v ∧ IntegrationMessageKind.fromJson v = some .command) ∧
      data.field? "version" = some (.int 1) ∧
      ∃ messageType, data.field? "type" = some (.str messageType) ∧
        dispatch w = handlerOfType messageType ∧ (dispatch w).isSome = true) ∧
    (∀ w, finalizationRequestedPayload w = (scanRequestedPayload w).toOption) := by
  refine ⟨?_, ?_, isTypedEnvelope_outboundMessage, ?_, finalizationRequestedPayload_eq⟩
  · intro r hr correlationId causationId messageId topic id now row hrow pushId attempt body hbody
    rw [decodeWorkerMessage_pushed hbody]
    exact decodeData_typed hr hrow pushId attempt
  · intro r hr correlationId row hrow pushId attempt body hbody
    rw [decodeWorkerMessage_pushed hbody]
    obtain ⟨w, hw, hdel, -⟩ := decodeData_legacy hr hrow pushId attempt
    exact ⟨w, hw, hdel⟩
  · intro data pushId attempt w htyped hw
    exact decodeData_typed_ok htyped hw

/-! ## One message on the wire -/

/-- the text that is published for the first invitation mail of invitation 7 -/
def sampleText : String :=
  "\x7b\"causation_id\":null,\"correlation_id\":null,\"kind\":\"command\",\"message_i" ++
  "d\":\"00000000-0000-0000-0000-000000000008\",\"payload\":\x7b\"generation\":1,\"i" ++
  "nvitation_id\":\"00000000-0000-0000-0000-000000000007\"\x7d,\"subject\":\"00000" ++
  "000-0000-0000-0000-000000000007\",\"type\":\"SendWorkspaceInvitation\",\"ver" ++
  "sion\":1\x7d"

/-- that text in base64 -/
def sampleBase64 : String :=
  "eyJjYXVzYXRpb25faWQiOm51bGwsImNvcnJlbGF0aW9uX2lkIjpudWxsLCJraW5kIjoiY29tbWFuZCIsIm1lc3NhZ2" ++
  "VfaWQiOiIwMDAwMDAwMC0wMDAwLTAwMDAtMDAwMC0wMDAwMDAwMDAwMDgiLCJwYXlsb2FkIjp7ImdlbmVyYXRpb24i" ++
  "OjEsImludml0YXRpb25faWQiOiIwMDAwMDAwMC0wMDAwLTAwMDAtMDAwMC0wMDAwMDAwMDAwMDcifSwic3ViamVjdC" ++
  "I6IjAwMDAwMDAwLTAwMDAtMDAwMC0wMDAwLTAwMDAwMDAwMDAwNyIsInR5cGUiOiJTZW5kV29ya3NwYWNlSW52aXRh" ++
  "dGlvbiIsInZlcnNpb24iOjF9"

/-- the body of the push request with it -/
def sampleBody : String :=
  "\x7b\"deliveryAttempt\":1,\"message\":\x7b\"data\":\"eyJjYXVzYXRpb25faWQiOm51bGwsImNvcnJlbGF0" ++
  "aW9uX2lkIjpudWxsLCJraW5kIjoiY29tbWFuZCIsIm1lc3NhZ2VfaWQiOiIwMDAwMDAwMC0wMDAwLTAw" ++
  "MDAtMDAwMC0wMDAwMDAwMDAwMDgiLCJwYXlsb2FkIjp7ImdlbmVyYXRpb24iOjEsImludml0YXRpb25f" ++
  "aWQiOiIwMDAwMDAwMC0wMDAwLTAwMDAtMDAwMC0wMDAwMDAwMDAwMDcifSwic3ViamVjdCI6IjAwMDAw" ++
  "MDAwLTAwMDAtMDAwMC0wMDAwLTAwMDAwMDAwMDAwNyIsInR5cGUiOiJTZW5kV29ya3NwYWNlSW52aXRh" ++
  "dGlvbiIsInZlcnNpb24iOjF9\",\"messageId\":\"m-1\"\x7d\x7d"

def sampleRow : OutboxMessage :=
  outboxRow ⟨"message-bus", (WorkRequest.invite 7 1).message none none 8⟩ 1 0

/-- the libraries on the texts above -/
def sampleWire : Wire where
  render _ := sampleText
  parse s :=
    if s = sampleText then some (outboundMessage sampleRow).data
    else if s = sampleBody then
      some (.obj [("deliveryAttempt", .int 1),
        ("message", .obj [("data", .str sampleBase64), ("messageId", .str "m-1")])])
    else none
  base64Encode _ := sampleBase64
  base64Decode s := if s = sampleBase64 then some sampleText else none

theorem sampleBody_ne : sampleBody ≠ sampleText := by decide

theorem sampleWire_text : sampleWire.parse sampleText = some (outboundMessage sampleRow).data := by
  simp only [sampleWire, if_true]

theorem sampleWire_body : sampleWire.parse sampleBody
    = some (.obj [("deliveryAttempt", .int 1),
        ("message", .obj [("data", .str sampleBase64), ("messageId", .str "m-1")])]) := by
  simp only [sampleWire, sampleBody_ne, if_true, if_false]

theorem samplePushed : Pushed sampleWire (outboundMessage sampleRow).data "m-1" (some 1)
    sampleBody where
  parse_render := sampleWire_text
  decode_encode := by simp only [sampleWire, if_true]
  envelope := by
    refine ⟨_, [("data", .str sampleBase64), ("messageId", .str "m-1")], sampleWire_body, ?_, ?_,
      ?_, ?_⟩
    all_goals simp [Json.lookup, sampleWire]
  attempt_u32 n hn := by
    cases hn
    decide

/-- the mail of invitation 7 reaches the invitation handler -/
theorem outbox_codec_roundtrip_sample :
    ∃ w, decodeWorkerMessage sampleWire sampleBody = .ok w ∧ Delivered (.invite 7 1) none w :=
  (outbox_codec_roundtrip sampleWire).1 (.invite 7 1) ⟨by decide, by decide⟩ none none 8
    "message-bus" 1 0 sampleRow (.refl _) "m-1" (some 1) sampleBody samplePushed

end Proofplane
