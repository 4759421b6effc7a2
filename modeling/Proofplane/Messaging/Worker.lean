import Proofplane.Base.Text
import Proofplane.Messaging.Envelope
import Proofplane.ObjectStorage.Key
import Proofplane.Outbox.Store

/-!
# The worker's side of a message

A push request carries the text of a published message in base64.  The worker tells a typed message
from one of the first version by the keys of its envelope, brings both to one `WorkerMessage` and
hands it to the handler of its event type, which reads the payload.

* `Wire`                         the text codecs of the libraries, as parameters;
* `decodeWorkerMessage`          from the body of a push request to a worker message;
* `dispatch`                     the handler of a worker message;
* `scanRequestedPayload`, `finalizationRequestedPayload`, `invitationDelivery`   their parsers;
* `finalizationRequestedPayload_eq`   **the two document parsers accept the same messages**.
-/

namespace Proofplane
open Base

/-- JSON and base64 text, as the libraries write and read it -/
structure Wire where
  render : Json → String
  parse : String → Option Json
  base64Encode : String → String
  base64Decode : String → Option String

structure WorkerMessage where
  messageId : String
  eventType : String
  aggregateType : String
  aggregateId : String
  requestId : Option Uuid
  payload : Json
  deliveryAttempt : Option Int

inductive WorkerMessageDataValidationError
  | missingField (field : String)
  | invalidRequestId
  deriving DecidableEq, Repr

inductive WorkerMessageDecodeError
  | envelopeJson | missingMessage | invalidBase64 | payloadJson
  | typedMessage (e : IntegrationMessageDecodeError)
  | dataValidation (es : List WorkerMessageDataValidationError)
  deriving DecidableEq, Repr

/-! ## Decoding -/

/-- the keys that only a typed envelope has -/
def typedEnvelopeFields : List String :=
  ["message_id", "kind", "type", "version", "subject", "correlation_id", "causation_id"]

def isTypedEnvelope (data : Json) : Bool :=
  data.isObj && typedEnvelopeFields.any fun field => (data.field? field).isSome

def decodeTypedWorkerMessage (data : Json) (deliveryAttempt : Option Int) :
    Except WorkerMessageDecodeError WorkerMessage :=
  match fromEnvelope data with
  | .error e => .error (.typedMessage e)
  | .ok m =>
    .ok
      { messageId := m.metadata.messageId.text
        eventType := m.legacyEventType
        aggregateType := m.payload.aggregateType
        aggregateId := m.metadata.subject
        requestId := m.metadata.correlationId
        payload := m.payload.toJson
        deliveryAttempt := deliveryAttempt }

structure WorkerMessageDataDTO where
  eventType : Option String
  aggregateType : Option String
  aggregateId : Option String
  requestId : Option String
  payload : Option Json

def WorkerMessageDataDTO.fromJson (v : Json) : Option WorkerMessageDataDTO :=
  match structFields ["event_type", "aggregate_type", "aggregate_id", "request_id", "payload"]
      false v with
  | some [eventType, aggregateType, aggregateId, requestId, payload] =>
    (optional Json.asStr? eventType).bind fun eventType =>
    (optional Json.asStr? aggregateType).bind fun aggregateType =>
    (optional Json.asStr? aggregateId).bind fun aggregateId =>
    (optional Json.asStr? requestId).bind fun requestId =>
    (optional some payload).map fun payload =>
      ⟨eventType, aggregateType, aggregateId, requestId, payload⟩
  | _ => none

structure WorkerMessageData where
  eventType : String
  aggregateType : String
  aggregateId : String
  requestId : Option Uuid
  payload : Json

def requiredMessageString (field : String) :
    Option String → Except (List WorkerMessageDataValidationError) String
  | some value => if isBlank value then .error [.missingField field] else .ok value
  | none => .error [.missingField field]

def requiredMessageValue (field : String) :
    Option Json → Except (List WorkerMessageDataValidationError) Json
  | some value => .ok value
  | none => .error [.missingField field]

def optionalRequestId :
    Option String → Except (List WorkerMessageDataValidationError) (Option Uuid)
  | some requestId =>
    match Uuid.parseStr requestId with
    | some u => .ok (some u)
    | none => .error [.invalidRequestId]
  | none => .ok none

/-- the errors of a check -/
def errorsOf {ε α : Type*} : Except (List ε) α → List ε
  | .error es => es
  | .ok _ => []

/-- every check is made, and all of their errors are reported -/
def WorkerMessageDataDTO.intoMessageData (dto : WorkerMessageDataDTO) :
    Except (List WorkerMessageDataValidationError) WorkerMessageData :=
  match requiredMessageString "event_type" dto.eventType,
      requiredMessageString "aggregate_type" dto.aggregateType,
      requiredMessageString "aggregate_id" dto.aggregateId,
      optionalRequestId dto.requestId,
      requiredMessageValue "payload" dto.payload with
  | .ok eventType, .ok aggregateType, .ok aggregateId, .ok requestId, .ok payload =>
    .ok ⟨eventType, aggregateType, aggregateId, requestId, payload⟩
  | a, b, c, d, e => .error (errorsOf a ++ errorsOf b ++ errorsOf c ++ errorsOf d ++ errorsOf e)

def decodeLegacyWorkerMessage (data : Json) (messageId : String) (deliveryAttempt : Option Int) :
    Except WorkerMessageDecodeError WorkerMessage :=
  match WorkerMessageDataDTO.fromJson data with
  | none => .error .payloadJson
  | some dto =>
    match dto.intoMessageData with
    | .error es => .error (.dataValidation es)
    | .ok data =>
      .ok ⟨messageId, data.eventType, data.aggregateType, data.aggregateId, data.requestId,
        data.payload, deliveryAttempt⟩

structure PushEnvelopeMessage where
  messageId : String
  data : String

def PushEnvelopeMessage.fromJson (v : Json) : Option PushEnvelopeMessage :=
  match structFields ["messageId", "data"] false v with
  | some [messageId, data] =>
    (required Json.asStr? messageId).bind fun messageId =>
      (required Json.asStr? data).map fun data => ⟨messageId, data⟩
  | _ => none

structure PushEnvelope where
  message : Option PushEnvelopeMessage
  deliveryAttempt : Option Int

def PushEnvelope.fromJson (v : Json) : Option PushEnvelope :=
  match structFields ["message", "deliveryAttempt"] false v with
  | some [message, deliveryAttempt] =>
    (optional PushEnvelopeMessage.fromJson message).bind fun message =>
      (optional (Json.asInt? 0 4294967295) deliveryAttempt).map fun attempt => ⟨message, attempt⟩
  | _ => none

/-- the typed reader or the legacy one, by the keys of the envelope -/
def decodeData (data : Json) (messageId : String) (deliveryAttempt : Option Int) :
    Except WorkerMessageDecodeError WorkerMessage :=
  if isTypedEnvelope data then decodeTypedWorkerMessage data deliveryAttempt
  else decodeLegacyWorkerMessage data messageId deliveryAttempt

def decodeWorkerMessage (W : Wire) (body : String) : Except WorkerMessageDecodeError WorkerMessage :=
  match (W.parse body).bind PushEnvelope.fromJson with
  | none => .error .envelopeJson
  | some envelope =>
    match envelope.message with
    | none => .error .missingMessage
    | some message =>
      match W.base64Decode message.data with
      | none => .error .invalidBase64
      | some text =>
        match W.parse text with
        | none => .error .payloadJson
        | some data => decodeData data message.messageId envelope.deliveryAttempt

/-! ## Handlers and their parsers -/

inductive WorkerHandler
  | documentScan | documentFinalization | workspaceInvitationDelivery
  deriving DecidableEq, Repr

/-- the handler of a message; a message of an unknown event type is acknowledged without one -/
def dispatch (m : WorkerMessage) : Option WorkerHandler :=
  if m.eventType = legacyDocumentScanRequested then some .documentScan
  else if m.eventType = legacyDocumentFinalizationRequested then some .documentFinalization
  else if m.eventType = sendWorkspaceInvitationType then some .workspaceInvitationDelivery
  else none

inductive PermanentScanMessageError
  | aggregateType | payload | ownerId | aggregateId | key
  deriving DecidableEq, Repr

def payloadUuid (payload : Json) (field : String) : Option Uuid :=
  ((payload.field? field).bind Json.asStr?).bind Uuid.parseStr

def scanRequestedPayload (m : WorkerMessage) :
    Except PermanentScanMessageError (DocumentIdentity × ObjectKey) :=
  match Uuid.parseStr m.aggregateId with
  | none => .error .aggregateId
  | some documentId =>
    match (m.payload.field? "object_key").bind Json.asStr? with
    | none => .error .payload
    | some objectKey =>
      match ObjectKey.parse objectKey with
      | none => .error .key
      | some key =>
        if m.aggregateType = "evidence_document" then
          match payloadUuid m.payload "evidence_submission_id" with
          | none => .error .ownerId
          | some owner => .ok (.evidence ⟨owner⟩ ⟨documentId⟩, key)
        else if m.aggregateType = "policy_document" then
          match payloadUuid m.payload "policy_id" with
          | none => .error .ownerId
          | some owner => .ok (.policy ⟨owner⟩ ⟨documentId⟩, key)
        else .error .aggregateType

def finalizationRequestedPayload (m : WorkerMessage) : Option (DocumentIdentity × ObjectKey) :=
  (Uuid.parseStr m.aggregateId).bind fun documentId =>
  ((m.payload.field? "object_key").bind fun v => v.asStr?.bind ObjectKey.parse).bind fun key =>
    if m.aggregateType = "evidence_document" then
      (payloadUuid m.payload "evidence_submission_id").map fun owner =>
        (.evidence ⟨owner⟩ ⟨documentId⟩, key)
    else if m.aggregateType = "policy_document" then
      (payloadUuid m.payload "policy_id").map fun owner => (.policy ⟨owner⟩ ⟨documentId⟩, key)
    else none

/-- the work that the invitation handler goes on with -/
def invitationDelivery (m : WorkerMessage) : Option WorkspaceInvitationDeliveryWork :=
  match WorkspaceInvitationDeliveryWork.fromJson m.payload with
  | none => none
  | some work =>
    if work.generation ≤ 0 then none
    else if m.aggregateId ≠ work.invitationId.text then none
    else some work

/-- **The two document parsers accept the same messages, with the same identity and key.** -/
theorem finalizationRequestedPayload_eq (m : WorkerMessage) :
    finalizationRequestedPayload m = (scanRequestedPayload m).toOption := by
  unfold finalizationRequestedPayload scanRequestedPayload
  cases Uuid.parseStr m.aggregateId with
  | none => rfl
  | some documentId =>
    cases m.payload.field? "object_key" with
    | none => rfl
    | some v =>
      cases hv : v.asStr? with
      | none => simp [hv, Except.toOption]
      | some objectKey =>
        cases hk : ObjectKey.parse objectKey with
        | none => simp [hv, hk, Except.toOption]
        | some key =>
          simp only [Option.bind_some, hv, hk]
          by_cases he : m.aggregateType = "evidence_document"
          · rw [if_pos he, if_pos he]
            cases payloadUuid m.payload "evidence_submission_id" with
            | none => rfl
            | some owner => rfl
          · rw [if_neg he, if_neg he]
            by_cases hp : m.aggregateType = "policy_document"
            · rw [if_pos hp, if_pos hp]
              cases payloadUuid m.payload "policy_id" with
              | none => rfl
              | some owner => rfl
            · rw [if_neg hp, if_neg hp]
              rfl

end Proofplane
