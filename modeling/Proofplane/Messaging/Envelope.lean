import Proofplane.Messaging.Message
import Proofplane.Base.Machine

/-!
# Reading a typed envelope

The reader of the message library accepts a record as an object with its fields, or as an array with
all of its fields in order; an optional field may be missing or `null`.

* `structFields`     the fields of a record, in either form;
* `DocumentWork.fromJson`, `WorkspaceInvitationDeliveryWork.fromJson`   the payloads; `fromJson_toJson`
                     reads back what was written;
* `fromEnvelope`     a message from its envelope;
* `fromEnvelope_ok`  **what an accepted envelope is**: a command of version 1 and of a known type.
-/

namespace Proofplane
open Base

/-! ## Records -/

/-- the fields of a record with these names -/
def structFields (names : List String) (denyUnknown : Bool) : Json → Option (List (Option Json))
  | .obj fields =>
    if denyUnknown && fields.any (fun f => !names.contains f.1) then none
    else some (names.map (Json.lookup fields))
  | .arr items => if items.length = names.length then some (items.map some) else none
  | _ => none

/-- a field that has to be there -/
def required {α : Type*} (read : Json → Option α) : Option Json → Option α
  | none => none
  | some v => read v

/-- a field that may be missing or `null` -/
def optional {α : Type*} (read : Json → Option α) : Option Json → Option (Option α)
  | none => some none
  | some .null => some none
  | some v => (read v).map some

theorem structFields_obj {names : List String} {denyUnknown : Bool} {fields : List (String × Json)}
    {values : List (Option Json)} (h : structFields names denyUnknown (.obj fields) = some values) :
    values = names.map (Json.lookup fields) := by
  simp only [structFields] at h
  split at h
  · cases h
  · exact (Option.some.inj h).symm

theorem required_some {α : Type*} {read : Json → Option α} {field : Option Json} {a : α}
    (h : required read field = some a) : ∃ v, field = some v ∧ read v = some a := by
  cases field with
  | none => cases h
  | some v => exact ⟨v, rfl, h⟩

/-! ## Payloads -/

def DocumentWork.readEvidence (v : Json) : Option DocumentWork :=
  match structFields ["evidence_submission_id", "object_key"] true v with
  | some [id, key] =>
    (required Json.asUuid? id).bind fun id =>
      (required Json.asStr? key).map fun key => .evidence id key
  | _ => none

def DocumentWork.readPolicy (v : Json) : Option DocumentWork :=
  match structFields ["policy_id", "object_key"] true v with
  | some [id, key] =>
    (required Json.asUuid? id).bind fun id =>
      (required Json.asStr? key).map fun key => .policy id key
  | _ => none

/-- the untagged enum: the first variant that reads -/
def DocumentWork.fromJson (v : Json) : Option DocumentWork :=
  match DocumentWork.readEvidence v with
  | some work => some work
  | none => DocumentWork.readPolicy v

def WorkspaceInvitationDeliveryWork.fromJson (v : Json) : Option WorkspaceInvitationDeliveryWork :=
  match structFields ["invitation_id", "generation"] true v with
  | some [id, generation] =>
    (required Json.asUuid? id).bind fun id =>
      (required (Json.asInt? i64Min i64Max) generation).map fun generation => ⟨id, generation⟩
  | _ => none

theorem DocumentWork.fromJson_toJson (w : DocumentWork) : fromJson w.toJson = some w := by
  cases w with
  | evidence id key =>
    have h : readEvidence (DocumentWork.toJson (.evidence id key)) = some (.evidence id key) := by
      simp [readEvidence, structFields, DocumentWork.toJson, Json.lookup, required, Json.asStr?]
    unfold fromJson
    rw [h]
  | policy id key =>
    -- the key `policy_id` is unknown to the evidence variant
    have h1 : readEvidence (DocumentWork.toJson (.policy id key)) = none := by
      simp [readEvidence, structFields, DocumentWork.toJson]
    have h2 : readPolicy (DocumentWork.toJson (.policy id key)) = some (.policy id key) := by
      simp [readPolicy, structFields, DocumentWork.toJson, Json.lookup, required, Json.asStr?]
    unfold fromJson
    rw [h1, h2]

theorem WorkspaceInvitationDeliveryWork.fromJson_toJson (w : WorkspaceInvitationDeliveryWork)
    (h : i64Min ≤ w.generation ∧ w.generation ≤ i64Max) : fromJson w.toJson = some w := by
  simp [fromJson, toJson, structFields, Json.lookup, required, Json.asInt?_int h]

/-! ## The envelope -/

inductive IntegrationMessageDecodeError
  | malformedEnvelope
  | unknownKind (kind : IntegrationMessageKind)
  | unknownType (messageType : String)
  | unsupportedVersion (messageType : String) (version : Int)
  | malformedPayload
  deriving DecidableEq, Repr

def IntegrationMessageKind.ofStr : String → Option IntegrationMessageKind
  | "command" => some .command
  | "event" => some .event
  | _ => none

/-- a unit variant is its name, or an object with its name and `null` -/
def IntegrationMessageKind.fromJson : Json → Option IntegrationMessageKind
  | .str s => ofStr s
  | .obj [(s, .null)] => ofStr s
  | _ => none

structure IntegrationEnvelopeHeader where
  messageId : Uuid
  kind : IntegrationMessageKind
  messageType : String
  version : Int
  subject : String
  correlationId : Option Uuid
  causationId : Option Uuid
  payload : Json

def IntegrationEnvelopeHeader.fromJson (v : Json) : Option IntegrationEnvelopeHeader :=
  match structFields ["message_id", "kind", "type", "version", "subject", "correlation_id",
      "causation_id", "payload"] true v with
  | some [messageId, kind, messageType, version, subject, correlationId, causationId, payload] =>
    (required Json.asUuid? messageId).bind fun messageId =>
    (required IntegrationMessageKind.fromJson kind).bind fun kind =>
    (required Json.asStr? messageType).bind fun messageType =>
    (required (Json.asInt? i32Min i32Max) version).bind fun version =>
    (required Json.asStr? subject).bind fun subject =>
    (optional Json.asUuid? correlationId).bind fun correlationId =>
    (optional Json.asUuid? causationId).bind fun causationId =>
    (required some payload).map fun payload =>
      ⟨messageId, kind, messageType, version, subject, correlationId, causationId, payload⟩
  | _ => none

def IntegrationEnvelopeHeader.metadata (h : IntegrationEnvelopeHeader) : IntegrationMessageMetadata :=
  ⟨h.messageId, h.subject, h.correlationId, h.causationId⟩

def fromEnvelope (v : Json) : Except IntegrationMessageDecodeError IntegrationMessage :=
  match IntegrationEnvelopeHeader.fromJson v with
  | none => .error .malformedEnvelope
  | some header =>
    if header.kind ≠ .command then .error (.unknownKind header.kind)
    else if header.version ≠ currentMessageVersion then
      .error (.unsupportedVersion header.messageType header.version)
    else if header.messageType = scanDocumentType then
      match DocumentWork.fromJson header.payload with
      | none => .error .malformedPayload
      | some work => .ok (.scanDocument header.metadata (.document work))
    else if header.messageType = finalizeDocumentType then
      match DocumentWork.fromJson header.payload with
      | none => .error .malformedPayload
      | some work => .ok (.finalizeDocument header.metadata (.document work))
    else if header.messageType = sendWorkspaceInvitationType then
      match WorkspaceInvitationDeliveryWork.fromJson header.payload with
      | none => .error .malformedPayload
      | some work => .ok (.sendWorkspaceInvitation header.metadata (.workspaceInvitation work))
    else .error (.unknownType header.messageType)

/-! ## What an accepted envelope is -/

/-- the fields of an object that was read as a header -/
theorem IntegrationEnvelopeHeader.fromJson_obj {fields : List (String × Json)}
    {h : IntegrationEnvelopeHeader} (hh : fromJson (.obj fields) = some h) :
    (∃ v, Json.lookup fields "kind" = some v ∧ IntegrationMessageKind.fromJson v = some h.kind) ∧
    (∃ v, Json.lookup fields "type" = some v ∧ Json.asStr? v = some h.messageType) ∧
    (∃ v, Json.lookup fields "version" = some v ∧ Json.asInt? i32Min i32Max v = some h.version) := by
  unfold fromJson at hh
  split at hh
  · next messageId kind messageType version subject correlationId causationId payload hfields =>
    have hvalues := structFields_obj hfields
    simp only [List.map_cons, List.map_nil, List.cons.injEq] at hvalues
    obtain ⟨-, hkind, htype, hversion, -⟩ := hvalues
    simp only [Option.bind_eq_some_iff, Option.map_eq_some_iff] at hh
    obtain ⟨_, -, k, hk, t, ht, n, hn, _, -, _, -, _, -, _, -, rfl⟩ := hh
    rw [← hkind, ← htype, ← hversion]
    exact ⟨required_some hk, required_some ht, required_some hn⟩
  · cases hh

/-- **An accepted envelope is a command of version 1, of the type of the message that comes out.** -/
theorem fromEnvelope_ok {v : Json} {m : IntegrationMessage} (h : fromEnvelope v = .ok m) :
    ∃ header, IntegrationEnvelopeHeader.fromJson v = some header ∧ header.kind = .command ∧
      header.version = currentMessageVersion ∧ header.messageType = m.messageType := by
  unfold fromEnvelope at h
  split at h
  · cases h
  · next header hheader =>
    split at h
    · cases h
    · next hkind =>
      split at h
      · cases h
      · next hversion =>
        refine ⟨header, hheader, not_not.mp hkind, not_not.mp hversion, ?_⟩
        split at h
        · next htype =>
          split at h
          · cases h
          · cases h
            exact htype
        · split at h
          · next htype =>
            split at h
            · cases h
            · cases h
              exact htype
          · split at h
            · next htype =>
              split at h
              · cases h
              · cases h
                exact htype
            · cases h

end Proofplane
