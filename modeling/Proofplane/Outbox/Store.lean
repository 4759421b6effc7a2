import Proofplane.Base.Machine
import Proofplane.Base.Table
import Proofplane.Base.Time
import Proofplane.Messaging.Message
import Mathlib.Data.List.Sort

/-!
# The outbox table and its statements

A command appends its messages to `outbox_messages` in its own transaction; a dequeuer lists the
due rows, publishes them and deletes a row or counts a failure, each in a statement of its own.

* `OutboxMessage`, `outboxRow`        a row, and the row appended for a message;
* `listDueOutboxMessages`, `deleteOutboxMessage`, `recordOutboxPublishFailure`   the statements;
* `outboundMessage`                   what is published for a row, in two versions of the envelope;
* `SameMessage`                       two states of one row, `outboundMessage_eq` for both.
-/

namespace Proofplane
open Base

structure OutboxMessage where
  id : Int
  topic : String
  eventType : String
  aggregateType : String
  aggregateId : String
  payload : Json
  requestId : Option Uuid
  messageKind : IntegrationMessageKind
  messageType : String
  messageVersion : Int
  messageId : Uuid
  subject : String
  correlationId : Option Uuid
  causationId : Option Uuid
  attemptCount : Int
  nextAvailableAt : Int
  createdAt : Int

structure NewOutboxMessage where
  topic : String
  message : IntegrationMessage

abbrev OutboxTable := Table OutboxMessage.id

/-- the row of `append_outbox_message`, `id` coming from the sequence and `now` from the database -/
def outboxRow (new : NewOutboxMessage) (id now : Int) : OutboxMessage where
  id := id
  topic := new.topic
  eventType := new.message.legacyEventType
  aggregateType := new.message.payload.aggregateType
  aggregateId := new.message.metadata.subject
  payload := new.message.payload.toJson
  requestId := new.message.metadata.correlationId
  messageKind := new.message.kind
  messageType := new.message.messageType
  messageVersion := new.message.version
  messageId := new.message.metadata.messageId
  subject := new.message.metadata.subject
  correlationId := new.message.metadata.correlationId
  causationId := new.message.metadata.causationId
  attemptCount := 0
  nextAvailableAt := now
  createdAt := now

/-- `ORDER BY next_available_at, id` -/
def dueBefore (a b : OutboxMessage) : Prop :=
  a.nextAvailableAt < b.nextAvailableAt ∨ (a.nextAvailableAt = b.nextAvailableAt ∧ a.id ≤ b.id)

instance : DecidableRel dueBefore := fun a b => by
  unfold dueBefore
  infer_instance

def listDueOutboxMessages (t : OutboxTable) (now : Int) (limit : Nat) : List OutboxMessage :=
  ((t.rows.filter fun r => r.nextAvailableAt ≤ pgTimestamp now).insertionSort dueBefore).take limit

def deleteOutboxMessage (t : OutboxTable) (id : Int) : OutboxTable := t.delete id

/-- one more attempt -/
def OutboxMessage.failed (nextAvailableAt : Int) (r : OutboxMessage) : OutboxMessage :=
  { r with attemptCount := r.attemptCount + 1, nextAvailableAt := pgTimestamp nextAvailableAt }

theorem OutboxMessage.failed_id (nextAvailableAt : Int) (r : OutboxMessage) :
    (r.failed nextAvailableAt).id = r.id := rfl

/-- the statement fails where `attempt_count + 1` leaves the range of an `INTEGER` -/
def recordOutboxPublishFailure (t : OutboxTable) (id nextAvailableAt : Int) : Option OutboxTable :=
  match t.get? id with
  | none => some t
  | some r =>
    if i32Max < r.attemptCount + 1 then none
    else some (t.modify id (.failed nextAvailableAt) (OutboxMessage.failed_id nextAvailableAt))

/-- what is handed to the publisher; the text is the rendering of `data` -/
structure OutboundMessage where
  data : Json

def outboundMessage (row : OutboxMessage) : OutboundMessage :=
  if row.messageVersion = 0 then
    ⟨.obj
      [ ("aggregate_id", .str row.aggregateId)
      , ("aggregate_type", .str row.aggregateType)
      , ("event_type", .str row.eventType)
      , ("outbox_message_id", .str (toString row.id))
      , ("payload", row.payload)
      , ("request_id", .ofUuid? row.requestId) ]⟩
  else
    ⟨.obj
      [ ("causation_id", .ofUuid? row.causationId)
      , ("correlation_id", .ofUuid? row.correlationId)
      , ("kind", .str row.messageKind.asStr)
      , ("message_id", .ofUuid row.messageId)
      , ("payload", row.payload)
      , ("subject", .str row.subject)
      , ("type", .str row.messageType)
      , ("version", .int row.messageVersion) ]⟩

/-- two states of a row that differ in the bookkeeping of attempts only -/
def SameMessage (a b : OutboxMessage) : Prop :=
  b = { a with attemptCount := b.attemptCount, nextAvailableAt := b.nextAvailableAt }

namespace SameMessage
variable {a b c : OutboxMessage}

theorem refl (a : OutboxMessage) : SameMessage a a := rfl

theorem trans (h1 : SameMessage a b) (h2 : SameMessage b c) : SameMessage a c := by
  unfold SameMessage at *
  rw [h2, h1]

theorem symm (h : SameMessage a b) : SameMessage b a := by
  unfold SameMessage at *
  rw [h]

theorem id_eq (h : SameMessage a b) : b.id = a.id := by
  rw [h]

theorem topic_eq (h : SameMessage a b) : b.topic = a.topic := by
  rw [h]

/-- what is published for a row does not depend on its attempts -/
theorem outboundMessage_eq (h : SameMessage a b) : outboundMessage b = outboundMessage a := by
  rw [h]
  rfl

theorem failed (a : OutboxMessage) (nextAvailableAt : Int) :
    SameMessage a (a.failed nextAvailableAt) := rfl

end SameMessage

theorem mem_listDue {t : OutboxTable} {now : Int} {limit : Nat} {r : OutboxMessage}
    (h : r ∈ listDueOutboxMessages t now limit) : r ∈ t.rows := by
  have hsorted := List.mem_of_mem_take h
  have hdue := (List.mem_insertionSort dueBefore).mp hsorted
  exact (List.mem_filter.mp hdue).1

theorem recordOutboxPublishFailure_some {t t' : OutboxTable} {id next : Int}
    (h : recordOutboxPublishFailure t id next = some t') (j : Int) :
    t'.get? j = if j = id then (t.get? id).map (OutboxMessage.failed next) else t.get? j := by
  unfold recordOutboxPublishFailure at h
  cases hrow : t.get? id with
  | none =>
    rw [hrow] at h
    cases h
    split
    · next hj =>
      rw [hj, hrow]
      rfl
    · rfl
  | some r =>
    rw [hrow] at h
    dsimp only at h
    split at h
    · cases h
    · cases h
      rw [Table.get?_modify, hrow]

end Proofplane
