import Proofplane.Base.Json
import Proofplane.Domain.Document

/-!
# Integration messages

What the application asks its worker to do: scan a document, finalize a document, send an
invitation.  Each message has its metadata and a payload; the payload is an untagged enum, told
apart by its fields.  Objects are written in the order of their keys, as the library's map keeps
them.
-/

namespace Proofplane
open Base

def scanDocumentType : String := "ScanDocument"
def finalizeDocumentType : String := "FinalizeDocument"
def sendWorkspaceInvitationType : String := "SendWorkspaceInvitation"
def currentMessageVersion : Int := 1
def legacyDocumentScanRequested : String := "document.scan_requested"
def legacyDocumentFinalizationRequested : String := "document.finalization_requested"

inductive IntegrationMessageKind
  | command | event
  deriving DecidableEq, Repr

def IntegrationMessageKind.asStr : IntegrationMessageKind → String
  | .command => "command"
  | .event => "event"

structure IntegrationMessageMetadata where
  messageId : Uuid
  subject : String
  correlationId : Option Uuid
  causationId : Option Uuid
  deriving DecidableEq, Repr

inductive DocumentWork
  | evidence (evidenceSubmissionId : Uuid) (objectKey : String)
  | policy (policyId : Uuid) (objectKey : String)
  deriving DecidableEq, Repr

namespace DocumentWork

/-- the work of a document under a key -/
def new (identity : DocumentIdentity) (objectKey : String) : DocumentWork :=
  match identity.owner with
  | .evidenceSubmission id => .evidence id.uuid objectKey
  | .policy id => .policy id.uuid objectKey

def aggregateType : DocumentWork → String
  | .evidence _ _ => "evidence_document"
  | .policy _ _ => "policy_document"

def toJson : DocumentWork → Json
  | .evidence id key =>
    .obj [("evidence_submission_id", .ofUuid id), ("object_key", .str key)]
  | .policy id key => .obj [("object_key", .str key), ("policy_id", .ofUuid id)]

end DocumentWork

structure WorkspaceInvitationDeliveryWork where
  invitationId : Uuid
  generation : Int
  deriving DecidableEq, Repr

def WorkspaceInvitationDeliveryWork.toJson (w : WorkspaceInvitationDeliveryWork) : Json :=
  .obj [("generation", .int w.generation), ("invitation_id", .ofUuid w.invitationId)]

inductive IntegrationPayload
  | document (work : DocumentWork)
  | workspaceInvitation (work : WorkspaceInvitationDeliveryWork)
  deriving DecidableEq, Repr

namespace IntegrationPayload

def aggregateType : IntegrationPayload → String
  | .document work => work.aggregateType
  | .workspaceInvitation _ => "workspace_invitation"

def toJson : IntegrationPayload → Json
  | .document work => work.toJson
  | .workspaceInvitation work => work.toJson

end IntegrationPayload

inductive IntegrationMessage
  | scanDocument (metadata : IntegrationMessageMetadata) (payload : IntegrationPayload)
  | finalizeDocument (metadata : IntegrationMessageMetadata) (payload : IntegrationPayload)
  | sendWorkspaceInvitation (metadata : IntegrationMessageMetadata) (payload : IntegrationPayload)
  deriving DecidableEq, Repr

namespace IntegrationMessage

/-- `messageId` is the random id of the message -/
def newScanDocument (identity : DocumentIdentity) (objectKey : String)
    (correlationId causationId : Option Uuid) (messageId : Uuid) : IntegrationMessage :=
  .scanDocument ⟨messageId, identity.documentId.uuid.text, correlationId, causationId⟩
    (.document (DocumentWork.new identity objectKey))

def newFinalizeDocument (identity : DocumentIdentity) (objectKey : String)
    (correlationId causationId : Option Uuid) (messageId : Uuid) : IntegrationMessage :=
  .finalizeDocument ⟨messageId, identity.documentId.uuid.text, correlationId, causationId⟩
    (.document (DocumentWork.new identity objectKey))

def newSendWorkspaceInvitation (invitationId : Uuid) (generation : Int)
    (correlationId causationId : Option Uuid) (messageId : Uuid) : IntegrationMessage :=
  .sendWorkspaceInvitation ⟨messageId, invitationId.text, correlationId, causationId⟩
    (.workspaceInvitation ⟨invitationId, generation⟩)

def metadata : IntegrationMessage → IntegrationMessageMetadata
  | .scanDocument m _ => m
  | .finalizeDocument m _ => m
  | .sendWorkspaceInvitation m _ => m

def kind (_ : IntegrationMessage) : IntegrationMessageKind := .command

def messageType : IntegrationMessage → String
  | .scanDocument _ _ => scanDocumentType
  | .finalizeDocument _ _ => finalizeDocumentType
  | .sendWorkspaceInvitation _ _ => sendWorkspaceInvitationType

def version (_ : IntegrationMessage) : Int := currentMessageVersion

def payload : IntegrationMessage → IntegrationPayload
  | .scanDocument _ p => p
  | .finalizeDocument _ p => p
  | .sendWorkspaceInvitation _ p => p

/-- the name of the message in the first version of the envelope -/
def legacyEventType : IntegrationMessage → String
  | .scanDocument _ _ => legacyDocumentScanRequested
  | .finalizeDocument _ _ => legacyDocumentFinalizationRequested
  | .sendWorkspaceInvitation _ _ => "SendWorkspaceInvitation"

end IntegrationMessage

end Proofplane
