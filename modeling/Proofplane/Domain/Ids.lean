import Proofplane.Base.Uuid

/-!
# Identifiers

Every identifier of the domain is a UUID under a type of its own, so that a workspace id cannot
stand where a user id is expected.  Digests have a type of their own as well.
-/

namespace Proofplane
open Base

/-- what an identifier names -/
inductive IdKind
  | workspace | user | workspaceInvitation | agentConnection | agentConnectionAuthorization
  | oauthAuthorizationRequest | control | evidence | evidenceSubmission | policy | document
  | agentEvidenceUploadGrant | agentPolicyDocumentUploadGrant | documentUploadGrant
  | policyDocumentUploadGrant | auditorAccessGrant | auditorAuthTransaction | auditorSession
  | framework | frameworkRequirement
  deriving DecidableEq, Repr

/-- a UUID that names a thing of kind `k` -/
@[ext] structure Id (k : IdKind) where
  uuid : Uuid
  deriving DecidableEq, Repr

instance (k : IdKind) : LawfulBEq (Id k) := inferInstance

abbrev WorkspaceId := Id .workspace
abbrev UserId := Id .user
abbrev WorkspaceInvitationId := Id .workspaceInvitation
abbrev AgentConnectionId := Id .agentConnection
abbrev AgentConnectionAuthorizationId := Id .agentConnectionAuthorization
abbrev OAuthAuthorizationRequestId := Id .oauthAuthorizationRequest
abbrev ControlId := Id .control
abbrev EvidenceId := Id .evidence
abbrev EvidenceSubmissionId := Id .evidenceSubmission
abbrev PolicyId := Id .policy
abbrev DocumentId := Id .document
abbrev AgentEvidenceUploadGrantId := Id .agentEvidenceUploadGrant
abbrev AgentPolicyDocumentUploadGrantId := Id .agentPolicyDocumentUploadGrant
abbrev DocumentUploadGrantId := Id .documentUploadGrant
abbrev PolicyDocumentUploadGrantId := Id .policyDocumentUploadGrant
abbrev AuditorAccessGrantId := Id .auditorAccessGrant
abbrev AuditorAuthTransactionId := Id .auditorAuthTransaction
abbrev AuditorSessionId := Id .auditorSession
abbrev FrameworkId := Id .framework
abbrev FrameworkRequirementId := Id .frameworkRequirement

/-- the 32 bytes of a SHA-256 digest -/
structure Sha256Digest where
  bits : BitVec 256
  deriving DecidableEq, Repr

end Proofplane
