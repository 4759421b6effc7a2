import Proofplane.Base.Run
import Proofplane.Base.Table
import Proofplane.Base.Time
import Proofplane.Base.Clock
import Proofplane.Base.Rfc3339
import Proofplane.Base.Text
import Proofplane.Base.Token
import Proofplane.Base.Transaction
import Proofplane.Base.Mutation
import Proofplane.Base.Uuid
import Proofplane.Base.Json
import Proofplane.Domain.Ids
import Proofplane.Domain.Workspace
import Proofplane.Domain.WorkspaceInvitation
import Proofplane.Domain.Document
import Proofplane.Persistence.Workspaces
import Proofplane.Invitation.Authority
import Proofplane.Invitation.Commands
import Proofplane.Invitation.Link
import Proofplane.Messaging.Message
import Proofplane.Outbox.Store
import Proofplane.Messaging.Envelope
import Proofplane.ObjectStorage.Key
import Proofplane.Outbox.Dequeuer
import Proofplane.Messaging.Worker
import Proofplane.Messaging.RoundTrip
import Proofplane.Documents.Commands
import Proofplane.Invitation.Lifecycle
import Proofplane.Invitation.Acceptance
import Proofplane.Invitation.Windows
import Proofplane.Invitation.Delivery
import Proofplane.Documents.Lifecycle
import Proofplane.Uploads.Attempts
import Proofplane.Uploads.Cleanup
import Proofplane.Uploads.Once
import Proofplane.Base.Files
import Proofplane.Domain.AgentConnection
import Proofplane.Domain.OAuth
import Proofplane.Finalization.Delivery
import Proofplane.Finalization.Integrity
import Proofplane.OAuth.Commands
import Proofplane.OAuth.Connections
import Proofplane.OAuth.Service
import Proofplane.Domain.HumanUploadGrant
import Proofplane.Redemption.Link
import Proofplane.Redemption.Once
import Proofplane.ObjectStorage.Consistency
import Proofplane.Auditor.Access
import Proofplane.Policies.Invariant
import Proofplane.OAuth.Reconsent
import Proofplane.OAuth.Admission
import Proofplane.Auditor.Sessions
import Proofplane.Cimd.Guard
import Proofplane.Workspaces.Members
import Proofplane.OAuth.ConnectionLife
import Proofplane.OAuth.FlowLife
import Proofplane.Mappings.EvidenceRuns
import Proofplane.Mappings.PolicyRuns
import Proofplane.Base.JsonMap
import Proofplane.Authentication.Payload
import Proofplane.Authentication.Separation
import Proofplane.Authentication.GrantClaims
import Proofplane.Uploads.Issue
import Proofplane.Redemption.PolicyLink
import Proofplane.Uploads.Credentials
import Proofplane.Base.Canonical
import Proofplane.Base.Segments
import Proofplane.Base.Base64
import Proofplane.Base.JsonText
import Proofplane.Authentication.ClientRegistration
import Proofplane.OAuth.Issuance
import Proofplane.OAuth.Codes
import Proofplane.Base.Paths
import Proofplane.Domain.Filename
import Proofplane.ObjectStorage.Paths
import Proofplane.Uploads.Keys
import Proofplane.Finalization.Keys
import Proofplane.OAuth.RedirectUris
import Proofplane.Auditor.Emails
import Proofplane.Base.Crc32c
import Proofplane.Base.Frames
import Proofplane.Uploads.BoundedStaging
import Proofplane.Scanner.ClamAv
import Proofplane.Invitation.Status
import Proofplane.Base.Grouping
import Proofplane.Documents.Single
import Proofplane.Auditor.Listing
import Proofplane.Auditor.Groups
import Proofplane.Auditor.Agreement
import Proofplane.Base.Repeats
import Proofplane.Domain.Batch
import Proofplane.Base.Normalise
import Proofplane.Domain.Control
import Proofplane.Mappings.Normalisation
import Proofplane.Outbox.Backoff
import Proofplane.Base.Html
import Proofplane.Invitation.Mail
import Proofplane.Base.Utf8
import Proofplane.Base.Digits
import Proofplane.Authentication.OpaqueToken
import Proofplane.Domain.DeclaredUploadFile
import Proofplane.OAuth.Permissions
import Proofplane.Base.WriteOnce
import Proofplane.Scanning.Delivery
import Proofplane.Scanning.Staging
import Proofplane.Scanning.Gate
import Proofplane.Scanning.Bytes
import Proofplane.Scanning.Pipeline
import Proofplane.Scanning.Requests
import Proofplane.Scanning.Outstanding
import Proofplane.Downloads.Streams
import Proofplane.Downloads.Links
import Proofplane.Domain.User
import Proofplane.Users.Provisioning
import Proofplane.Base.Versions
import Proofplane.ObjectStorage.GcsRuns
