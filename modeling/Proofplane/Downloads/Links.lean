import Proofplane.Authentication.Paseto
import Proofplane.Downloads.Streams

/-!
# Links for downloads

A link carries the ids of one document under a seal, and nothing about it is stored: whoever presents it
within five minutes is served the document, as often as he likes, unless it has been archived.

* `DownloadClaims`, `VerifiedDownloadGrant.tryFrom`   what is sealed in a link, and how it is read back;
* `issue`, `redeem`          the service behind a link: between its reads anything may happen;
* `SubmissionsKept`          submissions do not go away, `submissions_step`;
* `AfterRun`                 what holds between two states of one run, `after_run`;
* `download_links`           **a link leads to the document it was issued for and to no other, with the bytes
                             that were scanned, until it expires or the document is archived**.
-/

namespace Proofplane
open Base

/-! ## What a link carries -/

def downloadTokenVersion : Nat := 1

def downloadTtl : Int := minutes 5

structure DownloadClaims where
  version : Nat
  workspaceId : String
  submissionId : String
  documentId : String
  issuedByUserId : String
  issuedViaApiTokenId : Option String
  issuedViaAgentConnectionId : Option String
  deriving DecidableEq, Repr

inductive DownloadGrantIssuer
  | agentConnection (id : AgentConnectionId)
  deriving DecidableEq, Repr

def DownloadGrantIssuer.agentConnectionId : DownloadGrantIssuer → AgentConnectionId
  | .agentConnection id => id

structure VerifiedDownloadGrant where
  workspaceId : WorkspaceId
  submissionId : EvidenceSubmissionId
  documentId : DocumentId
  issuedByUserId : UserId
  issuedVia : DownloadGrantIssuer
  deriving DecidableEq, Repr

/-- the audit of a download names what its grant says -/
abbrev DownloadGrantAuditContext := VerifiedDownloadGrant

def downloadGrantIssuerFromClaims : Option String → Option String → Option DownloadGrantIssuer
  | none, some id => (Uuid.parseStr id).map fun id => .agentConnection ⟨id⟩
  | _, _ => none

def VerifiedDownloadGrant.tryFrom (token : VerifiedPasetoToken DownloadClaims) : Option VerifiedDownloadGrant :=
  if token.claims.version ≠ downloadTokenVersion then none
  else do
    let issuedByUserId ← Uuid.parseStr token.claims.issuedByUserId
    if issuedByUserId ≠ token.subject then none
    else
      let workspaceId ← Uuid.parseStr token.claims.workspaceId
      let submissionId ← Uuid.parseStr token.claims.submissionId
      let documentId ← Uuid.parseStr token.claims.documentId
      let issuedVia ← downloadGrantIssuerFromClaims token.claims.issuedViaApiTokenId
        token.claims.issuedViaAgentConnectionId
      return ⟨⟨workspaceId⟩, ⟨submissionId⟩, ⟨documentId⟩, ⟨issuedByUserId⟩, issuedVia⟩

/-- the address, and the token that follows it -/
structure DownloadLink where
  address : String
  token : String
  deriving DecidableEq, Repr

structure IssuedDownloadGrant where
  url : DownloadLink
  expiresAt : Int
  filename : String
  contentType : String
  contentLength : Int
  audit : DownloadGrantAuditContext
  deriving DecidableEq, Repr

/-! ## The service -/

/-- the tokens of one server, and the addresses of its pages -/
structure DownloadLinks (Key Nonce : Type) where
  tokens : PasetoTokens downloadImplicitAssertion DownloadClaims Key Nonce
  publicApiBaseUrl : String
  join : String → String → Option String

/-- what an issuance seals for a grant -/
def VerifiedDownloadGrant.claims (grant : VerifiedDownloadGrant) : DownloadClaims where
  version := downloadTokenVersion
  workspaceId := grant.workspaceId.uuid.text
  submissionId := grant.submissionId.uuid.text
  documentId := grant.documentId.uuid.text
  issuedByUserId := grant.issuedByUserId.uuid.text
  issuedViaApiTokenId := none
  issuedViaAgentConnectionId := some grant.issuedVia.agentConnectionId.uuid.text

/-- `DocumentDownloadService::validate_metadata` -/
def FilesystemObjectStore.validateCandidate (evidence : FilesystemObjectStore)
    (candidate : DocumentDownloadCandidate) : Except DownloadError Unit :=
  match finalizedObjectKey candidate with
  | .error e => .error e
  | .ok key =>
    match evidence.headResult key with
    | .error e => .error (storageDownloadError e)
    | .ok metadata => validateMetadata candidate.document metadata

namespace DownloadLinks
variable {Key Nonce : Type}

/-- the tables and the store are read one after the other -/
def issue (S : DownloadLinks Key Nonce) (db : DocumentDb) (evidence : FilesystemObjectStore)
    (workspaceId : WorkspaceId) (userId : UserId) (issuedVia : DownloadGrantIssuer)
    (submissionId : EvidenceSubmissionId) (documentId : DocumentId) (issuedAt sealedAt : Int) (tokenId : Uuid)
    (nonce : Nonce) : Except DownloadError IssuedDownloadGrant :=
  match db.download workspaceId submissionId documentId none with
  | none => .error .notFound
  | some candidate =>
    match candidate.document.uploadStatus with
    | .pendingUpload => .error .notReady
    | .finalizing => .error .notReady
    | .containsVirus => .error .notFound
    | .failedUpload => .error .notFound
    | .uploaded =>
      match evidence.validateCandidate candidate with
      | .error e => .error e
      | .ok () =>
        let grant := ⟨workspaceId, submissionId, candidate.document.id, userId, issuedVia⟩
        match S.tokens.encrypt ⟨userId.uuid, tokenId, issuedAt + downloadTtl⟩ grant.claims nonce sealedAt with
        | .error _ => .error .internal
        | .ok issued =>
          match S.join S.publicApiBaseUrl "document-downloads" with
          | none => .error .internal
          | some address =>
            .ok ⟨⟨address, issued.token⟩, issued.expiresAt, candidate.document.filename,
              candidate.document.contentType, candidate.document.contentLength, grant⟩

/-- up to the store, which a download goes on to read -/
def redeem (S : DownloadLinks Key Nonce) (db : DocumentDb) (token : String) (now : Int) :
    Except DownloadError (Document × String × DownloadGrantAuditContext) :=
  match S.tokens.decrypt token now with
  | .error _ => .error .notFound
  | .ok verified =>
    match VerifiedDownloadGrant.tryFrom verified with
    | none => .error .notFound
    | some grant =>
      match db.beginDownload (.submission grant.workspaceId grant.submissionId grant.documentId none) with
      | .error e => .error e
      | .ok (document, key) => .ok (document, key, grant)

/-! ## Sealing and reading back -/

/-- **What is sealed for a grant is read back as that grant.** -/
theorem tryFrom_claims (grant : VerifiedDownloadGrant) (tokenId : Uuid) (keyId : String) (expiresAt : Int) :
    VerifiedDownloadGrant.tryFrom ⟨grant.issuedByUserId.uuid, tokenId, keyId, expiresAt, grant.claims⟩
      = some grant := by
  obtain ⟨workspaceId, submissionId, documentId, userId, issuedVia⟩ := grant
  cases issuedVia with
  | agentConnection id =>
    unfold VerifiedDownloadGrant.tryFrom VerifiedDownloadGrant.claims downloadGrantIssuerFromClaims
    simp [Uuid.parseStr_text, DownloadGrantIssuer.agentConnectionId]

/-- what an issuance has found, and sealed -/
theorem issue_ok {S : DownloadLinks Key Nonce} {db : DocumentDb} {evidence : FilesystemObjectStore}
    {workspaceId : WorkspaceId} {userId : UserId} {issuedVia : DownloadGrantIssuer}
    {submissionId : EvidenceSubmissionId} {documentId : DocumentId} {issuedAt sealedAt : Int} {tokenId : Uuid}
    {nonce : Nonce} {issued : IssuedDownloadGrant}
    (h : S.issue db evidence workspaceId userId issuedVia submissionId documentId issuedAt sealedAt tokenId nonce
      = .ok issued) :
    ∃ d ∈ db.documents.rows, d.identity = .evidence submissionId documentId ∧ d.workspaceId = workspaceId ∧
      (db.submissions.get? submissionId).isSome = true ∧ d.uploadStatus = .uploaded ∧
      issued.filename = d.filename ∧ issued.contentType = d.contentType ∧ issued.contentLength = d.contentLength ∧
      issued.audit = ⟨workspaceId, submissionId, documentId, userId, issuedVia⟩ ∧
      ∃ token, S.tokens.encrypt ⟨userId.uuid, tokenId, issuedAt + downloadTtl⟩ issued.audit.claims nonce sealedAt
          = .ok token ∧ issued.url.token = token.token ∧ issued.expiresAt = token.expiresAt := by
  unfold issue at h
  split at h
  · cases h
  · next candidate hcandidate =>
    obtain ⟨d, hd, rfl⟩ := Option.map_eq_some_iff.mp hcandidate
    obtain ⟨s, hs, hfilter⟩ := Option.bind_eq_some_iff.mp hd
    obtain ⟨hget, -⟩ := Option.filter_eq_some_iff.mp hfilter
    obtain ⟨hget', hw⟩ := DocumentDb.getWorkspaceDocument_eq_some.mp hget
    obtain ⟨hmem, hid, howner⟩ := DocumentDb.getDocument_eq_some.mp hget'
    split at h
    · cases h
    · cases h
    · cases h
    · cases h
    · next hup =>
      split at h
      · cases h
      · dsimp only at h
        split at h
        · cases h
        · next token htoken =>
          split at h
          · cases h
          · cases h
            rw [show d.downloadCandidate.document.id = documentId from hid] at htoken
            have hsome : (db.submissions.get? submissionId).isSome = true := by
              rw [hs]
              rfl
            refine ⟨d, hmem, DocumentIdentity.ext_owner hid howner, hw, hsome, hup, rfl, rfl, rfl, ?_, token, ?_,
              rfl, rfl⟩
            · rw [show d.downloadCandidate.document.id = documentId from hid]
            · rw [show d.downloadCandidate.document.id = documentId from hid]
              exact htoken

end DownloadLinks

/-! ## Submissions stay -/

/-- a submission that is there stays there -/
def SubmissionsKept (db db' : DocumentDb) : Prop :=
  ∀ id, (db.submissions.get? id).isSome = true → (db'.submissions.get? id).isSome = true

theorem submissionsKept_of_eq {db db' : DocumentDb} (h : db'.submissions = db.submissions) :
    SubmissionsKept db db' := by
  intro id hid
  rw [h]
  exact hid

theorem submissionsKept_upsert {db db' : DocumentDb} {s : EvidenceSubmission}
    (h : db'.submissions = db.submissions.upsert s) : SubmissionsKept db db' := by
  intro id hid
  rw [h, Table.get?_upsert]
  split
  · rfl
  · exact hid

/-- **A creating command takes no submission away.** -/
theorem creates_submissions {db db' : DocumentDb} {command : DocumentCommand} {metadata : ExecutionMetadata}
    {messageId : Uuid} {effect : DocumentEffect} (hc : command.creates = true)
    (h : command.handle db metadata messageId = .ok (effect, db')) : SubmissionsKept db db' := by
  have hsame : db' = db → SubmissionsKept db db' := fun heq => submissionsKept_of_eq (congrArg _ heq)
  cases command with
  | createEvidenceSubmissionDocument c =>
    have hkept : ∀ outcome, createEvidenceSubmissionDocument db metadata messageId c = .ok (outcome, db') →
        SubmissionsKept db db' := by
      intro outcome hr
      rcases createEvidenceSubmissionDocument_ok hr with ⟨x, -, hdb⟩ | ⟨x, sub, -, -, -, -, -, -, hdb, -⟩
      · exact hsame hdb
      · exact submissionsKept_upsert (by rw [hdb])
    simp only [DocumentCommand.handle] at h
    split at h
    · cases h
    · next hr =>
      cases h
      exact hkept _ hr
    · next hr =>
      cases h
      exact hkept _ hr
  | createPolicyDocument c =>
    have hkept : ∀ outcome, createPolicyDocument db metadata messageId c = .ok (outcome, db') →
        SubmissionsKept db db' := by
      intro outcome hr
      rcases createPolicyDocument_ok hr with ⟨-, hdb⟩ | ⟨x, -, -, -, -, -, hdb, -⟩
      · exact hsame hdb
      · exact submissionsKept_of_eq (by rw [hdb])
    simp only [DocumentCommand.handle] at h
    split at h
    · cases h
    · next hr =>
      cases h
      exact hkept _ hr
    · next hr =>
      cases h
      exact hkept _ hr
  | completeAgentEvidenceUpload c =>
    have hkept : ∀ outcome, completeAgentEvidenceUpload db metadata messageId c = .ok (outcome, db') →
        SubmissionsKept db db' := by
      intro outcome hr
      rcases completeAgentEvidenceUpload_ok hr with ⟨-, hdb⟩ | ⟨g, -, -, -, -, ⟨x, -, -, hdb⟩ |
        ⟨x, sub, g', -, -, -, -, -, -, -, -, -, -, hdb, -⟩⟩
      · exact hsame hdb
      · exact hsame hdb
      · exact submissionsKept_upsert (by rw [hdb])
    simp only [DocumentCommand.handle] at h
    split at h
    · cases h
    · next hr =>
      cases h
      exact hkept _ hr
    · next hr =>
      cases h
      exact hkept _ hr
  | completeAgentPolicyDocumentUpload c =>
    have hkept : ∀ outcome, completeAgentPolicyDocumentUpload db metadata messageId c = .ok (outcome, db') →
        SubmissionsKept db db' := by
      intro outcome hr
      rcases completeAgentPolicyDocumentUpload_ok hr with ⟨-, hdb⟩ | ⟨g, -, -, -, ⟨x, -, -, hdb⟩ |
        ⟨x, g', -, -, -, -, -, -, -, -, hdb, -⟩⟩
      · exact hsame hdb
      · exact hsame hdb
      · exact submissionsKept_of_eq (by rw [hdb])
    simp only [DocumentCommand.handle] at h
    split at h
    · cases h
    · next hr =>
      cases h
      exact hkept _ hr
    · next hr =>
      cases h
      exact hkept _ hr
  | scan c => cases hc
  | finalize c => cases hc
  | archive c => cases hc

/-- a command that keeps them, whether it commits or not -/
theorem command_submissions {α : Type} {w : FinalizationWorld} {commits : Bool}
    {r : Except DocumentCommandError (α × DocumentDb)} (h : ∀ a db', r = .ok (a, db') → SubmissionsKept w.db db') :
    SubmissionsKept w.db (w.command commits r).db := by
  unfold FinalizationWorld.command
  split
  · next a db' =>
    cases commits with
    | false => exact submissionsKept_of_eq rfl
    | true => exact h a db' rfl
  · exact submissionsKept_of_eq rfl

section
variable {sha256 : List UInt8 → String} {maxDeliveryAttempts : Nat}

theorem finalizes_submissions {db db' : DocumentDb} {command : FinalizeDocument} {outcome : DocumentCommandOutcome}
    (h : finalizeDocument db command = .ok (outcome, db')) : SubmissionsKept db db' := by
  rcases finalizeDocument_ok h with ⟨-, hdb⟩ | ⟨-, -, hdb⟩
  · exact submissionsKept_of_eq (congrArg _ hdb)
  · exact submissionsKept_of_eq (by rw [hdb])

theorem finalization_submissions {w w' : FinalizationWorld} {e : FinalizationEvent}
    (h : finalizationStep sha256 w e = some w') : SubmissionsKept w.db w'.db := by
  cases e with
  | deliver delivery identity objectKey ok =>
    simp only [finalizationStep] at h
    split at h
    · cases h
    · cases h
      rcases delivered_cases w delivery identity objectKey.text ok with hsame | ⟨d, -, -, destination, hput⟩
      · exact submissionsKept_of_eq (by rw [hsame])
      · exact submissionsKept_of_eq (by rw [hput]; rfl)
  | step delivery event =>
    obtain ⟨x, -, hx⟩ := Option.bind_eq_some_iff.mp h
    obtain ⟨p, hp, rfl⟩ := Option.map_eq_some_iff.mp hx
    show SubmissionsKept w.db p.1.db
    cases deliveryStep_move hp with
    | confined h => exact submissionsKept_of_eq (congrArg _ h.db)
    | seized result he hresult hidle evidence' hw hel hok hsource =>
      rw [hw]
      exact submissionsKept_of_eq rfl
    | finalized fault hphase hw hphase' =>
      rw [hw]
      cases hr : finalizeDocument w.db ⟨x.work.identity, x.work.objectKey, x.destination⟩ with
      | error e => exact submissionsKept_of_eq (by cases fault <;> rfl)
      | ok r =>
        cases fault with
        | none => exact finalizes_submissions hr
        | beforeCommit => exact submissionsKept_of_eq rfl
        | lostAcknowledgement => exact finalizes_submissions hr
  | crash delivery =>
    obtain ⟨x, -, rfl⟩ := Option.map_eq_some_iff.mp h
    exact submissionsKept_of_eq rfl
  | scan command metadata messageId commits =>
    cases h
    refine command_submissions fun outcome db' hr => ?_
    rcases scanDocument_ok hr with ⟨-, hdb⟩ | ⟨-, -, -, hdb⟩
    · exact submissionsKept_of_eq (congrArg _ hdb)
    · exact submissionsKept_of_eq (by rw [hdb])
  | archive command commits =>
    cases h
    refine command_submissions fun outcome db' hr => ?_
    rcases archiveDocument_ok hr with ⟨-, hdb⟩ | ⟨-, -, hdb⟩
    · exact submissionsKept_of_eq (congrArg _ hdb)
    · exact submissionsKept_of_eq (by rw [hdb])
  | housekeeping change =>
    obtain ⟨db', hdb, rfl⟩ := Option.map_eq_some_iff.mp h
    exact submissionsKept_of_eq (housekept hdb).submissions

/-- **No step takes a submission away.** -/
theorem submissions_step {w w' : ScanningWorld} {e : ScanningEvent}
    (h : scanningStep sha256 maxDeliveryAttempts w e = some w') :
    SubmissionsKept w.promotion.db w'.promotion.db := by
  rcases scanningStep_promotes h with hsame | ⟨event, -, -, hstep⟩
  · rw [hsame]
    exact submissionsKept_of_eq rfl
  · cases event with
    | stage quarantine =>
      rw [← Option.some.inj hstep]
      exact submissionsKept_of_eq rfl
    | create command metadata messageId commits =>
      obtain ⟨hcreates, hw⟩ := Option.ite_none_right_eq_some.mp hstep
      rw [← Option.some.inj hw]
      exact command_submissions fun effect db' hr => creates_submissions hcreates hr
    | finalization event => exact finalization_submissions hstep

/-! ## From one state of a run to a later one -/

/-- what holds in a later state of a run -/
structure AfterRun (sha256 : List UInt8 → String) (w w' : ScanningWorld) : Prop where
  bytes : BytesInv sha256 w'
  served : ServedKept w.promotion w'.promotion
  submissions : SubmissionsKept w.promotion.db w'.promotion.db

/-- ids are random, and destinations are opened exclusively -/
def OrderlyScanning (w : ScanningWorld) (e : ScanningEvent) : Prop := NewUploads w e ∧ w.exclusive e = true

theorem after_run {w w' : ScanningWorld} {es : List ScanningEvent} (hi : BytesInv sha256 w)
    (horderly : Along (scanningStep sha256 maxDeliveryAttempts) OrderlyScanning w es)
    (h : run (scanningStep sha256 maxDeliveryAttempts) w es = some w') : AfterRun sha256 w w' := by
  refine run_inv_along (AfterRun sha256 w) ?_ ⟨hi, .refl _, submissionsKept_of_eq rfl⟩ horderly h
  intro u e u' hu he hstep
  obtain ⟨hnew, hexclusive⟩ := he
  exact ⟨bytes_step_all hu.bytes hnew hexclusive hstep,
    hu.served.trans (served_step hu.bytes hnew hexclusive hstep),
    fun id hid => submissions_step hstep id (hu.submissions id hid)⟩

end

namespace DownloadLinks
variable {sha256 : List UInt8 → String} {maxDeliveryAttempts : Nat} {Key Nonce : Type} {S : DownloadLinks Key Nonce}

/-- **An uploaded document is described as it says**: an issuance never finds another description. -/
theorem validateCandidate_stored {w w' : ScanningWorld} (hi : BytesInv sha256 w) (ha : AfterRun sha256 w w')
    {d : Document} (hd : d ∈ w.promotion.db.documents.rows) (hup : d.uploadStatus = .uploaded) :
    w'.promotion.evidence.validateCandidate d.downloadCandidate = .ok () := by
  obtain ⟨⟨d', hd', hup', hw⟩, -⟩ := ha.served d hd hup
  have hsound := (ha.bytes.finalization.uploaded d' hd' hup').1
  have hdescribed := hsound
  obtain ⟨-, -, -, -, m, hm, -⟩ := hdescribed
  have hkey : finalizedObjectKey d.downloadCandidate = .ok d.objectKey :=
    finalizedObjectKey_ok.mpr ⟨(hi.finalization.uploaded d hd hup).2, rfl⟩
  have hkey' : d'.objectKey = d.objectKey := congrArg UploadWork.objectKey hw
  unfold FilesystemObjectStore.validateCandidate
  rw [hkey]
  dsimp only
  unfold FilesystemObjectStore.headResult
  rw [← hkey', hm]
  exact validateMetadata_sound hsound hw hm

theorem issue_described {w w' : ScanningWorld} (hi : BytesInv sha256 w) (ha : AfterRun sha256 w w')
    (workspaceId : WorkspaceId) (userId : UserId) (issuedVia : DownloadGrantIssuer) (submissionId : EvidenceSubmissionId)
    (documentId : DocumentId) (issuedAt sealedAt : Int) (tokenId : Uuid) (nonce : Nonce) :
    S.issue w.promotion.db w'.promotion.evidence workspaceId userId issuedVia submissionId documentId issuedAt
      sealedAt tokenId nonce ≠ .error .metadataMismatch := by
  unfold issue
  split
  · simp
  · next candidate hcandidate =>
    obtain ⟨d, hd, rfl⟩ := Option.map_eq_some_iff.mp hcandidate
    obtain ⟨s, -, hfilter⟩ := Option.bind_eq_some_iff.mp hd
    obtain ⟨hget, -⟩ := Option.filter_eq_some_iff.mp hfilter
    obtain ⟨hget', -⟩ := DocumentDb.getWorkspaceDocument_eq_some.mp hget
    obtain ⟨hmem, -, -⟩ := DocumentDb.getDocument_eq_some.mp hget'
    split
    · simp
    · simp
    · simp
    · simp
    · next hup =>
      rw [validateCandidate_stored hi ha hmem hup]
      dsimp only
      split
      · simp
      · split
        · simp
        · simp

/-- a stored document of a submission is found by its ids, if it is active -/
theorem beginDownload_stored {w : ScanningWorld} (hi : BytesInv sha256 w) {d : Document}
    (hd : d ∈ w.promotion.db.documents.rows) (hup : d.uploadStatus = .uploaded)
    {submissionId : EvidenceSubmissionId} {documentId : DocumentId}
    (hid : d.identity = .evidence submissionId documentId)
    (hsubmission : (w.promotion.db.submissions.get? submissionId).isSome = true) :
    w.promotion.db.beginDownload (.submission d.workspaceId submissionId documentId none)
      = if d.archived = false then .ok (d, d.objectKey) else .error .notFound := by
  obtain ⟨s, hs⟩ := Option.isSome_iff_exists.mp hsubmission
  have hdocument : d.id = documentId := congrArg DocumentIdentity.documentId hid
  have howner : d.owner = .evidenceSubmission submissionId := congrArg DocumentIdentity.owner hid
  have hget : w.promotion.db.getWorkspaceDocument d.workspaceId documentId (.evidenceSubmission submissionId)
      = some d :=
    DocumentDb.getWorkspaceDocument_eq_some.mpr
      ⟨DocumentDb.getDocument_eq_some.mpr ⟨hd, hdocument, howner⟩, rfl⟩
  have hdownload : w.promotion.db.download d.workspaceId submissionId documentId none
      = if d.archived = false then some d.downloadCandidate else none := by
    unfold DocumentDb.download
    rw [hs, Option.bind_some, hget]
    cases harchived : d.archived with
    | false => simp [Option.filter, harchived]
    | true => simp [Option.filter, harchived]
  have hkey : finalizedObjectKey d.downloadCandidate = .ok d.objectKey :=
    finalizedObjectKey_ok.mpr ⟨(hi.finalization.uploaded d hd hup).2, rfl⟩
  unfold DocumentDb.beginDownload DownloadRequest.candidate
  dsimp only
  rw [hdownload]
  cases harchived : d.archived with
  | false =>
    rw [if_pos rfl, if_pos rfl]
    dsimp only
    rw [if_neg (not_not.mpr (show d.downloadCandidate.document.uploadStatus = .uploaded from hup)), hkey]
    rfl
  | true => rfl

/-- **Links for downloads.**  At any points of a run in which its document is read, its object is looked up and
the link is presented: an issuance never finds another description than the document's; and the link leads, from
the second in which it was sealed, to the document with its ids in its workspace, whose name, type and length are
what was said at the issuance and whose object is the bytes that were scanned clean, until it expires or the
document is archived; then it leads nowhere. -/
theorem download_links (hT : S.tokens.layer.Faithful) {es1 es2 es3 : List ScanningEvent} {w1 w2 w3 : ScanningWorld}
    (horderly1 : Along (scanningStep sha256 maxDeliveryAttempts) OrderlyScanning .empty es1)
    (h1 : run (scanningStep sha256 maxDeliveryAttempts) .empty es1 = some w1)
    (horderly2 : Along (scanningStep sha256 maxDeliveryAttempts) OrderlyScanning w1 es2)
    (h2 : run (scanningStep sha256 maxDeliveryAttempts) w1 es2 = some w2)
    (horderly3 : Along (scanningStep sha256 maxDeliveryAttempts) OrderlyScanning w2 es3)
    (h3 : run (scanningStep sha256 maxDeliveryAttempts) w2 es3 = some w3)
    (workspaceId : WorkspaceId) (userId : UserId) (issuedVia : DownloadGrantIssuer)
    (submissionId : EvidenceSubmissionId) (documentId : DocumentId) (issuedAt sealedAt : Int) (tokenId : Uuid)
    (nonce : Nonce) :
    S.issue w1.promotion.db w2.promotion.evidence workspaceId userId issuedVia submissionId documentId issuedAt
        sealedAt tokenId nonce ≠ .error .metadataMismatch ∧
      ∀ issued, S.issue w1.promotion.db w2.promotion.evidence workspaceId userId issuedVia submissionId documentId
          issuedAt sealedAt tokenId nonce = .ok issued →
        issued.expiresAt = floorSec (issuedAt + minutes 5) ∧
        ∃ d ∈ w3.promotion.db.documents.rows, d.identity = .evidence submissionId documentId ∧
          d.workspaceId = workspaceId ∧ d.filename = issued.filename ∧ d.contentType = issued.contentType ∧
          d.contentLength = issued.contentLength ∧
          (∃ key bytes, w3.promotion.evidence.objects.get d.objectKey = some bytes ∧
            ScannedClean w3.exchanges d.identity key bytes ∧ issued.contentLength = bytes.length) ∧
          ∀ presentedAt, floorSec sealedAt ≤ presentedAt →
            S.redeem w3.promotion.db issued.url.token presentedAt
              = if presentedAt < issued.expiresAt ∧ d.archived = false then
                  .ok (d, d.objectKey, ⟨workspaceId, submissionId, documentId, userId, issuedVia⟩)
                else .error .notFound := by
  have ha1 : AfterRun sha256 .empty w1 := after_run bytesInv_empty horderly1 h1
  have ha2 : AfterRun sha256 w1 w2 := after_run ha1.bytes horderly2 h2
  have ha3 : AfterRun sha256 w2 w3 := after_run ha2.bytes horderly3 h3
  refine ⟨issue_described ha1.bytes ha2 _ _ _ _ _ _ _ _ _, fun issued hissued => ?_⟩
  obtain ⟨d1, hd1, hid, hworkspace, hsubmission, hup, hname, htype, hlength, haudit, token, hencrypt, htoken, hexpires⟩ :=
    issue_ok hissued
  obtain ⟨d, hd, hup3, hw⟩ := ((ha2.served.trans ha3.served) d1 hd1 hup).1
  obtain ⟨key, n, -, hscanned, hget⟩ := ha3.bytes.uploaded d hd hup3
  obtain ⟨bytes, hbytes, hbyteLength, -⟩ := (ha3.bytes.finalization.uploaded d hd hup3).1
  obtain rfl : bytes = w3.quarantine.objects.nodes n := Option.some.inj (hbytes.symm.trans hget)
  have hid3 : d.identity = .evidence submissionId documentId := (congrArg UploadWork.identity hw).trans hid
  have hworkspace3 : d.workspaceId = workspaceId := (congrArg UploadWork.workspaceId hw).trans hworkspace
  have hlength3 : d.contentLength = issued.contentLength := (congrArg UploadWork.contentLength hw).trans hlength.symm
  refine ⟨?_, d, hd, hid3, hworkspace3, (congrArg UploadWork.filename hw).trans hname.symm,
    (congrArg UploadWork.contentType hw).trans htype.symm, hlength3, ⟨key, _, hget, hscanned, ?_⟩, ?_⟩
  · obtain ⟨-, -, hfloor, -⟩ := PasetoTokens.encrypt_ok hencrypt
    exact hexpires.trans hfloor
  · exact hlength3.symm.trans hbyteLength.symm
  · intro presentedAt hsealed
    have hbegin := beginDownload_stored ha3.bytes hd hup3 hid3
      (ha3.submissions _ (ha2.submissions _ hsubmission))
    rw [hworkspace3] at hbegin
    unfold redeem
    rw [htoken, PasetoTokens.decrypt_issued hT hencrypt, ← hexpires]
    by_cases hlive : presentedAt < issued.expiresAt
    · rw [if_pos ⟨hsealed, hlive⟩]
      dsimp only
      rw [haudit, tryFrom_claims ⟨workspaceId, submissionId, documentId, userId, issuedVia⟩]
      dsimp only
      rw [hbegin]
      cases harchived : d.archived with
      | false => simp [hlive]
      | true => simp [hlive]
    · rw [if_neg (fun h => hlive h.2), if_neg (fun h => hlive h.1)]

/-! A submission with a document of three bytes, and a link for it. -/

def sampleEvidenceDocument : CreateDocumentPayload :=
  ⟨.evidenceSubmission ⟨7⟩, "a.pdf", "application/pdf", 3, sampleEvidenceKey.text, sampleSha256 sampleBytes,
    Base64.encodeStandard (toBeBytes (crc32c sampleBytes))⟩

def sampleEvidenceMessage : WorkerMessage :=
  { sampleScanMessage with
    aggregateType := "evidence_document"
    payload := .obj [("evidence_submission_id", .str "00000000-0000-0000-0000-000000000007"),
      ("object_key", .str sampleEvidenceKey.text)] }

def sampleEvidenceScanning : List ScanningEvent :=
  [.finalization (.housekeeping (.addEvidence ⟨⟨3⟩, ⟨1⟩⟩)),
    .beginUpload 11 ⟨1⟩ (.evidenceSubmission ⟨7⟩) "a.pdf" "application/pdf",
    .upload 11 (.createFile .created), .upload 11 (.receiveChunk [1, 2, 3] .none), .upload 11 (.endOfStream true),
    .upload 11 (.createMetadata .created), .upload 11 (.writeMetadata true),
    .create 11 (.createEvidenceSubmissionDocument ⟨⟨⟨2⟩, ⟨3⟩, ⟨1⟩, .all⟩, ⟨7⟩, ⟨3⟩, ⟨0, 1000⟩, ⟨9⟩,
      sampleEvidenceDocument, 0⟩) .background 1 true,
    .receive 1 sampleEvidenceMessage true, .scan 1 (.head true), .scan 1 (.openObject true),
    .scan 1 (.sendChunk 3 true), .scan 1 (.sendChunk 3 true),
    .scan 1 (.answer [.ok (asBytes "stream: OK" ++ [0])]), .scan 1 (.record 2 .none),
    .finalization (.deliver 1 (.evidence ⟨7⟩ ⟨9⟩) sampleEvidenceKey true),
    .finalization (.step 1 (.head true)), .finalization (.step 1 (.openSource true))] ++
  (samplePromote 1).map .finalization

/-- the grant of the sample: for its document, by a user through a connection -/
def sampleGrant : VerifiedDownloadGrant := ⟨⟨1⟩, ⟨7⟩, ⟨9⟩, ⟨4⟩, .agentConnection ⟨5⟩⟩

/-- a server with one key, which can seal the link of that grant and no other -/
def sampleLinks : DownloadLinks Unit Unit where
  tokens :=
    { layer := TokenLayer.only Unit Unit "token"
        ⟨"https://api.proofplane.example/", "proofplane-document-download", 4, 6, 1767225600, 1767225600,
          1767225900, sampleGrant.claims⟩ ⟨"k1"⟩ downloadImplicitAssertion
      issuer := "https://api.proofplane.example/"
      audience := "proofplane-document-download"
      keys := .single "k1" ()
      issuer_ne := sampleIssuer_ne
      audience_ne := by decide
      keyId := sampleKey_not_blank }
  publicApiBaseUrl := "https://api.proofplane.example/"
  join base path := some (base ++ path)

theorem download_links_sample :
    ∃ w issued, run (scanningStep sampleSha256 5) .empty sampleEvidenceScanning = some w ∧
      sampleLinks.issue w.promotion.db w.promotion.evidence ⟨1⟩ ⟨4⟩ (.agentConnection ⟨5⟩) ⟨7⟩ ⟨9⟩
        1767225600000000000 1767225600000000000 6 () = .ok issued ∧
      issued.expiresAt = floorSec (1767225600000000000 + minutes 5) ∧
      ∃ d ∈ w.promotion.db.documents.rows, d.identity = .evidence ⟨7⟩ ⟨9⟩ ∧
        d.workspaceId = ⟨1⟩ ∧ d.filename = issued.filename ∧ d.contentType = issued.contentType ∧
        d.contentLength = issued.contentLength ∧
        (∃ key bytes, w.promotion.evidence.objects.get d.objectKey = some bytes ∧
          ScannedClean w.exchanges d.identity key bytes ∧ issued.contentLength = bytes.length) ∧
        ∀ presentedAt, floorSec 1767225600000000000 ≤ presentedAt →
          sampleLinks.redeem w.promotion.db issued.url.token presentedAt
            = if presentedAt < issued.expiresAt ∧ d.archived = false then
                .ok (d, d.objectKey, ⟨⟨1⟩, ⟨7⟩, ⟨9⟩, ⟨4⟩, .agentConnection ⟨5⟩⟩)
              else .error .notFound := by
  have hrun : ((runChecked (scanningStep sampleSha256 5) (fun w e => w.drawsNew e && w.exclusive e) .empty
      sampleEvidenceScanning).any fun w =>
        (sampleLinks.issue w.promotion.db w.promotion.evidence ⟨1⟩ ⟨4⟩ (.agentConnection ⟨5⟩) ⟨7⟩ ⟨9⟩
          1767225600000000000 1767225600000000000 6 ()).isOk) = true := by
    decide +kernel
  have hfaithful : sampleLinks.tokens.layer.Faithful := TokenLayer.only_faithful _ _ _ _ _ _
  obtain ⟨w, hchecked, hok⟩ := (Option.any_eq_true _ _).mp hrun
  obtain ⟨hw, halong⟩ := runChecked_some hchecked
  have horderly : Along (scanningStep sampleSha256 5) OrderlyScanning .empty sampleEvidenceScanning := by
    refine halong.imp fun w e h => ?_
    obtain ⟨hnew, hexclusive⟩ := Bool.and_eq_true_iff.mp h
    exact ⟨newUploads_of_drawsNew hnew, hexclusive⟩
  cases hissue : sampleLinks.issue w.promotion.db w.promotion.evidence ⟨1⟩ ⟨4⟩ (.agentConnection ⟨5⟩) ⟨7⟩ ⟨9⟩
      1767225600000000000 1767225600000000000 6 () with
  | error e =>
    rw [hissue] at hok
    cases hok
  | ok issued =>
    have hthen : run (scanningStep sampleSha256 5) w [] = some w := rfl
    have hquiet : Along (scanningStep sampleSha256 5) OrderlyScanning w [] := trivial
    exact ⟨w, issued, hw, hissue, (download_links hfaithful horderly hw hquiet hthen hquiet hthen
      ⟨1⟩ ⟨4⟩ (.agentConnection ⟨5⟩) ⟨7⟩ ⟨9⟩ 1767225600000000000 1767225600000000000 6 ()).2 issued hissue⟩

end DownloadLinks

end Proofplane
