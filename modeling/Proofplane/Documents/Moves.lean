import Proofplane.Documents.Commands

/-!
# What a document command can do

Every command either leaves the documents and the outbox alone, or creates one document, or moves
one stored document along its lifecycle, with the one message that belongs to it.

* `DocumentEffect`       the change that a command reports;
* `DocumentMove`         the change of the tables that goes with it;
* `Moved`                one stored document is replaced, and these messages are appended;
* `scanDocument_move`, `finalizeDocument_move`, `archiveDocument_move`, `insertDocument_ok` and the
  inversions of the four creating commands   **all that the seven handlers can do**.
-/

namespace Proofplane
open Base

/-- the status that a scan leads to -/
def ScanDocumentResult.status : ScanDocumentResult → DocumentUploadStatus
  | .clean => .finalizing
  | .malicious => .containsVirus
  | .failed => .failedUpload

/-- `d` is the stored document that was created as `d0`: nothing but key, status and archiving has
changed -/
abbrev Document.SameFile (d0 d : Document) : Prop :=
  d = { d0.toRow with
    objectKey := d.objectKey, uploadStatus := d.uploadStatus, archived := d.archived }

/-- the change that a command makes to the documents -/
inductive DocumentEffect
  | unchanged
  | created (document : Document)
  | scanned (identity : DocumentIdentity) (objectKey : String) (result : ScanDocumentResult)
  | finalized (identity : DocumentIdentity) (quarantineObjectKey finalObjectKey : String)
  | archived (identity : DocumentIdentity)
  deriving DecidableEq, Repr

/-- the message that belongs to a change -/
def DocumentEffect.request : DocumentEffect → Option DocumentEvent
  | .created d => some (.scanRequested d.identity d.objectKey)
  | .scanned identity key .clean => some (.finalizationRequested identity key)
  | _ => none

/-- `message` is a message for `event` -/
def Asks (message : NewOutboxMessage) (event : DocumentEvent) : Prop :=
  ∃ metadata messageId, messageFor (some event) metadata messageId = some message

/-- the outbox after a change: one more message if the change has one -/
def Announced (request : Option DocumentEvent) (outbox outbox' : List NewOutboxMessage) : Prop :=
  match request with
  | none => outbox' = outbox
  | some event => ∃ message, Asks message event ∧ outbox' = outbox ++ [message]

/-- the stored document `d` is replaced by `d'` -/
structure Moved (db db' : DocumentDb) (d d' : Document) : Prop where
  mem : d ∈ db.documents.rows
  id_eq : d'.id = d.id
  documents : db'.documents = db.documents.upsert d'.toRow

/-- the change of documents and outbox that goes with an effect -/
inductive DocumentMove (db db' : DocumentDb) : DocumentEffect → Prop
  | unchanged (hd : db'.documents = db.documents) : DocumentMove db db' .unchanged
  | created (d : Document) (hstatus : d.uploadStatus = .pendingUpload) (ha : d.archived = false)
      (hd : db'.documents = db.documents.upsert d.toRow) : DocumentMove db db' (.created d)
  | scanned (d : Document) (result : ScanDocumentResult) (ha : d.archived = false)
      (hstatus : d.uploadStatus = .pendingUpload)
      (hm : Moved db db' d { d with uploadStatus := result.status }) :
      DocumentMove db db' (.scanned d.identity d.objectKey result)
  | finalized (d : Document) (finalObjectKey : String) (ha : d.archived = false)
      (hstatus : d.uploadStatus = .finalizing)
      (hm : Moved db db' d { d with objectKey := finalObjectKey, uploadStatus := .uploaded }) :
      DocumentMove db db' (.finalized d.identity d.objectKey finalObjectKey)
  | archived (d : Document) (ha : d.archived = false) (hterminal : d.terminal = true)
      (hm : Moved db db' d { d with archived := true }) : DocumentMove db db' (.archived d.identity)

theorem announced_append (db : DocumentDb) (event : Option DocumentEvent)
    (metadata : ExecutionMetadata) (messageId : Uuid) :
    Announced event db.outbox (appendTransitionMessage db event metadata messageId).outbox := by
  unfold appendTransitionMessage
  cases event with
  | none => rfl
  | some event =>
    cases hm : messageFor (some event) metadata messageId with
    | none => simp [messageFor] at hm
    | some message => exact ⟨message, ⟨metadata, messageId, hm⟩, rfl⟩

theorem appendTransitionMessage_eq (db : DocumentDb) (event : Option DocumentEvent)
    (metadata : ExecutionMetadata) (messageId : Uuid) :
    appendTransitionMessage db event metadata messageId
      = { db with outbox := (appendTransitionMessage db event metadata messageId).outbox } := by
  unfold appendTransitionMessage
  cases messageFor event metadata messageId with
  | none => rfl
  | some message => rfl

/-! ## Creation -/

section
variable {db db' : DocumentDb} {metadata : ExecutionMetadata} {messageId : Uuid}

/-- the document that a creation makes -/
def newDocument (identity : DocumentIdentity) (workspaceId : WorkspaceId) (userId : UserId)
    (p : CreateDocumentPayload) (createdAt : Int) : Document :=
  ⟨identity, workspaceId, userId, p.filename, p.contentType, p.contentLength, p.objectKey,
    p.checksumSha256, p.checksumCrc32c, .pendingUpload, false, createdAt⟩

theorem insertDocument_ok {identity : DocumentIdentity} {workspaceId : WorkspaceId}
    {userId : UserId} {payload : CreateDocumentPayload} {createdAt : Int} {invalid : String}
    {d : Document}
    (h : insertDocument db metadata messageId identity workspaceId userId payload createdAt invalid
      = .ok (d, db')) :
    d = newDocument identity workspaceId userId payload createdAt ∧
      payload.owner = identity.owner ∧
      (∀ other ∈ db.documents.rows, other.id ≠ d.id → other.objectKey ≠ d.objectKey) ∧
      db' = { db with documents := db.documents.upsert d.toRow, outbox := db'.outbox } ∧
      Announced (some (.scanRequested d.identity d.objectKey)) db.outbox db'.outbox := by
  unfold insertDocument at h
  split at h
  · cases h
  · next document transition hc =>
    obtain ⟨howner, -, rfl, rfl⟩ := Document.create_ok hc
    split at h
    · cases h
    · next db1 hs =>
      cases h
      obtain ⟨rfl, hkeys⟩ := DocumentDb.saveDocument_ok hs
      refine ⟨rfl, howner, hkeys, ?_, announced_append _ _ metadata messageId⟩
      rw [appendTransitionMessage_eq]

/-- all that creating the document of a submission can do -/
theorem createEvidenceSubmissionDocument_ok {command : CreateEvidenceSubmissionDocument}
    {outcome : CreatedDocument}
    (h : createEvidenceSubmissionDocument db metadata messageId command = .ok (outcome, db')) :
    (∃ d, outcome = .replayed d ∧ db' = db) ∨
    ∃ d s, outcome = .created d ∧
      d = newDocument (.evidence command.submissionId command.documentId)
        command.connection.workspaceId command.connection.userId command.document
        command.receivedAt ∧
      db.getEvidence command.connection.workspaceId command.evidenceId ≠ none ∧
      db.getSubmission command.connection.workspaceId command.submissionId = none ∧
      s = EvidenceSubmission.create command.submissionId command.evidenceId
        (.agentConnection command.connection.connectionId command.connection.userId)
        command.coverage command.receivedAt ∧
      (∀ other ∈ db.documents.rows, other.id ≠ d.id → other.objectKey ≠ d.objectKey) ∧
      db' = { db with submissions := db.submissions.upsert s.toRow,
                      documents := db.documents.upsert d.toRow, outbox := db'.outbox } ∧
      Announced (some (.scanRequested d.identity d.objectKey)) db.outbox db'.outbox := by
  unfold createEvidenceSubmissionDocument at h
  split at h
  · cases h
  · split at h
    · cases h
    · split at h
      · cases h
      · cases h
      · next outcome' db1 hw =>
        cases h
        unfold evidenceSubmissionDocumentWork at hw
        dsimp only at hw
        split at hw
        · cases hw
        · next hevidence =>
          split at hw
          · next existing hex =>
            split at hw
            · cases hw
            · rw [Except.ok.injEq, Prod.mk.injEq] at hw
              obtain ⟨d, -, rfl⟩ := Option.map_eq_some_iff.mp hw.1
              exact .inl ⟨d, rfl, hw.2.symm⟩
          · next hsubmission =>
            split at hw
            · cases hw
            · next db2 hs =>
              have hdb2 := DocumentDb.saveSubmission_ok hs
              split at hw
              · cases hw
              · next document db3 hi =>
                cases hw
                obtain ⟨hd, -, hkeys, hdb3, hout⟩ := insertDocument_ok hi
                subst hdb2
                refine .inr ⟨document, _, rfl, hd, hevidence, hsubmission, rfl, hkeys, ?_, hout⟩
                exact hdb3

/-- all that creating the document of a policy can do -/
theorem createPolicyDocument_ok {command : CreatePolicyDocument}
    {outcome : CreatePolicyDocumentOutcome}
    (h : createPolicyDocument db metadata messageId command = .ok (outcome, db')) :
    ((∀ d, outcome ≠ .created d) ∧ db' = db) ∨
    ∃ d, outcome = .created d ∧
      d = newDocument (.policy command.policyId command.documentId)
        command.connection.workspaceId command.connection.userId command.document
        command.createdAt ∧
      db.getWorkspaceDocument command.connection.workspaceId command.documentId
        (.policy command.policyId) = none ∧
      db.lockDocumentUploadEligibility command.connection.workspaceId command.policyId
        = some .eligible ∧
      (∀ other ∈ db.documents.rows, other.id ≠ d.id → other.objectKey ≠ d.objectKey) ∧
      db' = { db with documents := db.documents.upsert d.toRow, outbox := db'.outbox } ∧
      Announced (some (.scanRequested d.identity d.objectKey)) db.outbox db'.outbox := by
  unfold createPolicyDocument at h
  split at h
  · cases h
  · split at h
    · cases h
    · split at h
      · cases h
      · next outcome' db1 hw =>
        cases h
        unfold policyDocumentWork at hw
        dsimp only at hw
        split at hw
        · cases hw
          exact .inl ⟨by simp, rfl⟩
        · next hnone =>
          split at hw
          · cases hw
            exact .inl ⟨by simp, rfl⟩
          · cases hw
            exact .inl ⟨by simp, rfl⟩
          · next heligible =>
            split at hw
            · cases hw
            · next document db2 hi =>
              cases hw
              obtain ⟨hd, -, hkeys, hdb, hout⟩ := insertDocument_ok hi
              exact .inr ⟨document, rfl, hd, hnone, heligible, hkeys, hdb, hout⟩

/-! ## Completion -/

/-- the guards that the two completions share: the grant's own authority and the declared file -/
structure Presented {K : UploadTarget} (g : UploadGrant K) (authority : UploadAuthority K)
    (payload : CreateDocumentPayload) (owner : DocumentOwner) : Prop where
  authority : authority = g.authority
  received : g.declaration.Received payload.contentLength payload.checksumSha256
  owner : payload.owner = owner

/-- all that the completion of an evidence upload can do -/
theorem completeAgentEvidenceUpload_ok {command : CompleteAgentEvidenceUpload}
    {outcome : CompleteAgentEvidenceUploadOutcome}
    (h : completeAgentEvidenceUpload db metadata messageId command = .ok (outcome, db')) :
    (outcome = .unavailable ∧ db' = db) ∨
    ∃ g, db.getEvidenceGrant command.grant.id command.grant.workspaceId = .ok (some g) ∧
      Presented g command.authority command.document (.evidenceSubmission g.submissionId) ∧
      command.stagedSubmissionId = g.submissionId ∧ command.completedAt < g.expiresAt ∧
      ((∃ documentId, g.documentId = some documentId ∧
          outcome = .replayed g.submissionId documentId ∧ db' = db) ∨
        ∃ d s g', g.documentId = none ∧ outcome = .created g.submissionId d ∧
          d = newDocument (.evidence g.submissionId command.documentId) command.grant.workspaceId
            command.grant.issuedByUserId command.document command.completedAt ∧
          s = EvidenceSubmission.create g.submissionId g.evidenceId
            (.agentConnection command.grant.issuedViaAgentConnectionId
              command.grant.issuedByUserId) g.coverage command.completedAt ∧
          g' = { g with lifecycle := .completed command.documentId command.completedAt } ∧
          g'.toRow.valid = true ∧ g.issuedAt ≤ command.completedAt ∧
          db.getEvidence command.grant.workspaceId g.evidenceId ≠ none ∧
          db.submissionExists command.grant.workspaceId g.submissionId = false ∧
          (∀ other ∈ db.documents.rows, other.id ≠ d.id → other.objectKey ≠ d.objectKey) ∧
          db' = { db with submissions := db.submissions.upsert s.toRow,
                          documents := db.documents.upsert d.toRow,
                          evidenceGrants := db.evidenceGrants.upsert g'.toRow,
                          outbox := db'.outbox } ∧
          Announced (some (.scanRequested d.identity d.objectKey)) db.outbox db'.outbox) := by
  unfold completeAgentEvidenceUpload at h
  dsimp only at h
  split at h
  · cases h
  · cases h
    exact .inl ⟨rfl, rfl⟩
  · next g hg =>
    split at h
    · cases h
    · next outcome' db1 hw =>
      cases h
      unfold completeEvidenceGrant at hw
      split at hw
      · cases hw
        exact .inl ⟨rfl, rfl⟩
      · next hguard =>
        simp only [not_or, not_not] at hguard
        obtain ⟨hauth, hfile, hstaged, howner⟩ := hguard
        have hp : Presented g command.authority command.document
            (.evidenceSubmission g.submissionId) :=
          ⟨UploadGrant.matchesAuthority_ok.mp hauth, UploadGrant.validateStagedFile_ok.mp hfile,
            howner⟩
        split at hw
        · next documentId hc =>
          cases hw
          obtain ⟨hlt, hdoc⟩ := UploadGrant.completedDocumentAt_ok.mp hc
          exact .inr ⟨g, hg, hp, hstaged, hlt, .inl ⟨documentId, hdoc, rfl, rfl⟩⟩
        · cases hw
          exact .inl ⟨rfl, rfl⟩
        · next hc =>
          obtain ⟨hlt, hdoc⟩ := UploadGrant.completedDocumentAt_ok.mp hc
          split at hw
          · cases hw
            exact .inl ⟨rfl, rfl⟩
          · next hevidence =>
            split at hw
            · cases hw
              exact .inl ⟨rfl, rfl⟩
            · next hsub =>
              split at hw
              · cases hw
              · next db2 hs =>
                have hdb2 := DocumentDb.saveSubmission_ok hs
                split at hw
                · cases hw
                · next document db3 hi =>
                  obtain ⟨hd, -, hkeys, hdb3, hout⟩ := insertDocument_ok hi
                  split at hw
                  · cases hw
                  · next completed hcomp =>
                    obtain ⟨-, hissued, -, hg'⟩ := UploadGrant.complete_ok hcomp
                    split at hw
                    · cases hw
                    · next db4 hsg =>
                      cases hw
                      obtain ⟨hdb4, hvalid⟩ := DocumentDb.saveEvidenceGrant_ok hsg
                      have hid : document.id = command.documentId := by
                        rw [hd]
                        rfl
                      rw [hid] at hg'
                      subst hdb2 hg'
                      refine .inr ⟨g, hg, hp, hstaged, hlt, .inr ⟨document, _, _, hdoc, rfl, hd, rfl, rfl,
                        hvalid, hissued, hevidence, by simpa using hsub, hkeys, ?_, ?_⟩⟩
                      · rw [hdb4, hdb3]
                      · rw [hdb4]
                        exact hout

/-- all that the completion of a policy upload can do -/
theorem completeAgentPolicyDocumentUpload_ok {command : CompleteAgentPolicyDocumentUpload}
    {outcome : CompleteAgentPolicyDocumentUploadOutcome}
    (h : completeAgentPolicyDocumentUpload db metadata messageId command = .ok (outcome, db')) :
    ((outcome = .unavailable ∨ outcome = .currentDocument) ∧ db' = db) ∨
    ∃ g, db.getPolicyGrant command.grant.id command.grant.workspaceId = .ok (some g) ∧
      Presented g command.authority command.document (.policy g.policyId) ∧
      command.completedAt < g.expiresAt ∧
      ((∃ documentId, g.documentId = some documentId ∧
          outcome = .replayed documentId ∧ db' = db) ∨
        ∃ d g', g.documentId = none ∧ outcome = .created d ∧
          d = newDocument (.policy g.policyId command.documentId) command.grant.workspaceId
            command.grant.issuedByUserId command.document command.completedAt ∧
          g' = { g with lifecycle := .completed command.documentId command.completedAt } ∧
          g'.toRow.valid = true ∧ g.issuedAt ≤ command.completedAt ∧
          db.lockDocumentUploadEligibility command.grant.workspaceId g.policyId = some .eligible ∧
          (∀ other ∈ db.documents.rows, other.id ≠ d.id → other.objectKey ≠ d.objectKey) ∧
          db' = { db with documents := db.documents.upsert d.toRow,
                          policyGrants := db.policyGrants.upsert g'.toRow,
                          outbox := db'.outbox } ∧
          Announced (some (.scanRequested d.identity d.objectKey)) db.outbox db'.outbox) := by
  unfold completeAgentPolicyDocumentUpload at h
  dsimp only at h
  split at h
  · cases h
  · cases h
    exact .inl ⟨.inl rfl, rfl⟩
  · next g hg =>
    split at h
    · cases h
    · next outcome' db1 hw =>
      cases h
      unfold completePolicyGrant at hw
      split at hw
      · cases hw
        exact .inl ⟨.inl rfl, rfl⟩
      · next hguard =>
        simp only [not_or, not_not] at hguard
        obtain ⟨hauth, hfile, -, howner⟩ := hguard
        have hp : Presented g command.authority command.document (.policy g.policyId) :=
          ⟨UploadGrant.matchesAuthority_ok.mp hauth, UploadGrant.validateStagedFile_ok.mp hfile,
            howner⟩
        split at hw
        · next documentId hc =>
          cases hw
          obtain ⟨hlt, hdoc⟩ := UploadGrant.completedDocumentAt_ok.mp hc
          exact .inr ⟨g, hg, hp, hlt, .inl ⟨documentId, hdoc, rfl, rfl⟩⟩
        · cases hw
          exact .inl ⟨.inl rfl, rfl⟩
        · next hc =>
          obtain ⟨hlt, hdoc⟩ := UploadGrant.completedDocumentAt_ok.mp hc
          split at hw
          · cases hw
            exact .inl ⟨.inr rfl, rfl⟩
          · cases hw
            exact .inl ⟨.inl rfl, rfl⟩
          · next heligible =>
            split at hw
            · cases hw
            · next document db2 hi =>
              obtain ⟨hd, -, hkeys, hdb2, hout⟩ := insertDocument_ok hi
              split at hw
              · cases hw
              · next completed hcomp =>
                obtain ⟨-, hissued, -, hg'⟩ := UploadGrant.complete_ok hcomp
                split at hw
                · cases hw
                · next db3 hsg =>
                  cases hw
                  obtain ⟨hdb3, hvalid⟩ := DocumentDb.savePolicyGrant_ok hsg
                  have hid : document.id = command.documentId := by
                    rw [hd]
                    rfl
                  rw [hid] at hg'
                  subst hg'
                  refine .inr ⟨g, hg, hp, hlt, .inr ⟨document, _, hdoc, rfl, hd, rfl, hvalid,
                    hissued, heligible, hkeys, ?_, ?_⟩⟩
                  · rw [hdb3, hdb2]
                  · rw [hdb3]
                    exact hout

/-! ## Transitions of a stored document -/

/-- the identity under which a stored document is found -/
theorem identity_of_getDocument {identity : DocumentIdentity} {d : Document}
    (h : db.getDocument identity.documentId identity.owner = some d) :
    d ∈ db.documents.rows ∧ d.identity = identity := by
  obtain ⟨hmem, hid, howner⟩ := DocumentDb.getDocument_eq_some.mp h
  exact ⟨hmem, DocumentIdentity.ext_owner hid howner⟩

/-- a save of a changed document moves it, and touches nothing else -/
theorem moved_of_save {d d' : Document} (hmem : d ∈ db.documents.rows) (hid : d'.id = d.id)
    (h : db.saveDocument d' = .ok db') :
    Moved db db' d d' ∧ db' = { db with documents := db'.documents } := by
  obtain ⟨rfl, -⟩ := DocumentDb.saveDocument_ok h
  exact ⟨⟨hmem, hid, rfl⟩, rfl⟩

/-- what a scan does to a document that it changes -/
theorem Document.scanned_cases (d : Document) (result : ScanDocumentResult) :
    d.scanned result = (d, .ignored) ∨
    d.archived = false ∧ d.uploadStatus = .pendingUpload ∧
      d.scanned result = ({ d with uploadStatus := result.status },
        ⟨.scanned, (DocumentEffect.scanned d.identity d.objectKey result).request⟩) := by
  cases result with
  | clean => exact d.transition_cases _ _ _
  | malicious => exact d.transition_cases _ _ _
  | failed => exact d.transition_cases _ _ _

/-- all that a scan can do: nothing, or the one move of the waiting document under that key -/
theorem scanDocument_ok {command : ScanDocument} {outcome : DocumentCommandOutcome}
    (h : scanDocument db metadata messageId command = .ok (outcome, db')) :
    (outcome ≠ .applied ∧ db' = db) ∨
    outcome = .applied ∧
      DocumentMove db db' (.scanned command.identity command.objectKey command.result) ∧
      Announced (DocumentEffect.scanned command.identity command.objectKey command.result).request
        db.outbox db'.outbox ∧
      db' = { db with documents := db'.documents, outbox := db'.outbox } := by
  unfold scanDocument at h
  split at h
  · cases h
    exact .inl ⟨by decide, rfl⟩
  · next d hget =>
    obtain ⟨hmem, hidentity⟩ := identity_of_getDocument hget
    split at h
    · cases h
      exact .inl ⟨by decide, rfl⟩
    · next hkey =>
      rw [not_not] at hkey
      rw [← hidentity, ← hkey]
      rcases d.scanned_cases command.result with hs | ⟨ha, hstatus, hs⟩
      · rw [hs] at h
        cases h
        exact .inl ⟨by decide, rfl⟩
      · rw [hs] at h
        dsimp only at h
        rw [if_pos (by rfl)] at h
        split at h
        · cases h
        · next db1 hsave =>
          cases h
          obtain ⟨hm, hdb1⟩ := moved_of_save hmem (by rfl) hsave
          rw [appendTransitionMessage_eq]
          refine .inr ⟨rfl, .scanned d command.result ha hstatus ⟨hmem, rfl, hm.documents⟩, ?_, ?_⟩
          · have hannounced := announced_append db1
              (DocumentEffect.scanned d.identity d.objectKey command.result).request metadata
              messageId
            rw [hdb1] at hannounced ⊢
            exact hannounced
          · rw [hdb1]

/-- all that a finalization can do -/
theorem finalizeDocument_ok {command : FinalizeDocument} {outcome : DocumentCommandOutcome}
    (h : finalizeDocument db command = .ok (outcome, db')) :
    (outcome ≠ .applied ∧ db' = db) ∨
    outcome = .applied ∧
      DocumentMove db db' (.finalized command.identity command.quarantineObjectKey
        command.finalObjectKey) ∧
      db' = { db with documents := db'.documents } := by
  unfold finalizeDocument at h
  split at h
  · cases h
    exact .inl ⟨by decide, rfl⟩
  · next d hget =>
    obtain ⟨hmem, hidentity⟩ := identity_of_getDocument hget
    split at h
    · cases h
      exact .inl ⟨by decide, rfl⟩
    · next hkey =>
      rw [not_not] at hkey
      rw [← hidentity, ← hkey]
      rcases d.finalizeUploaded_cases command.finalObjectKey with hs | ⟨ha, hstatus, hs⟩
      · rw [hs] at h
        cases h
        exact .inl ⟨by decide, rfl⟩
      · rw [hs] at h
        dsimp only at h
        rw [if_pos (by rfl)] at h
        split at h
        · cases h
        · next db1 hsave =>
          cases h
          obtain ⟨hm, hdb1⟩ := moved_of_save hmem (by rfl) hsave
          exact .inr ⟨rfl, .finalized d command.finalObjectKey ha hstatus hm, hdb1⟩

/-- all that archiving can do -/
theorem archiveDocument_ok {command : ArchiveDocument} {outcome : ArchiveDocumentOutcome}
    (h : archiveDocument db command = .ok (outcome, db')) :
    (outcome ≠ .archived ∧ db' = db) ∨
    outcome = .archived ∧ DocumentMove db db' (.archived command.identity) ∧
      db' = { db with documents := db'.documents } := by
  unfold archiveDocument at h
  split at h
  · cases h
  · split at h
    · cases h
      exact .inl ⟨by decide, rfl⟩
    · next d hget =>
      obtain ⟨hget', -⟩ := DocumentDb.getWorkspaceDocument_eq_some.mp hget
      obtain ⟨hmem, hidentity⟩ := identity_of_getDocument hget'
      rw [← hidentity]
      rcases d.archive_cases with hs | hs | ⟨ha, hterminal, hs⟩
      · rw [hs] at h
        cases h
        exact .inl ⟨by decide, rfl⟩
      · rw [hs] at h
        cases h
        exact .inl ⟨by decide, rfl⟩
      · rw [hs] at h
        dsimp only at h
        rw [if_pos (by rfl)] at h
        split at h
        · cases h
        · next db1 hsave =>
          cases h
          obtain ⟨hm, hdb1⟩ := moved_of_save hmem (by rfl) hsave
          exact .inr ⟨rfl, .archived d ha hterminal hm, hdb1⟩

end

end Proofplane
