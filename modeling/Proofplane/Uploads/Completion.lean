import Proofplane.Uploads.Moves

/-!
# What a completion can do

* `CreatedBy`            the tables after a unit of work that created a document, path by path;
* `runCompletion_ok`     the command of a call either created one so or changed nothing;
* `complete_cases`       the same for the whole step, with the error that its caller may see;
* `TablesMove`           all that one step can do to tables and creations;
* `continues_move`, `precedes_move`   what commands on stored documents keep of them.
-/

namespace Proofplane
open Base

/-- a document was created for a task: the tables before and after -/
inductive CreatedBy (db db' : DocumentDb) (staged : StagedDocument) (documentId : DocumentId)
    (now : Int) : UploadTask → Document → Prop
  | humanEvidence (connection : AgentConnectionContext) (submissionId : EvidenceSubmissionId)
      (evidenceId : EvidenceId) (coverage : CoverageWindow) (d : Document) (s : EvidenceSubmission)
      (hd : d = newDocument (.evidence submissionId documentId) connection.workspaceId
        connection.userId (staged.payload (.evidenceSubmission submissionId)) now)
      (hs : s.id = submissionId) (hse : s.evidenceId = evidenceId)
      (hevidence : db.getEvidence connection.workspaceId evidenceId ≠ none)
      (hdb : db' = { db with
        submissions := db.submissions.upsert s.toRow, documents := db.documents.upsert d.toRow
        outbox := db'.outbox }) :
      CreatedBy db db' staged documentId now
        (.humanEvidence connection submissionId evidenceId coverage) d
  | humanPolicy (connection : AgentConnectionContext) (policyId : PolicyId) (d : Document)
      (hd : d = newDocument (.policy policyId documentId) connection.workspaceId connection.userId
        (staged.payload (.policy policyId)) now)
      (heligible : db.lockDocumentUploadEligibility connection.workspaceId policyId = some .eligible)
      (hdb : db' = { db with documents := db.documents.upsert d.toRow, outbox := db'.outbox }) :
      CreatedBy db db' staged documentId now (.humanPolicy connection policyId) d
  | agentEvidence (grant g : AgentEvidenceUploadGrant) (authority : AgentEvidenceUploadAuthority)
      (d : Document) (s : EvidenceSubmission)
      (hg : db.getEvidenceGrant grant.id grant.workspaceId = .ok (some g))
      (hp : Presented g authority (staged.payload (.evidenceSubmission grant.submissionId))
        (.evidenceSubmission g.submissionId))
      (hlt : now < g.expiresAt) (hpending : g.documentId = none)
      (hd : d = newDocument (.evidence g.submissionId documentId) grant.workspaceId
        grant.issuedByUserId (staged.payload (.evidenceSubmission grant.submissionId)) now)
      (hs : s.id = g.submissionId) (hse : s.evidenceId = g.evidenceId)
      (hvalid : (UploadGrant.toRow { g with lifecycle := .completed documentId now }).valid = true)
      (hissued : g.issuedAt ≤ now)
      (hevidence : db.getEvidence grant.workspaceId g.evidenceId ≠ none)
      (hdb : db' = { db with
        submissions := db.submissions.upsert s.toRow, documents := db.documents.upsert d.toRow
        evidenceGrants := db.evidenceGrants.upsert
          (UploadGrant.toRow { g with lifecycle := .completed documentId now })
        outbox := db'.outbox }) :
      CreatedBy db db' staged documentId now (.agentEvidence grant authority) d
  | agentPolicy (grant g : AgentPolicyDocumentUploadGrant)
      (authority : AgentPolicyDocumentUploadAuthority) (d : Document)
      (hg : db.getPolicyGrant grant.id grant.workspaceId = .ok (some g))
      (hp : Presented g authority (staged.payload (.policy grant.policyId)) (.policy g.policyId))
      (hlt : now < g.expiresAt) (hpending : g.documentId = none)
      (hd : d = newDocument (.policy g.policyId documentId) grant.workspaceId grant.issuedByUserId
        (staged.payload (.policy grant.policyId)) now)
      (hvalid : (UploadGrant.toRow { g with lifecycle := .completed documentId now }).valid = true)
      (hissued : g.issuedAt ≤ now)
      (heligible : db.lockDocumentUploadEligibility grant.workspaceId g.policyId = some .eligible)
      (hdb : db' = { db with
        documents := db.documents.upsert d.toRow
        policyGrants := db.policyGrants.upsert
          (UploadGrant.toRow { g with lifecycle := .completed documentId now })
        outbox := db'.outbox }) :
      CreatedBy db db' staged documentId now (.agentPolicy grant authority) d

/-- the stored grant of a task names this document -/
def Names (db : DocumentDb) (task : UploadTask) (documentId : DocumentId) : Prop :=
  match task with
  | .agentEvidence grant _ =>
    ∃ g ∈ db.evidenceGrants.rows, g.id = grant.id ∧ g.documentId = some documentId
  | .agentPolicy grant _ =>
    ∃ g ∈ db.policyGrants.rows, g.id = grant.id ∧ g.documentId = some documentId
  | _ => False

section
variable {db db' : DocumentDb} {a : UploadAttempt} {staged : StagedDocument}
  {documentId : DocumentId} {messageId : Uuid} {now : Int}

/-- a created document has the new id and the staged key, and waits for its scan -/
theorem CreatedBy.document {task : UploadTask} {d : Document}
    (h : CreatedBy db db' staged documentId now task d) :
    d.id = documentId ∧ d.objectKey = staged.objectKey ∧ d.uploadStatus = .pendingUpload ∧
      db'.documents = db.documents.upsert d.toRow := by
  cases h with
  | humanEvidence connection submissionId evidenceId coverage d s hd hs hse hevidence hdb =>
    exact ⟨by rw [hd]; rfl, by rw [hd]; rfl, by rw [hd]; rfl, by rw [hdb]⟩
  | humanPolicy connection policyId d hd heligible hdb =>
    exact ⟨by rw [hd]; rfl, by rw [hd]; rfl, by rw [hd]; rfl, by rw [hdb]⟩
  | agentEvidence grant g authority d s hg hp hlt hpending hd hs hse hvalid hissued hevidence hdb =>
    exact ⟨by rw [hd]; rfl, by rw [hd]; rfl, by rw [hd]; rfl, by rw [hdb]⟩
  | agentPolicy grant g authority d hg hp hlt hpending hd hvalid hissued heligible hdb =>
    exact ⟨by rw [hd]; rfl, by rw [hd]; rfl, by rw [hd]; rfl, by rw [hdb]⟩

theorem runCompletion_humanEvidence {connection : AgentConnectionContext}
    {submissionId : EvidenceSubmissionId} {evidenceId : EvidenceId} {coverage : CoverageWindow}
    {c : Completion} (ht : a.task = .humanEvidence connection submissionId evidenceId coverage)
    (h : runCompletion db a staged documentId messageId now = .ok (c, db')) :
    ((∀ d, c ≠ .created d) ∧ db' = db) ∨
    ∃ d, c = .created d ∧ CreatedBy db db' staged documentId now a.task d := by
  unfold runCompletion at h
  rw [ht] at h ⊢
  dsimp only at h
  split at h
  · cases h
  · next d db1 hr =>
    cases h
    rcases createEvidenceSubmissionDocument_ok hr with ⟨x, hx, -⟩ | ⟨x, s, hx, hnew, hevidence, -,
      hs, -, hdb, -⟩
    · cases hx
    · cases hx
      exact .inr ⟨d, rfl, .humanEvidence _ _ _ _ d s hnew (by rw [hs]; rfl) (by rw [hs]; rfl)
        hevidence hdb⟩
  · next d db1 hr =>
    cases h
    rcases createEvidenceSubmissionDocument_ok hr with ⟨x, -, hdb⟩ | ⟨x, s, hx, -⟩
    · exact .inl ⟨by simp, hdb⟩
    · cases hx

theorem runCompletion_humanPolicy {connection : AgentConnectionContext} {policyId : PolicyId}
    {c : Completion} (ht : a.task = .humanPolicy connection policyId)
    (h : runCompletion db a staged documentId messageId now = .ok (c, db')) :
    ((∀ d, c ≠ .created d) ∧ db' = db) ∨
    ∃ d, c = .created d ∧ CreatedBy db db' staged documentId now a.task d := by
  have hquiet : ∀ outcome, (∀ d, outcome ≠ .created d) →
      createPolicyDocument db (.forRequest a.requestId) messageId
        ⟨connection, policyId, documentId, staged.payload (.policy policyId), now⟩
          = .ok (outcome, db') → db' = db := by
    intro outcome hne hr
    rcases createPolicyDocument_ok hr with ⟨-, hdb⟩ | ⟨x, hx, -⟩
    · exact hdb
    · exact absurd hx (hne x)
  unfold runCompletion at h
  rw [ht] at h ⊢
  dsimp only at h
  split at h
  · cases h
  · next d db1 hr =>
    cases h
    rcases createPolicyDocument_ok hr with ⟨hne, -⟩ | ⟨x, hx, hnew, -, heligible, -, hdb, -⟩
    · exact absurd rfl (hne d)
    · cases hx
      exact .inr ⟨d, rfl, .humanPolicy _ _ d hnew heligible hdb⟩
  · next db1 hr =>
    cases h
    exact .inl ⟨by simp, hquiet _ (by simp) hr⟩
  · next db1 hr =>
    cases h
    exact .inl ⟨by simp, hquiet _ (by simp) hr⟩
  · next d db1 hr =>
    cases h
    exact .inl ⟨by simp, hquiet _ (by simp) hr⟩

theorem runCompletion_agentEvidence {grant : AgentEvidenceUploadGrant}
    {authority : AgentEvidenceUploadAuthority} {c : Completion}
    (ht : a.task = .agentEvidence grant authority)
    (h : runCompletion db a staged documentId messageId now = .ok (c, db')) :
    ((∀ d, c ≠ .created d) ∧ db' = db) ∨
    ∃ d, c = .created d ∧ CreatedBy db db' staged documentId now a.task d := by
  unfold runCompletion at h
  rw [ht] at h ⊢
  dsimp only at h
  split at h
  · cases h
  · next sid d db1 hr =>
    cases h
    rcases completeAgentEvidenceUpload_ok hr with ⟨hx, -⟩ | ⟨g, hg, hp, -, hlt, ⟨x, -, hx, -⟩ |
      ⟨x, s, g', hpending, hx, hnew, hs, hg', hvalid, hissued, hevidence, -, -, hdb, -⟩⟩
    · cases hx
    · cases hx
    · cases hx
      subst hg'
      exact .inr ⟨d, rfl, .agentEvidence grant g authority d s hg hp hlt hpending hnew
        (by rw [hs]; rfl) (by rw [hs]; rfl) hvalid hissued hevidence hdb⟩
  · next sid id db1 hr =>
    cases h
    rcases completeAgentEvidenceUpload_ok hr with ⟨-, hdb⟩ | ⟨g, -, -, -, -, ⟨x, -, -, hdb⟩ |
      ⟨x, s, g', -, hx, -⟩⟩
    · exact .inl ⟨by simp, hdb⟩
    · exact .inl ⟨by simp, hdb⟩
    · cases hx
  · next db1 hr =>
    cases h
    rcases completeAgentEvidenceUpload_ok hr with ⟨-, hdb⟩ | ⟨g, -, -, -, -, ⟨x, -, -, hdb⟩ |
      ⟨x, s, g', -, hx, -⟩⟩
    · exact .inl ⟨by simp, hdb⟩
    · exact .inl ⟨by simp, hdb⟩
    · cases hx

theorem runCompletion_agentPolicy {grant : AgentPolicyDocumentUploadGrant}
    {authority : AgentPolicyDocumentUploadAuthority} {c : Completion}
    (ht : a.task = .agentPolicy grant authority)
    (h : runCompletion db a staged documentId messageId now = .ok (c, db')) :
    ((∀ d, c ≠ .created d) ∧ db' = db) ∨
    ∃ d, c = .created d ∧ CreatedBy db db' staged documentId now a.task d := by
  have hquiet : ∀ outcome, (∀ d, outcome ≠ .created d) →
      completeAgentPolicyDocumentUpload db (.forRequest a.requestId) messageId
        ⟨grant, authority, grant.policyId, documentId, staged.payload (.policy grant.policyId), now⟩
          = .ok (outcome, db') → db' = db := by
    intro outcome hne hr
    rcases completeAgentPolicyDocumentUpload_ok hr with ⟨-, hdb⟩ | ⟨g, -, -, -, ⟨x, -, -, hdb⟩ |
      ⟨x, g', -, hx, -⟩⟩
    · exact hdb
    · exact hdb
    · exact absurd hx (hne x)
  unfold runCompletion at h
  rw [ht] at h ⊢
  dsimp only at h
  split at h
  · cases h
  · next d db1 hr =>
    cases h
    rcases completeAgentPolicyDocumentUpload_ok hr with ⟨hx | hx, -⟩ | ⟨g, hg, hp, hlt,
      ⟨x, -, hx, -⟩ | ⟨x, g', hpending, hx, hnew, hg', hvalid, hissued, heligible, -, hdb, -⟩⟩
    · cases hx
    · cases hx
    · cases hx
    · cases hx
      subst hg'
      exact .inr ⟨d, rfl, .agentPolicy grant g authority d hg hp hlt hpending hnew hvalid hissued
        heligible hdb⟩
  · next id db1 hr =>
    cases h
    exact .inl ⟨by simp, hquiet _ (by simp) hr⟩
  · next db1 hr =>
    cases h
    exact .inl ⟨by simp, hquiet _ (by simp) hr⟩
  · next db1 hr =>
    cases h
    exact .inl ⟨by simp, hquiet _ (by simp) hr⟩

/-- **The command of a call creates a document, or changes nothing.** -/
theorem runCompletion_ok {c : Completion}
    (h : runCompletion db a staged documentId messageId now = .ok (c, db')) :
    ((∀ d, c ≠ .created d) ∧ db' = db) ∨
    ∃ d, c = .created d ∧ CreatedBy db db' staged documentId now a.task d := by
  cases ht : a.task with
  | humanEvidence connection submissionId evidenceId coverage =>
    rw [← ht]
    exact runCompletion_humanEvidence ht h
  | humanPolicy connection policyId =>
    rw [← ht]
    exact runCompletion_humanPolicy ht h
  | agentEvidence grant authority =>
    rw [← ht]
    exact runCompletion_agentEvidence ht h
  | agentPolicy grant authority =>
    rw [← ht]
    exact runCompletion_agentPolicy ht h

end

/-- a call is sent to the document that its stored grant names -/
theorem runCompletion_known {db db' : DocumentDb} {a : UploadAttempt} {staged : StagedDocument}
    {documentId id : DocumentId} {messageId : Uuid} {now : Int}
    (h : runCompletion db a staged documentId messageId now = .ok (.known id, db')) :
    Names db a.task id := by
  unfold runCompletion at h
  dsimp only at h
  split at h
  · split at h <;> cases h
  · split at h <;> cases h
  · next grant authority ht =>
    rw [ht]
    split at h
    · cases h
    · cases h
    · next sid known db1 hr =>
      cases h
      rcases completeAgentEvidenceUpload_ok hr with ⟨hx, -⟩ | ⟨g, hg, -, -, -, ⟨x, hdoc, hx, -⟩ |
        ⟨x, s, g', -, hx, -⟩⟩
      · cases hx
      · cases hx
        obtain ⟨hmem, hid, -⟩ := DocumentDb.getGrant_ok hg
        exact ⟨g, hmem, hid, hdoc⟩
      · cases hx
    · cases h
  · next grant authority ht =>
    rw [ht]
    split at h
    · cases h
    · cases h
    · next known db1 hr =>
      cases h
      rcases completeAgentPolicyDocumentUpload_ok hr with ⟨hx | hx, -⟩ | ⟨g, hg, -, -,
        ⟨x, hdoc, hx, -⟩ | ⟨x, g', -, hx, -⟩⟩
      · cases hx
      · cases hx
      · cases hx
        obtain ⟨hmem, hid, -⟩ := DocumentDb.getGrant_ok hg
        exact ⟨g, hmem, hid, hdoc⟩
      · cases hx
    · cases h
    · cases h

/-- what a completing step does to tables and creations -/
inductive CompleteCases (w w' : UploadWorld) (a : UploadAttempt) (staged : StagedDocument)
    (documentId : DocumentId) (messageId : Uuid) (now : Int) (fault : CommitFault) : Prop
  | quiet (answer : Except DocumentCommandError Completion) (hanswer : ∀ d, answer ≠ .ok (.created d))
      (hknown : ∀ id, answer = .ok (.known id) → Names w.db a.task id)
      (h : w' = w.put { a with phase := afterCompletion a.task answer })
  | created (d : Document) (db' : DocumentDb)
      (hrun : runCompletion w.db a staged documentId messageId now = .ok (.created d, db'))
      (hby : CreatedBy w.db db' staged documentId now a.task d)
      (answer : Except DocumentCommandError Completion)
      (hanswer : fault = .none ∧ answer = .ok (.created d) ∨
        fault = .lostAcknowledgement ∧ answer = .error (.repository .database))
      (h : w' = { w.put { a with phase := afterCompletion a.task answer } with
        db := db', created := w.created ++ [⟨a.id, a.task, d, now⟩] })

/-- **A completing step creates a document, or changes nothing but its call.** -/
theorem complete_cases (w : UploadWorld) (a : UploadAttempt) (staged : StagedDocument)
    (documentId : DocumentId) (messageId : Uuid) (now : Int) (fault : CommitFault) :
    CompleteCases w (w.complete a staged documentId messageId now fault) a staged documentId messageId
      now fault := by
  unfold UploadWorld.complete
  cases hr : runCompletion w.db a staged documentId messageId now with
  | error e =>
    cases fault with
    | none => exact .quiet (.error e) (by simp) (by simp) (by simp [committed, settle, UploadWorld.creation]; rfl)
    | beforeCommit =>
      exact .quiet (.error (.repository .database)) (by simp) (by simp)
        (by simp [committed, settle, UploadWorld.creation]; rfl)
    | lostAcknowledgement =>
      exact .quiet (.error e) (by simp) (by simp) (by simp [committed, settle, UploadWorld.creation]; rfl)
  | ok p =>
    obtain ⟨c, db'⟩ := p
    rcases runCompletion_ok hr with ⟨hne, rfl⟩ | ⟨d, rfl, hby⟩
    · have hcreation : ∀ f, UploadWorld.creation a now f (.ok (c, w.db)) = [] := by
        intro f
        cases f with
        | none =>
          cases c with
          | created d => exact absurd rfl (hne d)
          | replayed d => rfl
          | known id => rfl
          | refused r => rfl
        | beforeCommit => rfl
        | lostAcknowledgement =>
          cases c with
          | created d => exact absurd rfl (hne d)
          | replayed d => rfl
          | known id => rfl
          | refused r => rfl
      dsimp only
      rw [hcreation]
      cases fault with
      | none =>
        refine .quiet (.ok c) ?_ ?_ (by simp [committed, settle]; rfl)
        · intro d hc
          exact hne d (Except.ok.inj hc)
        · intro id hc
          rw [Except.ok.inj hc] at hr
          exact runCompletion_known hr
      | beforeCommit =>
        exact .quiet (.error (.repository .database)) (by simp) (by simp) (by simp [committed, settle]; rfl)
      | lostAcknowledgement =>
        exact .quiet (.error (.repository .database)) (by simp) (by simp) (by simp [committed, settle]; rfl)
    · cases fault with
      | none => exact .created d db' hr hby (.ok (.created d)) (.inl ⟨rfl, rfl⟩) rfl
      | beforeCommit =>
        exact .quiet (.error (.repository .database)) (by simp) (by simp)
          (by simp [committed, settle, UploadWorld.creation]; rfl)
      | lostAcknowledgement =>
        exact .created d db' hr hby (.error (.repository .database)) (.inr ⟨rfl, rfl⟩) rfl

/-- all that one step can do to tables and creations -/
inductive TablesMove (w w' : UploadWorld) : Prop
  | same (hdb : w'.db = w.db) (hc : w'.created = w.created) : TablesMove w w'
  | created (a : UploadAttempt) (staged : StagedDocument) (documentId : DocumentId) (now : Int)
      (d : Document) (ha : w.attempts.get? a.id = some a) (hphase : a.phase = .staged)
      (hs : a.staged = some staged) (hnew : NewDocumentId w.db documentId)
      (hby : CreatedBy w.db w'.db staged documentId now a.task d)
      (hc : w'.created = w.created ++ [⟨a.id, a.task, d, now⟩]) : TablesMove w w'
  | commanded (effect : DocumentEffect) (hmove : DocumentMove w.db w'.db effect)
      (hnot : ∀ d, effect ≠ .created d)
      (hdb : w'.db = { w.db with documents := w'.db.documents, outbox := w'.db.outbox })
      (hc : w'.created = w.created) : TablesMove w w'
  | housekept (change : Housekeeping) (hk : w.db.housekeep change = some w'.db)
      (hc : w'.created = w.created) : TablesMove w w'

theorem UploadMove.tables {e : UploadEvent} {w w' : UploadWorld} (hm : UploadMove e w w') :
    TablesMove w w' := by
  cases hm with
  | refused h => exact .same (by rw [h]) (by rw [h])
  | began a ids hnew hstaged hbegins hids h => exact .same (by rw [h]) (by rw [h])
  | phase a phase uploadIds ha hphase h => exact .same (by rw [h]; rfl) (by rw [h]; rfl)
  | staged a uploadId file staged ha hphase hnew hs h =>
    exact .same (by rw [h]; rfl) (by rw [h]; rfl)
  | deleted a staged result ha hphase hs h => exact .same (by rw [h]; rfl) (by rw [h]; rfl)
  | completed a staged documentId messageId now fault he ha hphase hs hnew h =>
    rw [h]
    cases complete_cases w a staged documentId messageId now fault with
    | quiet answer hanswer hknown h => exact .same (by rw [h]; rfl) (by rw [h]; rfl)
    | created d db' hrun hby answer hanswer h =>
      rw [h]
      exact .created a staged documentId now d ha hphase hs hnew hby rfl
  | commanded db' effect hmove hnot hdb h =>
    subst h
    exact .commanded effect hmove hnot hdb rfl
  | housekept db' change ids hk hids h =>
    subst h
    exact .housekept change hk rfl

/-! ## Commands on stored documents -/

/-- a move changes key, status or archiving only -/
theorem sameFile_command {d0 d : Document} (h : d0.SameFile d) (key : String)
    (status : DocumentUploadStatus) (archived : Bool) :
    d0.SameFile (Document.toRow
      { d with objectKey := key, uploadStatus := status, archived := archived }) := by
  unfold Document.SameFile at h ⊢
  rw [h]
  simp [Document.toRow]

theorem continues_move {db db' : DocumentDb} {effect : DocumentEffect}
    (h : DocumentMove db db' effect) (hnot : ∀ d, effect ≠ .created d) :
    Continues db.documents db'.documents := by
  cases h with
  | unchanged hd =>
    rw [hd]
    exact continues_refl _
  | created d => exact absurd rfl (hnot d)
  | scanned d result ha hstatus hm =>
    rw [hm.documents]
    exact continues_upsert hm.mem rfl fun d0 h => sameFile_command h d.objectKey _ d.archived
  | finalized d key ha hstatus hm =>
    rw [hm.documents]
    exact continues_upsert hm.mem rfl fun d0 h => sameFile_command h key _ d.archived
  | archived d ha ht hm =>
    rw [hm.documents]
    exact continues_upsert hm.mem rfl fun d0 h => sameFile_command h d.objectKey d.uploadStatus true

/-- the upload of a document is not over -/
def Document.waiting (d : Document) : Bool :=
  d.uploadStatus = .pendingUpload || d.uploadStatus = .finalizing

/-- what a command keeps of the document it changes: a document whose upload is not over was not over
before, under the same key -/
structure Document.Precedes (d d' : Document) : Prop where
  identity : d'.identity = d.identity
  workspaceId : d'.workspaceId = d.workspaceId
  waiting : d'.waiting = true → d.waiting = true ∧ d'.objectKey = d.objectKey

theorem Document.Precedes.refl (d : Document) : d.Precedes d := ⟨rfl, rfl, fun h => ⟨h, rfl⟩⟩

theorem precedes_moved {db db' : DocumentDb} {d d' : Document} (hm : Moved db db' d d')
    (hp : d.Precedes d'.toRow) :
    ∀ x' ∈ db'.documents.rows, ∃ x ∈ db.documents.rows, x.Precedes x' := by
  intro x' hx'
  rw [hm.documents] at hx'
  rcases Table.mem_upsert.mp hx' with rfl | ⟨hx, -⟩
  · exact ⟨d, hm.mem, hp⟩
  · exact ⟨x', hx, .refl x'⟩

theorem precedes_move {db db' : DocumentDb} {effect : DocumentEffect}
    (h : DocumentMove db db' effect) (hnot : ∀ d, effect ≠ .created d) :
    ∀ x' ∈ db'.documents.rows, ∃ x ∈ db.documents.rows, x.Precedes x' := by
  cases h with
  | unchanged hd =>
    intro x' hx'
    rw [hd] at hx'
    exact ⟨x', hx', .refl x'⟩
  | created d => exact absurd rfl (hnot d)
  | scanned d result ha hstatus hm =>
    exact precedes_moved hm ⟨rfl, rfl, fun _ => ⟨by simp [Document.waiting, hstatus], rfl⟩⟩
  | finalized d key ha hstatus hm =>
    refine precedes_moved hm ⟨rfl, rfl, fun h => ?_⟩
    simp [Document.waiting, Document.toRow] at h
  | archived d ha ht hm => exact precedes_moved hm ⟨rfl, rfl, fun h => ⟨h, rfl⟩⟩

end Proofplane
