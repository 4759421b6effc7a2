import Proofplane.Uploads.Owners

/-!
# A grant is used once, by whatever calls

* `Makers`             the call that created a document is past its command, and is never answered
                       with a refusal;
* `CompletesOnce`      what holds of the grants of one kind in a state: one document at most, the
                       declared one, named for ever, replayed to every later call;
* `CleansOwn`          a call deletes no staged object but its own;
* `LeavesAlone`        a call that creates nothing changes no table;
* `upload_grants_complete_once`   **all of this in every state of every run**.
-/

namespace Proofplane
open Base

/-! ## The call that made a document -/

/-- the answers of a call that was turned away -/
def UploadResult.refusal : UploadResult → Bool
  | .unavailable => true
  | .currentDocument => true
  | .payloadTooLarge => true
  | .rejected _ => true
  | _ => false

/-- where a call can be after its document was created -/
def UploadPhase.afterCreation : UploadPhase → Bool
  | .reconciling => true
  | .reconcilingDocument _ => true
  | .deleting r => !r.refusal
  | .finished r => !r.refusal
  | _ => false

/-- every document that was created has its call, which is past its command -/
def Makers (attempts : Table UploadAttempt.id) (created : List UploadCreation) : Prop :=
  ∀ c ∈ created, ∃ a ∈ attempts.rows, a.id = c.attempt ∧ a.task = c.task ∧
    a.phase.afterCreation = true

theorem afterCreation_reconcileGrant (db : DocumentDb) (g : AgentPolicyDocumentUploadGrant)
    (authority : AgentPolicyDocumentUploadAuthority) :
    (reconcileGrant db g authority).afterCreation = true := by
  unfold reconcileGrant
  split
  · rfl
  · rfl
  · split
    · rfl
    · split
      · rfl
      · rfl

theorem afterCreation_reconcileDocument (db : DocumentDb) (task : UploadTask) (s : StagedDocument)
    (id : DocumentId) : (reconcileDocument db task s id).afterCreation = true := by
  unfold reconcileDocument
  split
  · rfl
  · split
    · rfl
    · rfl

/-- a call that has created its document goes on so -/
theorem PhaseMove.afterCreation {db : DocumentDb} {a : UploadAttempt} {phase : UploadPhase}
    (hm : PhaseMove db a phase) (h : a.phase.afterCreation = true) : phase.afterCreation = true := by
  cases hm with
  | checked grant hp ok =>
    rw [hp] at h
    cases h
  | unstaged hp =>
    rw [hp] at h
    cases h
  | abandoned hp htask =>
    rw [hp] at h
    cases h
  | loaded documentId hp ok =>
    rw [hp] at h
    cases h
  | reconciled grant authority hp htask ok =>
    cases ok with
    | false => rfl
    | true => exact afterCreation_reconcileGrant db grant authority
  | reconciledDocument documentId staged hp hs ok =>
    cases ok with
    | false => rfl
    | true => exact afterCreation_reconcileDocument db a.task staged documentId
  | undeleted result result' hp hr =>
    rw [hp] at h
    rcases hr with rfl | rfl
    · exact h
    · rfl
  | crashed hp => rfl

theorem afterCreation_created (task : UploadTask) (d : Document) (fault : CommitFault)
    {answer : Except DocumentCommandError Completion}
    (h : fault = .none ∧ answer = .ok (.created d) ∨
      fault = .lostAcknowledgement ∧ answer = .error (.repository .database)) :
    (afterCompletion task answer).afterCreation = true := by
  rcases h with ⟨-, rfl⟩ | ⟨-, rfl⟩
  · rfl
  · cases task with
    | humanEvidence connection submissionId evidenceId coverage => rfl
    | humanPolicy connection policyId => rfl
    | agentEvidence grant authority => rfl
    | agentPolicy grant authority => rfl

section
variable {w w' : UploadWorld} {e : UploadEvent}

/-- one call has changed, and it is no maker or still one -/
theorem Makers.upsert {attempts : Table UploadAttempt.id} {created : List UploadCreation}
    (h : Makers attempts created) {a a' : UploadAttempt} (ha : attempts.get? a.id = some a)
    (hid : a'.id = a.id) (ht : a'.task = a.task)
    (hp : a.phase.afterCreation = true → a'.phase.afterCreation = true) :
    Makers (attempts.upsert a') created := by
  intro c hc
  obtain ⟨x, hx, hxid, hxt, hxp⟩ := h c hc
  by_cases hxa : x.id = a'.id
  · have heq : x = a := attempts.eq_of_key hx (Table.get?_mem ha) (hxa.trans hid)
    subst heq
    exact ⟨a', Table.mem_upsert.mpr (.inl rfl), hid.trans hxid, ht.trans hxt, hp hxp⟩
  · exact ⟨x, Table.mem_upsert.mpr (.inr ⟨hx, hxa⟩), hxid, hxt, hxp⟩

theorem makers_move (h : Makers w.attempts w.created) (hm : UploadMove e w w') :
    Makers w'.attempts w'.created := by
  cases hm with
  | refused h' =>
    subst h'
    exact h
  | began a ids hnew hstaged hbegins hids h' =>
    subst h'
    intro c hc
    obtain ⟨x, hx, rest⟩ := h c hc
    exact ⟨x, Table.mem_upsert.mpr (.inr ⟨hx, Table.get?_eq_none_iff.mp hnew x hx⟩), rest⟩
  | phase a phase uploadIds ha hphase h' =>
    subst h'
    exact h.upsert ha rfl rfl hphase.afterCreation
  | staged a uploadId file staged ha hphase hnew hs h' =>
    subst h'
    refine h.upsert ha rfl rfl ?_
    intro hp
    rw [hphase] at hp
    cases hp
  | completed a staged documentId messageId now fault he ha hphase hs hnew h' =>
    subst h'
    -- the call was no maker before
    have hput : ∀ phase, Makers (w.attempts.upsert { a with phase }) w.created := by
      intro phase
      refine h.upsert ha rfl rfl ?_
      intro hp
      rw [hphase] at hp
      cases hp
    cases complete_cases w a staged documentId messageId now fault with
    | quiet answer hanswer hknown h' =>
      rw [h']
      exact hput _
    | created d db' hrun hby answer hanswer h' =>
      rw [h']
      intro c hc
      rcases List.mem_append.mp hc with hold | hnew'
      · exact hput _ c hold
      · rw [List.mem_singleton] at hnew'
        subst hnew'
        exact ⟨_, Table.mem_upsert.mpr (.inl rfl), rfl, rfl,
          afterCreation_created a.task d fault hanswer⟩
  | deleted a staged result ha hphase hs h' =>
    subst h'
    refine h.upsert ha rfl rfl ?_
    intro hp
    rw [hphase] at hp
    exact hp
  | commanded db' effect hmove hnot hdb h' =>
    subst h'
    exact h
  | housekept db' change ids hk hids h' =>
    subst h'
    exact h

theorem makers_run {maxDocumentBytes : Nat} {es : List UploadEvent}
    (h : run (uploadStep maxDocumentBytes) .empty es = some w) : Makers w.attempts w.created :=
  run_inv (fun w => Makers w.attempts w.created)
    (fun _ _ _ hi hstep => makers_move hi (uploadStep_move hstep))
    (fun _ hc => absurd hc List.not_mem_nil) h

/-! ## Later calls -/

/-- the completion of an evidence upload on a used grant reports its document -/
theorem completeAgentEvidenceUpload_replays {db : DocumentDb} (metadata : ExecutionMetadata)
    (messageId : Uuid) (command : CompleteAgentEvidenceUpload) {g : AgentEvidenceUploadGrant}
    {id : DocumentId}
    (hg : db.getEvidenceGrant command.grant.id command.grant.workspaceId = .ok (some g))
    (hp : Presented g command.authority command.document (.evidenceSubmission g.submissionId))
    (hs : command.stagedSubmissionId = g.submissionId) (hdoc : g.documentId = some id)
    (hlt : command.completedAt < g.expiresAt) :
    completeAgentEvidenceUpload db metadata messageId command
      = .ok (.replayed g.submissionId id, db) := by
  have hguard : ¬ (g.matchesAuthority command.authority ≠ .ok () ∨
      g.validateStagedFile command.document.contentLength command.document.checksumSha256
        ≠ .ok () ∨
      command.stagedSubmissionId ≠ g.submissionId ∨
      command.document.owner ≠ .evidenceSubmission g.submissionId) := by
    simp only [not_or, not_not]
    exact ⟨UploadGrant.matchesAuthority_ok.mpr hp.authority,
      UploadGrant.validateStagedFile_ok.mpr hp.received, hs, hp.owner⟩
  unfold completeAgentEvidenceUpload
  dsimp only
  rw [hg]
  dsimp only
  unfold completeEvidenceGrant
  rw [if_neg hguard, UploadGrant.completedDocumentAt_ok.mpr ⟨hlt, hdoc⟩]

/-- the completion of a policy upload on a used grant reports its document -/
theorem completeAgentPolicyDocumentUpload_replays {db : DocumentDb} (metadata : ExecutionMetadata)
    (messageId : Uuid) (command : CompleteAgentPolicyDocumentUpload)
    {g : AgentPolicyDocumentUploadGrant} {id : DocumentId}
    (hg : db.getPolicyGrant command.grant.id command.grant.workspaceId = .ok (some g))
    (hp : Presented g command.authority command.document (.policy g.policyId))
    (hs : command.policyId = g.policyId) (hdoc : g.documentId = some id)
    (hlt : command.completedAt < g.expiresAt) :
    completeAgentPolicyDocumentUpload db metadata messageId command = .ok (.replayed id, db) := by
  have hguard : ¬ (g.matchesAuthority command.authority ≠ .ok () ∨
      g.validateStagedFile command.document.contentLength command.document.checksumSha256
        ≠ .ok () ∨
      command.policyId ≠ g.policyId ∨ command.document.owner ≠ .policy g.policyId) := by
    simp only [not_or, not_not]
    exact ⟨UploadGrant.matchesAuthority_ok.mpr hp.authority,
      UploadGrant.validateStagedFile_ok.mpr hp.received, hs, hp.owner⟩
  unfold completeAgentPolicyDocumentUpload
  dsimp only
  rw [hg]
  dsimp only
  unfold completePolicyGrant
  rw [if_neg hguard, UploadGrant.completedDocumentAt_ok.mpr ⟨hlt, hdoc⟩]

/-- an authority that was read with a grant is the stored grant's -/
theorem SameTerms.authority {K : UploadTarget} {g g' : UploadGrant K} (h : SameTerms g g') :
    g'.authority = g.authority := by
  rw [h]
  rfl

/-- the stored grant is found by what was read of it -/
theorem SameTerms.getGrant {K : UploadTarget} {grants : Table (UploadGrant.id (K := K))}
    (inconsistent : String) {grant g : UploadGrant K} (h : SameTerms grant g) (hg : g ∈ grants.rows)
    (hvalid : g.valid = true) :
    DocumentDb.getGrant grants inconsistent grant.id grant.workspaceId = .ok (some g) := by
  have hworkspace : g.workspaceId = grant.workspaceId := by rw [h]
  rw [← h.id, ← hworkspace]
  exact DocumentDb.getGrant_of_mem inconsistent hg hvalid

/-- what was staged for a grant as it was read is what the stored grant asks for -/
theorem SameTerms.presented {K : UploadTarget} {grant g : UploadGrant K} (h : SameTerms grant g)
    {authority : UploadAuthority K} (hauth : authority = grant.authority) {staged : StagedDocument}
    (hreceived : grant.declaration.Received staged.contentLength staged.checksumSha256)
    {owner owner' : DocumentOwner} (howner : owner = owner') :
    Presented g authority (staged.payload owner) owner' where
  authority := hauth.trans h.authority.symm
  received := by
    rw [h.declaration]
    exact hreceived
  owner := howner

/-- the command of a call with a staged file reports the document of a used evidence grant -/
theorem runCompletion_evidence_replays (hi : UploadInv w) {a : UploadAttempt} (ha : AttemptOk w a)
    {grant g : AgentEvidenceUploadGrant} {authority : AgentEvidenceUploadAuthority}
    (ht : a.task = .agentEvidence grant authority) (hphase : a.phase = .staged)
    {staged : StagedDocument} (hs : a.staged = some staged) (hg : g ∈ w.db.evidenceGrants.rows)
    (hid : g.id = grant.id) {id : DocumentId} (hdoc : g.documentId = some id) {now : Int}
    (hlt : now < g.expiresAt) (documentId : DocumentId) (messageId : Uuid) :
    runCompletion w.db a staged documentId messageId now = .ok (.known id, w.db) := by
  obtain ⟨hauth, hstored⟩ := ha.evidence grant authority ht
  have hterms := SameTerms.stored hstored hg hid
  have hsid : g.submissionId = grant.submissionId := by rw [hterms]; rfl
  have hread : w.db.getEvidenceGrant grant.id grant.workspaceId = .ok (some g) :=
    hterms.getGrant _ hg (hi.evidence.valid g hg)
  have hreceived := ha.received hphase staged hs grant.declaration (by rw [ht]; rfl)
  have hp : Presented g authority (staged.payload (.evidenceSubmission grant.submissionId))
      (.evidenceSubmission g.submissionId) := hterms.presented hauth hreceived (by rw [hsid])
  have hr := completeAgentEvidenceUpload_replays (.forRequest a.requestId) messageId
    ⟨grant, authority, grant.submissionId, documentId,
      staged.payload (.evidenceSubmission grant.submissionId), now⟩ hread hp hsid.symm hdoc hlt
  unfold runCompletion
  rw [ht]
  dsimp only
  rw [hr]

/-- the command of a call with a staged file reports the document of a used policy grant -/
theorem runCompletion_policy_replays (hi : UploadInv w) {a : UploadAttempt} (ha : AttemptOk w a)
    {grant g : AgentPolicyDocumentUploadGrant} {authority : AgentPolicyDocumentUploadAuthority}
    (ht : a.task = .agentPolicy grant authority) (hphase : a.phase = .staged)
    {staged : StagedDocument} (hs : a.staged = some staged) (hg : g ∈ w.db.policyGrants.rows)
    (hid : g.id = grant.id) {id : DocumentId} (hdoc : g.documentId = some id) {now : Int}
    (hlt : now < g.expiresAt) (documentId : DocumentId) (messageId : Uuid) :
    runCompletion w.db a staged documentId messageId now = .ok (.known id, w.db) := by
  obtain ⟨hauth, hstored⟩ := ha.policy grant authority ht
  have hterms := SameTerms.stored hstored hg hid
  have hpid : g.policyId = grant.policyId := by rw [hterms]; rfl
  have hread : w.db.getPolicyGrant grant.id grant.workspaceId = .ok (some g) :=
    hterms.getGrant _ hg (hi.policy.valid g hg)
  have hreceived := ha.received hphase staged hs grant.declaration (by rw [ht]; rfl)
  have hp : Presented g authority (staged.payload (.policy grant.policyId)) (.policy g.policyId) :=
    hterms.presented hauth hreceived (by rw [hpid])
  have hr := completeAgentPolicyDocumentUpload_replays (.forRequest a.requestId) messageId
    ⟨grant, authority, grant.policyId, documentId, staged.payload (.policy grant.policyId), now⟩
    hread hp hpid.symm hdoc hlt
  unfold runCompletion
  rw [ht]
  dsimp only
  rw [hr]

/-- a call that comes with a used grant, in time and as declared, is sent to its document -/
theorem openUpload_used {K : UploadTarget} [DecidableEq K.Ref] {maxDocumentBytes : Nat}
    {get : Id K.idKind → WorkspaceId → Except RepositoryError (Option (UploadGrant K))}
    {g : UploadGrant K} (hget : get g.id g.workspaceId = .ok (some g)) {now : Int}
    (hmax : g.declaration.expectedContentLength ≤ maxDocumentBytes) (hlt : now < g.expiresAt) :
    openUpload maxDocumentBytes get g.id g.authority g.declaration.contentType
      g.declaration.expectedContentLength now = .ok (g, g.documentId) := by
  have hauth : g.matchesAuthority g.authority = .ok () := UploadGrant.matchesAuthority_ok.mpr rfl
  have hfile : g.validateDeclaredFile g.declaration.contentType g.declaration.expectedContentLength
      = .ok () := by
    simp [UploadGrant.validateDeclaredFile, DeclaredUploadFile.validateDeclared, Except.mapError]
  unfold openUpload
  rw [if_neg (by simp [UploadGrant.authority])]
  have hget' : get g.id g.authority.workspaceId = .ok (some g) := hget
  rw [hget']
  dsimp only
  rw [if_neg (by simp [hauth]), if_neg (by omega), hfile]
  dsimp only
  rw [UploadGrant.completedDocumentAt_ok.mpr ⟨hlt, rfl⟩]

/-! ## The whole -/

/-- how a world of uploads shows one kind of grants -/
structure UploadKind (K : UploadTarget) where
  view : UploadWorld → GrantView K
  task : UploadGrant K → UploadAuthority K → UploadTask
  opens : Nat → Uuid → Id K.idKind → UploadAuthority K → String → Nat → Int → UploadEvent

def evidenceUploads : UploadKind agentEvidenceUpload :=
  ⟨UploadWorld.evidenceView, .agentEvidence, .openAgentEvidence⟩

def policyUploads : UploadKind agentPolicyDocumentUpload :=
  ⟨UploadWorld.policyView, .agentPolicy, .openAgentPolicy⟩

structure CompletesOnce {K : UploadTarget} (kind : UploadKind K) (maxDocumentBytes : Nat)
    (w : UploadWorld) : Prop where
  /-- at most one call creates a document with a grant -/
  once : ((kind.view w).creations.map GrantCreation.grantId).Nodup
  /-- a grant is completed exactly when there is a document made with it, and names it -/
  completed : ∀ g ∈ (kind.view w).grants.rows, ∀ id, g.documentId = some id ↔
    ∃ c ∈ (kind.view w).creations, c.grantId = g.id ∧ c.document.id = id ∧
      ∃ d ∈ w.db.documents.rows, d.id = id ∧ Document.SameFile c.document d
  /-- it is the declared one, made in time and with the authority of the grant -/
  honoured : ∀ c ∈ (kind.view w).creations, ∃ g ∈ (kind.view w).grants.rows, Honours g c
  /-- a completed grant never changes again -/
  forever : ∀ es w', run (uploadStep maxDocumentBytes) w es = some w' →
    ∀ g ∈ (kind.view w).grants.rows, ∀ id, g.documentId = some id → g ∈ (kind.view w').grants.rows
  /-- a call that comes later in time is sent to that document -/
  reopened : ∀ g ∈ (kind.view w).grants.rows, ∀ id, g.documentId = some id →
    ∀ attempt requestId now w', g.declaration.expectedContentLength ≤ maxDocumentBytes →
      now < g.expiresAt →
      uploadStep maxDocumentBytes w (kind.opens attempt requestId g.id g.authority
        g.declaration.contentType g.declaration.expectedContentLength now) = some w' →
      w' = w.put ⟨attempt, requestId, kind.task g g.authority, none, .loading id⟩
  /-- and so is a call that had staged its file before -/
  replayed : ∀ a ∈ w.attempts.rows, ∀ grant authority, a.task = kind.task grant authority →
    a.phase = .staged → ∀ g ∈ (kind.view w).grants.rows, g.id = grant.id → ∀ id,
      g.documentId = some id → ∀ documentId messageId now w', now < g.expiresAt →
      uploadStep maxDocumentBytes w (.complete a.id documentId messageId now .none) = some w' →
      w' = w.put { a with phase := .loading id }
  /-- which answers with the document that the grant names, as a replay -/
  loaded : ∀ a ∈ w.attempts.rows, ∀ grant authority, a.task = kind.task grant authority →
    ∀ id, a.phase = .loading id →
      (∃ g ∈ (kind.view w).grants.rows, g.id = grant.id ∧ g.documentId = some id) ∧
      ∃ d ∈ w.db.documents.rows, d.id = id ∧
        uploadStep maxDocumentBytes w (.load a.id true) = some (w.put { a with
          phase := if a.staged = none then .finished (.replayed d) else .deleting (.replayed d) })

/-- the only staged object that a step takes away is that of the call that deletes it, and no other
call has staged under its key -/
def CleansOwn (maxDocumentBytes : Nat) (w : UploadWorld) : Prop :=
  ∀ e w', uploadStep maxDocumentBytes w e = some w' → ∀ key ∈ w.quarantine, key ∉ w'.quarantine →
    ∃ a ∈ w.attempts.rows, ∃ s r, a.staged = some s ∧ s.objectKey = key ∧ a.phase = .deleting r ∧
      w'.attempts = w.attempts.upsert { a with phase := .finished r } ∧
      ∀ b ∈ w.attempts.rows, ∀ t, b.staged = some t → t.objectKey = key → b = a

/-- the call that an event is a step of -/
def UploadEvent.attempt? : UploadEvent → Option Nat
  | .openHumanEvidence attempt _ _ _ _ _ => some attempt
  | .openHumanPolicy attempt _ _ _ => some attempt
  | .openAgentEvidence attempt _ _ _ _ _ _ => some attempt
  | .openAgentPolicy attempt _ _ _ _ _ _ => some attempt
  | .checkPolicy attempt _ => some attempt
  | .stage attempt _ _ _ => some attempt
  | .abandon attempt => some attempt
  | .complete attempt _ _ _ _ => some attempt
  | .load attempt _ => some attempt
  | .reconcile attempt _ => some attempt
  | .delete attempt _ => some attempt
  | .crash attempt => some attempt
  | .scan _ _ _ _ => none
  | .finalize _ _ => none
  | .archive _ _ => none
  | .housekeeping _ => none

/-- over a whole run: a call that was turned away has created nothing, and a call that has created
nothing has changed no table in any of its steps -/
structure LeavesAlone (maxDocumentBytes : Nat) (es : List UploadEvent) (w : UploadWorld) : Prop where
  refused : ∀ a ∈ w.attempts.rows, ∀ r, a.phase = .finished r ∨ a.phase = .deleting r →
    r.refusal = true → ∀ c ∈ w.created, c.attempt ≠ a.id
  unchanged : ∀ before e after w1 w2 attempt, es = before ++ e :: after →
    run (uploadStep maxDocumentBytes) .empty before = some w1 →
    uploadStep maxDocumentBytes w1 e = some w2 → e.attempt? = some attempt →
    (∀ c ∈ w.created, c.attempt ≠ attempt) → w2.db = w1.db

/-! ### One kind of grants -/

theorem grants_forever_evidence {maxDocumentBytes : Nat} {es : List UploadEvent} (hi : UploadInv w)
    (h : run (uploadStep maxDocumentBytes) w es = some w') {g : AgentEvidenceUploadGrant}
    (hg : g ∈ w.evidenceView.grants.rows) {id : DocumentId} (hdoc : g.documentId = some id) :
    g ∈ w'.evidenceView.grants.rows := by
  have hboth : UploadInv w' ∧ g ∈ w'.evidenceView.grants.rows := by
    refine run_inv (fun s => UploadInv s ∧ g ∈ s.evidenceView.grants.rows) ?_ ⟨hi, hg⟩ h
    rintro s e s' ⟨hs, hgs⟩ hstep
    have hm := uploadStep_move hstep
    exact ⟨hs.move hm, (evidence_move hs hm.tables).keeps hgs hdoc⟩
  exact hboth.2

theorem grants_forever_policy {maxDocumentBytes : Nat} {es : List UploadEvent} (hi : UploadInv w)
    (h : run (uploadStep maxDocumentBytes) w es = some w') {g : AgentPolicyDocumentUploadGrant}
    (hg : g ∈ w.policyView.grants.rows) {id : DocumentId} (hdoc : g.documentId = some id) :
    g ∈ w'.policyView.grants.rows := by
  have hboth : UploadInv w' ∧ g ∈ w'.policyView.grants.rows := by
    refine run_inv (fun s => UploadInv s ∧ g ∈ s.policyView.grants.rows) ?_ ⟨hi, hg⟩ h
    rintro s e s' ⟨hs, hgs⟩ hstep
    have hm := uploadStep_move hstep
    exact ⟨hs.move hm, (policy_move hs hm.tables).keeps hgs hdoc⟩
  exact hboth.2

/-- completed and made are the same -/
theorem GrantInv.completed_iff {K : UploadTarget} {v : GrantView K} (hi : GrantInv v)
    {g : UploadGrant K} (hg : g ∈ v.grants.rows) (id : DocumentId) :
    g.documentId = some id ↔ ∃ c ∈ v.creations, c.grantId = g.id ∧ c.document.id = id ∧
      ∃ d ∈ v.documents.rows, d.id = id ∧ Document.SameFile c.document d := by
  constructor
  · intro hdoc
    obtain ⟨c, hc, hgrant, hid⟩ := hi.recorded g hg id hdoc
    obtain ⟨d, hd, hsame⟩ := hi.documents c hc
    refine ⟨c, hc, hgrant, hid, d, hd, ?_, hsame⟩
    rw [← hid, hsame]
    rfl
  · rintro ⟨c, hc, hgrant, hid, -⟩
    obtain ⟨g', hg', hh⟩ := hi.honoured c hc
    have heq : g' = g := v.grants.eq_of_key hg' hg (hh.grantId.trans hgrant)
    rw [← heq, ← hid]
    unfold UploadGrant.documentId
    rw [hh.lifecycle]

/-- the event of a completion is that of a call with a staged file -/
theorem uploadStep_complete {maxDocumentBytes : Nat} {a : UploadAttempt} (ha : a ∈ w.attempts.rows)
    {documentId : DocumentId} {messageId : Uuid} {now : Int}
    {fault : CommitFault}
    (h : uploadStep maxDocumentBytes w (.complete a.id documentId messageId now fault) = some w') :
    ∃ staged, a.staged = some staged ∧ w' = w.complete a staged documentId messageId now fault := by
  simp only [uploadStep] at h
  split at h
  · cases h
  · rw [Table.get?_of_mem ha, Option.bind_some] at h
    split at h
    · next staged hp hs =>
      cases h
      exact ⟨staged, hs, rfl⟩
    · cases h

/-- what a completion does when its command reports a document that was there -/
theorem complete_known {a : UploadAttempt} {staged : StagedDocument} {documentId id : DocumentId}
    {messageId : Uuid} {now : Int}
    (h : runCompletion w.db a staged documentId messageId now = .ok (.known id, w.db)) :
    w.complete a staged documentId messageId now .none = w.put { a with phase := .loading id } := by
  unfold UploadWorld.complete
  rw [h]
  simp [committed, settle, UploadWorld.creation, afterCompletion, UploadWorld.put]

theorem uploadStep_load {maxDocumentBytes : Nat} {a : UploadAttempt} (ha : a ∈ w.attempts.rows)
    {id : DocumentId} (hphase : a.phase = .loading id) {d : Document}
    (hload : loadCompleted w.db a.task id = some d) :
    uploadStep maxDocumentBytes w (.load a.id true) = some (w.put { a with
      phase := if a.staged = none then .finished (.replayed d) else .deleting (.replayed d) }) := by
  simp only [uploadStep]
  rw [Table.get?_of_mem ha, Option.bind_some]
  unfold UploadWorld.loadStep
  rw [hphase]
  simp only [hload, if_true, Option.map_some]
  cases hs : a.staged with
  | none => simp [loadedPhase]
  | some s => simp [loadedPhase]

theorem completesOnce_evidence (maxDocumentBytes : Nat) (hi : UploadInv w) (ho : OwnersInv w) :
    CompletesOnce evidenceUploads maxDocumentBytes w where
  once := hi.evidence.once
  completed := fun _ hg id => hi.evidence.completed_iff hg id
  honoured := hi.evidence.honoured
  forever := fun _ _ h _ hg _ hdoc => grants_forever_evidence hi h hg hdoc
  reopened := by
    intro g hg id hdoc attempt requestId now w' hmax hlt hstep
    have hget : w.db.getEvidenceGrant g.id g.workspaceId = .ok (some g) :=
      DocumentDb.getGrant_of_mem _ hg (hi.evidence.valid g hg)
    change uploadStep maxDocumentBytes w (.openAgentEvidence _ _ _ _ _ _ _) = _ at hstep
    simp only [uploadStep, UploadWorld.beginOpened] at hstep
    rw [openUpload_used hget hmax hlt, hdoc] at hstep
    exact (begin_ok hstep).2
  replayed := by
    intro a ha grant authority ht hphase g hg hid id hdoc documentId messageId now w' hlt hstep
    obtain ⟨staged, hs, rfl⟩ := uploadStep_complete ha hstep
    exact complete_known (runCompletion_evidence_replays hi (hi.attempts a ha) ht hphase hs hg hid hdoc
      hlt documentId messageId)
  loaded := by
    intro a ha grant authority ht id hphase
    have hnames := (hi.attempts a ha).loading id hphase
    obtain ⟨d, hd, hload, hid⟩ := load_named hi ho (hi.attempts a ha) hnames
    rw [ht] at hnames
    exact ⟨hnames, d, hd, hid, uploadStep_load ha hphase hload⟩

theorem completesOnce_policy (maxDocumentBytes : Nat) (hi : UploadInv w) (ho : OwnersInv w) :
    CompletesOnce policyUploads maxDocumentBytes w where
  once := hi.policy.once
  completed := fun _ hg id => hi.policy.completed_iff hg id
  honoured := hi.policy.honoured
  forever := fun _ _ h _ hg _ hdoc => grants_forever_policy hi h hg hdoc
  reopened := by
    intro g hg id hdoc attempt requestId now w' hmax hlt hstep
    have hget : w.db.getPolicyGrant g.id g.workspaceId = .ok (some g) :=
      DocumentDb.getGrant_of_mem _ hg (hi.policy.valid g hg)
    change uploadStep maxDocumentBytes w (.openAgentPolicy _ _ _ _ _ _ _) = _ at hstep
    simp only [uploadStep, UploadWorld.beginOpened] at hstep
    rw [openUpload_used hget hmax hlt, hdoc] at hstep
    exact (begin_ok hstep).2
  replayed := by
    intro a ha grant authority ht hphase g hg hid id hdoc documentId messageId now w' hlt hstep
    obtain ⟨staged, hs, rfl⟩ := uploadStep_complete ha hstep
    exact complete_known (runCompletion_policy_replays hi (hi.attempts a ha) ht hphase hs hg hid hdoc
      hlt documentId messageId)
  loaded := by
    intro a ha grant authority ht id hphase
    have hnames := (hi.attempts a ha).loading id hphase
    obtain ⟨d, hd, hload, hid⟩ := load_named hi ho (hi.attempts a ha) hnames
    rw [ht] at hnames
    exact ⟨hnames, d, hd, hid, uploadStep_load ha hphase hload⟩

/-! ### All calls -/

theorem cleansOwn (maxDocumentBytes : Nat) (hi : UploadInv w) : CleansOwn maxDocumentBytes w := by
  intro e w' hstep key hkey hgone
  cases uploadStep_move hstep with
  | refused h =>
    rw [h] at hgone
    exact absurd hkey hgone
  | began a ids hnew hstaged hbegins hids h =>
    rw [h] at hgone
    exact absurd hkey hgone
  | phase a phase uploadIds ha hphase h =>
    rw [h] at hgone
    exact absurd hkey hgone
  | staged a uploadId file staged ha hphase hnew hs h =>
    rw [h] at hgone
    exact absurd (List.mem_cons_of_mem _ hkey) hgone
  | completed a staged documentId messageId now fault he ha hphase hs hnew h =>
    rw [h] at hgone
    exact absurd hkey hgone
  | commanded db' effect hmove hnot hdb h =>
    rw [h] at hgone
    exact absurd hkey hgone
  | housekept db' change ids hk hids h =>
    rw [h] at hgone
    exact absurd hkey hgone
  | deleted a staged result ha hphase hs h =>
    have hmem := Table.get?_mem ha
    have hkeyeq : staged.objectKey = key := by
      rw [h] at hgone
      by_contra hne
      apply hgone
      show key ∈ w.quarantine.filter _
      rw [List.mem_filter, decide_eq_true_eq]
      exact ⟨hkey, Ne.symm hne⟩
    refine ⟨a, hmem, staged, result, hs, hkeyeq, hphase, by rw [h]; rfl, ?_⟩
    intro b hb t ht htkey
    have hid := hi.distinct b hb a hmem t staged ht hs (htkey.trans hkeyeq.symm)
    exact w.attempts.eq_of_key hb hmem hid

/-- what a step of a call does to the tables: nothing, or the creation that is logged for it -/
theorem uploadStep_attempt {maxDocumentBytes : Nat} {e : UploadEvent} {attempt : Nat}
    (he : e.attempt? = some attempt) (h : uploadStep maxDocumentBytes w e = some w') :
    w'.db = w.db ∨ ∃ c ∈ w'.created, c.attempt = attempt := by
  have hbegin : ∀ {w0 : UploadWorld} {a}, w0.begin a = some w' → w'.db = w0.db := by
    intro w0 a hb
    rw [(begin_ok hb).2]
  cases e with
  | complete n documentId messageId now fault =>
    cases he
    simp only [uploadStep] at h
    split at h
    · cases h
    · obtain ⟨a, ha, hid, hf⟩ := attempt_of_bind h
      split at hf
      · next staged hp hs =>
        cases hf
        cases complete_cases w a staged documentId messageId now fault with
        | quiet answer hanswer hknown h' =>
          rw [h']
          exact .inl rfl
        | created d db' hrun hby answer hanswer h' =>
          rw [h']
          exact .inr ⟨_, List.mem_append_right _ List.mem_cons_self, hid⟩
      · cases hf
  | openHumanEvidence n requestId connection submissionId evidenceId coverage =>
    simp only [uploadStep] at h
    split at h
    · cases h
    · have hdb := hbegin h
      exact .inl hdb
  | openHumanPolicy n requestId connection policyId => exact .inl (hbegin h)
  | openAgentEvidence n requestId uploadId authority contentType contentLength now =>
    simp only [uploadStep, UploadWorld.beginOpened] at h
    split at h
    · cases h
      exact .inl rfl
    · exact .inl (hbegin h)
  | openAgentPolicy n requestId uploadId authority contentType contentLength now =>
    simp only [uploadStep, UploadWorld.beginOpened] at h
    split at h
    · cases h
      exact .inl rfl
    · exact .inl (hbegin h)
  | checkPolicy n ok =>
    obtain ⟨a, -, -, hf⟩ := attempt_of_bind h
    split at hf
    · cases hf
      exact .inl rfl
    · cases hf
  | stage n uploadId file ok =>
    simp only [uploadStep] at h
    split at h
    · cases h
    · obtain ⟨a, -, -, hf⟩ := attempt_of_bind h
      split at hf
      · cases hf
        unfold UploadWorld.stage
        dsimp only
        split
        · exact .inl rfl
        · exact .inl rfl
      · cases hf
  | abandon n =>
    obtain ⟨a, -, -, hf⟩ := attempt_of_bind h
    split at hf
    · cases hf
      exact .inl rfl
    · cases hf
      exact .inl rfl
    · cases hf
  | load n ok =>
    obtain ⟨a, -, -, hf⟩ := attempt_of_bind h
    obtain ⟨phase, -, rfl⟩ := Option.map_eq_some_iff.mp hf
    exact .inl rfl
  | reconcile n ok =>
    obtain ⟨a, -, -, hf⟩ := attempt_of_bind h
    obtain ⟨phase, -, rfl⟩ := Option.map_eq_some_iff.mp hf
    exact .inl rfl
  | delete n ok =>
    obtain ⟨a, -, -, hf⟩ := attempt_of_bind h
    split at hf
    · cases hf
      unfold UploadWorld.delete
      split
      · exact .inl rfl
      · split
        · exact .inl rfl
        · exact .inl rfl
    · cases hf
  | crash n =>
    obtain ⟨a, -, -, hf⟩ := attempt_of_bind h
    split at hf
    · cases hf
    · cases hf
      exact .inl rfl
  | scan command metadata messageId commits => cases he
  | finalize command commits => cases he
  | archive command commits => cases he
  | housekeeping change => cases he

theorem created_move (hm : TablesMove w w') {c : UploadCreation} (hc : c ∈ w.created) :
    c ∈ w'.created := by
  cases hm with
  | same hdb h =>
    rw [h]
    exact hc
  | created a staged documentId now d ha hphase hs hnew hby h =>
    rw [h]
    exact List.mem_append_left _ hc
  | commanded effect hmove hnot hdb h =>
    rw [h]
    exact hc
  | housekept change hk h =>
    rw [h]
    exact hc

theorem leavesAlone {maxDocumentBytes : Nat} {es : List UploadEvent}
    (h : run (uploadStep maxDocumentBytes) .empty es = some w) : LeavesAlone maxDocumentBytes es w where
  refused := by
    intro a ha r hphase hr c hc hid
    obtain ⟨x, hx, hxid, -, hxp⟩ := makers_run h c hc
    have heq : x = a := w.attempts.eq_of_key hx ha (hxid.trans hid)
    rw [heq] at hxp
    rcases hphase with hp | hp
    · simp [hp, UploadPhase.afterCreation, hr] at hxp
    · simp [hp, UploadPhase.afterCreation, hr] at hxp
  unchanged := by
    intro before e after w1 w2 attempt hes hbefore hstep he hnone
    rw [hes] at h
    obtain ⟨w1', hw1', hrest⟩ := run_append_some h
    rw [hbefore] at hw1'
    cases hw1'
    obtain ⟨w2', hw2', hafter⟩ := run_cons_some hrest
    rw [hstep] at hw2'
    cases hw2'
    rcases uploadStep_attempt he hstep with hsame | ⟨c, hc, hattempt⟩
    · exact hsame
    · have hcw : c ∈ w.created :=
        run_inv (fun s => c ∈ s.created)
          (fun _ _ _ hs hst => created_move (uploadStep_move hst).tables hs) hc hafter
      exact absurd hattempt (hnone c hcw)

/-- **A grant is used once**: in every state of every run of all upload paths, with any number of calls
in any order, expiring grants, failures, crashes and lost acknowledgements. -/
theorem upload_grants_complete_once {maxDocumentBytes : Nat} {es : List UploadEvent}
    (h : run (uploadStep maxDocumentBytes) .empty es = some w) :
    CompletesOnce evidenceUploads maxDocumentBytes w ∧
    CompletesOnce policyUploads maxDocumentBytes w ∧
    CleansOwn maxDocumentBytes w ∧ LeavesAlone maxDocumentBytes es w := by
  have hi := uploadInv_run h
  have ho := ownersInv_run h
  exact ⟨completesOnce_evidence maxDocumentBytes hi ho, completesOnce_policy maxDocumentBytes hi ho,
    cleansOwn maxDocumentBytes hi, leavesAlone h⟩

end

/-! Two calls with one grant: the first creates the document, the second is told of it. -/

def sampleUploadGrant : AgentEvidenceUploadGrant :=
  ⟨⟨4⟩, ⟨1⟩, (⟨⟨6⟩, ⟨5⟩, ⟨0, 1000⟩⟩ : EvidenceUploadTarget), ⟨"a.pdf", "application/pdf", 3, none⟩, ⟨2⟩,
    ⟨3⟩, 0, 1000000, .pending⟩

def sampleReceivedFile : ReceivedFile := ⟨"b.pdf", "text/plain", 3, "sha", "crc"⟩

def sampleUploads : List UploadEvent :=
  [.housekeeping (.addEvidence ⟨⟨5⟩, ⟨1⟩⟩),
    .housekeeping (.issueEvidenceGrant sampleUploadGrant),
    .openAgentEvidence 1 21 ⟨4⟩ sampleUploadGrant.authority "application/pdf" 3 1000,
    .openAgentEvidence 2 22 ⟨4⟩ sampleUploadGrant.authority "application/pdf" 3 2000,
    .stage 1 11 sampleReceivedFile true,
    .stage 2 12 sampleReceivedFile true,
    .complete 1 ⟨9⟩ 31 3000 .none,
    .complete 2 ⟨10⟩ 32 4000 .none,
    .load 2 true,
    .delete 2 true]

/-- the document that a call was told of -/
def UploadAttempt.replayedId (a : UploadAttempt) : Option DocumentId :=
  match a.phase with
  | .finished (.replayed d) => some d.id
  | _ => none

theorem upload_grants_complete_once_twice :
    ∃ w, run (uploadStep 10) .empty sampleUploads = some w ∧
      w.evidenceView.creations.map (fun c => (c.attempt, c.document.id)) = [(1, ⟨9⟩)] ∧
      ((w.attempts.get? 2).bind UploadAttempt.replayedId) = some ⟨9⟩ ∧
      w.quarantine.length = 1 ∧ w.cleaned.length = 1 ∧
      CompletesOnce evidenceUploads 10 w := by
  have hrun : ((run (uploadStep 10) .empty sampleUploads).map fun w =>
      (w.evidenceView.creations.map (fun c => (c.attempt, c.document.id)),
        (w.attempts.get? 2).bind UploadAttempt.replayedId, w.quarantine.length, w.cleaned.length))
        = some ([(1, ⟨9⟩)], some ⟨9⟩, 1, 1) := by
    decide +kernel
  obtain ⟨w, hw, hdata⟩ := Option.map_eq_some_iff.mp hrun
  simp only [Prod.mk.injEq] at hdata
  exact ⟨w, hw, hdata.1, hdata.2.1, hdata.2.2.1, hdata.2.2.2, (upload_grants_complete_once hw).1⟩

end Proofplane
