import Proofplane.Uploads.Grants
import Proofplane.Uploads.Service

/-!
# What a step of an upload can do

* `Begins`, `PhaseMove`   how a call begins, and how it goes on by itself;
* `UploadMove`            all that one step can do, `uploadStep_move` **the inversion**.
-/

namespace Proofplane
open Base

/-- the same grant, but for its lifecycle -/
def SameTerms {K : UploadTarget} (g g' : UploadGrant K) : Prop :=
  g' = { g with lifecycle := g'.lifecycle }

/-- how a call may begin: a person's without a grant, an agent's with the stored one -/
inductive Begins (db : DocumentDb) : UploadTask → UploadPhase → Prop
  | humanEvidence (connection : AgentConnectionContext) (submissionId : EvidenceSubmissionId)
      (evidenceId : EvidenceId) (coverage : CoverageWindow) :
      Begins db (.humanEvidence connection submissionId evidenceId coverage) .admitted
  | humanPolicy (connection : AgentConnectionContext) (policyId : PolicyId) :
      Begins db (.humanPolicy connection policyId) .admitted
  | agentEvidence (g : AgentEvidenceUploadGrant) (hg : g ∈ db.evidenceGrants.rows) :
      Begins db (.agentEvidence g g.authority) (openedPhase .admitted g.documentId)
  | agentPolicy (g : AgentPolicyDocumentUploadGrant) (hg : g ∈ db.policyGrants.rows) :
      Begins db (.agentPolicy g g.authority) (openedPhase .checking g.documentId)

/-- how a call goes on by itself, its staged object aside -/
inductive PhaseMove (db : DocumentDb) (a : UploadAttempt) : UploadPhase → Prop
  | checked (grant : AgentPolicyDocumentUploadGrant) (h : a.phase = .checking) (ok : Bool) :
      PhaseMove db a (if ok then eligiblePhase db grant else .finished .failed)
  | unstaged (h : a.phase = .admitted) : PhaseMove db a (.finished .failed)
  /-- a person's form that has a second field -/
  | abandoned (h : a.phase = .staged) (htask : a.task.declaration = none) :
      PhaseMove db a (.deleting .failed)
  | loaded (documentId : DocumentId) (h : a.phase = .loading documentId) (ok : Bool) :
      PhaseMove db a (loadedPhase a.staged (if ok then loadCompleted db a.task documentId else none))
  | reconciled (grant : AgentPolicyDocumentUploadGrant)
      (authority : AgentPolicyDocumentUploadAuthority) (h : a.phase = .reconciling)
      (htask : a.task = .agentPolicy grant authority) (ok : Bool) :
      PhaseMove db a (if ok then reconcileGrant db grant authority else .finished .failed)
  | reconciledDocument (documentId : DocumentId) (staged : StagedDocument)
      (h : a.phase = .reconcilingDocument documentId) (hs : a.staged = some staged) (ok : Bool) :
      PhaseMove db a
        (if ok then reconcileDocument db a.task staged documentId else .finished .failed)
  | undeleted (result result' : UploadResult) (h : a.phase = .deleting result)
      (hr : result' = result ∨ result' = .failed) : PhaseMove db a (.finished result')
  | crashed (h : ∀ r, a.phase ≠ .finished r) : PhaseMove db a (.finished .crashed)

/-- all that one step can do -/
inductive UploadMove (e : UploadEvent) (w w' : UploadWorld) : Prop
  | refused (h : w' = w) : UploadMove e w w'
  | began (a : UploadAttempt) (ids : List EvidenceSubmissionId)
      (hnew : w.attempts.get? a.id = none) (hstaged : a.staged = none)
      (hbegins : Begins w.db a.task a.phase)
      (hids : ∀ c s e v, a.task = .humanEvidence c s e v → s ∉ w.submissionIds ∧ ids = [s])
      (h : w' = { w with
        attempts := w.attempts.upsert a, submissionIds := ids ++ w.submissionIds }) :
      UploadMove e w w'
  | phase (a : UploadAttempt) (phase : UploadPhase) (uploadIds : List Uuid)
      (ha : w.attempts.get? a.id = some a) (hphase : PhaseMove w.db a phase)
      (h : w' = { w.put { a with phase } with uploadIds := uploadIds ++ w.uploadIds }) :
      UploadMove e w w'
  | staged (a : UploadAttempt) (uploadId : Uuid) (file : ReceivedFile) (staged : StagedDocument)
      (ha : w.attempts.get? a.id = some a) (hphase : a.phase = .admitted)
      (hnew : uploadId ∉ w.uploadIds) (hs : stageUpload a.task uploadId file = some staged)
      (h : w' = { w.put { a with staged := some staged, phase := stagedPhase a.task staged } with
        uploadIds := uploadId :: w.uploadIds, quarantine := staged.objectKey :: w.quarantine }) :
      UploadMove e w w'
  | completed (a : UploadAttempt) (staged : StagedDocument) (documentId : DocumentId)
      (messageId : Uuid) (now : Int) (fault : CommitFault)
      (he : e = .complete a.id documentId messageId now fault) (ha : w.attempts.get? a.id = some a)
      (hphase : a.phase = .staged) (hs : a.staged = some staged)
      (hnew : NewDocumentId w.db documentId)
      (h : w' = w.complete a staged documentId messageId now fault) : UploadMove e w w'
  | deleted (a : UploadAttempt) (staged : StagedDocument) (result : UploadResult)
      (ha : w.attempts.get? a.id = some a) (hphase : a.phase = .deleting result)
      (hs : a.staged = some staged)
      (h : w' = { w.put { a with phase := .finished result } with
        quarantine := w.quarantine.filter fun k => k ≠ staged.objectKey
        cleaned := staged.objectKey :: w.cleaned }) : UploadMove e w w'
  | commanded (db' : DocumentDb) (effect : DocumentEffect) (hmove : DocumentMove w.db db' effect)
      (hnot : ∀ d, effect ≠ .created d)
      (hdb : db' = { w.db with documents := db'.documents, outbox := db'.outbox })
      (h : w' = { w with db := db' }) : UploadMove e w w'
  | housekept (db' : DocumentDb) (change : Housekeeping) (ids : List EvidenceSubmissionId)
      (hk : w.db.housekeep change = some db')
      (hids : ∀ g, change = .issueEvidenceGrant g →
        g.submissionId ∉ w.submissionIds ∧ ids = [g.submissionId])
      (h : w' = { w with db := db', submissionIds := ids ++ w.submissionIds }) : UploadMove e w w'

/-! ## The inversion -/

section
variable {w w' : UploadWorld} {e : UploadEvent}

theorem begin_ok {a : UploadAttempt} (h : w.begin a = some w') :
    w.attempts.get? a.id = none ∧ w' = { w with attempts := w.attempts.upsert a } := by
  unfold UploadWorld.begin at h
  split at h
  · cases h
  · next hnone =>
    cases h
    exact ⟨Option.not_isSome_iff_eq_none.mp hnone, rfl⟩

theorem openUpload_ok {K : UploadTarget} [DecidableEq K.Ref] {maxDocumentBytes : Nat}
    {get : Id K.idKind → WorkspaceId → Except RepositoryError (Option (UploadGrant K))}
    {uploadId : Id K.idKind} {authority : UploadAuthority K} {contentType : String}
    {contentLength : Nat} {now : Int} {g : UploadGrant K} {documentId : Option DocumentId}
    (h : openUpload maxDocumentBytes get uploadId authority contentType contentLength now
      = .ok (g, documentId)) :
    get uploadId authority.workspaceId = .ok (some g) ∧ authority = g.authority ∧
      documentId = g.documentId ∧ now < g.expiresAt := by
  unfold openUpload at h
  split at h
  · cases h
  · split at h
    · cases h
    · cases h
    · next grant hget =>
      split at h
      · cases h
      · next hauth =>
        rw [not_not] at hauth
        split at h
        · cases h
        · split at h
          · cases h
          · split at h
            · cases h
            · next hc =>
              cases h
              obtain ⟨hlt, hdoc⟩ := UploadGrant.completedDocumentAt_ok.mp hc
              exact ⟨hget, UploadGrant.matchesAuthority_ok.mp hauth, hdoc.symm, hlt⟩

theorem attempt_of_bind {attempt : Nat} {f : UploadAttempt → Option UploadWorld}
    (h : (w.attempts.get? attempt).bind f = some w') :
    ∃ a, w.attempts.get? a.id = some a ∧ a.id = attempt ∧ f a = some w' := by
  obtain ⟨a, ha, hf⟩ := Option.bind_eq_some_iff.mp h
  have hid := Table.get?_key ha
  exact ⟨a, hid ▸ ha, hid, hf⟩

/-- a scan, finalization or archiving that reports nothing changes nothing -/
theorem command_move {α : Type} {commits : Bool} {r : Except DocumentCommandError (α × DocumentDb)}
    (hr : ∀ x db', r = .ok (x, db') → db' = w.db ∨ ∃ effect, DocumentMove w.db db' effect ∧
      (∀ d, effect ≠ .created d) ∧
      db' = { w.db with documents := db'.documents, outbox := db'.outbox }) :
    UploadMove e w (w.command commits r) := by
  unfold UploadWorld.command
  cases hr' : r with
  | error e => exact .refused rfl
  | ok p =>
    obtain ⟨x, db'⟩ := p
    cases commits with
    | false => exact .refused rfl
    | true =>
      rcases hr x db' hr' with hsame | ⟨effect, hmove, hnot, hdb⟩
      · exact .refused (by rw [hsame]; rfl)
      · exact .commanded db' effect hmove hnot hdb rfl

theorem agent_begins_evidence {maxDocumentBytes attempt : Nat} {requestId : Uuid}
    {uploadId : AgentEvidenceUploadGrantId} {authority : AgentEvidenceUploadAuthority}
    {contentType : String} {contentLength : Nat} {now : Int}
    (h : uploadStep maxDocumentBytes w (.openAgentEvidence attempt requestId uploadId authority
      contentType contentLength now) = some w') : UploadMove e w w' := by
  simp only [uploadStep, UploadWorld.beginOpened] at h
  split at h
  · cases h
    exact .refused rfl
  · next g documentId hopen =>
    obtain ⟨hget, hauth, hdoc, -⟩ := openUpload_ok hopen
    obtain ⟨hmem, -⟩ := DocumentDb.getGrant_ok hget
    obtain ⟨hnew, hw'⟩ := begin_ok h
    subst hauth hdoc
    exact .began _ [] hnew rfl (.agentEvidence g hmem) (by simp) (by rw [hw']; rfl)

theorem agent_begins_policy {maxDocumentBytes attempt : Nat} {requestId : Uuid}
    {uploadId : AgentPolicyDocumentUploadGrantId} {authority : AgentPolicyDocumentUploadAuthority}
    {contentType : String} {contentLength : Nat} {now : Int}
    (h : uploadStep maxDocumentBytes w (.openAgentPolicy attempt requestId uploadId authority
      contentType contentLength now) = some w') : UploadMove e w w' := by
  simp only [uploadStep, UploadWorld.beginOpened] at h
  split at h
  · cases h
    exact .refused rfl
  · next g documentId hopen =>
    obtain ⟨hget, hauth, hdoc, -⟩ := openUpload_ok hopen
    obtain ⟨hmem, -⟩ := DocumentDb.getGrant_ok hget
    obtain ⟨hnew, hw'⟩ := begin_ok h
    subst hauth hdoc
    exact .began _ [] hnew rfl (.agentPolicy g hmem) (by simp) (by rw [hw']; rfl)

theorem stage_move {a : UploadAttempt} {uploadId : Uuid} {file : ReceivedFile} (ok : Bool)
    (ha : w.attempts.get? a.id = some a) (hphase : a.phase = .admitted)
    (hnew : uploadId ∉ w.uploadIds) : UploadMove e w (w.stage a uploadId file ok) := by
  unfold UploadWorld.stage
  dsimp only
  split
  · exact .phase a _ [uploadId] ha (.unstaged hphase) rfl
  · next staged hs =>
    cases ok with
    | false => cases hs
    | true => exact .staged a uploadId file staged ha hphase hnew hs rfl

theorem delete_move {a : UploadAttempt} {staged : StagedDocument} {result : UploadResult} (ok : Bool)
    (ha : w.attempts.get? a.id = some a) (hphase : a.phase = .deleting result)
    (hs : a.staged = some staged) : UploadMove e w (w.delete a staged.objectKey result ok) := by
  unfold UploadWorld.delete
  cases ok with
  | true => exact .deleted a staged result ha hphase hs rfl
  | false =>
    rw [if_neg (by simp)]
    split
    · exact .phase a _ [] ha (.undeleted result .failed hphase (.inr rfl)) rfl
    · exact .phase a _ [] ha (.undeleted result result hphase (.inl rfl)) rfl

theorem reconcile_move {a : UploadAttempt} {phase : UploadPhase} {ok : Bool}
    (h : w.reconcileStep a ok = some phase) : PhaseMove w.db a phase := by
  unfold UploadWorld.reconcileStep at h
  split at h
  · next _ _ _ grant authority hphase htask =>
    cases h
    exact .reconciled grant authority hphase htask ok
  · next _ _ _ documentId staged hphase hs =>
    cases h
    exact .reconciledDocument documentId staged hphase hs ok
  · cases h

theorem load_move {a : UploadAttempt} {phase : UploadPhase} {ok : Bool}
    (h : w.loadStep a ok = some phase) : PhaseMove w.db a phase := by
  unfold UploadWorld.loadStep at h
  split at h
  · next documentId hphase =>
    cases h
    exact .loaded documentId hphase ok
  · cases h

/-- the steps of a call that is under way -/
theorem attempt_move {maxDocumentBytes attempt : Nat} {e : UploadEvent}
    (he : (∃ ok, e = .checkPolicy attempt ok) ∨ e = .abandon attempt ∨ (∃ ok, e = .load attempt ok) ∨
      (∃ ok, e = .reconcile attempt ok) ∨ (∃ ok, e = .delete attempt ok) ∨ e = .crash attempt)
    (h : uploadStep maxDocumentBytes w e = some w') : UploadMove e w w' := by
  rcases he with ⟨ok, rfl⟩ | rfl | ⟨ok, rfl⟩ | ⟨ok, rfl⟩ | ⟨ok, rfl⟩ | rfl
  · obtain ⟨a, ha, -, hf⟩ := attempt_of_bind h
    split at hf
    · next grant authority hphase htask =>
      cases hf
      exact .phase a _ [] ha (.checked grant hphase ok) rfl
    · cases hf
  · obtain ⟨a, ha, -, hf⟩ := attempt_of_bind h
    split at hf
    · next hphase htask =>
      cases hf
      exact .phase a _ [] ha (.abandoned hphase (by rw [htask]; rfl)) rfl
    · next hphase htask =>
      cases hf
      exact .phase a _ [] ha (.abandoned hphase (by rw [htask]; rfl)) rfl
    · cases hf
  · obtain ⟨a, ha, -, hf⟩ := attempt_of_bind h
    obtain ⟨phase, hload, rfl⟩ := Option.map_eq_some_iff.mp hf
    exact .phase a _ [] ha (load_move hload) rfl
  · obtain ⟨a, ha, -, hf⟩ := attempt_of_bind h
    obtain ⟨phase, hrec, rfl⟩ := Option.map_eq_some_iff.mp hf
    exact .phase a _ [] ha (reconcile_move hrec) rfl
  · obtain ⟨a, ha, -, hf⟩ := attempt_of_bind h
    split at hf
    · next result staged hphase hs =>
      cases hf
      exact delete_move ok ha hphase hs
    · cases hf
  · obtain ⟨a, ha, -, hf⟩ := attempt_of_bind h
    split at hf
    · cases hf
    · next hphase =>
      cases hf
      exact .phase a _ [] ha (.crashed hphase) rfl

theorem housekeeping_move {maxDocumentBytes : Nat} {change : Housekeeping}
    (h : uploadStep maxDocumentBytes w (.housekeeping change) = some w') : UploadMove e w w' := by
  simp only [uploadStep] at h
  split at h
  · next grant =>
    split at h
    · cases h
    · next hids =>
      obtain ⟨db, hdb, rfl⟩ := Option.map_eq_some_iff.mp h
      refine .housekept db _ [grant.submissionId] hdb ?_ rfl
      intro g hg
      cases hg
      exact ⟨hids, rfl⟩
  · next hne =>
    obtain ⟨db, hdb, rfl⟩ := Option.map_eq_some_iff.mp h
    exact .housekept db _ [] hdb (fun g hg => absurd hg (hne g)) rfl

/-- **All that one step can do.** -/
theorem uploadStep_move {maxDocumentBytes : Nat} {e : UploadEvent}
    (h : uploadStep maxDocumentBytes w e = some w') : UploadMove e w w' := by
  cases e with
  | openHumanEvidence attempt requestId connection submissionId evidenceId coverage =>
    simp only [uploadStep] at h
    split at h
    · cases h
    · next hids =>
      obtain ⟨hnew, hw'⟩ := begin_ok h
      refine .began _ [submissionId] hnew rfl (.humanEvidence _ _ _ _) ?_ hw'
      intro c s e v ht
      cases ht
      exact ⟨hids, rfl⟩
  | openHumanPolicy attempt requestId connection policyId =>
    obtain ⟨hnew, hw'⟩ := begin_ok h
    exact .began _ [] hnew rfl (.humanPolicy _ _) (by simp) hw'
  | openAgentEvidence attempt requestId uploadId authority contentType contentLength now =>
    exact agent_begins_evidence h
  | openAgentPolicy attempt requestId uploadId authority contentType contentLength now =>
    exact agent_begins_policy h
  | checkPolicy attempt ok => exact attempt_move (.inl ⟨ok, rfl⟩) h
  | stage attempt uploadId file ok =>
    simp only [uploadStep] at h
    split at h
    · cases h
    · next hnew =>
      obtain ⟨a, ha, -, hf⟩ := attempt_of_bind h
      split at hf
      · next hphase =>
        cases hf
        exact stage_move ok ha hphase hnew
      · cases hf
  | abandon attempt => exact attempt_move (.inr (.inl rfl)) h
  | complete attempt documentId messageId now fault =>
    simp only [uploadStep] at h
    split at h
    · cases h
    · next hnew =>
      obtain ⟨a, ha, hid, hf⟩ := attempt_of_bind h
      split at hf
      · next staged hphase hs =>
        cases hf
        refine .completed a staged documentId messageId now fault (by rw [hid]) ha hphase hs ?_ rfl
        exact Table.get?_eq_none_iff.mp (Option.not_isSome_iff_eq_none.mp hnew)
      · cases hf
  | load attempt ok => exact attempt_move (.inr (.inr (.inl ⟨ok, rfl⟩))) h
  | reconcile attempt ok => exact attempt_move (.inr (.inr (.inr (.inl ⟨ok, rfl⟩)))) h
  | delete attempt ok => exact attempt_move (.inr (.inr (.inr (.inr (.inl ⟨ok, rfl⟩))))) h
  | crash attempt => exact attempt_move (.inr (.inr (.inr (.inr (.inr rfl))))) h
  | scan c metadata messageId commits =>
    cases h
    refine command_move ?_
    intro x db' hr
    rcases scanDocument_ok hr with ⟨-, hdb⟩ | ⟨-, hmove, -, hdb⟩
    · exact .inl hdb
    · exact .inr ⟨_, hmove, by simp, hdb⟩
  | finalize c commits =>
    cases h
    refine command_move ?_
    intro x db' hr
    rcases finalizeDocument_ok hr with ⟨-, hdb⟩ | ⟨-, hmove, hdb⟩
    · exact .inl hdb
    · refine .inr ⟨_, hmove, by simp, ?_⟩
      rw [hdb]
  | archive c commits =>
    cases h
    refine command_move ?_
    intro x db' hr
    rcases archiveDocument_ok hr with ⟨-, hdb⟩ | ⟨-, hmove, hdb⟩
    · exact .inl hdb
    · refine .inr ⟨_, hmove, by simp, ?_⟩
      rw [hdb]
  | housekeeping change => exact housekeeping_move h

end

end Proofplane
