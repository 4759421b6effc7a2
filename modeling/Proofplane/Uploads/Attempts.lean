import Proofplane.Uploads.Completion

/-!
# What is known of every call

* `evidenceView`, `policyView`    the two kinds of grants in a world of uploads;
* `AttemptOk`                     the grant of a call is stored under the terms that it was read with,
                                  its staged file has the declared name and type and is the declared
                                  file before the command runs, and its key is made from an upload id
                                  that was drawn;
* `UploadInv`                     all of this for all calls, with the invariant of both kinds of
                                  grants and different keys for different calls;
* `uploadInv_run`                 it holds in every state of every run.
-/

namespace Proofplane
open Base

def UploadCreation.evidence? (c : UploadCreation) : Option (GrantCreation agentEvidenceUpload) :=
  match c.task with
  | .agentEvidence grant authority => some ⟨c.attempt, grant.id, authority, c.document, c.completedAt⟩
  | _ => none

def UploadCreation.policy? (c : UploadCreation) :
    Option (GrantCreation agentPolicyDocumentUpload) :=
  match c.task with
  | .agentPolicy grant authority => some ⟨c.attempt, grant.id, authority, c.document, c.completedAt⟩
  | _ => none

def UploadWorld.evidenceView (w : UploadWorld) : GrantView agentEvidenceUpload :=
  ⟨w.db.evidenceGrants, w.db.documents, w.created.filterMap UploadCreation.evidence?⟩

def UploadWorld.policyView (w : UploadWorld) : GrantView agentPolicyDocumentUpload :=
  ⟨w.db.policyGrants, w.db.documents, w.created.filterMap UploadCreation.policy?⟩

structure AttemptOk (w : UploadWorld) (a : UploadAttempt) : Prop where
  evidence : ∀ grant authority, a.task = .agentEvidence grant authority →
    authority = grant.authority ∧ ∃ g ∈ w.db.evidenceGrants.rows, SameTerms grant g
  policy : ∀ grant authority, a.task = .agentPolicy grant authority →
    authority = grant.authority ∧ ∃ g ∈ w.db.policyGrants.rows, SameTerms grant g
  file : ∀ s, a.staged = some s → ∀ f, a.task.declaration = some f →
    s.filename = f.filename ∧ s.contentType = f.contentType
  received : a.phase = .staged → ∀ s, a.staged = some s → ∀ f, a.task.declaration = some f →
    f.Received s.contentLength s.checksumSha256
  keyed : ∀ s, a.staged = some s → ∃ u ∈ w.uploadIds, ∃ filename,
    stagedObjectKey a.task.workspaceId a.task.owner u filename = some s.objectKey
  unstaged : a.phase = .admitted ∨ a.phase = .checking → a.staged = none
  loading : ∀ id, a.phase = .loading id → Names w.db a.task id

/-- different calls stage under different keys -/
def DistinctKeys (w : UploadWorld) : Prop :=
  ∀ a ∈ w.attempts.rows, ∀ b ∈ w.attempts.rows, ∀ s t, a.staged = some s → b.staged = some t →
    s.objectKey = t.objectKey → a.id = b.id

structure UploadInv (w : UploadWorld) : Prop where
  evidence : GrantInv w.evidenceView
  policy : GrantInv w.policyView
  attempts : ∀ a ∈ w.attempts.rows, AttemptOk w a
  distinct : DistinctKeys w

/-! ## Grants keep their terms -/

theorem SameTerms.refl {K : UploadTarget} (g : UploadGrant K) : SameTerms g g := rfl

theorem SameTerms.trans {K : UploadTarget} {g g' g'' : UploadGrant K} (h : SameTerms g g')
    (h' : SameTerms g' g'') : SameTerms g g'' := by
  unfold SameTerms at *
  rw [h', h]

theorem SameTerms.declaration {K : UploadTarget} {g g' : UploadGrant K} (h : SameTerms g g') :
    g'.declaration = g.declaration := by
  rw [h]

theorem SameTerms.id {K : UploadTarget} {g g' : UploadGrant K} (h : SameTerms g g') :
    g'.id = g.id := by
  rw [h]

/-- no grant is lost, none changes but in its lifecycle, and a completed one not at all -/
structure KeepsTerms {K : UploadTarget} (grants grants' : Table (UploadGrant.id (K := K))) :
    Prop where
  terms : ∀ g ∈ grants.rows, ∃ g' ∈ grants'.rows, SameTerms g g'
  completed : ∀ g ∈ grants.rows, ∀ id, g.documentId = some id → g ∈ grants'.rows

theorem KeepsTerms.refl {K : UploadTarget} (grants : Table (UploadGrant.id (K := K))) :
    KeepsTerms grants grants where
  terms := fun g hg => ⟨g, hg, .refl g⟩
  completed := fun _ hg _ _ => hg

/-- the stored form of a completed grant has the terms of the grant -/
theorem sameTerms_toRow {K : UploadTarget} {g : UploadGrant K} (hstored : g.toRow = g)
    (lifecycle : UploadGrantLifecycle) :
    SameTerms g (UploadGrant.toRow { g with lifecycle }) := by
  have htarget : K.toRow g.target = g.target := congrArg UploadGrant.target hstored
  have hissued : pgTimestamp g.issuedAt = g.issuedAt := congrArg UploadGrant.issuedAt hstored
  have hexpires : pgTimestamp g.expiresAt = g.expiresAt := congrArg UploadGrant.expiresAt hstored
  unfold SameTerms
  simp only [UploadGrant.toRow, htarget, hissued, hexpires]

theorem GrantMove.keepsTerms {K : UploadTarget} {v v' : GrantView K} (hi : GrantInv v)
    (hm : GrantMove v v') : KeepsTerms v.grants v'.grants where
  terms := by
    intro g hg
    cases hm with
    | aside hgr hc hd =>
      rw [hgr]
      exact ⟨g, hg, .refl g⟩
    | issued g1 hnew hpending hvalid hgr hc hd =>
      rw [hgr]
      exact ⟨g, Table.mem_upsert.mpr (.inr ⟨hg, Table.get?_eq_none_iff.mp hnew g hg⟩), .refl g⟩
    | completed g1 c h =>
      rw [h.grants]
      by_cases hid : g.id = g1.id
      · have heq : g = g1 := v.grants.eq_of_key hg h.mem hid
        refine ⟨_, Table.mem_upsert.mpr (.inl rfl), ?_⟩
        rw [← heq]
        exact sameTerms_toRow (hi.stored g hg) _
      · exact ⟨g, Table.mem_upsert.mpr (.inr ⟨hg, hid⟩), .refl g⟩
  completed := fun _ hg _ hdoc => hm.keeps hg hdoc

/-- the grants of both kinds go on -/
structure GrantsKept (db db' : DocumentDb) : Prop where
  evidence : KeepsTerms db.evidenceGrants db'.evidenceGrants
  policy : KeepsTerms db.policyGrants db'.policyGrants

theorem GrantsKept.refl (db : DocumentDb) : GrantsKept db db := ⟨.refl _, .refl _⟩

theorem Names.mono {db db' : DocumentDb} (hk : GrantsKept db db') {task : UploadTask}
    {id : DocumentId} (h : Names db task id) : Names db' task id := by
  cases task with
  | humanEvidence connection submissionId evidenceId coverage => exact h
  | humanPolicy connection policyId => exact h
  | agentEvidence grant authority =>
    obtain ⟨g, hg, hid, hdoc⟩ := h
    exact ⟨g, hk.evidence.completed g hg id hdoc, hid, hdoc⟩
  | agentPolicy grant authority =>
    obtain ⟨g, hg, hid, hdoc⟩ := h
    exact ⟨g, hk.policy.completed g hg id hdoc, hid, hdoc⟩

theorem AttemptOk.mono {w w' : UploadWorld} {a : UploadAttempt} (h : AttemptOk w a)
    (hk : GrantsKept w.db w'.db) (hu : ∀ u ∈ w.uploadIds, u ∈ w'.uploadIds) : AttemptOk w' a where
  evidence := by
    intro grant authority ht
    obtain ⟨hauth, g, hg, hterms⟩ := h.evidence grant authority ht
    obtain ⟨g', hg', hterms'⟩ := hk.evidence.terms g hg
    exact ⟨hauth, g', hg', hterms.trans hterms'⟩
  policy := by
    intro grant authority ht
    obtain ⟨hauth, g, hg, hterms⟩ := h.policy grant authority ht
    obtain ⟨g', hg', hterms'⟩ := hk.policy.terms g hg
    exact ⟨hauth, g', hg', hterms.trans hterms'⟩
  file := h.file
  received := h.received
  keyed := by
    intro s hs
    obtain ⟨u, hum, rest⟩ := h.keyed s hs
    exact ⟨u, hu u hum, rest⟩
  unstaged := h.unstaged
  loading := fun id hid => (h.loading id hid).mono hk

/-- a call that goes on without a new file -/
theorem AttemptOk.next {w : UploadWorld} {a : UploadAttempt} (h : AttemptOk w a) {phase : UploadPhase}
    (hstaged : phase ≠ .staged) (hopen : phase = .admitted ∨ phase = .checking → a.staged = none)
    (hload : ∀ id, phase = .loading id → Names w.db a.task id) : AttemptOk w { a with phase } where
  evidence := h.evidence
  policy := h.policy
  file := h.file
  received := fun hc => absurd hc hstaged
  keyed := h.keyed
  unstaged := hopen
  loading := hload

/-! ## Phases -/

theorem eligiblePhase_cases (db : DocumentDb) (g : AgentPolicyDocumentUploadGrant) :
    eligiblePhase db g = .admitted ∨ ∃ r, eligiblePhase db g = .finished r := by
  unfold eligiblePhase
  split
  · exact .inl rfl
  · exact .inr ⟨_, rfl⟩
  · exact .inr ⟨_, rfl⟩

theorem loadedPhase_cases (staged : Option StagedDocument) (d : Option Document) :
    ∃ r, loadedPhase staged d = .finished r ∨ loadedPhase staged d = .deleting r ∧ staged ≠ none := by
  unfold loadedPhase
  cases staged with
  | none => exact ⟨_, .inl rfl⟩
  | some s => exact ⟨_, .inr ⟨rfl, by simp⟩⟩

theorem reconcileGrant_cases (db : DocumentDb) (g : AgentPolicyDocumentUploadGrant)
    (authority : AgentPolicyDocumentUploadAuthority) :
    (∃ r, reconcileGrant db g authority = .finished r ∨ reconcileGrant db g authority = .deleting r) ∨
      ∃ id, reconcileGrant db g authority = .reconcilingDocument id := by
  unfold reconcileGrant
  split
  · exact .inl ⟨_, .inl rfl⟩
  · exact .inl ⟨_, .inr rfl⟩
  · split
    · exact .inl ⟨_, .inr rfl⟩
    · split
      · exact .inl ⟨_, .inr rfl⟩
      · exact .inr ⟨_, rfl⟩

theorem reconcileDocument_cases (db : DocumentDb) (task : UploadTask) (s : StagedDocument)
    (id : DocumentId) :
    ∃ r, reconcileDocument db task s id = .finished r ∨ reconcileDocument db task s id = .deleting r := by
  unfold reconcileDocument
  split
  · exact ⟨_, .inl rfl⟩
  · split
    · exact ⟨_, .inl rfl⟩
    · exact ⟨_, .inr rfl⟩

/-- a call that goes on by itself never comes back to a staged file or a replay, and asks for a file
only after the check of its policy -/
theorem PhaseMove.next {db : DocumentDb} {a : UploadAttempt} {phase : UploadPhase}
    (h : PhaseMove db a phase) :
    phase ≠ .staged ∧ phase ≠ .checking ∧ (∀ id, phase ≠ .loading id) ∧
      (phase = .admitted → a.phase = .checking) := by
  cases h with
  | checked grant h ok =>
    cases ok with
    | false => simp
    | true =>
      rw [if_pos rfl]
      rcases eligiblePhase_cases db grant with he | ⟨r, he⟩
      · simp [he, h]
      · simp [he]
  | unstaged h => simp
  | abandoned h htask => simp
  | loaded documentId h ok =>
    obtain ⟨r, hr | ⟨hr, -⟩⟩ := loadedPhase_cases a.staged
      (if ok then loadCompleted db a.task documentId else none)
    · simp [hr]
    · simp [hr]
  | reconciled grant authority h htask ok =>
    cases ok with
    | false => simp
    | true =>
      rw [if_pos rfl]
      rcases reconcileGrant_cases db grant authority with ⟨r, hr | hr⟩ | ⟨id, hr⟩
      · simp [hr]
      · simp [hr]
      · simp [hr]
  | reconciledDocument documentId staged h hs ok =>
    cases ok with
    | false => simp
    | true =>
      rw [if_pos rfl]
      obtain ⟨r, hr | hr⟩ := reconcileDocument_cases db a.task staged documentId
      · simp [hr]
      · simp [hr]
  | undeleted result result' h hr => simp
  | crashed h => simp

/-- after its command a call has nothing left to stage -/
theorem afterCompletion_ne (task : UploadTask) (answer : Except DocumentCommandError Completion) :
    afterCompletion task answer ≠ .staged ∧ afterCompletion task answer ≠ .admitted ∧
      afterCompletion task answer ≠ .checking := by
  cases answer with
  | ok c => cases c <;> simp [afterCompletion]
  | error e => cases task <;> cases e <;> simp [afterCompletion]

/-! ## The grants of each kind -/

section
variable {w w' : UploadWorld} {e : UploadEvent}

theorem SameTerms.stored {K : UploadTarget} {grants : Table (UploadGrant.id (K := K))}
    {grant g : UploadGrant K} (h : ∃ g0 ∈ grants.rows, SameTerms grant g0) (hg : g ∈ grants.rows)
    (hid : g.id = grant.id) : SameTerms grant g := by
  obtain ⟨g0, hg0, hterms⟩ := h
  have heq : g0 = g := grants.eq_of_key hg0 hg (hterms.id.trans hid.symm)
  exact heq ▸ hterms

/-- a grant that was presented declares what the stored one does -/
theorem SameTerms.declared {K : UploadTarget} {grant g : UploadGrant K} {d : Document}
    (h : SameTerms grant g) (howner : d.owner = K.owner g.target)
    (hworkspace : d.workspaceId = grant.workspaceId) (hname : d.filename = grant.declaration.filename)
    (htype : d.contentType = grant.declaration.contentType)
    (hreceived : g.declaration.Received d.contentLength d.checksumSha256) : Declared g d := by
  have hworkspace' : g.workspaceId = grant.workspaceId := by rw [h]
  refine ⟨howner, hworkspace.trans hworkspace'.symm, ?_, ?_, hreceived⟩
  · rw [h.declaration]
    exact hname
  · rw [h.declaration]
    exact htype

/-- the document of an evidence completion is the declared one -/
theorem declared_evidence {a : UploadAttempt} {staged : StagedDocument}
    {grant g : AgentEvidenceUploadGrant} {authority : AgentEvidenceUploadAuthority}
    (documentId : DocumentId) (now : Int) (ha : AttemptOk w a)
    (ht : a.task = .agentEvidence grant authority) (hs : a.staged = some staged)
    (hg : g ∈ w.db.evidenceGrants.rows) (hid : g.id = grant.id)
    (hp : Presented g authority (staged.payload (.evidenceSubmission grant.submissionId))
      (.evidenceSubmission g.submissionId)) :
    Declared g (newDocument (.evidence g.submissionId documentId) grant.workspaceId
      grant.issuedByUserId (staged.payload (.evidenceSubmission grant.submissionId)) now) := by
  obtain ⟨-, hstored⟩ := ha.evidence grant authority ht
  obtain ⟨hname, htype⟩ := ha.file staged hs grant.declaration (by rw [ht]; rfl)
  exact (SameTerms.stored hstored hg hid).declared rfl rfl hname htype hp.received

/-- the document of a policy completion is the declared one -/
theorem declared_policy {a : UploadAttempt} {staged : StagedDocument}
    {grant g : AgentPolicyDocumentUploadGrant} {authority : AgentPolicyDocumentUploadAuthority}
    (documentId : DocumentId) (now : Int) (ha : AttemptOk w a)
    (ht : a.task = .agentPolicy grant authority) (hs : a.staged = some staged)
    (hg : g ∈ w.db.policyGrants.rows) (hid : g.id = grant.id)
    (hp : Presented g authority (staged.payload (.policy grant.policyId)) (.policy g.policyId)) :
    Declared g (newDocument (.policy g.policyId documentId) grant.workspaceId grant.issuedByUserId
      (staged.payload (.policy grant.policyId)) now) := by
  obtain ⟨-, hstored⟩ := ha.policy grant authority ht
  obtain ⟨hname, htype⟩ := ha.file staged hs grant.declaration (by rw [ht]; rfl)
  exact (SameTerms.stored hstored hg hid).declared rfl rfl hname htype hp.received

/-- what a completion stores goes beside the other documents -/
theorem CreatedBy.continues {db db' : DocumentDb} {task : UploadTask} {staged : StagedDocument}
    {documentId : DocumentId} {now : Int} {d : Document} (h : CreatedBy db db' staged documentId now task d)
    (hnew : NewDocumentId db documentId) :
    d.toRow ∈ db'.documents.rows ∧ Continues db.documents db'.documents := by
  obtain ⟨hid, -, -, hdocs⟩ := h.document
  rw [hdocs]
  exact ⟨Table.mem_upsert.mpr (.inl rfl), continues_upsert_new (hid ▸ hnew)⟩

/-- a creation of another kind adds nothing to those of a kind -/
theorem filterMap_created {κ : Type} {f : UploadCreation → Option κ} {c : UploadCreation}
    (hc : w'.created = w.created ++ [c]) (h : f c = none) :
    w'.created.filterMap f = w.created.filterMap f := by
  rw [hc, List.filterMap_append, List.filterMap_cons_none h, List.filterMap_nil, List.append_nil]

theorem evidence_created {a : UploadAttempt} {staged : StagedDocument} {documentId : DocumentId}
    {now : Int} {d : Document} (ha : AttemptOk w a) (hs : a.staged = some staged)
    (hnew : NewDocumentId w.db documentId)
    (hby : CreatedBy w.db w'.db staged documentId now a.task d)
    (hc : w'.created = w.created ++ [⟨a.id, a.task, d, now⟩]) :
    GrantMove w.evidenceView w'.evidenceView := by
  obtain ⟨hdid, -⟩ := hby.document
  obtain ⟨hstored, hcont⟩ := hby.continues hnew
  generalize ht : a.task = task at hby
  cases hby with
  | humanEvidence connection submissionId evidenceId coverage d s hd hs' hse hevidence hdb =>
    refine .aside ?_ (filterMap_created hc (by rw [ht]; rfl)) hcont
    show w'.db.evidenceGrants = w.db.evidenceGrants
    rw [hdb]
  | humanPolicy connection policyId d hd heligible hdb =>
    refine .aside ?_ (filterMap_created hc (by rw [ht]; rfl)) hcont
    show w'.db.evidenceGrants = w.db.evidenceGrants
    rw [hdb]
  | agentEvidence grant g authority d s hg hp hlt hpending hd hs' hse hvalid hissued hevidence hdb =>
    obtain ⟨hmem, hid, -, -⟩ := DocumentDb.getGrant_ok hg
    have hdeclared := declared_evidence documentId now ha ht hs hmem hid hp
    refine .completed g ⟨a.id, grant.id, authority, d, now⟩ ?_
    rw [← hdid] at hvalid
    refine ⟨hmem, hpending, hid.symm, hp.authority, hissued, hlt, hd ▸ hdeclared, hvalid, ?_, ?_,
      hcont, ?_⟩
    · show w'.db.evidenceGrants = _
      rw [hdb, hdid]
      rfl
    · exact ⟨d.toRow, hstored, rfl⟩
    · show w'.created.filterMap UploadCreation.evidence? = _
      rw [hc, List.filterMap_append, ht]
      rfl
  | agentPolicy grant g authority d hg hp hlt hpending hd hvalid hissued heligible hdb =>
    refine .aside ?_ (filterMap_created hc (by rw [ht]; rfl)) hcont
    show w'.db.evidenceGrants = w.db.evidenceGrants
    rw [hdb]

theorem policy_created {a : UploadAttempt} {staged : StagedDocument} {documentId : DocumentId}
    {now : Int} {d : Document} (ha : AttemptOk w a) (hs : a.staged = some staged)
    (hnew : NewDocumentId w.db documentId)
    (hby : CreatedBy w.db w'.db staged documentId now a.task d)
    (hc : w'.created = w.created ++ [⟨a.id, a.task, d, now⟩]) :
    GrantMove w.policyView w'.policyView := by
  obtain ⟨hdid, -⟩ := hby.document
  obtain ⟨hstored, hcont⟩ := hby.continues hnew
  generalize ht : a.task = task at hby
  cases hby with
  | humanEvidence connection submissionId evidenceId coverage d s hd hs' hse hevidence hdb =>
    refine .aside ?_ (filterMap_created hc (by rw [ht]; rfl)) hcont
    show w'.db.policyGrants = w.db.policyGrants
    rw [hdb]
  | humanPolicy connection policyId d hd heligible hdb =>
    refine .aside ?_ (filterMap_created hc (by rw [ht]; rfl)) hcont
    show w'.db.policyGrants = w.db.policyGrants
    rw [hdb]
  | agentEvidence grant g authority d s hg hp hlt hpending hd hs' hse hvalid hissued hevidence hdb =>
    refine .aside ?_ (filterMap_created hc (by rw [ht]; rfl)) hcont
    show w'.db.policyGrants = w.db.policyGrants
    rw [hdb]
  | agentPolicy grant g authority d hg hp hlt hpending hd hvalid hissued heligible hdb =>
    obtain ⟨hmem, hid, -, -⟩ := DocumentDb.getGrant_ok hg
    have hdeclared := declared_policy documentId now ha ht hs hmem hid hp
    refine .completed g ⟨a.id, grant.id, authority, d, now⟩ ?_
    rw [← hdid] at hvalid
    refine ⟨hmem, hpending, hid.symm, hp.authority, hissued, hlt, hd ▸ hdeclared, hvalid, ?_, ?_,
      hcont, ?_⟩
    · show w'.db.policyGrants = _
      rw [hdb, hdid]
      rfl
    · exact ⟨d.toRow, hstored, rfl⟩
    · show w'.created.filterMap UploadCreation.policy? = _
      rw [hc, List.filterMap_append, ht]
      rfl

theorem continues_of_eq {documents documents' : Table Document.id} (h : documents' = documents) :
    Continues documents documents' := by
  rw [h]
  exact continues_refl _

/-- **Every step is a move of the evidence grants.** -/
theorem evidence_move (hi : UploadInv w) (hm : TablesMove w w') :
    GrantMove w.evidenceView w'.evidenceView := by
  have hsame : w'.created = w.created → w'.evidenceView.creations = w.evidenceView.creations :=
    fun hc => congrArg (List.filterMap UploadCreation.evidence?) hc
  cases hm with
  | same hdb hc =>
    have hgrants := congrArg DocumentDb.evidenceGrants hdb
    have hdocuments := congrArg DocumentDb.documents hdb
    exact .aside hgrants (hsame hc) (continues_of_eq hdocuments)
  | created a staged documentId now d ha hphase hs hnew hby hc =>
    exact evidence_created (hi.attempts a (Table.get?_mem ha)) hs hnew hby hc
  | commanded effect hmove hnot hdb hc =>
    refine .aside ?_ (hsame hc) (continues_move hmove hnot)
    show w'.db.evidenceGrants = w.db.evidenceGrants
    rw [hdb]
  | housekept change hk hc =>
    have hcont := continues_of_eq (housekept hk).documents
    cases housekeeps hk with
    | addEvidence item hnew h =>
      exact .aside (by show w'.db.evidenceGrants = _; rw [h]; rfl) (hsame hc) hcont
    | addPolicy item hnew h =>
      exact .aside (by show w'.db.evidenceGrants = _; rw [h]; rfl) (hsame hc) hcont
    | archivePolicy id archivedAt h =>
      exact .aside (by show w'.db.evidenceGrants = _; rw [h]; rfl) (hsame hc) hcont
    | issueEvidenceGrant grant hnew hvalid h =>
      exact .issued { grant with lifecycle := .pending } hnew rfl hvalid
        (by show w'.db.evidenceGrants = _; rw [h]; rfl) (hsame hc) hcont
    | issuePolicyGrant grant hnew hvalid h =>
      exact .aside (by show w'.db.evidenceGrants = _; rw [h]; rfl) (hsame hc) hcont

/-- **Every step is a move of the policy grants.** -/
theorem policy_move (hi : UploadInv w) (hm : TablesMove w w') :
    GrantMove w.policyView w'.policyView := by
  have hsame : w'.created = w.created → w'.policyView.creations = w.policyView.creations :=
    fun hc => congrArg (List.filterMap UploadCreation.policy?) hc
  cases hm with
  | same hdb hc =>
    have hgrants := congrArg DocumentDb.policyGrants hdb
    have hdocuments := congrArg DocumentDb.documents hdb
    exact .aside hgrants (hsame hc) (continues_of_eq hdocuments)
  | created a staged documentId now d ha hphase hs hnew hby hc =>
    exact policy_created (hi.attempts a (Table.get?_mem ha)) hs hnew hby hc
  | commanded effect hmove hnot hdb hc =>
    refine .aside ?_ (hsame hc) (continues_move hmove hnot)
    show w'.db.policyGrants = w.db.policyGrants
    rw [hdb]
  | housekept change hk hc =>
    have hcont := continues_of_eq (housekept hk).documents
    cases housekeeps hk with
    | addEvidence item hnew h =>
      exact .aside (by show w'.db.policyGrants = _; rw [h]; rfl) (hsame hc) hcont
    | addPolicy item hnew h =>
      exact .aside (by show w'.db.policyGrants = _; rw [h]; rfl) (hsame hc) hcont
    | archivePolicy id archivedAt h =>
      exact .aside (by show w'.db.policyGrants = _; rw [h]; rfl) (hsame hc) hcont
    | issueEvidenceGrant grant hnew hvalid h =>
      exact .aside (by show w'.db.policyGrants = _; rw [h]; rfl) (hsame hc) hcont
    | issuePolicyGrant grant hnew hvalid h =>
      exact .issued { grant with lifecycle := .pending } hnew rfl hvalid
        (by show w'.db.policyGrants = _; rw [h]; rfl) (hsame hc) hcont

/-! ## Every step keeps the invariant -/

theorem grantsKept_move (hi : UploadInv w) (hm : TablesMove w w') : GrantsKept w.db w'.db :=
  ⟨(evidence_move hi hm).keepsTerms hi.evidence, (policy_move hi hm).keepsTerms hi.policy⟩

/-- one call has changed -/
theorem attempts_upsert {a : UploadAttempt} (h : w'.attempts = w.attempts.upsert a)
    (ha : AttemptOk w' a) (hold : ∀ x ∈ w.attempts.rows, AttemptOk w' x) :
    ∀ x ∈ w'.attempts.rows, AttemptOk w' x := by
  intro x hx
  rw [h] at hx
  rcases Table.mem_upsert.mp hx with rfl | ⟨hx, -⟩
  · exact ha
  · exact hold x hx

theorem distinct_upsert {a : UploadAttempt} (hd : DistinctKeys w)
    (h : w'.attempts = w.attempts.upsert a)
    (ha : ∀ s, a.staged = some s → ∀ b ∈ w.attempts.rows, b.id ≠ a.id → ∀ t, b.staged = some t →
      s.objectKey ≠ t.objectKey) : DistinctKeys w' := by
  intro x hx y hy s t hs ht hkey
  rw [h] at hx hy
  rcases Table.mem_upsert.mp hx with rfl | ⟨hxm, hxa⟩
  · rcases Table.mem_upsert.mp hy with rfl | ⟨hym, hya⟩
    · rfl
    · exact absurd hkey (ha s hs y hym hya t ht)
  · rcases Table.mem_upsert.mp hy with rfl | ⟨hym, hya⟩
    · exact absurd hkey.symm (ha t ht x hxm hxa s hs)
    · exact hd x hxm y hym s t hs ht hkey

/-- a call that keeps its staged file keeps its key to itself -/
theorem distinct_next {a : UploadAttempt} {phase : UploadPhase} (hd : DistinctKeys w)
    (ha : w.attempts.get? a.id = some a)
    (h : w'.attempts = w.attempts.upsert { a with phase }) : DistinctKeys w' := by
  refine distinct_upsert hd h ?_
  intro s hs b hb hne t ht hkey
  exact hne (hd a (Table.get?_mem ha) b hb s t hs ht hkey).symm

/-- a call begins without a file, and a replay with the document of its grant -/
theorem attemptOk_begins {a : UploadAttempt} (hstaged : a.staged = none)
    (hbegins : Begins w.db a.task a.phase) : AttemptOk w a := by
  have hfile : ∀ s, a.staged ≠ some s := by
    intro s hs
    rw [hstaged] at hs
    cases hs
  refine ⟨?_, ?_, fun s hs => absurd hs (hfile s), fun _ s hs => absurd hs (hfile s),
    fun s hs => absurd hs (hfile s), fun _ => hstaged, ?_⟩
  · intro grant authority ht
    rw [ht] at hbegins
    generalize a.phase = phase at hbegins
    cases hbegins with
    | agentEvidence g hg => exact ⟨rfl, grant, hg, .refl _⟩
  · intro grant authority ht
    rw [ht] at hbegins
    generalize a.phase = phase at hbegins
    cases hbegins with
    | agentPolicy g hg => exact ⟨rfl, grant, hg, .refl _⟩
  · intro id hphase
    rw [hphase] at hbegins
    generalize hp : UploadPhase.loading id = phase at hbegins
    generalize a.task = task at hbegins
    cases hbegins with
    | humanEvidence connection submissionId evidenceId coverage => cases hp
    | humanPolicy connection policyId => cases hp
    | agentEvidence g hg =>
      unfold openedPhase at hp
      split at hp
      · next documentId hdoc =>
        cases hp
        exact ⟨g, hg, rfl, hdoc⟩
      · cases hp
    | agentPolicy g hg =>
      unfold openedPhase at hp
      split at hp
      · next documentId hdoc =>
        cases hp
        exact ⟨g, hg, rfl, hdoc⟩
      · cases hp

theorem stageUpload_ok {task : UploadTask} {uploadId : Uuid} {file : ReceivedFile}
    {staged : StagedDocument} (h : stageUpload task uploadId file = some staged) :
    (∀ f, task.declaration = some f →
      staged.filename = f.filename ∧ staged.contentType = f.contentType) ∧
    ∃ filename,
      stagedObjectKey task.workspaceId task.owner uploadId filename = some staged.objectKey := by
  unfold stageUpload at h
  obtain ⟨key, hkey, h⟩ := Option.bind_eq_some_iff.mp h
  split at h
  · cases h
  · cases h
    refine ⟨?_, _, hkey⟩
    intro f hf
    rw [hf]
    exact ⟨rfl, rfl⟩

/-- after staging: rejected, or what was declared -/
theorem stagedPhase_cases (task : UploadTask) (staged : StagedDocument) :
    (∃ r, stagedPhase task staged = .deleting r) ∨
    stagedPhase task staged = .staged ∧ ∀ f, task.declaration = some f →
      f.Received staged.contentLength staged.checksumSha256 := by
  unfold stagedPhase
  split
  · next hnone =>
    refine .inr ⟨rfl, ?_⟩
    intro f hf
    rw [hnone] at hf
    cases hf
  · next declaration hsome =>
    split
    · exact .inl ⟨_, rfl⟩
    · next hv =>
      refine .inr ⟨rfl, ?_⟩
      intro f hf
      rw [hsome] at hf
      cases hf
      exact DeclaredUploadFile.validateStaged_ok.mp hv

/-- a call that has just staged its file -/
theorem attemptOk_staged {a : UploadAttempt} {uploadId : Uuid} {file : ReceivedFile}
    {staged : StagedDocument} (ha : AttemptOk w a) (hs : stageUpload a.task uploadId file = some staged)
    (hu : uploadId ∈ w.uploadIds) :
    AttemptOk w { a with staged := some staged, phase := stagedPhase a.task staged } := by
  obtain ⟨hfile, filename, hkey⟩ := stageUpload_ok hs
  have hcases := stagedPhase_cases a.task staged
  refine ⟨ha.evidence, ha.policy, ?_, ?_, ?_, ?_, ?_⟩
  · intro s h f hf
    cases h
    exact hfile f hf
  · intro hphase s h f hf
    cases h
    rcases hcases with ⟨r, hr⟩ | ⟨-, hreceived⟩
    · rw [hr] at hphase
      cases hphase
    · exact hreceived f hf
  · intro s h
    cases h
    exact ⟨uploadId, hu, filename, hkey⟩
  · intro hphase
    rcases hcases with ⟨r, hr⟩ | ⟨hr, -⟩
    · simp [hr] at hphase
    · simp [hr] at hphase
  · intro id hphase
    rcases hcases with ⟨r, hr⟩ | ⟨hr, -⟩
    · simp [hr] at hphase
    · simp [hr] at hphase

/-- a new upload id makes a new key -/
theorem newKey {a : UploadAttempt} {uploadId : Uuid} {file : ReceivedFile} {staged : StagedDocument}
    (hi : UploadInv w) (hnew : uploadId ∉ w.uploadIds)
    (hs : stageUpload a.task uploadId file = some staged) :
    ∀ b ∈ w.attempts.rows, ∀ t, b.staged = some t → staged.objectKey ≠ t.objectKey := by
  intro b hb t ht hkey
  obtain ⟨-, filename, hstaged⟩ := stageUpload_ok hs
  obtain ⟨u, hu, filename', hold⟩ := (hi.attempts b hb).keyed t ht
  rw [hkey] at hstaged
  have heq := stagedObjectKey_inj hstaged hold
  subst heq
  exact hnew hu

/-- where the command sends a call: to a replay only of what its grant names -/
theorem afterCompletion_loading {task : UploadTask} {answer : Except DocumentCommandError Completion}
    {id : DocumentId} (h : afterCompletion task answer = .loading id) : answer = .ok (.known id) := by
  cases answer with
  | ok c =>
    cases c with
    | known known =>
      cases h
      rfl
    | created d => cases h
    | replayed d => cases h
    | refused r => cases h
  | error e => cases task <;> cases e <;> cases h

/-- after its command, whatever it answered -/
theorem attemptOk_completed {a : UploadAttempt} {answer : Except DocumentCommandError Completion}
    (ha : AttemptOk w a) (hknown : ∀ id, answer = .ok (.known id) → Names w.db a.task id) :
    AttemptOk w { a with phase := afterCompletion a.task answer } := by
  obtain ⟨hstaged, hadmitted, hchecking⟩ := afterCompletion_ne a.task answer
  refine ha.next hstaged ?_ ?_
  · intro h
    rcases h with h | h
    · exact absurd h hadmitted
    · exact absurd h hchecking
  · intro id h
    exact hknown id (afterCompletion_loading h)

/-- **Every step keeps what is known of the calls.** -/
theorem attempts_move (hi : UploadInv w) (hm : UploadMove e w w') :
    (∀ a ∈ w'.attempts.rows, AttemptOk w' a) ∧ DistinctKeys w' := by
  have hkept := grantsKept_move hi hm.tables
  cases hm with
  | refused h =>
    subst h
    exact ⟨hi.attempts, hi.distinct⟩
  | began a ids hnew hstaged hbegins hids h =>
    subst h
    refine ⟨attempts_upsert rfl (attemptOk_begins hstaged hbegins) ?_, distinct_upsert hi.distinct rfl ?_⟩
    · exact fun x hx => (hi.attempts x hx).mono hkept fun u hu => hu
    · intro s hs
      rw [hstaged] at hs
      cases hs
  | phase a phase uploadIds ha hphase h =>
    subst h
    have hmono : ∀ x ∈ w.attempts.rows, AttemptOk _ x := fun x hx =>
      (hi.attempts x hx).mono hkept fun u hu => List.mem_append_right uploadIds hu
    obtain ⟨hstaged, hchecking, hloading, hadmitted⟩ := hphase.next
    refine ⟨attempts_upsert rfl ((hmono a (Table.get?_mem ha)).next hstaged ?_ ?_) hmono,
      distinct_next hi.distinct ha rfl⟩
    · intro hopen
      rcases hopen with hopen | hopen
      · exact (hi.attempts a (Table.get?_mem ha)).unstaged (.inr (hadmitted hopen))
      · exact absurd hopen hchecking
    · exact fun id hid => absurd hid (hloading id)
  | staged a uploadId file staged ha hphase hnew hs h =>
    subst h
    have hmono : ∀ x ∈ w.attempts.rows, AttemptOk _ x := fun x hx =>
      (hi.attempts x hx).mono hkept fun u hu => List.mem_cons_of_mem uploadId hu
    refine ⟨attempts_upsert rfl (attemptOk_staged (hmono a (Table.get?_mem ha)) hs List.mem_cons_self)
      hmono, distinct_upsert hi.distinct rfl ?_⟩
    intro s hs' b hb _ t ht
    cases hs'
    exact newKey hi hnew hs b hb t ht
  | completed a staged documentId messageId now fault he ha hphase hs hnew h =>
    subst h
    have hmono : ∀ x ∈ w.attempts.rows,
        AttemptOk (w.complete a staged documentId messageId now fault) x := fun x hx =>
      (hi.attempts x hx).mono hkept fun u hu => hu
    have hok := hmono a (Table.get?_mem ha)
    cases complete_cases w a staged documentId messageId now fault with
    | quiet answer hanswer hknown h =>
      rw [h] at hok hmono ⊢
      exact ⟨attempts_upsert rfl (attemptOk_completed hok hknown) hmono,
        distinct_next hi.distinct ha rfl⟩
    | created d db' hrun hby answer hanswer h =>
      rw [h] at hok hmono ⊢
      refine ⟨attempts_upsert rfl (attemptOk_completed hok ?_) hmono,
        distinct_next hi.distinct ha rfl⟩
      intro id hid
      rcases hanswer with ⟨-, h⟩ | ⟨-, h⟩
      · rw [h] at hid
        cases hid
      · rw [h] at hid
        cases hid
  | deleted a staged result ha hphase hs h =>
    subst h
    have hmono : ∀ x ∈ w.attempts.rows, AttemptOk _ x := fun x hx =>
      (hi.attempts x hx).mono hkept fun u hu => hu
    refine ⟨attempts_upsert rfl ((hmono a (Table.get?_mem ha)).next ?_ ?_ ?_) hmono,
      distinct_next hi.distinct ha rfl⟩
    · simp
    · simp
    · simp
  | commanded db' effect hmove hnot hdb h =>
    subst h
    exact ⟨fun x hx => (hi.attempts x hx).mono hkept fun u hu => hu, hi.distinct⟩
  | housekept db' change ids hk hids h =>
    subst h
    exact ⟨fun x hx => (hi.attempts x hx).mono hkept fun u hu => hu, hi.distinct⟩

theorem UploadInv.move (hi : UploadInv w) (hm : UploadMove e w w') : UploadInv w' := by
  obtain ⟨hattempts, hdistinct⟩ := attempts_move hi hm
  exact ⟨hi.evidence.move (evidence_move hi hm.tables), hi.policy.move (policy_move hi hm.tables),
    hattempts, hdistinct⟩

theorem uploadInv_empty : UploadInv .empty where
  evidence := grantInv_empty
  policy := grantInv_empty
  attempts := fun a ha => absurd ha (Table.mem_rows_empty a)
  distinct := fun a ha => absurd ha (Table.mem_rows_empty a)

/-- **The invariant holds in every state of every run.** -/
theorem uploadInv_run {maxDocumentBytes : Nat} {es : List UploadEvent}
    (h : run (uploadStep maxDocumentBytes) .empty es = some w) : UploadInv w :=
  run_inv UploadInv (fun _ _ _ hi hstep => hi.move (uploadStep_move hstep)) uploadInv_empty h

end

end Proofplane
