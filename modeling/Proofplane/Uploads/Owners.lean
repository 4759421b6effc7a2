import Proofplane.Uploads.Attempts

/-!
# What owns an uploaded document is there

A replay reads the document that a used grant names together with its submission or its policy.

* `SubmissionIn`     a submission id was drawn for a call or a grant of a workspace;
* `OwnersInv`        no id was drawn for two workspaces, every stored submission is one of the workspace
                     that its id was drawn for, and every document has its submission or its policy;
* `ownersInv_run`    it holds in every state of every run;
* `load_named`       **the document that a grant names can be read**.
-/

namespace Proofplane
open Base

def SubmissionIn (w : UploadWorld) (workspaceId : WorkspaceId) (id : EvidenceSubmissionId) : Prop :=
  (∃ a ∈ w.attempts.rows, ∃ connection evidenceId coverage,
    a.task = .humanEvidence connection id evidenceId coverage ∧
      connection.workspaceId = workspaceId) ∨
  ∃ g ∈ w.db.evidenceGrants.rows, g.submissionId = id ∧ g.workspaceId = workspaceId

/-- what the tables say of owners, given where the submission ids belong -/
structure OwnersOk (belongs : WorkspaceId → EvidenceSubmissionId → Prop) (db : DocumentDb) :
    Prop where
  submissions : ∀ s ∈ db.submissions.rows, ∃ workspaceId, belongs workspaceId s.id ∧
    db.getEvidence workspaceId s.evidenceId ≠ none
  evidence : ∀ d ∈ db.documents.rows, ∀ id, d.owner = .evidenceSubmission id →
    ∃ s ∈ db.submissions.rows, s.id = id
  policies : ∀ d ∈ db.documents.rows, ∀ id, d.owner = .policy id →
    ∃ p ∈ db.policies.rows, p.id = id ∧ p.workspaceId = d.workspaceId

structure OwnersInv (w : UploadWorld) : Prop where
  drawn : ∀ workspaceId id, SubmissionIn w workspaceId id → id ∈ w.submissionIds
  one : ∀ workspaceId workspaceId' id, SubmissionIn w workspaceId id →
    SubmissionIn w workspaceId' id → workspaceId = workspaceId'
  owners : OwnersOk (SubmissionIn w) w.db

section
variable {w w' : UploadWorld} {e : UploadEvent}

/-! ## Where the calls and grants of a step come from -/

/-- no call is lost, and none changes its task -/
theorem attempts_forward (hm : UploadMove e w w') :
    ∀ a ∈ w.attempts.rows, ∃ a' ∈ w'.attempts.rows, a'.id = a.id ∧ a'.task = a.task := by
  have hput : ∀ b b' : UploadAttempt, w.attempts.get? b.id = some b → b'.id = b.id →
      b'.task = b.task → ∀ a ∈ w.attempts.rows,
        ∃ a' ∈ (w.attempts.upsert b').rows, a'.id = a.id ∧ a'.task = a.task := by
    intro b b' hb hid htask a ha
    by_cases hab : a.id = b.id
    · have heq : a = b := w.attempts.eq_of_key ha (Table.get?_mem hb) hab
      subst heq
      exact ⟨b', Table.mem_upsert.mpr (.inl rfl), hid, htask⟩
    · exact ⟨a, Table.mem_upsert.mpr (.inr ⟨ha, by rw [hid]; exact hab⟩), rfl, rfl⟩
  cases hm with
  | refused h =>
    subst h
    exact fun a ha => ⟨a, ha, rfl, rfl⟩
  | began b ids hnew hstaged hbegins hids h =>
    subst h
    intro a ha
    exact ⟨a, Table.mem_upsert.mpr (.inr ⟨ha, Table.get?_eq_none_iff.mp hnew a ha⟩), rfl, rfl⟩
  | phase b phase uploadIds hb hphase h =>
    subst h
    exact hput b _ hb rfl rfl
  | staged b uploadId file staged hb hphase hnew hs h =>
    subst h
    exact hput b _ hb rfl rfl
  | completed b staged documentId messageId now fault he hb hphase hs hnew h =>
    subst h
    exact hput b _ hb rfl rfl
  | deleted b staged result hb hphase hs h =>
    subst h
    exact hput b _ hb rfl rfl
  | commanded db' effect hmove hnot hdb h =>
    subst h
    exact fun a ha => ⟨a, ha, rfl, rfl⟩
  | housekept db' change ids hk hids h =>
    subst h
    exact fun a ha => ⟨a, ha, rfl, rfl⟩

theorem submissionIn_move (hi : UploadInv w) (hm : UploadMove e w w') {workspaceId : WorkspaceId}
    {id : EvidenceSubmissionId} (h : SubmissionIn w workspaceId id) :
    SubmissionIn w' workspaceId id := by
  rcases h with ⟨a, ha, connection, evidenceId, coverage, ht, hws⟩ | ⟨g, hg, hid, hws⟩
  · obtain ⟨a', ha', -, ht'⟩ := attempts_forward hm a ha
    exact .inl ⟨a', ha', connection, evidenceId, coverage, ht'.trans ht, hws⟩
  · obtain ⟨g', hg', hterms⟩ := (grantsKept_move hi hm.tables).evidence.terms g hg
    refine .inr ⟨g', hg', ?_, ?_⟩
    · rw [hterms]
      exact hid
    · rw [hterms]
      exact hws

/-- a step that leaves the evidence grants with their terms -/
def GrantsBack (db db' : DocumentDb) : Prop :=
  ∀ g' ∈ db'.evidenceGrants.rows, ∃ g ∈ db.evidenceGrants.rows, SameTerms g g'

theorem grantsBack_of_eq {db db' : DocumentDb} (h : db'.evidenceGrants = db.evidenceGrants) :
    GrantsBack db db' := by
  intro g' hg'
  rw [h] at hg'
  exact ⟨g', hg', .refl g'⟩

theorem grantsBack_created {db db' : DocumentDb} {staged : StagedDocument} {documentId : DocumentId}
    {now : Int} {task : UploadTask} {d : Document}
    (hstored : ∀ g ∈ db.evidenceGrants.rows, g.toRow = g)
    (hby : CreatedBy db db' staged documentId now task d) : GrantsBack db db' := by
  cases hby with
  | humanEvidence connection submissionId evidenceId coverage d s hd hs hse hevidence hdb =>
    exact grantsBack_of_eq (by rw [hdb])
  | humanPolicy connection policyId d hd heligible hdb => exact grantsBack_of_eq (by rw [hdb])
  | agentEvidence grant g authority d s hg hp hlt hpending hd hs hse hvalid hissued hevidence hdb =>
    obtain ⟨hmem, -⟩ := DocumentDb.getGrant_ok hg
    intro g' hg'
    rw [hdb] at hg'
    rcases Table.mem_upsert.mp hg' with rfl | ⟨hg', -⟩
    · exact ⟨g, hmem, sameTerms_toRow (hstored g hmem) _⟩
    · exact ⟨g', hg', .refl g'⟩
  | agentPolicy grant g authority d hg hp hlt hpending hd hvalid hissued heligible hdb =>
    exact grantsBack_of_eq (by rw [hdb])

/-- the one submission id that a step may draw -/
def Draws (w w' : UploadWorld) (new : Option (WorkspaceId × EvidenceSubmissionId)) : Prop :=
  (∀ workspaceId id, SubmissionIn w' workspaceId id →
    SubmissionIn w workspaceId id ∨ new = some (workspaceId, id)) ∧
  ∀ p, new = some p → p.2 ∉ w.submissionIds ∧ p.2 ∈ w'.submissionIds

theorem draws_none (hback : GrantsBack w.db w'.db)
    (ha : ∀ a' ∈ w'.attempts.rows, ∃ a ∈ w.attempts.rows, a.task = a'.task) : Draws w w' none := by
  refine ⟨?_, by simp⟩
  intro workspaceId id h
  rcases h with ⟨a', ha', connection, evidenceId, coverage, ht, hws⟩ | ⟨g', hg', hid, hws⟩
  · obtain ⟨a, ham, hta⟩ := ha a' ha'
    exact .inl (.inl ⟨a, ham, connection, evidenceId, coverage, hta.trans ht, hws⟩)
  · obtain ⟨g, hg, hterms⟩ := hback g' hg'
    refine .inl (.inr ⟨g, hg, ?_, ?_⟩)
    · rw [hterms] at hid
      exact hid
    · rw [hterms] at hws
      exact hws

/-- one call of the step has changed, in other things than its task -/
theorem tasks_upsert {a a' : UploadAttempt} (ha : w.attempts.get? a.id = some a)
    (ht : a'.task = a.task) :
    ∀ x' ∈ (w.attempts.upsert a').rows, ∃ x ∈ w.attempts.rows, x.task = x'.task := by
  intro x' hx'
  rcases Table.mem_upsert.mp hx' with rfl | ⟨hx, -⟩
  · exact ⟨a, Table.get?_mem ha, ht.symm⟩
  · exact ⟨x', hx, rfl⟩

theorem draws_began {a : UploadAttempt} {ids : List EvidenceSubmissionId}
    (hids : ∀ c s e v, a.task = .humanEvidence c s e v → s ∉ w.submissionIds ∧ ids = [s])
    (h : w' = { w with
      attempts := w.attempts.upsert a, submissionIds := ids ++ w.submissionIds }) :
    ∃ new, Draws w w' new := by
  subst h
  -- a person's call draws the id of its submission, no other call draws one
  have hcases : (∃ c s e v, a.task = .humanEvidence c s e v) ∨
      ∀ c s e v, a.task ≠ .humanEvidence c s e v := by
    cases a.task with
    | humanEvidence c s e v => exact .inl ⟨c, s, e, v, rfl⟩
    | humanPolicy c p => exact .inr (by simp)
    | agentEvidence g auth => exact .inr (by simp)
    | agentPolicy g auth => exact .inr (by simp)
  rcases hcases with ⟨c, s, e, v, htask⟩ | hnot
  · obtain ⟨hnew, rfl⟩ := hids c s e v htask
    refine ⟨some (c.workspaceId, s), ?_, ?_⟩
    · intro workspaceId id h
      rcases h with ⟨x, hx, connection, evidenceId, coverage, ht, hws⟩ | hg
      · rcases Table.mem_upsert.mp hx with rfl | ⟨hxm, -⟩
        · rw [htask] at ht
          cases ht
          exact .inr (by rw [hws])
        · exact .inl (.inl ⟨x, hxm, connection, evidenceId, coverage, ht, hws⟩)
      · exact .inl (.inr hg)
    · intro p hp
      cases hp
      exact ⟨hnew, List.mem_append_left _ List.mem_cons_self⟩
  · refine ⟨none, ?_, by simp⟩
    intro workspaceId id h
    rcases h with ⟨x, hx, connection, evidenceId, coverage, ht, hws⟩ | hg
    · rcases Table.mem_upsert.mp hx with rfl | ⟨hxm, -⟩
      · exact absurd ht (hnot _ _ _ _)
      · exact .inl (.inl ⟨x, hxm, connection, evidenceId, coverage, ht, hws⟩)
    · exact .inl (.inr hg)

theorem draws_housekept {db' : DocumentDb} {change : Housekeeping} {ids : List EvidenceSubmissionId}
    (hk : w.db.housekeep change = some db')
    (hids : ∀ g, change = .issueEvidenceGrant g →
      g.submissionId ∉ w.submissionIds ∧ ids = [g.submissionId])
    (h : w' = { w with db := db', submissionIds := ids ++ w.submissionIds }) :
    ∃ new, Draws w w' new := by
  subst h
  have hsame : db'.evidenceGrants = w.db.evidenceGrants →
      Draws w { w with db := db', submissionIds := ids ++ w.submissionIds } none := fun h =>
    draws_none (grantsBack_of_eq h) fun a ha => ⟨a, ha, rfl⟩
  cases housekeeps hk with
  | addEvidence item hnew h => exact ⟨none, hsame (by rw [h])⟩
  | addPolicy item hnew h => exact ⟨none, hsame (by rw [h])⟩
  | archivePolicy id archivedAt h => exact ⟨none, hsame (by rw [h])⟩
  | issuePolicyGrant grant hnew hvalid h => exact ⟨none, hsame (by rw [h])⟩
  | issueEvidenceGrant grant hnew hvalid h =>
    obtain ⟨hdrawn, rfl⟩ := hids grant rfl
    refine ⟨some (grant.workspaceId, grant.submissionId), ?_, ?_⟩
    · intro workspaceId id hin
      rcases hin with ha | ⟨g, hg, hid, hws⟩
      · exact .inl (.inl ha)
      · have hg' : g ∈ (w.db.evidenceGrants.upsert grant.issuedRow).rows := by
          rw [h] at hg
          exact hg
        rcases Table.mem_upsert.mp hg' with rfl | ⟨hgm, -⟩
        · refine .inr ?_
          rw [← hid, ← hws]
          rfl
        · exact .inl (.inr ⟨g, hgm, hid, hws⟩)
    · intro p hp
      cases hp
      exact ⟨hdrawn, List.mem_append_left _ List.mem_cons_self⟩

/-- **A step draws one submission id at most, and a new one.** -/
theorem draws_move (hi : UploadInv w) (hm : UploadMove e w w') : ∃ new, Draws w w' new := by
  cases hm with
  | refused h =>
    subst h
    exact ⟨none, draws_none (grantsBack_of_eq rfl) fun a ha => ⟨a, ha, rfl⟩⟩
  | began a ids hnew hstaged hbegins hids h => exact draws_began hids h
  | phase a phase uploadIds ha hphase h =>
    subst h
    exact ⟨none, draws_none (grantsBack_of_eq rfl) (tasks_upsert ha rfl)⟩
  | staged a uploadId file staged ha hphase hnew hs h =>
    subst h
    exact ⟨none, draws_none (grantsBack_of_eq rfl) (tasks_upsert ha rfl)⟩
  | deleted a staged result ha hphase hs h =>
    subst h
    exact ⟨none, draws_none (grantsBack_of_eq rfl) (tasks_upsert ha rfl)⟩
  | completed a staged documentId messageId now fault he ha hphase hs hnew h =>
    subst h
    refine ⟨none, draws_none ?_ (tasks_upsert ha rfl)⟩
    cases complete_cases w a staged documentId messageId now fault with
    | quiet answer hanswer hknown h =>
      rw [h]
      exact grantsBack_of_eq rfl
    | created d db' hrun hby answer hanswer h =>
      rw [h]
      exact grantsBack_created hi.evidence.stored hby
  | commanded db' effect hmove hnot hdb h =>
    subst h
    exact ⟨none, draws_none (grantsBack_of_eq (by rw [hdb])) fun a ha => ⟨a, ha, rfl⟩⟩
  | housekept db' change ids hk hids h => exact draws_housekept hk hids h

/-! ## Every step keeps the owners -/

theorem submissionIds_move (hm : UploadMove e w w') : ∀ id ∈ w.submissionIds, id ∈ w'.submissionIds := by
  intro id hid
  cases hm with
  | refused h => rwa [h]
  | began a ids hnew hstaged hbegins hids h =>
    rw [h]
    exact List.mem_append_right ids hid
  | phase a phase uploadIds ha hphase h => rwa [h]
  | staged a uploadId file staged ha hphase hnew hs h => rwa [h]
  | completed a staged documentId messageId now fault he ha hphase hs hnew h => rwa [h]
  | deleted a staged result ha hphase hs h => rwa [h]
  | commanded db' effect hmove hnot hdb h => rwa [h]
  | housekept db' change ids hk hids h =>
    rw [h]
    exact List.mem_append_right ids hid

/-- evidence and policies are never lost -/
structure ItemsKept (db db' : DocumentDb) : Prop where
  evidence : ∀ workspaceId id, db.getEvidence workspaceId id ≠ none →
    db'.getEvidence workspaceId id ≠ none
  policies : ∀ p ∈ db.policies.rows, ∃ p' ∈ db'.policies.rows, p'.id = p.id ∧
    p'.workspaceId = p.workspaceId

theorem itemsKept_of_eq {db db' : DocumentDb} (he : db'.evidence = db.evidence)
    (hp : db'.policies = db.policies) : ItemsKept db db' where
  evidence := by
    intro workspaceId id h
    unfold DocumentDb.getEvidence at h ⊢
    rw [he]
    exact h
  policies := by
    intro p hpm
    rw [hp]
    exact ⟨p, hpm, rfl, rfl⟩

theorem getEvidence_mono {db db' : DocumentDb}
    (h : ∀ id item, db.evidence.get? id = some item → db'.evidence.get? id = some item)
    {workspaceId : WorkspaceId} {id : EvidenceId} (hold : db.getEvidence workspaceId id ≠ none) :
    db'.getEvidence workspaceId id ≠ none := by
  obtain ⟨item, hitem⟩ := Option.ne_none_iff_exists'.mp hold
  unfold DocumentDb.getEvidence at hitem ⊢
  obtain ⟨hget, hws⟩ := Option.filter_eq_some_iff.mp hitem
  rw [Option.filter_eq_some_iff.mpr ⟨h id item hget, hws⟩]
  simp

theorem itemsKept_housekeep {db db' : DocumentDb} {change : Housekeeping}
    (hk : db.housekeep change = some db') : ItemsKept db db' := by
  refine ⟨fun _ _ hold => getEvidence_mono (housekept hk).evidence hold, ?_⟩
  intro p hp
  cases housekeeps hk with
  | addEvidence item hnew h =>
    rw [h]
    exact ⟨p, hp, rfl, rfl⟩
  | addPolicy item hnew h =>
    rw [h]
    exact ⟨p, Table.mem_upsert.mpr (.inr ⟨hp, Table.get?_eq_none_iff.mp hnew p hp⟩), rfl, rfl⟩
  | archivePolicy id archivedAt h =>
    rw [h]
    by_cases hid : p.id = id
    · refine ⟨p.archive archivedAt, ?_, rfl, rfl⟩
      rw [Table.mem_modify]
      exact .inr ⟨p, hp, hid, rfl⟩
    · refine ⟨p, ?_, rfl, rfl⟩
      rw [Table.mem_modify]
      exact .inl ⟨hp, hid⟩
  | issueEvidenceGrant grant hnew hvalid h =>
    rw [h]
    exact ⟨p, hp, rfl, rfl⟩
  | issuePolicyGrant grant hnew hvalid h =>
    rw [h]
    exact ⟨p, hp, rfl, rfl⟩

section
variable {belongs : WorkspaceId → EvidenceSubmissionId → Prop} {db db' : DocumentDb}

/-- no new submission, and only documents that were there -/
theorem OwnersOk.kept (h : OwnersOk belongs db) (hk : ItemsKept db db')
    (hs : db'.submissions = db.submissions)
    (hd : ∀ x' ∈ db'.documents.rows, ∃ x ∈ db.documents.rows,
      x'.owner = x.owner ∧ x'.workspaceId = x.workspaceId) : OwnersOk belongs db' where
  submissions := by
    rw [hs]
    intro s hsm
    obtain ⟨workspaceId, hin, he⟩ := h.submissions s hsm
    exact ⟨workspaceId, hin, hk.evidence _ _ he⟩
  evidence := by
    rw [hs]
    intro x' hx' id howner
    obtain ⟨x, hx, ho, -⟩ := hd x' hx'
    exact h.evidence x hx id (ho ▸ howner)
  policies := by
    intro x' hx' id howner
    obtain ⟨x, hx, ho, hw⟩ := hd x' hx'
    obtain ⟨p, hp, hid, hws⟩ := h.policies x hx id (ho ▸ howner)
    obtain ⟨p', hp', hid', hws'⟩ := hk.policies p hp
    exact ⟨p', hp', hid'.trans hid, by rw [hws', hws, hw]⟩

/-- a new submission with its document -/
theorem OwnersOk.submitted (h : OwnersOk belongs db) {s : EvidenceSubmission} {d : Document}
    {workspaceId : WorkspaceId} (hin : belongs workspaceId s.id)
    (he : db.getEvidence workspaceId s.evidenceId ≠ none) (howner : d.owner = .evidenceSubmission s.id)
    (hev : db'.evidence = db.evidence) (hp : db'.policies = db.policies)
    (hs : db'.submissions = db.submissions.upsert s.toRow)
    (hd : db'.documents = db.documents.upsert d.toRow) : OwnersOk belongs db' where
  submissions := by
    rw [hs]
    intro x hx
    rcases Table.mem_upsert.mp hx with rfl | ⟨hxm, -⟩
    · exact ⟨workspaceId, hin, (itemsKept_of_eq hev hp).evidence _ _ he⟩
    · obtain ⟨ws, hws, hold⟩ := h.submissions x hxm
      exact ⟨ws, hws, (itemsKept_of_eq hev hp).evidence _ _ hold⟩
  evidence := by
    rw [hs, hd]
    intro x hx id hid
    rcases Table.mem_upsert.mp hx with rfl | ⟨hxm, -⟩
    · have heq : DocumentOwner.evidenceSubmission s.id = .evidenceSubmission id := howner.symm.trans hid
      cases heq
      exact ⟨s.toRow, Table.mem_upsert.mpr (.inl rfl), rfl⟩
    · obtain ⟨x', hx', hid'⟩ := h.evidence x hxm id hid
      by_cases hsid : x'.id = s.id
      · exact ⟨s.toRow, Table.mem_upsert.mpr (.inl rfl), hsid.symm.trans hid'⟩
      · exact ⟨x', Table.mem_upsert.mpr (.inr ⟨hx', hsid⟩), hid'⟩
  policies := by
    rw [hd, hp]
    intro x hx id hid
    rcases Table.mem_upsert.mp hx with rfl | ⟨hxm, -⟩
    · have heq : DocumentOwner.evidenceSubmission s.id = .policy id := howner.symm.trans hid
      cases heq
    · exact h.policies x hxm id hid

theorem eligible_policy {workspaceId : WorkspaceId} {id : PolicyId}
    (h : db.lockDocumentUploadEligibility workspaceId id = some .eligible) :
    ∃ p ∈ db.policies.rows, p.id = id ∧ p.workspaceId = workspaceId := by
  unfold DocumentDb.lockDocumentUploadEligibility at h
  obtain ⟨p, hp, -⟩ := Option.map_eq_some_iff.mp h
  obtain ⟨hget, hws⟩ := Option.filter_eq_some_iff.mp hp
  obtain ⟨hmem, hid⟩ := Table.get?_eq_some_iff.mp hget
  exact ⟨p, hmem, hid, (of_decide_eq_true hws).1⟩

/-- a new document of a policy -/
theorem OwnersOk.attached (h : OwnersOk belongs db) {d : Document} {id : PolicyId}
    (howner : d.owner = .policy id)
    (heligible : db.lockDocumentUploadEligibility d.workspaceId id = some .eligible)
    (hev : db'.evidence = db.evidence) (hp : db'.policies = db.policies)
    (hs : db'.submissions = db.submissions)
    (hd : db'.documents = db.documents.upsert d.toRow) : OwnersOk belongs db' where
  submissions := by
    rw [hs]
    intro x hx
    obtain ⟨ws, hws, hold⟩ := h.submissions x hx
    exact ⟨ws, hws, (itemsKept_of_eq hev hp).evidence _ _ hold⟩
  evidence := by
    rw [hs, hd]
    intro x hx id' hid
    rcases Table.mem_upsert.mp hx with rfl | ⟨hxm, -⟩
    · have heq : DocumentOwner.policy id = .evidenceSubmission id' := howner.symm.trans hid
      cases heq
    · exact h.evidence x hxm id' hid
  policies := by
    rw [hd, hp]
    intro x hx id' hid
    rcases Table.mem_upsert.mp hx with rfl | ⟨hxm, -⟩
    · have heq : DocumentOwner.policy id = .policy id' := howner.symm.trans hid
      cases heq
      exact eligible_policy heligible
    · exact h.policies x hxm id' hid

end

theorem OwnersOk.mono {belongs belongs' : WorkspaceId → EvidenceSubmissionId → Prop} {db : DocumentDb}
    (h : OwnersOk belongs db) (hsub : ∀ workspaceId id, belongs workspaceId id → belongs' workspaceId id) :
    OwnersOk belongs' db where
  submissions := by
    intro s hs
    obtain ⟨workspaceId, hin, he⟩ := h.submissions s hs
    exact ⟨workspaceId, hsub _ _ hin, he⟩
  evidence := h.evidence
  policies := h.policies

/-- a created document has its owner -/
theorem ownersOk_created {a : UploadAttempt} {staged : StagedDocument} {documentId : DocumentId}
    {now : Int} {d : Document} {db' : DocumentDb} (h : OwnersOk (SubmissionIn w) w.db)
    (ha : a ∈ w.attempts.rows) (hby : CreatedBy w.db db' staged documentId now a.task d) :
    OwnersOk (SubmissionIn w) db' := by
  generalize ht : a.task = task at hby
  cases hby with
  | humanEvidence connection submissionId evidenceId coverage d s hd hs hse hevidence hdb =>
    have hin : SubmissionIn w connection.workspaceId s.id :=
      .inl ⟨a, ha, connection, evidenceId, coverage, by rw [ht, hs], rfl⟩
    have howner : d.owner = .evidenceSubmission s.id := by
      rw [hd, hs]
      rfl
    rw [← hse] at hevidence
    exact h.submitted hin hevidence howner (by rw [hdb]) (by rw [hdb]) (by rw [hdb]) (by rw [hdb])
  | humanPolicy connection policyId d hd heligible hdb =>
    have howner : d.owner = .policy policyId := by
      rw [hd]
      rfl
    have hws : d.workspaceId = connection.workspaceId := by
      rw [hd]
      rfl
    exact h.attached howner (hws ▸ heligible) (by rw [hdb]) (by rw [hdb]) (by rw [hdb]) (by rw [hdb])
  | agentEvidence grant g authority d s hg hp hlt hpending hd hs hse hvalid hissued hevidence hdb =>
    obtain ⟨hmem, -, hws, -⟩ := DocumentDb.getGrant_ok hg
    have hin : SubmissionIn w grant.workspaceId s.id := .inr ⟨g, hmem, hs.symm, hws⟩
    have howner : d.owner = .evidenceSubmission s.id := by
      rw [hd, hs]
      rfl
    rw [← hse] at hevidence
    exact h.submitted hin hevidence howner (by rw [hdb]) (by rw [hdb]) (by rw [hdb]) (by rw [hdb])
  | agentPolicy grant g authority d hg hp hlt hpending hd hvalid hissued heligible hdb =>
    have howner : d.owner = .policy g.policyId := by
      rw [hd]
      rfl
    have hws : d.workspaceId = grant.workspaceId := by
      rw [hd]
      rfl
    exact h.attached howner (hws ▸ heligible) (by rw [hdb]) (by rw [hdb]) (by rw [hdb]) (by rw [hdb])

/-- the tables after a step still agree with where the ids belonged before it -/
theorem ownersOk_tables (h : OwnersOk (SubmissionIn w) w.db) (hm : TablesMove w w') :
    OwnersOk (SubmissionIn w) w'.db := by
  cases hm with
  | same hdb hc =>
    rw [hdb]
    exact h
  | created a staged documentId now d ha hphase hs hnew hby hc =>
    exact ownersOk_created h (Table.get?_mem ha) hby
  | commanded effect hmove hnot hdb hc =>
    refine h.kept (itemsKept_of_eq (by rw [hdb]) (by rw [hdb])) (by rw [hdb]) ?_
    intro x' hx'
    obtain ⟨x, hx, hprec⟩ := precedes_move hmove hnot x' hx'
    refine ⟨x, hx, ?_, hprec.workspaceId⟩
    unfold Document.owner
    rw [hprec.identity]
  | housekept change hk hc =>
    refine h.kept (itemsKept_housekeep hk) (housekept hk).submissions ?_
    intro x hx
    rw [(housekept hk).documents] at hx
    exact ⟨x, hx, rfl, rfl⟩

theorem OwnersInv.move (hi : UploadInv w) (ho : OwnersInv w) (hm : UploadMove e w w') : OwnersInv w' := by
  obtain ⟨new, hback, hnew⟩ := draws_move hi hm
  refine ⟨?_, ?_, ?_⟩
  · intro workspaceId id hin
    rcases hback workspaceId id hin with hold | hdrawn
    · exact submissionIds_move hm id (ho.drawn workspaceId id hold)
    · exact (hnew _ hdrawn).2
  · intro workspaceId workspaceId' id hin hin'
    rcases hback workspaceId id hin with hold | hdrawn
    · rcases hback workspaceId' id hin' with hold' | hdrawn'
      · exact ho.one _ _ id hold hold'
      · exact absurd (ho.drawn workspaceId id hold) (hnew _ hdrawn').1
    · rcases hback workspaceId' id hin' with hold' | hdrawn'
      · exact absurd (ho.drawn workspaceId' id hold') (hnew _ hdrawn).1
      · rw [hdrawn] at hdrawn'
        cases hdrawn'
        rfl
  · exact (ownersOk_tables ho.owners hm.tables).mono fun _ _ hin => submissionIn_move hi hm hin

theorem ownersInv_empty : OwnersInv .empty where
  drawn := by
    intro workspaceId id hin
    rcases hin with ⟨a, ha, -⟩ | ⟨g, hg, -⟩
    · exact absurd ha (Table.mem_rows_empty a)
    · exact absurd hg (Table.mem_rows_empty g)
  one := by
    intro workspaceId workspaceId' id hin
    rcases hin with ⟨a, ha, -⟩ | ⟨g, hg, -⟩
    · exact absurd ha (Table.mem_rows_empty a)
    · exact absurd hg (Table.mem_rows_empty g)
  owners :=
    ⟨fun s hs => absurd hs (Table.mem_rows_empty s), fun d hd => absurd hd (Table.mem_rows_empty d),
      fun d hd => absurd hd (Table.mem_rows_empty d)⟩

/-- **Owners are there in every state of every run.** -/
theorem ownersInv_run {maxDocumentBytes : Nat} {es : List UploadEvent}
    (h : run (uploadStep maxDocumentBytes) .empty es = some w) : OwnersInv w := by
  have hboth : UploadInv w ∧ OwnersInv w := by
    refine run_inv (fun w => UploadInv w ∧ OwnersInv w) ?_ ⟨uploadInv_empty, ownersInv_empty⟩ h
    rintro s e s' ⟨hi, ho⟩ hstep
    have hm := uploadStep_move hstep
    exact ⟨hi.move hm, ho.move hi hm⟩
  exact hboth.2

/-! ## Reading the document of a used grant -/

/-- the stored document of a completed grant -/
theorem GrantInv.document {K : UploadTarget} {v : GrantView K} (hi : GrantInv v) {g : UploadGrant K}
    (hg : g ∈ v.grants.rows) {id : DocumentId} (hdoc : g.documentId = some id) :
    ∃ d ∈ v.documents.rows, d.id = id ∧ d.owner = K.owner g.target ∧
      d.workspaceId = g.workspaceId := by
  obtain ⟨c, hc, hgrant, hid⟩ := hi.recorded g hg id hdoc
  obtain ⟨g', hg', hh⟩ := hi.honoured c hc
  have heq : g' = g := v.grants.eq_of_key hg' hg (hh.grantId.trans hgrant)
  obtain ⟨d, hd, hsame⟩ := hi.documents c hc
  have hdeclared := heq ▸ hh.declared
  have hident : d.identity = c.document.identity := by
    rw [hsame]
    rfl
  refine ⟨d, hd, ?_, ?_, ?_⟩
  · rw [← hid]
    exact congrArg DocumentIdentity.documentId hident
  · rw [← hdeclared.owner]
    exact congrArg DocumentIdentity.owner hident
  · rw [← hdeclared.workspaceId, hsame]
    rfl

/-- **The document that a grant names can be read.** -/
theorem load_named (hi : UploadInv w) (ho : OwnersInv w) {a : UploadAttempt} (ha : AttemptOk w a)
    {id : DocumentId} (hn : Names w.db a.task id) :
    ∃ d ∈ w.db.documents.rows, loadCompleted w.db a.task id = some d ∧ d.id = id := by
  cases ht : a.task with
  | humanEvidence connection submissionId evidenceId coverage =>
    rw [ht] at hn
    exact False.elim hn
  | humanPolicy connection policyId =>
    rw [ht] at hn
    exact False.elim hn
  | agentEvidence grant authority =>
    rw [ht] at hn
    obtain ⟨g, hg, hgid, hdoc⟩ := hn
    have hterms := SameTerms.stored (ha.evidence grant authority ht).2 hg hgid
    obtain ⟨d, hd, hdid, howner, hws⟩ := hi.evidence.document hg hdoc
    have hsid : g.submissionId = grant.submissionId := by rw [hterms]; rfl
    have hgws : g.workspaceId = grant.workspaceId := by rw [hterms]
    have howner' : d.owner = .evidenceSubmission grant.submissionId := by
      rw [howner, ← hsid]
      rfl
    obtain ⟨s, hs, hsid'⟩ := ho.owners.evidence d hd _ howner'
    obtain ⟨ws, hin, he⟩ := ho.owners.submissions s hs
    have hin' : SubmissionIn w grant.workspaceId s.id := .inr ⟨g, hg, hsid.trans hsid'.symm, hgws⟩
    have hwseq := ho.one _ _ _ hin hin'
    subst hwseq
    have hexists : w.db.submissionExists grant.workspaceId grant.submissionId = true := by
      unfold DocumentDb.submissionExists DocumentDb.getSubmission
      rw [← hsid', Table.get?_of_mem hs]
      simp [Option.filter, Option.isSome_iff_ne_none, he]
    refine ⟨d, hd, ?_, hdid⟩
    show w.db.getAgentEvidenceUploadDocument grant.workspaceId grant.submissionId id = some d
    unfold DocumentDb.getAgentEvidenceUploadDocument
    rw [if_pos hexists]
    exact DocumentDb.getWorkspaceDocument_eq_some.mpr
      ⟨DocumentDb.getDocument_eq_some.mpr ⟨hd, hdid, howner'⟩, hws.trans hgws⟩
  | agentPolicy grant authority =>
    rw [ht] at hn
    obtain ⟨g, hg, hgid, hdoc⟩ := hn
    have hterms := SameTerms.stored (ha.policy grant authority ht).2 hg hgid
    obtain ⟨d, hd, hdid, howner, hws⟩ := hi.policy.document hg hdoc
    have hpid : g.policyId = grant.policyId := by rw [hterms]; rfl
    have hgws : g.workspaceId = grant.workspaceId := by rw [hterms]
    have howner' : d.owner = .policy grant.policyId := by
      rw [howner, ← hpid]
      rfl
    obtain ⟨p, hp, hpid', hpws⟩ := ho.owners.policies d hd _ howner'
    have hfound : ((w.db.policies.get? grant.policyId).filter
        fun p => p.workspaceId = grant.workspaceId) = some p := by
      rw [Option.filter_eq_some_iff, decide_eq_true_eq, ← hpid']
      exact ⟨Table.get?_of_mem hp, hpws.trans (hws.trans hgws)⟩
    refine ⟨d, hd, ?_, hdid⟩
    show w.db.getAgentPolicyUploadDocument grant.workspaceId grant.policyId id = some d
    unfold DocumentDb.getAgentPolicyUploadDocument
    rw [hfound, if_pos Option.isSome_some]
    exact DocumentDb.getWorkspaceDocument_eq_some.mpr
      ⟨DocumentDb.getDocument_eq_some.mpr ⟨hd, hdid, howner'⟩, hws.trans hgws⟩

end

end Proofplane
