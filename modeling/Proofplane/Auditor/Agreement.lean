import Mathlib.Data.String.Basic
import Proofplane.Auditor.Groups
import Proofplane.Documents.Lifecycle

/-!
# What is listed is what is downloaded

* `submissionRows_iff_download`   **a submission stands with its document in the rows of the listing
                        exactly when the download finds the document for it**;
* `ListingAgrees`       the listing of the submissions and the download agree;
* `ListsSubmissions`, `ListsControls`, `ListsPolicies`   each submission, control and policy is listed once,
                        with its own children in the order of the rows;
* `portal_listing_agrees`   **all of it, in every state that a run leads to, for every answer that the
                        database may give**.
-/

namespace Proofplane
open Base

/-! ## The rows of the listing and the download -/

section
variable {db : DocumentDb} {workspaceId : WorkspaceId} {periodStart periodEnd : Int}

theorem getDocumentForDownloadWithinPeriod_eq_some {submissionId : EvidenceSubmissionId}
    {documentId : DocumentId} {c : DocumentDownloadCandidate} :
    db.getDocumentForDownloadWithinPeriod workspaceId submissionId documentId periodStart periodEnd = some c ↔
      ∃ s ∈ db.submissions.rows, s.id = submissionId ∧
        ∃ d ∈ db.documents.rows, d.id = documentId ∧ d.owner = .evidenceSubmission submissionId ∧
          d.workspaceId = workspaceId ∧ d.archived = false ∧ s.validFrom ≤ pgTimestamp periodEnd ∧
          pgTimestamp periodStart ≤ s.validUntil ∧ c = d.downloadCandidate := by
  unfold DocumentDb.getDocumentForDownloadWithinPeriod DocumentDb.download
  simp only [Option.map_eq_some_iff, Option.bind_eq_some_iff, Option.filter_eq_some_iff, Table.get?_eq_some_iff,
    DocumentDb.getWorkspaceDocument_eq_some, DocumentDb.getDocument_eq_some, Bool.and_eq_true, decide_eq_true_eq]
  constructor
  · rintro ⟨d, ⟨s, ⟨hs, hsid⟩, ⟨⟨hd, hdid, howner⟩, hw⟩, ha, hfrom, huntil⟩, rfl⟩
    exact ⟨s, hs, hsid, d, hd, hdid, howner, hw, ha, hfrom, huntil, rfl⟩
  · rintro ⟨s, hs, hsid, d, hd, hdid, howner, hw, ha, hfrom, huntil, rfl⟩
    exact ⟨d, ⟨s, ⟨hs, hsid⟩, ⟨⟨hd, hdid, howner⟩, hw⟩, ha, hfrom, huntil⟩, rfl⟩

/-- the evidence of a stored document's submission is in the document's workspace -/
theorem Owned.evidence (ho : Owned db) {s : EvidenceSubmission} (hs : s ∈ db.submissions.rows) {d : Document}
    (hd : d ∈ db.documents.rows) (howner : d.owner = .evidenceSubmission s.id) :
    ∃ e, db.getEvidence d.workspaceId s.evidenceId = some e := by
  obtain ⟨documentId, hid⟩ : ∃ documentId, d.identity = .evidence s.id documentId := by
    unfold Document.owner at howner
    cases hidentity : d.identity with
    | evidence submissionId documentId =>
      rw [hidentity] at howner
      cases howner
      exact ⟨documentId, rfl⟩
    | policy policyId documentId =>
      rw [hidentity] at howner
      cases howner
  obtain ⟨found, hfound⟩ := Option.ne_none_iff_exists'.mp (ho d hd s.id documentId hid)
  obtain ⟨hget, hevidence⟩ := Option.filter_eq_some_iff.mp hfound
  rw [Table.get?_of_mem hs] at hget
  cases hget
  exact Option.isSome_iff_exists.mp hevidence

/-- **The listing has a submission with a document exactly when the download finds the document.** -/
theorem submissionRows_iff_download (ho : Owned db) {s : EvidenceSubmission} (hs : s ∈ db.submissions.rows)
    {d : Document} (hd : d ∈ db.documents.rows) :
    ⟨s, d⟩ ∈ db.submissionRows workspaceId periodStart periodEnd ↔
      db.getDocumentForDownloadWithinPeriod workspaceId s.id d.id periodStart periodEnd
        = some d.downloadCandidate := by
  rw [mem_submissionRows, getDocumentForDownloadWithinPeriod_eq_some]
  dsimp only
  constructor
  · rintro ⟨-, -, -, howner, hw, ha, hfrom, huntil⟩
    exact ⟨s, hs, rfl, d, hd, rfl, howner, hw, ha, hfrom, huntil, rfl⟩
  · rintro ⟨s', hs', hsid, d', hd', hdid, howner, hw, ha, hfrom, huntil, -⟩
    obtain rfl : s' = s := db.submissions.eq_of_key hs' hs hsid
    obtain rfl : d' = d := db.documents.eq_of_key hd' hd hdid
    obtain ⟨e, he⟩ := ho.evidence hs hd howner
    rw [hw] at he
    exact ⟨hs, ⟨e, he⟩, hd, howner, hw, ha, hfrom, huntil⟩

/-- a download that is served is one that the query finds, of an uploaded document -/
theorem downloadForWorkspaceWithinPeriod_ok {Object : Type}
    {getObject : String → Except StorageError (ObjectMetadata × Object)} {submissionId : EvidenceSubmissionId}
    {documentId : DocumentId} {d : Document} {metadata : ObjectMetadata} {object : Object}
    (h : db.downloadForWorkspaceWithinPeriod getObject workspaceId periodStart periodEnd submissionId documentId
      = .ok (d, metadata, object)) :
    ∃ c, db.getDocumentForDownloadWithinPeriod workspaceId submissionId documentId periodStart periodEnd
        = some c ∧ c.document = d ∧ d.uploadStatus = .uploaded := by
  unfold DocumentDb.downloadForWorkspaceWithinPeriod at h
  split at h
  · cases h
  · next c hc =>
    split at h
    · cases h
    · next hstatus =>
      split at h
      · cases h
      · split at h
        · cases h
        · split at h
          · cases h
          · cases h
            exact ⟨c, hc, rfl, not_not.mp hstatus⟩

/-- the listing of the submissions and the download agree -/
structure ListingAgrees (db : DocumentDb) (workspaceId : WorkspaceId) (periodStart periodEnd : Int)
    (listing : EvidenceId → Option (List AuditorPortalSubmission)) : Prop where
  /-- what is shown as eligible is what the download finds uploaded -/
  eligible : ∀ evidenceId shown, listing evidenceId = some shown → ∀ entry ∈ shown,
    (entry.document.downloadEligible = true ↔
      ∃ c, db.getDocumentForDownloadWithinPeriod workspaceId entry.submission.id entry.document.documentId
        periodStart periodEnd = some c ∧ c.document.uploadStatus = .uploaded)
  /-- what the download finds is listed under its submission -/
  found : ∀ submissionId documentId c,
    db.getDocumentForDownloadWithinPeriod workspaceId submissionId documentId periodStart periodEnd = some c →
      ∃ s ∈ db.submissions.rows, s.id = submissionId ∧ ∃ shown, listing s.evidenceId = some shown ∧
        ⟨s, ⟨documentId, c.document.filename, c.document.uploadStatus == .uploaded⟩⟩ ∈ shown
  /-- what the download serves is listed as eligible under its submission, whatever the store answers -/
  served : ∀ (Object : Type) (getObject : String → Except StorageError (ObjectMetadata × Object))
    submissionId documentId d metadata object,
    db.downloadForWorkspaceWithinPeriod getObject workspaceId periodStart periodEnd submissionId documentId
        = .ok (d, metadata, object) →
      ∃ s ∈ db.submissions.rows, s.id = submissionId ∧ ∃ shown, listing s.evidenceId = some shown ∧
        ⟨s, ⟨documentId, d.filename, true⟩⟩ ∈ shown

variable {rows : List SubmissionRow}

/-- the entries of the listing are the rows -/
theorem submissionsFromRows_mem {evidenceId : EvidenceId} {shown : List AuditorPortalSubmission}
    (h : submissionsFromRows rows evidenceId = some shown) {entry : AuditorPortalSubmission}
    (hentry : entry ∈ shown) :
    ∃ r ∈ rows, r.submission.evidenceId = evidenceId ∧ r.toSubmission = entry := by
  unfold submissionsFromRows at h
  rw [collectRows_eq] at h
  split at h
  · cases h
  · cases h
    obtain ⟨r, hr, hrow⟩ := List.mem_map.mp hentry
    obtain ⟨hr, hkey⟩ := List.mem_filter.mp hr
    exact ⟨r, hr, of_decide_eq_true hkey, hrow⟩

theorem submissionsFromRows_of_mem {r : SubmissionRow} (hr : r ∈ rows) :
    ∃ shown, submissionsFromRows rows r.submission.evidenceId = some shown ∧ r.toSubmission ∈ shown := by
  have hmem : r ∈ rows.filter fun x => x.submission.evidenceId = r.submission.evidenceId :=
    List.mem_filter.mpr ⟨hr, decide_eq_true rfl⟩
  unfold submissionsFromRows
  rw [collectRows_eq, if_neg (List.ne_nil_of_mem hmem)]
  exact ⟨_, rfl, List.mem_map_of_mem hmem⟩

theorem listing_agrees (ho : Owned db)
    (hrows : OrderedBy SubmissionRow.rank (db.submissionRows workspaceId periodStart periodEnd) rows) :
    ListingAgrees db workspaceId periodStart periodEnd (submissionsFromRows rows) := by
  have hfound : ∀ submissionId documentId c,
      db.getDocumentForDownloadWithinPeriod workspaceId submissionId documentId periodStart periodEnd = some c →
        ∃ s ∈ db.submissions.rows, s.id = submissionId ∧
          ∃ shown, submissionsFromRows rows s.evidenceId = some shown ∧
            ⟨s, ⟨documentId, c.document.filename, c.document.uploadStatus == .uploaded⟩⟩ ∈ shown := by
    intro submissionId documentId c hc
    obtain ⟨s, hs, hsid, d, hd, hdid, howner, hw, ha, hfrom, huntil, rfl⟩ :=
      getDocumentForDownloadWithinPeriod_eq_some.mp hc
    have hrow : (⟨s, d⟩ : SubmissionRow) ∈ rows := by
      refine hrows.perm.mem_iff.mpr ((submissionRows_iff_download ho hs hd).mpr ?_)
      rw [hsid, hdid]
      exact hc
    obtain ⟨shown, hshown, hentry⟩ := submissionsFromRows_of_mem hrow
    refine ⟨s, hs, hsid, shown, hshown, ?_⟩
    rw [← hdid]
    exact hentry
  refine ⟨?_, hfound, ?_⟩
  · intro evidenceId shown hshown entry hentry
    obtain ⟨r, hr, -, rfl⟩ := submissionsFromRows_mem hshown hentry
    have hmem := hrows.perm.mem_iff.mp hr
    obtain ⟨hs, -, hd, -⟩ := mem_submissionRows.mp hmem
    have hdownload := (submissionRows_iff_download ho hs hd).mp hmem
    show (r.document.uploadStatus == .uploaded) = true ↔ ∃ c,
      db.getDocumentForDownloadWithinPeriod workspaceId r.submission.id r.document.id periodStart periodEnd
        = some c ∧ c.document.uploadStatus = .uploaded
    rw [hdownload, beq_iff_eq]
    constructor
    · intro hstatus
      exact ⟨_, rfl, hstatus⟩
    · rintro ⟨c, hc, hstatus⟩
      cases hc
      exact hstatus
  · intro Object getObject submissionId documentId d metadata object hserved
    obtain ⟨c, hc, rfl, hstatus⟩ := downloadForWorkspaceWithinPeriod_ok hserved
    obtain ⟨s, hs, hsid, shown, hshown, hentry⟩ := hfound submissionId documentId c hc
    have htrue : (c.document.uploadStatus == .uploaded) = true := beq_iff_eq.mpr hstatus
    rw [htrue] at hentry
    exact ⟨s, hs, hsid, shown, hshown, hentry⟩

end

/-! ## The portal -/

/-- **In every state that a run leads to, for every answer of the database: a document is listed as eligible
exactly when the download finds it uploaded, what the download finds or serves is listed under its submission,
and every submission, control and policy is listed once with its own children.** -/
theorem portal_listing_agrees {s0 s : LifecycleState} {es : List LifecycleEvent}
    (hdocs : s0.db.documents = .empty) (hdrawn : Along lifecycleStep Drawn s0 es)
    (hrun : run lifecycleStep s0 es = some s) {p : PortalDb} (hp : p.documentDb = s.db)
    {ω : Type} [LinearOrder ω] (collate : String ↪ ω) (lower : String → String) (workspaceId : WorkspaceId) :
    (∀ periodStart periodEnd rows,
      OrderedBy SubmissionRow.rank (p.documentDb.submissionRows workspaceId periodStart periodEnd) rows →
        ListingAgrees p.documentDb workspaceId periodStart periodEnd (submissionsFromRows rows) ∧
        ListsSubmissions p.documentDb workspaceId periodStart periodEnd rows (submissionsFromRows rows)) ∧
    (∀ rows, OrderedBy (ControlListRow.rank collate) (p.controlRows workspaceId) rows →
      ∃ controls, controlsFromJoinedRows rows = .ok controls ∧ ListsControls p workspaceId rows controls) ∧
    (∀ rows, OrderedBy (PolicyListRow.rank collate lower) (p.policyRows workspaceId) rows →
      ∃ policies, policiesFromRows rows = .ok policies ∧ ListsPolicies p workspaceId rows policies) := by
  have hi : DocumentsInv p.documentDb := hp ▸ documents_run hdocs hdrawn hrun
  refine ⟨?_, ?_, ?_⟩
  · intro periodStart periodEnd rows hrows
    exact ⟨listing_agrees hi.owned hrows, submissions_listed hi.single hrows⟩
  · intro rows hrows
    exact controls_listed hrows
  · intro rows hrows
    exact policies_listed hi.single hrows

/-! A document of a submission, from its creation to its upload, beside two controls with requirements and a
policy with both controls: the portal lists them all, and serves the document. -/

def sampleListing : LifecycleState :=
  ⟨{ DocumentDb.empty with
      evidence := DocumentDb.empty.evidence.upsert ⟨⟨5⟩, ⟨1⟩⟩
      policies := DocumentDb.empty.policies.upsert samplePolicy }, []⟩

def sampleListed : DocumentIdentity := .evidence ⟨6⟩ ⟨9⟩

def sampleListingRun : List LifecycleEvent :=
  [.command (.createEvidenceSubmissionDocument ⟨sampleConnection, ⟨6⟩, ⟨5⟩, ⟨0, 5000⟩, ⟨9⟩,
      ⟨.evidenceSubmission ⟨6⟩, "a.pdf", "application/pdf", 3, "staged", "sha", "crc"⟩, 2000⟩) .background 1 true,
    .command (.scan ⟨sampleListed, "staged", .clean⟩) .background 2 true,
    .command (.finalize ⟨sampleListed, "staged", "final"⟩) .background 3 true]

theorem sampleListing_drawn : Along lifecycleStep Drawn sampleListing sampleListingRun := by
  refine ⟨⟨?_, ?_⟩, fun s1 _ => ⟨trivial, fun s2 _ => ⟨?_, fun s3 _ => trivial⟩⟩⟩
  · intro d hd
    exact absurd hd (Table.mem_rows_empty d)
  · intro s hs
    exact absurd (Table.get?_mem hs) (Table.mem_rows_empty s)
  · show "final" ≠ "staged"
    decide

def accessControl : StoredControl := ⟨⟨⟨10⟩, ⟨1⟩, "AC-1", "Access", "Who may enter"⟩, 0, 0⟩

def accountControl : StoredControl := ⟨⟨⟨11⟩, ⟨1⟩, "AC-2", "Accounts", "Who has an account"⟩, 0, 0⟩

def sampleFramework : Framework := ⟨⟨30⟩, "ISO", "ISO 27001"⟩

def accessRequirement : FrameworkRequirement := ⟨⟨20⟩, ⟨30⟩, "A.5.15", "Access control", "Rules"⟩

def accountRequirement : FrameworkRequirement := ⟨⟨21⟩, ⟨30⟩, "A.5.16", "Identity management", "Life cycle"⟩

/-- the first control has both requirements, the second one of them; the policy has both controls -/
def samplePortal (db : DocumentDb) : PortalDb where
  documentDb := db
  policyColumns _ := ⟨"Access policy", none, 0, 0⟩
  controls := ⟨[accessControl, accountControl], by decide⟩
  controls_code := by decide
  frameworks := ⟨[sampleFramework], by decide⟩
  frameworkRequirements := ⟨[accessRequirement, accountRequirement], by decide⟩
  frameworkRequirements_framework := by decide
  requirementMappings := [⟨⟨10⟩, ⟨20⟩⟩, ⟨⟨10⟩, ⟨21⟩⟩, ⟨⟨11⟩, ⟨21⟩⟩]
  requirementMappings_nodup := by decide
  policyMappings := [⟨⟨7⟩, ⟨10⟩⟩, ⟨⟨7⟩, ⟨11⟩⟩]
  policyMappings_nodup := by decide

def sampleControlRows : List ControlListRow :=
  [⟨accessControl, some accessRequirement, some sampleFramework⟩,
    ⟨accessControl, some accountRequirement, some sampleFramework⟩,
    ⟨accountControl, some accountRequirement, some sampleFramework⟩]

theorem sampleControlRows_ordered (db : DocumentDb) :
    OrderedBy (ControlListRow.rank (Function.Embedding.refl String)) ((samplePortal db).controlRows ⟨1⟩)
      sampleControlRows := by
  refine ⟨List.Perm.refl _, List.pairwise_cons.mpr ⟨?_, List.pairwise_pair.mpr ?_⟩⟩
  · intro r hr
    rcases List.mem_pair.mp hr with rfl | rfl
    · exact Prod.Lex.toLex_le_toLex.mpr (Or.inr ⟨rfl, WithTop.coe_le_coe.mpr (by decide)⟩)
    · exact Prod.Lex.toLex_le_toLex.mpr (Or.inl (by decide))
  · exact Prod.Lex.toLex_le_toLex.mpr (Or.inl (by decide))

def samplePolicyRows : List PolicyListRow :=
  [⟨⟨7⟩, ⟨"Access policy", none, 0, 0⟩, none, some accessControl⟩,
    ⟨⟨7⟩, ⟨"Access policy", none, 0, 0⟩, none, some accountControl⟩]

theorem samplePolicyRows_pairwise :
    samplePolicyRows.Pairwise fun r s =>
      PolicyListRow.rank (Function.Embedding.refl String) id r
        ≤ PolicyListRow.rank (Function.Embedding.refl String) id s := by
  refine List.pairwise_pair.mpr (Prod.Lex.toLex_le_toLex.mpr (Or.inr ⟨rfl, WithTop.coe_le_coe.mpr ?_⟩))
  exact Prod.Lex.toLex_le_toLex.mpr (Or.inl (by decide))

theorem portal_listing_agrees_uploaded :
    ∃ s, run lifecycleStep sampleListing sampleListingRun = some s ∧
      (∃ c, s.db.getDocumentForDownloadWithinPeriod ⟨1⟩ ⟨6⟩ ⟨9⟩ 5000 9000 = some c ∧
        c.document.uploadStatus = .uploaded) ∧
      (∃ controls, ListsControls (samplePortal s.db) ⟨1⟩ sampleControlRows controls ∧
        controls.map (fun c => (c.code, c.frameworkRequirements.map FrameworkRequirementDetail.code))
          = [("AC-1", ["A.5.15", "A.5.16"]), ("AC-2", ["A.5.16"])]) ∧
      (∃ policies, ListsPolicies (samplePortal s.db) ⟨1⟩ samplePolicyRows policies ∧
        policies.map (fun q => (q.name, q.controls.map ControlSummary.code))
          = [("Access policy", ["AC-1", "AC-2"])]) := by
  have hrun : ((run lifecycleStep sampleListing sampleListingRun).map fun s =>
      ((s.db.submissionRows ⟨1⟩ 5000 9000).map SubmissionRow.toSubmission, (samplePortal s.db).policyRows ⟨1⟩))
        = some ([⟨⟨⟨6⟩, ⟨5⟩, .agentConnection ⟨3⟩ ⟨2⟩, 2000, 0, 5000⟩, ⟨⟨9⟩, "a.pdf", true⟩⟩],
            samplePolicyRows) := by
    decide
  obtain ⟨s, hs, hlisted⟩ := Option.map_eq_some_iff.mp hrun
  obtain ⟨hsubmissions, hpolicies⟩ := Prod.mk.inj hlisted
  obtain ⟨r, hrows, hr⟩ := List.map_eq_singleton_iff.mp hsubmissions
  have hordered : OrderedBy SubmissionRow.rank (s.db.submissionRows ⟨1⟩ 5000 9000) [r] :=
    ⟨by rw [hrows], List.pairwise_singleton _ r⟩
  have hpolicyRows : OrderedBy (PolicyListRow.rank (Function.Embedding.refl String) id)
      ((samplePortal s.db).policyRows ⟨1⟩) samplePolicyRows :=
    ⟨by rw [hpolicies], samplePolicyRows_pairwise⟩
  obtain ⟨hsubmission, hcontrol, hpolicy⟩ := portal_listing_agrees (p := samplePortal s.db) rfl
    sampleListing_drawn hs rfl (Function.Embedding.refl String) id ⟨1⟩
  obtain ⟨hagrees, -⟩ := hsubmission 5000 9000 [r] hordered
  obtain ⟨shown, hshown, hentry⟩ := submissionsFromRows_of_mem (List.mem_singleton_self r)
  rw [hr] at hentry
  obtain ⟨controls, hcontrols, hlistsControls⟩ := hcontrol _ (sampleControlRows_ordered s.db)
  obtain ⟨policies, hpolicies, hlistsPolicies⟩ := hpolicy _ hpolicyRows
  refine ⟨s, hs, (hagrees.eligible _ shown hshown _ hentry).mp rfl, ⟨controls, hlistsControls, ?_⟩,
    policies, hlistsPolicies, ?_⟩
  · cases hcontrols
    rfl
  · cases hpolicies
    rfl

end Proofplane
