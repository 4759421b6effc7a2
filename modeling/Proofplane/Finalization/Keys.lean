import Proofplane.Finalization.Integrity
import Proofplane.Uploads.Keys

/-!
# One key for the worker and for downloads

The key under which a document is uploaded is built by the worker; a download builds it again from the
document, and serves the document only if the two agree.

* `finalizedObjectKey`            the key that a download expects, `finalizedObjectKey_ok`;
* `PromotionEvent`, `promotionStep`   deliveries, with what creates documents and stages objects between
                                them;
* `UploadedKeys`                  every uploaded document has its final key, `uploadedKeys_run`;
* `object_keys_agree`             **what reaches uploaded passes the check of a download**;
* `filesystem_names_fit_iff`      **a document's files have names that the file system takes exactly when its
                              name leaves room for `.json`**, `metadata_name_too_long` one that does not.
-/

namespace Proofplane
open Base

/-! ## Downloads -/

inductive DownloadError
  | notFound | notReady | metadataMismatch | internal
  | repository (error : RepositoryError)
  deriving DecidableEq, Repr

structure DocumentDownloadCandidate where
  workspaceId : WorkspaceId
  document : Document

/-- `document_download_candidate_from_row`: the workspace is the document's -/
def Document.downloadCandidate (d : Document) : DocumentDownloadCandidate := ⟨d.workspaceId, d⟩

def finalizedObjectKey (candidate : DocumentDownloadCandidate) : Except DownloadError String :=
  let ownerPath := match candidate.document.owner with
    | .evidenceSubmission id => "evidence-submissions/" ++ id.uuid.text
    | .policy id => "policies/" ++ id.uuid.text
  match ObjectKey.new candidate.workspaceId
      (ownerPath ++ "/documents/" ++ candidate.document.id.uuid.text) candidate.document.filename with
  | none => .error .notFound
  | some expected =>
    if expected ≠ candidate.document.objectKey then .error .notFound else .ok expected

/-- **The download expects the key that the worker builds.** -/
theorem finalizedObjectKey_ok {d : Document} {key : String} :
    finalizedObjectKey d.downloadCandidate = .ok key ↔
      finalDocumentObjectKey d.uploadWork = some key ∧ d.objectKey = key := by
  have hnew : ∀ ownerPath : String,
      ownerPath = (match d.owner with
        | .evidenceSubmission id => "evidence-submissions/" ++ id.uuid.text
        | .policy id => "policies/" ++ id.uuid.text) →
      ObjectKey.new d.workspaceId (ownerPath ++ "/documents/" ++ d.id.uuid.text) d.filename
        = finalDocumentObjectKey d.uploadWork := by
    rintro ownerPath rfl
    rw [← objectKeyText_eq_new]
    obtain ⟨identity, workspaceId, user, filename, contentType, contentLength, objectKey, sha256, crc32c, status,
      archived, createdAt⟩ := d
    cases identity with
    | evidence submissionId documentId => rfl
    | policy policyId documentId => rfl
  unfold finalizedObjectKey Document.downloadCandidate
  dsimp only
  rw [hnew _ rfl]
  cases finalDocumentObjectKey d.uploadWork with
  | none => exact iff_of_false (by simp) (by simp)
  | some expected =>
    dsimp only
    by_cases h : expected = d.objectKey
    · rw [if_neg (not_not.mpr h), Except.ok.injEq, Option.some.injEq]
      constructor
      · rintro rfl
        exact ⟨rfl, h.symm⟩
      · exact fun hkey => hkey.1
    · rw [if_pos h]
      refine iff_of_false (by simp) ?_
      rintro ⟨hkey, hobject⟩
      cases hkey
      exact h hobject.symm

/-! ## Deliveries and creations -/

def DocumentCommand.creates : DocumentCommand → Bool
  | .createEvidenceSubmissionDocument _ => true
  | .createPolicyDocument _ => true
  | .completeAgentEvidenceUpload _ => true
  | .completeAgentPolicyDocumentUpload _ => true
  | _ => false

inductive PromotionEvent
  | finalization (event : FinalizationEvent)
  | create (command : DocumentCommand) (metadata : ExecutionMetadata) (messageId : Uuid) (commits : Bool)
  /-- uploads put staged objects into quarantine: they may leave it in any way -/
  | stage (quarantine : FilesystemObjectStore)

def FinalizationWorld.empty : FinalizationWorld := ⟨.empty, .empty, .empty, .empty⟩

def promotionStep (sha256 : List UInt8 → String) (w : FinalizationWorld) :
    PromotionEvent → Option FinalizationWorld
  | .finalization event => finalizationStep sha256 w event
  | .create command metadata messageId commits =>
    if command.creates then some (w.command commits (command.handle w.db metadata messageId)) else none
  | .stage quarantine => some { w with quarantine }

/-- document ids are random: one that is created has an id that no other has -/
def NewIds (w : FinalizationWorld) : PromotionEvent → Prop
  | .create command metadata messageId _ =>
    ∀ d db', command.handle w.db metadata messageId = .ok (.created d, db') → NewDocumentId w.db d.id
  | _ => True

/-- what a creating command does to the documents -/
theorem creates_move {db db' : DocumentDb} {command : DocumentCommand} {metadata : ExecutionMetadata}
    {messageId : Uuid} {effect : DocumentEffect} (hc : command.creates = true)
    (h : command.handle db metadata messageId = .ok (effect, db')) :
    db'.documents = db.documents ∨
      ∃ d, effect = .created d ∧ d.uploadStatus = .pendingUpload ∧
        db'.documents = db.documents.upsert d.toRow := by
  cases command with
  | createEvidenceSubmissionDocument c =>
    simp only [DocumentCommand.handle] at h
    split at h
    · cases h
    · next d db1 hr =>
      cases h
      rcases createEvidenceSubmissionDocument_ok hr with ⟨x, hx, -⟩ | ⟨x, sub, hx, hnew, -, -, -, -, hdb, -⟩
      · cases hx
      · cases hx
        refine .inr ⟨d, rfl, ?_, ?_⟩
        · rw [hnew]
          rfl
        · rw [hdb]
    · next outcome db1 hne hr =>
      cases h
      rcases createEvidenceSubmissionDocument_ok hr with ⟨x, -, hdb⟩ | ⟨x, sub, hx, -⟩
      · exact .inl (congrArg _ hdb)
      · exact absurd hx (hne x)
  | createPolicyDocument c =>
    simp only [DocumentCommand.handle] at h
    split at h
    · cases h
    · next d db1 hr =>
      cases h
      rcases createPolicyDocument_ok hr with ⟨hne, -⟩ | ⟨x, hx, hnew, -, -, -, hdb, -⟩
      · exact absurd rfl (hne d)
      · cases hx
        refine .inr ⟨d, rfl, ?_, ?_⟩
        · rw [hnew]
          rfl
        · rw [hdb]
    · next outcome db1 hne hr =>
      cases h
      rcases createPolicyDocument_ok hr with ⟨-, hdb⟩ | ⟨x, hx, -⟩
      · exact .inl (congrArg _ hdb)
      · exact absurd hx (hne x)
  | completeAgentEvidenceUpload c =>
    simp only [DocumentCommand.handle] at h
    split at h
    · cases h
    · next sid d db1 hr =>
      cases h
      rcases completeAgentEvidenceUpload_ok hr with ⟨hx, -⟩ | ⟨g, -, -, -, -, ⟨x, -, hx, -⟩ |
        ⟨x, sub, g', -, hx, hnew, -, -, -, -, -, -, -, hdb, -⟩⟩
      · cases hx
      · cases hx
      · cases hx
        refine .inr ⟨d, rfl, ?_, ?_⟩
        · rw [hnew]
          rfl
        · rw [hdb]
    · next outcome db1 hne hr =>
      cases h
      rcases completeAgentEvidenceUpload_ok hr with ⟨-, hdb⟩ | ⟨g, -, -, -, -, ⟨x, -, -, hdb⟩ |
        ⟨x, sub, g', -, hx, -⟩⟩
      · exact .inl (congrArg _ hdb)
      · exact .inl (congrArg _ hdb)
      · exact absurd hx (hne _ x)
  | completeAgentPolicyDocumentUpload c =>
    simp only [DocumentCommand.handle] at h
    split at h
    · cases h
    · next d db1 hr =>
      cases h
      rcases completeAgentPolicyDocumentUpload_ok hr with ⟨hx | hx, -⟩ | ⟨g, -, -, -, ⟨x, -, hx, -⟩ |
        ⟨x, g', -, hx, hnew, -, -, -, -, -, hdb, -⟩⟩
      · cases hx
      · cases hx
      · cases hx
      · cases hx
        refine .inr ⟨d, rfl, ?_, ?_⟩
        · rw [hnew]
          rfl
        · rw [hdb]
    · next outcome db1 hne hr =>
      cases h
      rcases completeAgentPolicyDocumentUpload_ok hr with ⟨-, hdb⟩ | ⟨g, -, -, -, ⟨x, -, -, hdb⟩ |
        ⟨x, g', -, hx, -⟩⟩
      · exact .inl (congrArg _ hdb)
      · exact .inl (congrArg _ hdb)
      · exact absurd hx (hne x)
  | scan c => cases hc
  | finalize c => cases hc
  | archive c => cases hc

/-! ## The keys of uploaded documents -/

structure UploadedKeys (w : FinalizationWorld) : Prop where
  deliveries : DeliveriesInv w
  keys : ∀ d ∈ w.db.documents.rows, d.uploadStatus = .uploaded →
    finalDocumentObjectKey d.uploadWork = some d.objectKey

section
variable {sha256 : List UInt8 → String} {w w' : FinalizationWorld}

/-- a command that finalizes no document keeps the keys -/
theorem keys_advance {db db' : DocumentDb} {effect : DocumentEffect}
    (hkeys : ∀ d ∈ db.documents.rows, d.uploadStatus = .uploaded →
      finalDocumentObjectKey d.uploadWork = some d.objectKey)
    (ha : DocumentsAdvance effect db db')
    (hfinal : ∀ identity key key', effect = .finalized identity key key' →
      ∀ d ∈ db.documents.rows, d.identity = identity → finalDocumentObjectKey d.uploadWork = some key') :
    ∀ d ∈ db'.documents.rows, d.uploadStatus = .uploaded →
      finalDocumentObjectKey d.uploadWork = some d.objectKey := by
  intro d' hd' hup
  obtain ⟨d, hd, hadv⟩ := ha.back d' hd'
  cases hadv with
  | same hw hs => exact finalKey_congr hw (hkeys d hd (hs.symm.trans hup))
  | scanned hw hs hs' => exact absurd hup hs'
  | finalized key he hw hs hs' =>
    have hkey : d'.objectKey = key := congrArg UploadWork.objectKey hw
    rw [hw, finalDocumentObjectKey_key, hkey]
    exact hfinal _ _ _ he d hd rfl

theorem uploadedKeys_finalization {e : FinalizationEvent} (hi : UploadedKeys w)
    (h : finalizationStep sha256 w e = some w') : UploadedKeys w' := by
  refine ⟨deliveriesInv_step hi.deliveries h, ?_⟩
  cases finalizationStep_move h with
  | idle _ hw =>
    subst hw
    exact hi.keys
  | delivered _ x hphase hserves hw =>
    subst hw
    exact hi.keys
  | crashed x hx hw =>
    subst hw
    exact hi.keys
  | advanced _ effect db' ha hnot hw =>
    subst hw
    exact keys_advance hi.keys ha fun _ _ _ he => absurd he (hnot _ _ _)
  | stepped x event phase' w1 hx hmove hw =>
    subst hw
    cases hmove with
    | confined hc =>
      show ∀ d ∈ w1.db.documents.rows, _
      rw [hc.db]
      exact hi.keys
    | seized result he hresult hidle evidence' hw hel hok hsource =>
      subst hw
      exact hi.keys
    | finalized fault hphase hw hphase' =>
      subst hw
      rcases committed_finalize fault ⟨x.work.identity, x.work.objectKey, x.destination⟩ w.db with
        ⟨-, hdb⟩ | ⟨-, hmove⟩
      · show ∀ d ∈ (committed fault w.db (finalizeDocument w.db
          ⟨x.work.identity, x.work.objectKey, x.destination⟩)).2.documents.rows, _
        rw [hdb]
        exact hi.keys
      · refine keys_advance hi.keys (advances_move hmove (by simp)) ?_
        -- the document that a delivery finalizes is the one that it serves
        intro identity key key' he d hd hid
        obtain ⟨hidentity, -, hkey⟩ := DocumentEffect.finalized.inj he
        obtain ⟨d1, hd1, hserves⟩ := hi.deliveries.served x hx
        have hsame : d = d1 :=
          document_eq_of_identity hd hd1 (hid.trans (hidentity.symm.trans hserves.identity))
        rw [hsame, ← hkey]
        exact hserves.destination

/-- a document that is created is not uploaded, and leaves the others as they are -/
theorem uploadedKeys_created {db' : DocumentDb} {d : Document} (hi : UploadedKeys w)
    (hnew : NewDocumentId w.db d.id) (hstatus : d.uploadStatus = .pendingUpload)
    (hdb : db'.documents = w.db.documents.upsert d.toRow) : UploadedKeys { w with db := db' } := by
  have hkept : ∀ u ∈ w.db.documents.rows, u ∈ db'.documents.rows := by
    intro u hu
    rw [hdb]
    exact Table.mem_upsert.mpr (.inr ⟨hu, hnew u hu⟩)
  refine ⟨⟨?_, ?_⟩, ?_⟩
  · intro x hx
    obtain ⟨u, hu, hserves⟩ := hi.deliveries.served x hx
    exact ⟨u, hkept u hu, hserves⟩
  · intro x hx hphase
    obtain ⟨u, hu, hserves⟩ := hi.deliveries.released x hx hphase
    exact ⟨u, hkept u hu, hserves⟩
  · intro u hu hup
    have hu' : u ∈ (w.db.documents.upsert d.toRow).rows := hdb ▸ hu
    rcases Table.mem_upsert.mp hu' with rfl | ⟨hu', -⟩
    · rw [show d.toRow.uploadStatus = d.uploadStatus from rfl, hstatus] at hup
      cases hup
    · exact hi.keys u hu' hup

theorem uploadedKeys_step {e : PromotionEvent} (hi : UploadedKeys w) (hnew : NewIds w e)
    (h : promotionStep sha256 w e = some w') : UploadedKeys w' := by
  cases e with
  | finalization event => exact uploadedKeys_finalization hi h
  | create command metadata messageId commits =>
    simp only [promotionStep] at h
    split at h
    · next hcreates =>
      cases h
      unfold FinalizationWorld.command
      split
      · next effect db' hr =>
        cases commits with
        | false => exact hi
        | true =>
          rcases creates_move hcreates hr with hdocs | ⟨d, rfl, hstatus, hdocs⟩
          · refine ⟨⟨?_, ?_⟩, ?_⟩
            · show ∀ x ∈ w.deliveries.rows, ∃ d ∈ db'.documents.rows, Serves d x
              rw [hdocs]
              exact hi.deliveries.served
            · show ∀ x ∈ w.deliveries.rows, _ → ∃ d ∈ db'.documents.rows, _
              rw [hdocs]
              exact hi.deliveries.released
            · show ∀ d ∈ db'.documents.rows, _
              rw [hdocs]
              exact hi.keys
          · exact uploadedKeys_created hi (hnew d db' hr) hstatus hdocs
      · exact hi
    · cases h
  | stage quarantine =>
    cases h
    exact ⟨⟨hi.deliveries.served, hi.deliveries.released⟩, hi.keys⟩

theorem uploadedKeys_empty : UploadedKeys .empty where
  deliveries := ⟨fun x hx => absurd hx (Table.mem_rows_empty x), fun x hx => absurd hx (Table.mem_rows_empty x)⟩
  keys := fun d hd => absurd hd (Table.mem_rows_empty d)

theorem uploadedKeys_run {es : List PromotionEvent}
    (hnew : Along (promotionStep sha256) NewIds .empty es)
    (h : run (promotionStep sha256) .empty es = some w) : UploadedKeys w :=
  run_inv_along UploadedKeys (fun _ _ _ hi hp hs => uploadedKeys_step hi hp hs) uploadedKeys_empty hnew h

end

/-- the final key of a document, by its fields -/
theorem finalKey_eq (d : Document) :
    finalDocumentObjectKey d.uploadWork = stagedObjectKey d.workspaceId d.owner d.id.uuid d.filename :=
  finalDocumentObjectKey_eq d.uploadWork

/-- **The worker and the download build the same key, in the workspace of the staged one.** -/
theorem finalKey_served {d : Document} {uploadId : Uuid} {staged : String} (hname : DocumentFilename d.filename)
    (hstaged : stagedObjectKey d.workspaceId d.owner uploadId d.filename = some staged) :
    ∃ k : ObjectKey, finalDocumentObjectKey { d with objectKey := staged }.uploadWork = some k.text ∧
      hasSameWorkspace staged k.text = true ∧
      finalizedObjectKey { d with objectKey := k.text }.downloadCandidate = .ok k.text := by
  obtain ⟨k, hk⟩ := stagedObjectKey_some d.workspaceId d.owner d.id.uuid hname
  have hfinal : ∀ key, finalDocumentObjectKey { d with objectKey := key }.uploadWork = some k.text :=
    fun key => (finalKey_eq { d with objectKey := key }).trans hk
  refine ⟨k, hfinal staged, ?_, finalizedObjectKey_ok.mpr ⟨hfinal k.text, rfl⟩⟩
  rw [hasSameWorkspace_iff, stagedObjectKey_workspace hstaged, stagedObjectKey_workspace hk]

theorem finalKey_inj {d d' : Document} {key : String} (h : finalDocumentObjectKey d.uploadWork = some key)
    (h' : finalDocumentObjectKey d'.uploadWork = some key) : d.id = d'.id := by
  rw [finalKey_eq] at h h'
  exact Id.ext (stagedObjectKey_inj h h')

theorem finalKey_staged {d : Document} {workspaceId : WorkspaceId} {owner : DocumentOwner} {uploadId : Uuid}
    {filename key : String} (h : finalDocumentObjectKey d.uploadWork = some key)
    (h' : stagedObjectKey workspaceId owner uploadId filename = some key) : uploadId = d.id.uuid := by
  rw [finalKey_eq] at h
  exact stagedObjectKey_inj h' h

/-- **The staged key of a valid name is a key, the final one is what a download expects, and every document
that reached uploaded passes its check; no two documents have one final key, and none has the staged key
of an upload id that is not its own.** -/
theorem object_keys_agree (sha256 : List UInt8 → String) :
    (∀ workspaceId owner uploadId value filename, validateDocumentFilename value = .ok filename →
      ∃ k : ObjectKey, stagedObjectKey workspaceId owner uploadId filename = some k.text) ∧
    (∀ (d : Document) uploadId staged, validateDocumentFilename d.filename = .ok d.filename →
      stagedObjectKey d.workspaceId d.owner uploadId d.filename = some staged →
      ∃ k : ObjectKey, finalDocumentObjectKey { d with objectKey := staged }.uploadWork = some k.text ∧
        hasSameWorkspace staged k.text = true ∧
        finalizedObjectKey { d with objectKey := k.text }.downloadCandidate = .ok k.text) ∧
    (∀ es w, Along (promotionStep sha256) NewIds .empty es →
      run (promotionStep sha256) .empty es = some w →
      ∀ d ∈ w.db.documents.rows, d.uploadStatus = .uploaded →
        finalizedObjectKey d.downloadCandidate = .ok d.objectKey) ∧
    (∀ d d' : Document, ∀ key, finalDocumentObjectKey d.uploadWork = some key →
      finalDocumentObjectKey d'.uploadWork = some key → d.id = d'.id) ∧
    (∀ (d : Document) workspaceId owner uploadId filename key, finalDocumentObjectKey d.uploadWork = some key →
      stagedObjectKey workspaceId owner uploadId filename = some key → uploadId = d.id.uuid) := by
  refine ⟨?_, ?_, ?_, fun _ _ _ => finalKey_inj, fun _ _ _ _ _ _ => finalKey_staged⟩
  · intro workspaceId owner uploadId value filename hvalid
    obtain ⟨rfl, hname⟩ := validateDocumentFilename_ok.mp hvalid
    exact stagedObjectKey_some workspaceId owner uploadId hname
  · intro d uploadId staged hvalid hstaged
    exact finalKey_served (validateDocumentFilename_ok.mp hvalid).2 hstaged
  · intro es w hnew hrun d hd hup
    exact finalizedObjectKey_ok.mpr ⟨(uploadedKeys_run hnew hrun).keys d hd hup, rfl⟩

/-! A policy document from its creation to its final key. -/

/-- the event creates no document -/
def PromotionEvent.createsNothing : PromotionEvent → Bool
  | .create _ _ _ _ => false
  | _ => true

def samplePromotion : List PromotionEvent :=
  [.finalization (.housekeeping (.addPolicy ⟨⟨7⟩, ⟨1⟩, none⟩)),
    .create (.createPolicyDocument ⟨⟨⟨2⟩, ⟨3⟩, ⟨1⟩, .all⟩, ⟨7⟩, ⟨9⟩,
      ⟨.policy ⟨7⟩, "a.pdf", "application/pdf", 3, sampleStagedKey.text, sampleSha256 sampleBytes, "crc"⟩,
      0⟩) .background 1 true,
    .stage sampleQuarantine,
    .finalization (.scan ⟨.policy ⟨7⟩ ⟨9⟩, sampleStagedKey.text, .clean⟩ .background 2 true)] ++
  (sampleLoad 1 ++ samplePromote 1).map .finalization

theorem samplePromotion_newIds : Along (promotionStep sampleSha256) NewIds .empty samplePromotion := by
  refine ⟨trivial, fun s hs => ⟨?_, fun s' _ => ?_⟩⟩
  · obtain rfl := Option.some.inj hs
    intro d db' _ u hu
    exact absurd hu List.not_mem_nil
  · refine Along.imp ?_ (Along.of_events (Q := fun e => e.createsNothing = true) (by decide) s')
    intro s e h
    cases e with
    | finalization event => exact trivial
    | create command metadata messageId commits => cases h
    | stage quarantine => exact trivial

theorem object_keys_agree_promoted :
    ∃ w, run (promotionStep sampleSha256) .empty samplePromotion = some w ∧
      w.promoted = ([⟨.uploaded, 3, sampleFinalKey, some sampleBytes⟩], false) ∧
      (∀ d ∈ w.db.documents.rows, d.uploadStatus = .uploaded →
        finalizedObjectKey d.downloadCandidate = .ok d.objectKey) ∧
      ∃ staged : ObjectKey, stagedObjectKey ⟨1⟩ (.policy ⟨7⟩) 11 "a.pdf" = some staged.text ∧
        ∃ k : ObjectKey, finalDocumentObjectKey { sampleWaiting with objectKey := staged.text }.uploadWork
            = some k.text ∧
          hasSameWorkspace staged.text k.text = true ∧
          finalizedObjectKey { sampleWaiting with objectKey := k.text }.downloadCandidate = .ok k.text ∧
          sampleWaiting.id = sampleWaiting.id ∧ sampleWaiting.id.uuid = sampleWaiting.id.uuid := by
  have hrun : ((run (promotionStep sampleSha256) .empty samplePromotion).map fun w => w.promoted)
      = some ([⟨.uploaded, 3, sampleFinalKey, some sampleBytes⟩], false) := by
    decide +kernel
  have hvalid : validateDocumentFilename "a.pdf" = .ok "a.pdf" := by decide
  obtain ⟨w, hw, hdata⟩ := Option.map_eq_some_iff.mp hrun
  obtain ⟨hkey, hserved, huploaded, hdistinct, hapart⟩ := object_keys_agree sampleSha256
  obtain ⟨staged, hstaged⟩ := hkey ⟨1⟩ (.policy ⟨7⟩) 11 _ _ hvalid
  obtain ⟨k, hfinal, hsame, hdownload⟩ := hserved sampleWaiting 11 _ hvalid hstaged
  exact ⟨w, hw, hdata, huploaded _ w samplePromotion_newIds hw, staged, hstaged, k, hfinal, hsame, hdownload,
    hdistinct _ _ _ hfinal hfinal,
    hapart _ _ _ _ _ _ hfinal ((finalKey_eq { sampleWaiting with objectKey := staged.text }).symm.trans hfinal)⟩

/-! ## Names that the file system takes -/

/-- **The files of a document, staged or final, have names that the file system takes exactly when the
document's name leaves room for `.json`.** -/
theorem filesystem_names_fit_iff {root : String} (hroot : ∀ c ∈ components root, c.fits nameMax = true)
    {value filename : String} (hvalid : validateDocumentFilename value = .ok filename) {k : ObjectKey}
    (hkey : (∃ workspaceId owner uploadId,
        stagedObjectKey workspaceId owner uploadId filename = some k.text) ∨
      ∃ d : Document, d.filename = filename ∧ finalDocumentObjectKey d.uploadWork = some k.text) :
    NamesFit root k ↔ value.utf8ByteSize ≤ 250 := by
  obtain ⟨rfl, hname⟩ := validateDocumentFilename_ok.mp hvalid
  rcases hkey with ⟨workspaceId, owner, uploadId, hstaged⟩ | ⟨d, rfl, hfinal⟩
  · exact namesFit_iff hroot hname hstaged
  · rw [finalKey_eq] at hfinal
    exact namesFit_iff hroot hname hfinal

theorem filesystem_names_fit_iff_report :
    ∃ k : ObjectKey, stagedObjectKey ⟨1⟩ (.policy ⟨7⟩) 11 "report.pdf" = some k.text ∧
      (NamesFit "/var/objects" k ↔ "report.pdf".utf8ByteSize ≤ 250) := by
  have hvalid : validateDocumentFilename "report.pdf" = .ok "report.pdf" := by decide
  obtain ⟨k, hkey⟩ := stagedObjectKey_some ⟨1⟩ (.policy ⟨7⟩) 11 (validateDocumentFilename_ok.mp hvalid).2
  exact ⟨k, hkey, filesystem_names_fit_iff (by decide) hvalid (.inl ⟨_, _, _, hkey⟩)⟩

/-- a name of 251 bytes -/
def longFilename : String := String.ofList (List.replicate 251 'a')

theorem longFilename_size : longFilename.utf8ByteSize = 251 := by
  have hsize : ∀ n, (String.ofList (List.replicate n 'a')).utf8ByteSize = n := by
    intro n
    induction n with
    | zero => rfl
    | succ n ih =>
      have happend : String.ofList (List.replicate (n + 1) 'a')
          = String.singleton 'a' ++ String.ofList (List.replicate n 'a') := by
        rw [← String.toList_inj]
        simp [List.replicate_succ]
      rw [happend, String.utf8ByteSize_append, ih, String.utf8ByteSize_singleton]
      exact Nat.add_comm 1 n
  exact hsize 251

theorem longFilename_valid : DocumentFilename longFilename := by
  have hlist : longFilename.toList = List.replicate 251 'a' := String.toList_ofList
  have hne : ∀ s : String, s.utf8ByteSize < 251 → longFilename ≠ s := by
    rintro s hs rfl
    rw [longFilename_size] at hs
    exact Nat.lt_irrefl _ hs
  refine ⟨?_, ?_, ?_, hne "." (by decide), hne ".." (by decide)⟩
  · unfold isBlank
    rw [hlist]
    decide
  · rw [longFilename_size]
    decide
  · intro c hc
    rw [hlist] at hc
    rw [List.eq_of_mem_replicate hc]
    decide

/-- **A name that uploads accept, and for whose description the file system has no name.** -/
theorem metadata_name_too_long :
    ∃ k : ObjectKey, validateDocumentFilename longFilename = .ok longFilename ∧
      stagedObjectKey ⟨1⟩ (.policy ⟨7⟩) 11 longFilename = some k.text ∧
      (∀ c ∈ components "/var/objects", c.fits nameMax = true) ∧ ¬ NamesFit "/var/objects" k := by
  have hname := longFilename_valid
  have hvalid := validateDocumentFilename_ok.mpr ⟨rfl, hname⟩
  obtain ⟨k, hkey⟩ := stagedObjectKey_some ⟨1⟩ (.policy ⟨7⟩) 11 hname
  have hroot : ∀ c ∈ components "/var/objects", c.fits nameMax = true := by decide
  refine ⟨k, hvalid, hkey, hroot, fun hfit => ?_⟩
  have hshort := (namesFit_iff hroot hname hkey).mp hfit
  rw [longFilename_size] at hshort
  exact absurd hshort (by decide)

end Proofplane
