import Proofplane.Auditor.Listing
import Proofplane.Scanning.Bytes

/-!
# What a download sends

A download reads its document in one query, then the description of its object, then opens the object and
sends it in chunks, and between two of these steps anything else may happen: uploads, scans and promotions
go on, the document is archived.

* `DownloadRequest`, `beginDownload`   what a download is asked for, and the query with which it begins;
* `DownloadPhase`, `downloadStep`      the steps of `get_object`, the check of its answer, the body;
* `ServedKept`       no step of the application touches the object of an uploaded document, `served_step`;
* `DownloadOk`       what holds of a download, `DownloadsInv` of all of them, `downloads_step`;
* `downloads_scanned`   **a download sends the bytes that were scanned clean for the document it was asked
                     for, in order and as far as it comes; it ends only after all of them, and the store
                     never refuses it**.
-/

namespace Proofplane
open Base

/-! ## The query -/

/-- `PolicyReads::document`, of an active policy and an active document -/
def DocumentDb.getPolicyDocumentForDownload (db : DocumentDb) (workspaceId : WorkspaceId) (policyId : PolicyId)
    (documentId : DocumentId) : Option DocumentDownloadCandidate :=
  (((db.policies.get? policyId).filter fun p => p.workspaceId = workspaceId ∧ p.archivedAt = none).bind fun _ =>
    (db.getWorkspaceDocument workspaceId documentId (.policy policyId)).filter fun d => d.archived = false).map
    Document.downloadCandidate

/-- the arguments of `download_for_workspace`, with the period of `download_for_workspace_within_period`, or
of `download_policy_for_workspace` -/
inductive DownloadRequest
  | submission (workspaceId : WorkspaceId) (submissionId : EvidenceSubmissionId) (documentId : DocumentId)
      (period : Option (Int × Int))
  | policy (workspaceId : WorkspaceId) (policyId : PolicyId) (documentId : DocumentId)
  deriving DecidableEq, Repr

namespace DownloadRequest

def workspaceId : DownloadRequest → WorkspaceId
  | .submission workspaceId _ _ _ => workspaceId
  | .policy workspaceId _ _ => workspaceId

def identity : DownloadRequest → DocumentIdentity
  | .submission _ submissionId documentId _ => .evidence submissionId documentId
  | .policy _ policyId documentId => .policy policyId documentId

def candidate (db : DocumentDb) : DownloadRequest → Option DocumentDownloadCandidate
  | .submission workspaceId submissionId documentId period => db.download workspaceId submissionId documentId period
  | .policy workspaceId policyId documentId => db.getPolicyDocumentForDownload workspaceId policyId documentId

end DownloadRequest

/-- the document and the key of its object, before the store is asked -/
def DocumentDb.beginDownload (db : DocumentDb) (request : DownloadRequest) :
    Except DownloadError (Document × String) :=
  match request.candidate db with
  | none => .error .notFound
  | some candidate =>
    if candidate.document.uploadStatus ≠ .uploaded then .error .notFound
    else
      match finalizedObjectKey candidate with
      | .error e => .error e
      | .ok key => .ok (candidate.document, key)

/-! ## One download -/

inductive DownloadPhase
  /-- `get_object`: read the description of the object, then open it -/
  | heading
  | headed (metadata : ObjectMetadata)
  /-- the body of the response: the open file, and what was sent of it so far -/
  | streaming (file : Nat) (sent : List UInt8)
  | delivered (sent : List UInt8)
  /-- a read has failed or the client has gone: an internal error, or a body that breaks off -/
  | failed (sent : List UInt8)
  /-- the store has answered, and the answer is an error of the download -/
  | refused (error : DownloadError)
  deriving DecidableEq, Repr

def DownloadPhase.sent : DownloadPhase → List UInt8
  | .streaming _ sent => sent
  | .delivered sent => sent
  | .failed sent => sent
  | _ => []

structure Download where
  id : Nat
  request : DownloadRequest
  document : Document
  key : String
  phase : DownloadPhase
  deriving DecidableEq, Repr

/-- how one read of the store ends for a download -/
inductive DownloadEvent
  | head (ok : Bool)
  | openObject (ok : Bool)
  | sendChunk (size : Nat) (ok : Bool)
  | crash

/-- one step of a download; `none` where it is not at this step -/
def downloadStep (evidence : FilesystemObjectStore) (x : Download) (e : DownloadEvent) : Option DownloadPhase :=
  match x.phase, e with
  | .heading, .head ok =>
    if ok then
      match evidence.headResult x.key with
      | .error e => some (.refused (storageDownloadError e))
      | .ok metadata => some (.headed metadata)
    else some (.failed [])
  | .headed metadata, .openObject ok =>
    if ok then
      match evidence.openObject x.key with
      | none => some (.refused (storageDownloadError .notFound))
      | some file =>
        match validateMetadata x.document metadata with
        | .error e => some (.refused e)
        | .ok () => some (.streaming file [])
    else some (.failed [])
  | .streaming file sent, .sendChunk size ok =>
    if size = 0 ∨ objectChunkSize < size then none
    else if ok then
      let chunk := evidence.readChunk file sent.length size
      some (if chunk = [] then .delivered sent else .streaming file (sent ++ chunk))
    else some (.failed sent)
  | .heading, .crash => some (.failed [])
  | .headed _, .crash => some (.failed [])
  | .streaming _ sent, .crash => some (.failed sent)
  | _, _ => none

/-! ## Downloads beside the rest of the application -/

structure DownloadWorld where
  scanning : ScanningWorld
  downloads : Table Download.id

inductive DownloadWorldEvent
  | scanning (event : ScanningEvent)
  | request (download : Nat) (request : DownloadRequest)
  | step (download : Nat) (event : DownloadEvent)

namespace DownloadWorld

def empty : DownloadWorld := ⟨.empty, .empty⟩

def db (w : DownloadWorld) : DocumentDb := w.scanning.promotion.db

def evidence (w : DownloadWorld) : FilesystemObjectStore := w.scanning.promotion.evidence

end DownloadWorld

def downloadWorldStep (sha256 : List UInt8 → String) (maxDeliveryAttempts : Nat) (w : DownloadWorld) :
    DownloadWorldEvent → Option DownloadWorld
  | .scanning event =>
    (scanningStep sha256 maxDeliveryAttempts w.scanning event).map fun scanning => { w with scanning }
  | .request download request =>
    if (w.downloads.get? download).isSome then none
    else
      match w.db.beginDownload request with
      | .error _ => some w
      | .ok (document, key) =>
        some { w with downloads := w.downloads.upsert ⟨download, request, document, key, .heading⟩ }
  | .step download event =>
    (w.downloads.get? download).bind fun x =>
      (downloadStep w.evidence x event).map fun phase =>
        { w with downloads := w.downloads.upsert { x with phase } }

/-- ids are random, and destinations are opened exclusively -/
def Orderly (w : DownloadWorld) : DownloadWorldEvent → Prop
  | .scanning event => NewUploads w.scanning event ∧ w.scanning.exclusive event = true
  | _ => True

/-! ## What a query finds -/

/-- **A download begins with an active, uploaded document: the one it was asked for, under its final key.** -/
theorem beginDownload_ok {db : DocumentDb} {request : DownloadRequest} {d : Document} {key : String}
    (h : db.beginDownload request = .ok (d, key)) :
    d ∈ db.documents.rows ∧ d.uploadStatus = .uploaded ∧ d.archived = false ∧ d.objectKey = key ∧
      d.identity = request.identity ∧ d.workspaceId = request.workspaceId := by
  unfold DocumentDb.beginDownload at h
  split at h
  · cases h
  · next candidate hcandidate =>
    split at h
    · cases h
    · next hup =>
      split at h
      · cases h
      · next key' hkey =>
        cases h
        have hfound : ∃ d ∈ db.documents.rows, candidate = d.downloadCandidate ∧ d.archived = false ∧
            d.identity = request.identity ∧ d.workspaceId = request.workspaceId := by
          cases request with
          | submission workspaceId submissionId documentId period =>
            obtain ⟨d, hd, rfl⟩ := Option.map_eq_some_iff.mp hcandidate
            obtain ⟨s, -, hs⟩ := Option.bind_eq_some_iff.mp hd
            obtain ⟨hget, hcond⟩ := Option.filter_eq_some_iff.mp hs
            obtain ⟨hget', hw⟩ := DocumentDb.getWorkspaceDocument_eq_some.mp hget
            obtain ⟨hmem, hid, howner⟩ := DocumentDb.getDocument_eq_some.mp hget'
            exact ⟨d, hmem, rfl, of_decide_eq_true (Bool.and_eq_true_iff.mp hcond).1,
              DocumentIdentity.ext_owner hid howner, hw⟩
          | policy workspaceId policyId documentId =>
            obtain ⟨d, hd, rfl⟩ := Option.map_eq_some_iff.mp hcandidate
            obtain ⟨p, -, hp⟩ := Option.bind_eq_some_iff.mp hd
            obtain ⟨hget, hcond⟩ := Option.filter_eq_some_iff.mp hp
            obtain ⟨hget', hw⟩ := DocumentDb.getWorkspaceDocument_eq_some.mp hget
            obtain ⟨hmem, hid, howner⟩ := DocumentDb.getDocument_eq_some.mp hget'
            exact ⟨d, hmem, rfl, of_decide_eq_true hcond, DocumentIdentity.ext_owner hid howner, hw⟩
        obtain ⟨d, hd, rfl, ha, hid, hw⟩ := hfound
        exact ⟨hd, not_not.mp hup, ha, (finalizedObjectKey_ok.mp hkey).2, hid, hw⟩

/-! ## What stays as it is -/

/-- the object under this key is the same file with the same content, and is described alike -/
structure FilesystemObjectStore.SameAt (s s' : FilesystemObjectStore) (key : String) : Prop where
  entry : s'.objects.entries key = s.objects.entries key
  nodes : ∀ n, s.objects.entries key = some n → s'.objects.nodes n = s.objects.nodes n
  metadata : s'.metadata.get key = s.metadata.get key

theorem FilesystemObjectStore.SameAt.refl (s : FilesystemObjectStore) (key : String) : s.SameAt s key :=
  ⟨rfl, fun _ _ => rfl, rfl⟩

theorem FilesystemObjectStore.SameAt.trans {s s' s'' : FilesystemObjectStore} {key : String} (h : s.SameAt s' key)
    (h' : s'.SameAt s'' key) : s.SameAt s'' key := by
  refine ⟨h'.entry.trans h.entry, fun n hn => ?_, h'.metadata.trans h.metadata⟩
  rw [h'.nodes n (h.entry.trans hn), h.nodes n hn]

theorem FilesystemObjectStore.Elsewhere.sameAt {s s' : FilesystemObjectStore} {key key' : String}
    (h : Elsewhere s s' key) (hne : key' ≠ key) : s.SameAt s' key' :=
  ⟨(h.objects key' hne).1, (h.objects key' hne).2, h.metadata.get hne⟩

theorem FilesystemObjectStore.SameAt.get {s s' : FilesystemObjectStore} {key : String} (h : s.SameAt s' key) :
    s'.objects.get key = s.objects.get key := by
  unfold Files.get
  rw [h.entry]
  cases hn : s.objects.entries key with
  | none => rfl
  | some n =>
    show some (s'.objects.nodes n) = some (s.objects.nodes n)
    rw [h.nodes n hn]

/-- uploaded documents stay uploaded, their work and their objects stay as they are -/
def ServedKept (w w' : FinalizationWorld) : Prop :=
  ∀ d ∈ w.db.documents.rows, d.uploadStatus = .uploaded →
    (∃ d' ∈ w'.db.documents.rows, d'.uploadStatus = .uploaded ∧ d'.uploadWork = d.uploadWork) ∧
      w.evidence.SameAt w'.evidence d.objectKey

section
variable {sha256 : List UInt8 → String} {maxDeliveryAttempts : Nat} {w w' : FinalizationWorld}

theorem ServedKept.refl (w : FinalizationWorld) : ServedKept w w :=
  fun d hd hup => ⟨⟨d, hd, hup, rfl⟩, .refl _ _⟩

theorem ServedKept.trans {w'' : FinalizationWorld} (h : ServedKept w w') (h' : ServedKept w' w'') :
    ServedKept w w'' := by
  intro d hd hup
  obtain ⟨⟨d', hd', hup', hw⟩, hsame⟩ := h d hd hup
  obtain ⟨⟨d'', hd'', hup'', hw'⟩, hsame'⟩ := h' d' hd' hup'
  rw [show d'.objectKey = d.objectKey from congrArg UploadWork.objectKey hw] at hsame'
  exact ⟨⟨d'', hd'', hup'', hw'.trans hw⟩, hsame.trans hsame'⟩

/-- the documents go on, and the evidence store changes elsewhere -/
theorem ServedKept.advance {effect : DocumentEffect} (ha : DocumentsAdvance effect w.db w'.db)
    (hsame : ∀ d ∈ w.db.documents.rows, d.uploadStatus = .uploaded →
      w.evidence.SameAt w'.evidence d.objectKey) : ServedKept w w' := by
  intro d hd hup
  obtain ⟨d', hd', hadv⟩ := ha.forward d hd
  refine ⟨⟨d', hd', hadv.uploaded hup, ?_⟩, hsame d hd hup⟩
  cases hadv with
  | same hw hs => exact hw
  | scanned hw hs hs' => exact hw
  | finalized key he hw hs hs' =>
    rw [hup] at hs
    cases hs

/-- a step that leaves the evidence store alone -/
theorem ServedKept.aside {effect : DocumentEffect} (ha : DocumentsAdvance effect w.db w'.db)
    (hevidence : w'.evidence = w.evidence) : ServedKept w w' := by
  refine .advance ha fun d hd hup => ?_
  rw [hevidence]
  exact .refl _ _

/-- **A promotion changes no object that is served.** -/
theorem served_delivery {x : Delivery} {e : DeliveryEvent} {phase' : DeliveryPhase} {w1 : FinalizationWorld}
    (hi : FinalizationInv sha256 w) (hd : DeliveriesInv w) (hx : x ∈ w.deliveries.rows)
    (hexclusive : w.exclusive (.step x.id e) = true) (h : DeliveryMove sha256 w w1 x e phase') :
    ServedKept w (w1.put { x with phase := phase' }) := by
  have hsame : ∀ d ∈ w.db.documents.rows, d.uploadStatus = .uploaded →
      w.evidence.SameAt w1.evidence d.objectKey := by
    intro d hdm hup
    rcases evidence_change hi hd hx hexclusive h with heq | ⟨hel, hapart, -⟩
    · rw [heq]
      exact .refl _ _
    · exact hel.sameAt (hapart d hdm hup)
  cases h with
  | confined h => exact .advance (advances_of_eq .unchanged (congrArg DocumentDb.documents h.db)) hsame
  | seized result he hresult hidle evidence' hw hel hok hsource =>
    subst hw
    exact .advance (advances_of_eq .unchanged rfl) hsame
  | finalized fault hphase hw hphase' =>
    subst hw
    rcases committed_finalize fault ⟨x.work.identity, x.work.objectKey, x.destination⟩ w.db with
      ⟨-, hdb⟩ | ⟨-, hmove⟩
    · exact .advance (advances_of_eq .unchanged (congrArg DocumentDb.documents hdb)) hsame
    · exact .advance (advances_move hmove (by simp)) hsame

/-- a document that is created leaves those that are served alone -/
theorem served_created {command : DocumentCommand} {metadata : ExecutionMetadata} {messageId : Uuid}
    {commits : Bool} (hcreates : command.creates = true)
    (hnew : NewIds w (.create command metadata messageId commits)) :
    ServedKept w (w.command commits (command.handle w.db metadata messageId)) := by
  unfold FinalizationWorld.command
  split
  · next effect db' hr =>
    cases commits with
    | false => exact .refl w
    | true =>
      rcases creates_move hcreates hr with hdocs | ⟨d, rfl, hstatus, hdocs⟩
      · exact .aside (advances_of_eq .unchanged hdocs) rfl
      · intro u hu hup
        refine ⟨⟨u, ?_, hup, rfl⟩, .refl _ _⟩
        show u ∈ db'.documents.rows
        rw [hdocs]
        exact Table.mem_upsert.mpr (.inr ⟨hu, hnew d db' hr u hu⟩)
  · exact .refl w

/-- **No step of the application touches the object of an uploaded document.** -/
theorem served_step {w w' : ScanningWorld} {e : ScanningEvent} (hi : BytesInv sha256 w) (hnew : NewUploads w e)
    (hexclusive : w.exclusive e = true) (h : scanningStep sha256 maxDeliveryAttempts w e = some w') :
    ServedKept w.promotion w'.promotion := by
  rcases scanningStep_promotes h with hsame | ⟨event, hids, hex, hstep⟩
  · rw [hsame]
    exact .refl _
  · cases event with
    | stage quarantine =>
      rw [← Option.some.inj hstep]
      exact .aside (advances_of_eq .unchanged rfl) rfl
    | create command metadata messageId commits =>
      obtain ⟨hcreates, hw⟩ := Option.ite_none_right_eq_some.mp hstep
      rw [← Option.some.inj hw]
      exact served_created hcreates (hids hnew)
    | finalization event =>
      cases finalizationStep_move hstep with
      | idle _ hw =>
        rw [hw]
        exact .refl _
      | delivered _ x hphase hserves hw =>
        rw [hw]
        exact .aside (advances_of_eq .unchanged rfl) rfl
      | crashed x hx hw =>
        rw [hw]
        exact .aside (advances_of_eq .unchanged rfl) rfl
      | advanced _ effect db' ha hnot hw =>
        rw [hw]
        exact .aside ha rfl
      | stepped x event phase' w1 hx hmove hw =>
        rw [hw]
        exact served_delivery hi.finalization hi.deliveries hx (hex hexclusive) hmove

end

/-! ## The invariant -/

/-- what a download knows of the object under its key -/
def DownloadPhase.Serves (s : FilesystemObjectStore) (key : String) : DownloadPhase → Prop
  | .heading => True
  | .headed metadata => s.metadata.get key = some (some metadata)
  | .streaming file sent => s.objects.entries key = some file ∧ sent <+: s.objects.nodes file
  | .delivered sent => s.objects.get key = some sent
  | .failed sent => ∃ bytes, s.objects.get key = some bytes ∧ sent <+: bytes
  | .refused _ => False

/-- the document that was read is stored and uploaded, and its object is what is sent -/
structure DownloadOk (w : ScanningWorld) (x : Download) : Prop where
  identity : x.document.identity = x.request.identity
  workspace : x.document.workspaceId = x.request.workspaceId
  key : x.document.objectKey = x.key
  stored : ∃ d ∈ w.promotion.db.documents.rows, d.uploadStatus = .uploaded ∧ d.uploadWork = x.document.uploadWork
  serves : x.phase.Serves w.promotion.evidence x.key

structure DownloadsInv (sha256 : List UInt8 → String) (w : DownloadWorld) : Prop where
  bytes : BytesInv sha256 w.scanning
  downloads : ∀ x ∈ w.downloads.rows, DownloadOk w.scanning x

section
variable {sha256 : List UInt8 → String} {maxDeliveryAttempts : Nat} {w w' : DownloadWorld} {x : Download}
  {s s' : FilesystemObjectStore} {key : String}

theorem DownloadPhase.Serves.same {phase : DownloadPhase} (h : phase.Serves s key) (hsame : s.SameAt s' key) :
    phase.Serves s' key := by
  cases phase with
  | heading => exact trivial
  | headed metadata => exact hsame.metadata.trans h
  | streaming file sent =>
    obtain ⟨hentry, hpart⟩ := h
    refine ⟨hsame.entry.trans hentry, ?_⟩
    rw [hsame.nodes file hentry]
    exact hpart
  | delivered sent => exact hsame.get.trans h
  | failed sent =>
    obtain ⟨bytes, hget, hpart⟩ := h
    exact ⟨bytes, hsame.get.trans hget, hpart⟩
  | refused error => exact h

/-- **The description of a sound object passes the check of a download.** -/
theorem validateMetadata_sound {d document : Document} (h : Sound sha256 s d)
    (hw : d.uploadWork = document.uploadWork) {metadata : ObjectMetadata}
    (hget : s.metadata.get d.objectKey = some (some metadata)) : validateMetadata document metadata = .ok () := by
  obtain ⟨bytes, -, -, -, m, hm, -, htype, hlength, hsum⟩ := h
  obtain rfl : m = metadata := Option.some.inj (Option.some.inj (hm.symm.trans hget))
  rw [show d.contentType = document.contentType from congrArg UploadWork.contentType hw] at htype
  rw [show d.contentLength = document.contentLength from congrArg UploadWork.contentLength hw] at hlength
  rw [show d.checksumSha256 = document.checksumSha256 from congrArg UploadWork.checksumSha256 hw] at hsum
  unfold validateMetadata
  rw [if_neg (by omega), if_neg]
  rintro (hne | hne | hne)
  · exact hne htype
  · exact hne (by omega)
  · exact hne hsum

/-- **One step of a download**: nothing goes wrong but reads and connections. -/
theorem downloadStep_serves {e : DownloadEvent} {phase' : DownloadPhase} {d : Document} (hsound : Sound sha256 s d)
    (hw : d.uploadWork = x.document.uploadWork) (hkey : d.objectKey = x.key) (h : x.phase.Serves s x.key)
    (hstep : downloadStep s x e = some phase') : phase'.Serves s x.key := by
  have hobject : ∃ bytes, s.objects.get x.key = some bytes := by
    obtain ⟨bytes, hbytes, -⟩ := hsound
    exact ⟨bytes, hkey ▸ hbytes⟩
  have hnothing : ∃ bytes, s.objects.get x.key = some bytes ∧ [] <+: bytes := by
    obtain ⟨bytes, hbytes⟩ := hobject
    exact ⟨bytes, hbytes, List.nil_prefix⟩
  unfold downloadStep at hstep
  split at hstep
  case h_1 ok hphase =>
    split at hstep
    · have hdescribed : ∃ m, s.metadata.get x.key = some (some m) := by
        obtain ⟨-, -, -, -, m, hm, -⟩ := hsound
        exact ⟨m, hkey ▸ hm⟩
      obtain ⟨m, hm⟩ := hdescribed
      unfold FilesystemObjectStore.headResult at hstep
      rw [hm] at hstep
      cases hstep
      exact hm
    · cases hstep
      exact hnothing
  case h_2 metadata ok hphase =>
    rw [hphase] at h
    split at hstep
    · obtain ⟨bytes, hbytes⟩ := hobject
      obtain ⟨file, hentry, -⟩ := Option.map_eq_some_iff.mp hbytes
      have hopen : s.openObject x.key = some file := hentry
      rw [hopen] at hstep
      dsimp only at hstep
      rw [validateMetadata_sound hsound hw (hkey.symm ▸ h)] at hstep
      cases hstep
      exact ⟨hentry, List.nil_prefix⟩
    · cases hstep
      exact hnothing
  case h_3 file sent size ok hphase =>
    rw [hphase] at h
    obtain ⟨hentry, hpart⟩ := h
    split at hstep
    · cases hstep
    · next hsize =>
      split at hstep
      · dsimp only at hstep
        split at hstep
        · next hend =>
          cases hstep
          -- nothing is left of the file
          rw [prefix_end hpart (fun hzero => hsize (.inl hzero)) hend]
          exact Files.get_of_entry hentry
        · cases hstep
          exact ⟨hentry, prefix_append_take hpart size⟩
      · cases hstep
        exact ⟨_, Files.get_of_entry hentry, hpart⟩
  case h_4 =>
    cases hstep
    exact hnothing
  case h_5 =>
    cases hstep
    exact hnothing
  case h_6 file sent hphase =>
    rw [hphase] at h
    cases hstep
    exact ⟨_, Files.get_of_entry h.1, h.2⟩
  case h_7 => cases hstep

/-- a step of the application leaves the downloads to themselves -/
theorem DownloadOk.kept {scanning scanning' : ScanningWorld} (h : DownloadOk scanning x)
    (hkept : ServedKept scanning.promotion scanning'.promotion) : DownloadOk scanning' x := by
  obtain ⟨d, hd, hup, hw⟩ := h.stored
  obtain ⟨⟨d', hd', hup', hw'⟩, hsame⟩ := hkept d hd hup
  have hkey : d.objectKey = x.key := (congrArg UploadWork.objectKey hw).trans h.key
  rw [hkey] at hsame
  exact ⟨h.identity, h.workspace, h.key, ⟨d', hd', hup', hw'.trans hw⟩, h.serves.same hsame⟩

/-- **Every step keeps the invariant.** -/
theorem downloads_step {e : DownloadWorldEvent} (hi : DownloadsInv sha256 w) (horderly : Orderly w e)
    (h : downloadWorldStep sha256 maxDeliveryAttempts w e = some w') : DownloadsInv sha256 w' := by
  cases e with
  | scanning event =>
    obtain ⟨hnew, hexclusive⟩ := horderly
    obtain ⟨scanning, hs, rfl⟩ := Option.map_eq_some_iff.mp h
    exact ⟨bytes_step_all hi.bytes hnew hexclusive hs,
      fun x hx => (hi.downloads x hx).kept (served_step hi.bytes hnew hexclusive hs)⟩
  | request download request =>
    simp only [downloadWorldStep] at h
    split at h
    · cases h
    · split at h
      · cases h
        exact hi
      · next document key hbegin =>
        cases h
        obtain ⟨hd, hup, -, hkey, hid, hw⟩ := beginDownload_ok hbegin
        refine ⟨hi.bytes, fun x hx => ?_⟩
        rcases Table.mem_upsert.mp hx with rfl | ⟨hxm, -⟩
        · exact ⟨hid, hw, hkey, ⟨document, hd, hup, rfl⟩, trivial⟩
        · exact hi.downloads x hxm
  | step download event =>
    obtain ⟨x, hget, hx⟩ := Option.bind_eq_some_iff.mp h
    obtain ⟨phase, hstep, rfl⟩ := Option.map_eq_some_iff.mp hx
    have hok := hi.downloads x (Table.get?_mem hget)
    obtain ⟨d, hd, hup, hw⟩ := hok.stored
    have hkey : d.objectKey = x.key := (congrArg UploadWork.objectKey hw).trans hok.key
    have hsound := (hi.bytes.finalization.uploaded d hd hup).1
    have hserves := downloadStep_serves hsound hw hkey hok.serves hstep
    refine ⟨hi.bytes, fun y hy => ?_⟩
    rcases Table.mem_upsert.mp hy with rfl | ⟨hym, -⟩
    · exact ⟨hok.identity, hok.workspace, hok.key, hok.stored, hserves⟩
    · exact hi.downloads y hym

theorem downloadsInv_empty : DownloadsInv sha256 .empty where
  bytes := bytesInv_empty
  downloads := fun x hx => absurd hx (Table.mem_rows_empty x)

/-- what was sent is a part of the object, and all of it in the end -/
theorem DownloadPhase.Serves.sent {phase : DownloadPhase} {bytes : List UInt8} (h : phase.Serves s key)
    (hget : s.objects.get key = some bytes) :
    phase.sent <+: bytes ∧ (∀ sent, phase = .delivered sent → sent = bytes) ∧ ∀ e, phase ≠ .refused e := by
  cases phase with
  | heading => exact ⟨List.nil_prefix, by simp, by simp⟩
  | headed metadata => exact ⟨List.nil_prefix, by simp, by simp⟩
  | streaming file sent =>
    obtain ⟨hentry, hpart⟩ := h
    rw [Files.get_of_entry hentry] at hget
    cases hget
    exact ⟨hpart, by simp, by simp⟩
  | delivered sent =>
    have hall : sent = bytes := Option.some.inj ((show s.objects.get key = some sent from h).symm.trans hget)
    subst hall
    refine ⟨List.prefix_rfl, ?_, by simp⟩
    rintro _ hphase
    cases hphase
    rfl
  | failed sent =>
    obtain ⟨content, hcontent, hpart⟩ := h
    rw [hcontent] at hget
    cases hget
    exact ⟨hpart, by simp, by simp⟩
  | refused error => exact h.elim

/-- **What a download sends.**  Whatever uploads, scans, promotions, archivings and other downloads do between
its steps, a download serves a document of the workspace and the owner it was asked for; what it has sent is a
part of the bytes that the scanner has answered clean for that document, from the first one on; it ends well
only after all of them, which are as many as the document says and have its checksum; and once the document is
found the store refuses nothing. -/
theorem downloads_scanned {es : List DownloadWorldEvent}
    (horderly : Along (downloadWorldStep sha256 maxDeliveryAttempts) Orderly .empty es)
    (h : run (downloadWorldStep sha256 maxDeliveryAttempts) .empty es = some w) (hx : x ∈ w.downloads.rows) :
    x.document.identity = x.request.identity ∧ x.document.workspaceId = x.request.workspaceId ∧
      (∀ e, x.phase ≠ .refused e) ∧
      ∃ key bytes, ScannedClean w.scanning.exchanges x.document.identity key bytes ∧
        x.document.contentLength = bytes.length ∧ x.document.checksumSha256 = sha256 bytes ∧
        x.phase.sent <+: bytes ∧ ∀ sent, x.phase = .delivered sent → sent = bytes := by
  have hi : DownloadsInv sha256 w :=
    run_inv_along (DownloadsInv sha256) (fun _ _ _ hi hp hs => downloads_step hi hp hs) downloadsInv_empty horderly h
  have hok := hi.downloads x hx
  obtain ⟨d, hd, hup, hw⟩ := hok.stored
  obtain ⟨key, n, -, hscanned, hget⟩ := hi.bytes.uploaded d hd hup
  obtain ⟨bytes, hbytes, hlength, hsum, -⟩ := (hi.bytes.finalization.uploaded d hd hup).1
  obtain rfl : bytes = w.scanning.quarantine.objects.nodes n := Option.some.inj (hbytes.symm.trans hget)
  have hkey : d.objectKey = x.key := (congrArg UploadWork.objectKey hw).trans hok.key
  rw [hkey] at hbytes
  obtain ⟨hpart, hall, hrefused⟩ := hok.serves.sent hbytes
  have hid : d.identity = x.document.identity := congrArg UploadWork.identity hw
  rw [hid] at hscanned
  refine ⟨hok.identity, hok.workspace, hrefused, key, _, hscanned, ?_, ?_, hpart, hall⟩
  · rw [hlength]
    exact (congrArg UploadWork.contentLength hw).symm
  · rw [hsum]
    exact (congrArg UploadWork.checksumSha256 hw).symm

end

/-! The policy document of three bytes, sent in two chunks. -/

/-- a check of ids and destinations that can be evaluated -/
def DownloadWorld.orderly (w : DownloadWorld) : DownloadWorldEvent → Bool
  | .scanning event => w.scanning.drawsNew event && w.scanning.exclusive event
  | _ => true

theorem orderly_of_check {w : DownloadWorld} {e : DownloadWorldEvent} (h : w.orderly e = true) : Orderly w e := by
  cases e with
  | scanning event =>
    obtain ⟨hnew, hexclusive⟩ := Bool.and_eq_true_iff.mp h
    exact ⟨newUploads_of_drawsNew hnew, hexclusive⟩
  | request download request => exact trivial
  | step download event => exact trivial

def sampleDownload : List DownloadWorldEvent :=
  sampleScanning.map .scanning ++
    [.request 1 (.policy ⟨1⟩ ⟨7⟩ ⟨9⟩), .step 1 (.head true), .step 1 (.openObject true), .step 1 (.sendChunk 2 true),
      .step 1 (.sendChunk 2 true), .step 1 (.sendChunk 2 true)]

theorem downloads_scanned_sample :
    ∃ w, run (downloadWorldStep sampleSha256 5) .empty sampleDownload = some w ∧ ∃ x ∈ w.downloads.rows,
      x.phase = .delivered sampleBytes ∧
      x.document.identity = x.request.identity ∧ x.document.workspaceId = x.request.workspaceId ∧
      (∀ e, x.phase ≠ .refused e) ∧
      ∃ key bytes, ScannedClean w.scanning.exchanges x.document.identity key bytes ∧
        x.document.contentLength = bytes.length ∧ x.document.checksumSha256 = sampleSha256 bytes ∧
        x.phase.sent <+: bytes ∧ ∀ sent, x.phase = .delivered sent → sent = bytes := by
  have hrun : ((runChecked (downloadWorldStep sampleSha256 5) DownloadWorld.orderly .empty sampleDownload).any
      fun w => w.downloads.rows.any fun x => x.phase = .delivered sampleBytes) = true := by
    decide +kernel
  obtain ⟨w, hchecked, hany⟩ := (Option.any_eq_true _ _).mp hrun
  obtain ⟨hw, halong⟩ := runChecked_some hchecked
  obtain ⟨x, hx, hphase⟩ := List.any_eq_true.mp hany
  exact ⟨w, hw, x, hx, of_decide_eq_true hphase, downloads_scanned (halong.imp fun w e h => orderly_of_check h) hw hx⟩

end Proofplane
