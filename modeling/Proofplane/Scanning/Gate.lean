import Proofplane.Scanning.Staging

/-!
# The gate between quarantine and evidence

* `ScannedClean`          the scanner was sent these bytes, all of them and nothing else, and answered clean;
* `ScanMove`              all that one step of a scan can do, `scanStep_move`;
* `ScanOk`, `DocumentOk`  what holds of a scan and of a stored document, `GateInv` of all of them;
* `gate_step`             every step keeps it;
* `scanningStep_promotes` a step of the scanning world is one of the promotions, or leaves them alone;
* `scan_gate`             **a document is finalizing or uploaded only if the scanner answered clean to the
                          bytes that were staged for it, and these are still what its staged object holds**.
-/

namespace Proofplane
open Base

/-- the scanner was sent these bytes for this document, and what was read of its answer says clean -/
def ScannedClean (exchanges : List ScanExchange) (identity : DocumentIdentity) (objectKey : String)
    (bytes : List UInt8) : Prop :=
  ∃ exchange ∈ exchanges, exchange.identity = identity ∧ exchange.objectKey = objectKey ∧
    (∃ frames, decodeInstream exchange.written = some (frames, []) ∧ frames.flatten = bytes) ∧
    ∃ response name version, readResponse exchange.reads [] = .ok response ∧
      parseResponse response = .ok ⟨name, version, .clean⟩

theorem ScannedClean.mono {exchanges exchanges' : List ScanExchange} {identity : DocumentIdentity}
    {objectKey : String} {bytes : List UInt8} (h : ScannedClean exchanges identity objectKey bytes)
    (hmore : ∀ exchange ∈ exchanges, exchange ∈ exchanges') :
    ScannedClean exchanges' identity objectKey bytes := by
  obtain ⟨exchange, hmem, hrest⟩ := h
  exact ⟨exchange, hmore _ hmem, hrest⟩

/-- a scan that ends clean -/
theorem scan_clean {chunks : List (List UInt8)} {reads : List (Except String (List UInt8))}
    {result : MalwareScanResult} {written : List UInt8}
    (h : scan (chunks.map .ok) reads = (.ok result, written)) (hclean : result.outcome = .clean) :
    (∃ frames, decodeInstream written = some (frames, []) ∧ frames.flatten = chunks.flatten) ∧
      ∃ response name version, readResponse reads [] = .ok response ∧
        parseResponse response = .ok ⟨name, version, .clean⟩ := by
  unfold scan at h
  rw [writeChunks_ok] at h
  dsimp only at h
  cases hread : readResponse reads [] with
  | error e =>
    rw [hread] at h
    cases h
  | ok response =>
    rw [hread] at h
    obtain ⟨hparse, hwritten⟩ := Prod.mk.inj h
    obtain ⟨name, version, outcome⟩ := result
    refine ⟨⟨framesOf chunks, ?_, (framesOf_spec chunks).1⟩, response, name, version, rfl, ?_⟩
    · rw [← hwritten]
      exact decodeInstream_written chunks
    · rw [← show outcome = .clean from hclean]
      exact hparse

/-! ## Reading a file chunk by chunk -/

theorem prefix_append_take {α : Type} {l m : List α} (h : l <+: m) (k : Nat) :
    l ++ (m.drop l.length).take k <+: m := by
  obtain ⟨rest, rfl⟩ := h
  rw [List.drop_left]
  exact (List.prefix_append_right_inj l).mpr (List.take_prefix k rest)

theorem prefix_end {α : Type} {l m : List α} (h : l <+: m) {k : Nat} (hk : k ≠ 0)
    (hend : (m.drop l.length).take k = []) : l = m := by
  obtain ⟨rest, rfl⟩ := h
  rw [List.drop_left, List.take_eq_nil_iff] at hend
  rw [hend.resolve_left hk, List.append_nil]

/-! ## One step of a scan -/

/-- nothing is sent or recorded that has to be accounted for -/
def ScanPhase.idle : ScanPhase → Bool
  | .sending _ _ => false
  | .awaiting _ => false
  | .recording .clean => false
  | _ => true

/-- all that one step of a scan can do -/
inductive ScanMove (db db' : DocumentDb) (quarantine : FilesystemObjectStore) (x : ScanDelivery) (phase' : ScanPhase) :
    List ScanExchange → Prop
  | rested (hdb : db' = db) (hphase' : phase'.idle = true) (hnot : phase' ≠ .returned true) :
      ScanMove db db' quarantine x phase' []
  | opened (file : Nat) (hdb : db' = db) (hopen : quarantine.openObject x.work.objectKey = some file)
      (hphase' : phase' = .sending file []) : ScanMove db db' quarantine x phase' []
  | sent (file size : Nat) (chunks : List (List UInt8)) (hdb : db' = db)
      (hphase : x.phase = .sending file chunks)
      (hphase' : phase' = .sending file (chunks ++ [quarantine.readChunk file chunks.flatten.length size])) :
      ScanMove db db' quarantine x phase' []
  | ended (file size : Nat) (chunks : List (List UInt8)) (hdb : db' = db) (hsize : size ≠ 0)
      (hphase : x.phase = .sending file chunks)
      (hend : quarantine.readChunk file chunks.flatten.length size = [])
      (hphase' : phase' = .awaiting chunks) : ScanMove db db' quarantine x phase' []
  | answered (chunks : List (List UInt8)) (reads : List (Except String (List UInt8))) (hdb : db' = db)
      (hphase : x.phase = .awaiting chunks)
      (hphase' : phase' = x.failed ∨ ∃ result, (scan (chunks.map .ok) reads).1 = .ok result ∧
        phase' = .recording (scanDocumentResult result.outcome)) :
      ScanMove db db' quarantine x phase'
        [⟨x.work.identity, x.work.objectKey, (scan (chunks.map .ok) reads).2, reads⟩]
  | recorded (result : ScanDocumentResult) (messageId : Uuid) (fault : CommitFault)
      (hphase : x.phase = .recording result)
      (hdb : db' = (committed fault db
        (scanDocument db x.metadata messageId ⟨x.work.identity, x.work.objectKey, result⟩)).2)
      (hphase' : phase' = .returned (committed fault db
        (scanDocument db x.metadata messageId ⟨x.work.identity, x.work.objectKey, result⟩)).1.isOk) :
      ScanMove db db' quarantine x phase' []

section
variable {db db' : DocumentDb} {quarantine : FilesystemObjectStore} {x : ScanDelivery} {phase' : ScanPhase}
  {exchanges : List ScanExchange}

theorem failed_idle (x : ScanDelivery) : x.failed.idle = true ∧ x.failed ≠ .returned true := by
  unfold ScanDelivery.failed
  split
  · exact ⟨rfl, by simp⟩
  · exact ⟨rfl, by simp⟩

/-- what is done with an opened object -/
theorem openedPhase_cases (x : ScanDelivery) (source : ObjectMetadata) (file : Nat) :
    ((x.openedPhase source file).idle = true ∧ x.openedPhase source file ≠ .returned true) ∨
      x.openedPhase source file = .sending file [] := by
  unfold ScanDelivery.openedPhase
  split
  · exact .inl ⟨rfl, by simp⟩
  · split
    · exact .inl (failed_idle x)
    · exact .inr rfl

/-- **All that one step of a scan can do.** -/
theorem scanStep_move {e : ScanEvent} (h : scanStep db quarantine x e = some (db', phase', exchanges)) :
    ScanMove db db' quarantine x phase' exchanges := by
  unfold scanStep at h
  split at h
  case h_1 => cases h
  case h_2 =>
    cases h
    exact .rested rfl rfl (by simp)
  case h_3 ok hphase =>
    split at h
    · cases h
      exact .rested rfl rfl (by simp)
    · cases h
      exact .rested rfl (failed_idle x).1 (failed_idle x).2
    · cases h
      exact .rested rfl rfl (by simp)
  case h_4 source ok hphase =>
    split at h
    · split at h
      · cases h
        exact .rested rfl rfl (by simp)
      · next file hopen =>
        cases h
        rcases openedPhase_cases x source file with hidle | hsending
        · exact .rested rfl hidle.1 hidle.2
        · exact .opened file rfl hopen hsending
    · cases h
      exact .rested rfl (failed_idle x).1 (failed_idle x).2
  case h_5 file chunks size ok hphase =>
    split at h
    · cases h
    · next hsize =>
      split at h
      · dsimp only at h
        split at h
        · next hend =>
          cases h
          exact .ended file size chunks rfl (fun hzero => hsize (.inl hzero)) hphase hend rfl
        · cases h
          exact .sent file size chunks rfl hphase rfl
      · cases h
        exact .rested rfl (failed_idle x).1 (failed_idle x).2
  case h_6 =>
    cases h
    exact .rested rfl (failed_idle x).1 (failed_idle x).2
  case h_7 =>
    cases h
    exact .rested rfl (failed_idle x).1 (failed_idle x).2
  case h_8 chunks reads hphase =>
    dsimp only at h
    split at h
    · cases h
      exact .answered chunks reads rfl hphase (.inl rfl)
    · next result hresult =>
      cases h
      exact .answered chunks reads rfl hphase (.inr ⟨result, hresult, rfl⟩)
  case h_9 result messageId fault hphase =>
    cases h
    exact .recorded result messageId fault hphase rfl rfl
  case h_10 => cases h

/-- what recording a result does to the documents -/
theorem committed_scan (fault : CommitFault) (metadata : ExecutionMetadata) (messageId : Uuid)
    (command : ScanDocument) (db : DocumentDb) :
    (committed fault db (scanDocument db metadata messageId command)).2 = db ∨
      DocumentMove db (committed fault db (scanDocument db metadata messageId command)).2
        (.scanned command.identity command.objectKey command.result) := by
  cases hr : scanDocument db metadata messageId command with
  | error e => exact .inl (by cases fault <;> rfl)
  | ok p =>
    obtain ⟨outcome, db'⟩ := p
    rcases scanDocument_ok hr with ⟨-, rfl⟩ | ⟨-, hmove, -, -⟩
    · exact .inl (by cases fault <;> rfl)
    · cases fault with
      | none => exact .inr hmove
      | beforeCommit => exact .inl rfl
      | lostAcknowledgement => exact .inr hmove

end

/-! ## The invariant -/

/-- what a scan knows of the file `n`, which has these bytes -/
def ScanPhase.Knows (exchanges : List ScanExchange) (work : UploadWork) (n : Nat) (bytes : List UInt8) :
    ScanPhase → Prop
  | .sending file chunks => file = n ∧ chunks.flatten <+: bytes
  | .awaiting chunks => chunks.flatten = bytes
  | .recording .clean => ScannedClean exchanges work.identity work.objectKey bytes
  | _ => True

theorem ScanPhase.Knows.mono {exchanges exchanges' : List ScanExchange} {work : UploadWork} {n : Nat}
    {bytes : List UInt8} {phase : ScanPhase} (h : phase.Knows exchanges work n bytes)
    (hmore : ∀ exchange ∈ exchanges, exchange ∈ exchanges') : phase.Knows exchanges' work n bytes := by
  unfold Knows at *
  split
  · exact h
  · exact h
  · exact ScannedClean.mono h hmore
  · exact trivial

theorem knows_idle {exchanges : List ScanExchange} {work : UploadWork} {n : Nat} {bytes : List UInt8}
    {phase : ScanPhase} (h : phase.idle = true) : phase.Knows exchanges work n bytes := by
  unfold ScanPhase.Knows
  split
  · cases h
  · cases h
  · cases h
  · exact trivial

/-- the object that a scan reads, and what it knows of it -/
def ScanOk (w : ScanningWorld) (x : ScanDelivery) : Prop :=
  ∃ n, Closed w.uploads x.work.objectKey n ∧
    x.phase.Knows w.exchanges x.work n (w.quarantine.objects.nodes n)

/-- the file that was staged for a document: the document describes it, and until it is uploaded it is
found under the document's key -/
def DocumentOk (sha256 : List UInt8 → String) (w : ScanningWorld) (d : Document) : Prop :=
  ∃ key n, Closed w.uploads key n ∧
    (d.uploadStatus = .pendingUpload ∨ d.uploadStatus = .finalizing → d.objectKey = key) ∧
    d.contentLength = (w.quarantine.objects.nodes n).length ∧
    d.checksumSha256 = sha256 (w.quarantine.objects.nodes n) ∧
    (d.uploadStatus = .finalizing ∨ d.uploadStatus = .uploaded →
      ScannedClean w.exchanges d.identity key (w.quarantine.objects.nodes n))

structure GateInv (sha256 : List UInt8 → String) (w : ScanningWorld) : Prop where
  staging : StagingInv sha256 w.quarantine w.uploads
  scans : ∀ x ∈ w.scans.rows, ScanOk w x
  documents : ∀ d ∈ w.promotion.db.documents.rows, DocumentOk sha256 w d

/-- closed files stay as they are, and exchanges are not forgotten -/
structure ScanningLater (w w' : ScanningWorld) : Prop where
  kept : StagingKept w.quarantine w'.quarantine w.uploads w'.uploads
  exchanges : ∀ exchange ∈ w.exchanges, exchange ∈ w'.exchanges

section
variable {sha256 : List UInt8 → String} {maxDeliveryAttempts : Nat} {w w' : ScanningWorld} {x : ScanDelivery}
  {d : Document}

theorem ScanOk.later (h : ScanOk w x) (hl : ScanningLater w w') : ScanOk w' x := by
  obtain ⟨n, hclosed, hx⟩ := h
  refine ⟨n, hl.kept.closed _ _ hclosed, ?_⟩
  rw [hl.kept.nodes _ _ hclosed]
  exact hx.mono hl.exchanges

theorem DocumentOk.later (h : DocumentOk sha256 w d) (hl : ScanningLater w w') : DocumentOk sha256 w' d := by
  obtain ⟨key, n, hclosed, hkey, hlength, hsum, hscanned⟩ := h
  refine ⟨key, n, hl.kept.closed _ _ hclosed, hkey, ?_⟩
  rw [hl.kept.nodes _ _ hclosed]
  exact ⟨hlength, hsum, fun hst => (hscanned hst).mono hl.exchanges⟩

/-- what a step has to show: of uploads, of the scan that moved, of the document that changed -/
theorem GateInv.next (hi : GateInv sha256 w) (hstaging : StagingInv sha256 w'.quarantine w'.uploads)
    (hl : ScanningLater w w') (hscans : ∀ x ∈ w'.scans.rows, x ∈ w.scans.rows ∨ ScanOk w' x)
    (hdocs : (∀ d ∈ w.promotion.db.documents.rows, DocumentOk sha256 w' d) →
      ∀ d ∈ w'.promotion.db.documents.rows, DocumentOk sha256 w' d) : GateInv sha256 w' where
  staging := hstaging
  scans := by
    intro x hx
    rcases hscans x hx with hold | hok
    · exact (hi.scans x hold).later hl
    · exact hok
  documents := hdocs fun d hd => (hi.documents d hd).later hl

/-- **A document that a command moves**: only a clean scan makes it finalizing. -/
theorem documents_move {db db' : DocumentDb} {effect : DocumentEffect} (hm : DocumentMove db db' effect)
    (hold : ∀ d ∈ db.documents.rows, DocumentOk sha256 w d)
    (hcreated : ∀ d, effect = .created d → DocumentOk sha256 w d.toRow)
    (hclean : ∀ identity key, effect = .scanned identity key .clean → ∀ n, Closed w.uploads key n →
      ScannedClean w.exchanges identity key (w.quarantine.objects.nodes n)) :
    ∀ d ∈ db'.documents.rows, DocumentOk sha256 w d := by
  -- the documents are those from before, but for one
  have hrows : ∀ d', db'.documents = db.documents.upsert d' → DocumentOk sha256 w d' →
      ∀ d ∈ db'.documents.rows, DocumentOk sha256 w d := by
    intro d' hdb hok d hd
    rw [hdb] at hd
    rcases Table.mem_upsert.mp hd with rfl | ⟨hdm, -⟩
    · exact hok
    · exact hold d hdm
  cases hm with
  | unchanged hd =>
    rw [hd]
    exact hold
  | created d hstatus ha hd => exact hrows _ hd (hcreated d rfl)
  | scanned d result ha hstatus hm =>
    refine hrows _ hm.documents ?_
    obtain ⟨key, n, hclosed, hkey, hlength, hsum, -⟩ := hold d hm.mem
    have hsame := hkey (.inl hstatus)
    refine ⟨key, n, hclosed, fun _ => hsame, hlength, hsum, ?_⟩
    cases result with
    | clean =>
      intro _
      subst hsame
      exact hclean d.identity d.objectKey rfl n hclosed
    | malicious =>
      rintro (hst | hst)
      · cases hst
      · cases hst
    | failed =>
      rintro (hst | hst)
      · cases hst
      · cases hst
  | finalized d finalKey ha hstatus hm =>
    refine hrows _ hm.documents ?_
    obtain ⟨key, n, hclosed, -, hlength, hsum, hscanned⟩ := hold d hm.mem
    refine ⟨key, n, hclosed, ?_, hlength, hsum, fun _ => hscanned (.inl hstatus)⟩
    rintro (hst | hst)
    · cases hst
    · cases hst
  | archived d ha hterminal hm =>
    obtain ⟨key, n, hclosed, hkey, hlength, hsum, hscanned⟩ := hold d hm.mem
    exact hrows _ hm.documents ⟨key, n, hclosed, hkey, hlength, hsum, hscanned⟩

/-! ## Steps -/

/-- a step that leaves uploads, quarantine and exchanges alone -/
theorem later_of_eq (hq : w'.quarantine = w.quarantine) (hu : w'.uploads = w.uploads)
    (hx : ∀ exchange ∈ w.exchanges, exchange ∈ w'.exchanges) : ScanningLater w w' := by
  refine ⟨?_, hx⟩
  rw [hq, hu]
  exact .refl _ _

/-- **One step of a scan.** -/
theorem gate_scan {db' : DocumentDb} {phase' : ScanPhase} {exchanges : List ScanExchange}
    (hi : GateInv sha256 w) (hx : x ∈ w.scans.rows)
    (h : ScanMove w.promotion.db db' w.quarantine x phase' exchanges) :
    GateInv sha256 (w.scanned x db' phase' exchanges) := by
  obtain ⟨n, hclosed, hphase⟩ := hi.scans x hx
  have hl : ScanningLater w (w.scanned x db' phase' exchanges) :=
    later_of_eq rfl rfl fun exchange hmem => List.mem_append_left _ hmem
  refine hi.next hi.staging hl ?_ ?_
  · intro y hy
    rcases Table.mem_upsert.mp hy with rfl | ⟨hym, -⟩
    · refine .inr ⟨n, hclosed, ?_⟩
      show phase'.Knows (w.exchanges ++ exchanges) x.work n (w.quarantine.objects.nodes n)
      cases h with
      | rested hdb hidle hnot => exact knows_idle hidle
      | opened file hdb hopen hphase' =>
        subst hphase'
        exact ⟨hi.staging.files.opened hclosed.made hopen, List.nil_prefix⟩
      | sent file size chunks hdb hbefore hphase' =>
        subst hphase'
        rw [hbefore] at hphase
        obtain ⟨rfl, hprefix⟩ := hphase
        refine ⟨rfl, ?_⟩
        rw [List.flatten_append, List.flatten_singleton]
        exact prefix_append_take hprefix size
      | ended file size chunks hdb hsize hbefore hend hphase' =>
        subst hphase'
        rw [hbefore] at hphase
        obtain ⟨rfl, hprefix⟩ := hphase
        exact prefix_end hprefix hsize hend
      | answered chunks reads hdb hbefore hphase' =>
        rw [hbefore] at hphase
        rcases hphase' with rfl | ⟨result, hresult, rfl⟩
        · exact knows_idle (failed_idle x).1
        · cases hout : result.outcome with
          | malicious reason => exact trivial
          | failed reason => exact trivial
          | clean =>
            obtain ⟨hframes, hresponse⟩ := scan_clean (Prod.ext hresult rfl) hout
            rw [show chunks.flatten = w.quarantine.objects.nodes n from hphase] at hframes
            exact ⟨_, List.mem_append_right _ List.mem_cons_self, rfl, rfl, hframes, hresponse⟩
      | recorded result messageId fault hbefore hdb hphase' =>
        subst hphase'
        exact trivial
    · exact .inl hym
  · intro hold
    cases h with
    | rested hdb _ _ =>
      subst hdb
      exact hold
    | opened file hdb hopen hphase' =>
      subst hdb
      exact hold
    | sent file size chunks hdb hbefore hphase' =>
      subst hdb
      exact hold
    | ended file size chunks hdb hsize hbefore hend hphase' =>
      subst hdb
      exact hold
    | answered chunks reads hdb hbefore hphase' =>
      subst hdb
      exact hold
    | recorded result messageId fault hbefore hdb hphase' =>
      rcases committed_scan fault x.metadata messageId ⟨x.work.identity, x.work.objectKey, result⟩
        w.promotion.db with hsame | hmove
      · rw [← hdb] at hsame
        show ∀ d ∈ db'.documents.rows, _
        rw [hsame]
        exact hold
      · rw [← hdb] at hmove
        refine documents_move hmove hold (fun d he => by cases he) ?_
        intro identity key he m hm
        cases he
        -- what the scan knows when it records a clean result
        rw [hbefore] at hphase
        have hsame : m = n := hi.staging.files.single _ _ _ hm.made hclosed.made
        subst hsame
        exact hphase.mono hl.exchanges

/-- a message comes in for a document that waits -/
theorem receiveScan_working {db : DocumentDb} {m : WorkerMessage} {ok : Bool} {work : UploadWork}
    (h : db.receiveScan m ok = .working work) :
    ∃ d ∈ db.documents.rows, work = d.uploadWork ∧ d.uploadStatus = .pendingUpload := by
  unfold DocumentDb.receiveScan at h
  split at h
  · cases h
  · split at h
    · split at h
      · cases h
      · next work' hload =>
        split at h
        · cases h
          obtain ⟨d, hfilter, rfl⟩ := Option.map_eq_some_iff.mp hload
          obtain ⟨hget, hcond⟩ := Option.filter_eq_some_iff.mp hfilter
          obtain ⟨hd, -⟩ := identity_of_getDocument hget
          obtain ⟨-, hst, -, -⟩ := of_decide_eq_true hcond
          exact ⟨d, hd, rfl, hst⟩
        · cases h
    · cases h

/-! ## Creation -/

/-- the document that a creating command makes is the one of its payload -/
theorem creates_payload {db db' : DocumentDb} {command : DocumentCommand} {metadata : ExecutionMetadata}
    {messageId : Uuid} {d : Document} {payload : CreateDocumentPayload}
    (hp : command.document? = some payload)
    (h : command.handle db metadata messageId = .ok (.created d, db')) :
    ∃ identity workspaceId userId createdAt, d = newDocument identity workspaceId userId payload createdAt := by
  cases command with
  | createEvidenceSubmissionDocument c =>
    cases hp
    simp only [DocumentCommand.handle] at h
    split at h
    · cases h
    · next d1 db1 hr =>
      cases h
      rcases createEvidenceSubmissionDocument_ok hr with ⟨x, hx, -⟩ | ⟨x, sub, hx, hnew, -⟩
      · cases hx
      · cases hx
        exact ⟨_, _, _, _, hnew⟩
    · cases h
  | createPolicyDocument c =>
    cases hp
    simp only [DocumentCommand.handle] at h
    split at h
    · cases h
    · next d1 db1 hr =>
      cases h
      rcases createPolicyDocument_ok hr with ⟨hne, -⟩ | ⟨x, hx, hnew, -⟩
      · exact absurd rfl (hne d)
      · cases hx
        exact ⟨_, _, _, _, hnew⟩
    · cases h
  | completeAgentEvidenceUpload c =>
    cases hp
    simp only [DocumentCommand.handle] at h
    split at h
    · cases h
    · next sid d1 db1 hr =>
      cases h
      rcases completeAgentEvidenceUpload_ok hr with ⟨hx, -⟩ | ⟨g, -, -, -, -, ⟨x, -, hx, -⟩ |
        ⟨x, sub, g', -, hx, hnew, -⟩⟩
      · cases hx
      · cases hx
      · cases hx
        exact ⟨_, _, _, _, hnew⟩
    · cases h
  | completeAgentPolicyDocumentUpload c =>
    cases hp
    simp only [DocumentCommand.handle] at h
    split at h
    · cases h
    · next d1 db1 hr =>
      cases h
      rcases completeAgentPolicyDocumentUpload_ok hr with ⟨hx | hx, -⟩ | ⟨g, -, -, -, ⟨x, -, hx, -⟩ |
        ⟨x, g', -, hx, hnew, -⟩⟩
      · cases hx
      · cases hx
      · cases hx
      · cases hx
        exact ⟨_, _, _, _, hnew⟩
    · cases h
  | scan c => cases hp
  | finalize c => cases hp
  | archive c => cases hp

/-- a document that is created for a staged upload describes the file of the upload -/
theorem documentOk_created {u : StagedUpload} {payload : CreateDocumentPayload} {identity : DocumentIdentity}
    {workspaceId : WorkspaceId} {userId : UserId} {createdAt : Int} (hi : GateInv sha256 w)
    (hu : u ∈ w.uploads.rows) (hoffers : u.offers payload = true)
    (hd : d = newDocument identity workspaceId userId payload createdAt) : DocumentOk sha256 w d.toRow := by
  unfold StagedUpload.offers at hoffers
  split at hoffers
  · next document hphase =>
    have hpayload : payload = document.payload u.owner := of_decide_eq_true hoffers
    have hw := hi.staging.writes u hu
    unfold StagedUpload.Writes at hw
    rw [hphase] at hw
    obtain ⟨file, hfile, hkey, hlength, -, hsum⟩ := hw
    subst hd hpayload
    refine ⟨u.objectKey, file, ⟨u, hu, rfl, hfile, by rw [hphase]; rfl⟩, fun _ => hkey, hlength, hsum, ?_⟩
    rintro (hst | hst)
    · cases hst
    · cases hst
  · cases hoffers

/-- **A creating command.** -/
theorem gate_create {u : StagedUpload} {command : DocumentCommand} {metadata : ExecutionMetadata}
    {messageId : Uuid} (commits : Bool) (hi : GateInv sha256 w) (hu : u ∈ w.uploads.rows)
    (hcreates : command.creates = true) (hoffers : command.document?.any u.offers = true)
    {promotion : FinalizationWorld}
    (hw : promotion = w.promotion.command commits (command.handle w.promotion.db metadata messageId)) :
    GateInv sha256 { w with promotion } := by
  unfold FinalizationWorld.command at hw
  split at hw
  · next effect db' hr =>
    cases commits with
    | false =>
      subst hw
      exact hi
    | true =>
      subst hw
      refine hi.next hi.staging (later_of_eq rfl rfl fun _ hmem => hmem) (fun x hx => .inl hx) fun hold => ?_
      rcases creates_move hcreates hr with hdocs | ⟨d, rfl, hstatus, hdocs⟩
      · show ∀ d ∈ db'.documents.rows, _
        rw [hdocs]
        exact hold
      · intro d' hd'
        have hmem : d' ∈ (w.promotion.db.documents.upsert d.toRow).rows := hdocs ▸ hd'
        rcases Table.mem_upsert.mp hmem with rfl | ⟨hdm, -⟩
        · obtain ⟨payload, hp, hoffer⟩ := (Option.any_eq_true _ _).mp hoffers
          obtain ⟨identity, workspaceId, userId, createdAt, hd⟩ := creates_payload hp hr
          exact (documentOk_created hi hu hoffer hd).later (later_of_eq rfl rfl fun _ hmem => hmem)
        · exact hold d' hdm
  · subst hw
    exact hi

/-! ## Finalization -/

/-- what deliveries of finalization messages and the rest of the application do to documents, and that of
quarantine they only remove -/
structure PromotionKept (w w' : FinalizationWorld) : Prop where
  unlinked : w.quarantine.objects.Unlinked w'.quarantine.objects
  documents : w'.db.documents = w.db.documents ∨ ∃ effect, DocumentMove w.db w'.db effect ∧
    (∀ d, effect ≠ .created d) ∧ ∀ identity key result, effect ≠ .scanned identity key result

theorem PromotionKept.refl (w : FinalizationWorld) : PromotionKept w w := ⟨.refl _, .inl rfl⟩

/-- one step of a delivery -/
theorem deliveryStep_kept {w w' : FinalizationWorld} {x : Delivery} {e : DeliveryEvent} {phase' : DeliveryPhase}
    (h : deliveryStep sha256 w x e = some (w', phase')) : PromotionKept w w' := by
  unfold deliveryStep at h
  split at h
  case h_1 =>
    split at h
    · cases h
      exact .refl w
    · cases h
      exact .refl w
  case h_2 =>
    split at h
    · cases h
      exact .refl w
    · cases h
      exact .refl w
  case h_3 result hphase =>
    cases result with
    | directoryFailed =>
      cases h
      exact .refl w
    | failed =>
      cases h
      exact .refl w
    | created =>
      cases h
      exact ⟨.refl _, .inl rfl⟩
  case h_4 source file destinationFile written size fault hphase =>
    split at h
    · cases h
    · have hw : w' = (w.copyChunk source file destinationFile written size fault).1 :=
        congrArg Prod.fst (Option.some.inj h).symm
      subst hw
      unfold FinalizationWorld.copyChunk
      cases fault with
      | read => exact .refl w
      | write part => exact ⟨.refl _, .inl rfl⟩
      | none =>
        dsimp only
        split
        · exact .refl w
        · split
          · exact ⟨.refl _, .inl rfl⟩
          · exact ⟨.refl _, .inl rfl⟩
  case h_5 ok hphase =>
    cases h
    cases ok with
    | false => exact .refl w
    | true => exact ⟨.refl _, .inl rfl⟩
  case h_6 source written result hphase =>
    cases result with
    | directoryFailed =>
      cases h
      exact .refl w
    | failed =>
      cases h
      exact .refl w
    | created =>
      cases h
      exact ⟨.refl _, .inl rfl⟩
  case h_7 =>
    split at h
    · cases h
      exact ⟨.refl _, .inl rfl⟩
    · cases h
      exact ⟨.refl _, .inl rfl⟩
  case h_8 =>
    split at h
    · cases h
      exact ⟨.refl _, .inl rfl⟩
    · cases h
      exact .refl w
  case h_9 ok hphase =>
    cases h
    cases ok with
    | false => exact .refl w
    | true => exact ⟨.refl _, .inl rfl⟩
  case h_10 fault hphase =>
    cases h
    refine ⟨.refl _, ?_⟩
    rcases committed_finalize fault ⟨x.work.identity, x.work.objectKey, x.destination⟩ w.db with
      ⟨-, hdb⟩ | ⟨-, hmove⟩
    · exact .inl (congrArg DocumentDb.documents hdb)
    · exact .inr ⟨_, hmove, by simp, by simp⟩
  case h_11 =>
    split at h
    · cases h
      exact ⟨Files.unlinked_remove _ _, .inl rfl⟩
    · cases h
      exact .refl w
  case h_12 ok hphase =>
    cases h
    cases ok with
    | false => exact .refl w
    | true => exact ⟨.refl _, .inl rfl⟩
  case h_13 => cases h

theorem finalizationStep_kept {w w' : FinalizationWorld} {e : FinalizationEvent} (hscan : e.isScan = false)
    (h : finalizationStep sha256 w e = some w') : PromotionKept w w' := by
  cases e with
  | deliver delivery identity objectKey ok =>
    simp only [finalizationStep] at h
    split at h
    · cases h
    · cases h
      unfold FinalizationWorld.deliver
      split
      · exact .refl w
      · split
        · exact .refl w
        · split
          · exact ⟨.refl _, .inl rfl⟩
          · exact .refl w
  | step delivery event =>
    obtain ⟨x, -, hx⟩ := Option.bind_eq_some_iff.mp h
    obtain ⟨p, hp, rfl⟩ := Option.map_eq_some_iff.mp hx
    have hkept := deliveryStep_kept hp
    exact ⟨hkept.unlinked, hkept.documents⟩
  | crash delivery =>
    obtain ⟨x, -, rfl⟩ := Option.map_eq_some_iff.mp h
    exact ⟨.refl _, .inl rfl⟩
  | scan command metadata messageId commits => cases hscan
  | archive command commits =>
    cases h
    unfold FinalizationWorld.command
    split
    · next outcome db' hr =>
      cases commits with
      | false => exact .refl w
      | true =>
        rcases archiveDocument_ok hr with ⟨-, hdb⟩ | ⟨-, hmove, -⟩
        · exact ⟨.refl _, .inl (congrArg DocumentDb.documents hdb)⟩
        · exact ⟨.refl _, .inr ⟨_, hmove, by simp, by simp⟩⟩
    · exact .refl w
  | housekeeping change =>
    obtain ⟨db', hdb, rfl⟩ := Option.map_eq_some_iff.mp h
    exact ⟨.refl _, .inl (housekept hdb).documents⟩

theorem gate_finalization {promotion : FinalizationWorld} (hi : GateInv sha256 w)
    (h : PromotionKept w.promotion promotion) : GateInv sha256 { w with promotion } := by
  obtain ⟨hstaging, hkept⟩ := hi.staging.unlinked h.unlinked
  refine hi.next hstaging ⟨hkept, fun _ hmem => hmem⟩ (fun x hx => .inl hx) fun hold => ?_
  rcases h.documents with hdocs | ⟨effect, hmove, hcreated, hscanned⟩
  · show ∀ d ∈ promotion.db.documents.rows, _
    rw [hdocs]
    exact hold
  · exact documents_move hmove hold (fun d he => absurd he (hcreated d)) fun identity key he =>
      absurd he (hscanned identity key .clean)

/-! ## One step of the system -/

/-- files are removed from quarantine -/
theorem gate_unlinked {s : FilesystemObjectStore} (hi : GateInv sha256 w)
    (hs : w.quarantine.objects.Unlinked s.objects) : GateInv sha256 (w.withQuarantine s) := by
  obtain ⟨hstaging, hkept⟩ := hi.staging.unlinked hs
  exact hi.next hstaging ⟨hkept, fun _ hmem => hmem⟩ (fun x hx => .inl hx) fun hold => hold

/-- **Every step keeps the invariant.** -/
theorem gate_step {e : ScanningEvent} (hi : GateInv sha256 w) (hnew : NewUploads w e)
    (h : scanningStep sha256 maxDeliveryAttempts w e = some w') : GateInv sha256 w' := by
  cases e with
  | beginUpload uploadId workspaceId owner filename contentType =>
    simp only [scanningStep] at h
    split at h
    · cases h
      exact hi
    · next objectKey hkey =>
      cases h
      obtain ⟨hstaging, hkept⟩ := hi.staging.begin (u := ⟨uploadId, workspaceId, owner, filename, contentType,
        objectKey, hkey, none, .creating⟩) hnew rfl rfl
      exact hi.next hstaging ⟨hkept, fun _ hmem => hmem⟩ (fun x hx => .inl hx) fun hold => hold
  | upload uploadId event =>
    obtain ⟨u, hget, hu⟩ := Option.bind_eq_some_iff.mp h
    obtain ⟨p, hp, rfl⟩ := Option.map_eq_some_iff.mp hu
    obtain ⟨hstaging, hkept⟩ := hi.staging.move (Table.get?_mem hget) (stagingStep_move hp)
    exact hi.next hstaging ⟨hkept, fun _ hmem => hmem⟩ (fun x hx => .inl hx) fun hold => hold
  | create uploadId command metadata messageId commits =>
    obtain ⟨u, hget, hu⟩ := Option.bind_eq_some_iff.mp h
    obtain ⟨hcond, hw⟩ := Option.ite_none_right_eq_some.mp hu
    obtain ⟨hcreates, hoffers⟩ := Bool.and_eq_true_iff.mp hcond
    cases hw
    exact gate_create commits hi (Table.get?_mem hget) hcreates hoffers rfl
  | removeObject key =>
    cases h
    exact gate_unlinked hi (Files.unlinked_remove _ _)
  | removeMetadata key =>
    cases h
    exact gate_unlinked hi (.refl _)
  | receive delivery message ok =>
    simp only [scanningStep] at h
    split at h
    · cases h
    · split at h
      · cases h
        exact hi
      · next work hwork =>
        cases h
        obtain ⟨d, hd, rfl, hst⟩ := receiveScan_working hwork
        obtain ⟨key, n, hclosed, hkey, -⟩ := hi.documents d hd
        refine hi.next hi.staging (later_of_eq rfl rfl fun _ hmem => hmem) (fun x hx => ?_) fun hold => hold
        rcases Table.mem_upsert.mp hx with rfl | ⟨hxm, -⟩
        · refine .inr ⟨n, ?_, trivial⟩
          have hsame : d.uploadWork.objectKey = key := hkey (.inl hst)
          rw [hsame]
          exact hclosed
        · exact .inl hxm
  | scan delivery event =>
    obtain ⟨x, hget, hx⟩ := Option.bind_eq_some_iff.mp h
    obtain ⟨p, hp, rfl⟩ := Option.map_eq_some_iff.mp hx
    exact gate_scan hi (Table.get?_mem hget) (scanStep_move hp)
  | finalization event =>
    simp only [scanningStep] at h
    split at h
    · cases h
    · next hscan =>
      obtain ⟨promotion, hp, rfl⟩ := Option.map_eq_some_iff.mp h
      exact gate_finalization hi (finalizationStep_kept (Bool.not_eq_true _ ▸ hscan) hp)

/-! ## Promotions under the scanning world -/

/-- the destinations of promotions are opened exclusively -/
def PromotionEvent.Exclusive (w : FinalizationWorld) : PromotionEvent → Prop
  | .finalization event => w.exclusive event = true
  | _ => True

/-- recording a result is the command of the promotions, where the fault says whether it commits -/
theorem command_of_committed {α : Type} (w : FinalizationWorld) (fault : CommitFault)
    (r : Except DocumentCommandError (α × DocumentDb)) :
    ({ w with db := (committed fault w.db r).2 } : FinalizationWorld)
      = w.command (decide (fault ≠ .beforeCommit)) r := by
  cases r with
  | error e =>
    cases fault with
    | none => rfl
    | beforeCommit => rfl
    | lostAcknowledgement => rfl
  | ok p =>
    cases fault with
    | none => rfl
    | beforeCommit => rfl
    | lostAcknowledgement => rfl

/-- **A step of the scanning world is one of the promotions, or leaves them alone.** -/
theorem scanningStep_promotes {e : ScanningEvent}
    (h : scanningStep sha256 maxDeliveryAttempts w e = some w') :
    w'.promotion = w.promotion ∨ ∃ event, (NewUploads w e → NewIds w.promotion event) ∧
      (w.exclusive e = true → event.Exclusive w.promotion) ∧
      promotionStep sha256 w.promotion event = some w'.promotion := by
  cases e with
  | beginUpload uploadId workspaceId owner filename contentType =>
    simp only [scanningStep] at h
    split at h
    · cases h
      exact .inl rfl
    · cases h
      exact .inl rfl
  | upload uploadId event =>
    obtain ⟨u, -, hu⟩ := Option.bind_eq_some_iff.mp h
    obtain ⟨p, -, rfl⟩ := Option.map_eq_some_iff.mp hu
    exact .inr ⟨.stage p.1, fun _ => trivial, fun _ => trivial, rfl⟩
  | create uploadId command metadata messageId commits =>
    obtain ⟨u, -, hu⟩ := Option.bind_eq_some_iff.mp h
    obtain ⟨hcond, hw⟩ := Option.ite_none_right_eq_some.mp hu
    obtain ⟨hcreates, -⟩ := Bool.and_eq_true_iff.mp hcond
    cases hw
    refine .inr ⟨.create command metadata messageId commits, id, fun _ => trivial, ?_⟩
    simp only [promotionStep]
    rw [if_pos hcreates]
  | removeObject key =>
    cases h
    exact .inr ⟨.stage (w.quarantine.removeObject key), fun _ => trivial, fun _ => trivial, rfl⟩
  | removeMetadata key =>
    cases h
    exact .inr ⟨.stage (w.quarantine.removeMetadata key), fun _ => trivial, fun _ => trivial, rfl⟩
  | receive delivery message ok =>
    simp only [scanningStep] at h
    split at h
    · cases h
    · split at h
      · cases h
        exact .inl rfl
      · cases h
        exact .inl rfl
  | scan delivery event =>
    obtain ⟨x, -, hx⟩ := Option.bind_eq_some_iff.mp h
    obtain ⟨⟨db', phase', exchanges⟩, hp, rfl⟩ := Option.map_eq_some_iff.mp hx
    show ({ w.promotion with db := db' } : FinalizationWorld) = w.promotion ∨ _
    cases scanStep_move hp with
    | rested hdb _ _ => exact .inl (by rw [hdb])
    | opened file hdb hopen hphase' => exact .inl (by rw [hdb])
    | sent file size chunks hdb hbefore hphase' => exact .inl (by rw [hdb])
    | ended file size chunks hdb hsize hbefore hend hphase' => exact .inl (by rw [hdb])
    | answered chunks reads hdb hbefore hphase' => exact .inl (by rw [hdb])
    | recorded result messageId fault hbefore hdb hphase' =>
      refine .inr ⟨.finalization (.scan ⟨x.work.identity, x.work.objectKey, result⟩ x.metadata messageId
        (decide (fault ≠ .beforeCommit))), fun _ => trivial, fun _ => rfl, ?_⟩
      show some (w.promotion.command _ _) = some { w.promotion with db := db' }
      rw [hdb, command_of_committed]
  | finalization event =>
    simp only [scanningStep] at h
    split at h
    · cases h
    · obtain ⟨promotion, hp, rfl⟩ := Option.map_eq_some_iff.mp h
      exact .inr ⟨.finalization event, fun _ => trivial, id, hp⟩

theorem uploadedKeys_scanning {e : ScanningEvent} (hi : UploadedKeys w.promotion) (hnew : NewUploads w e)
    (h : scanningStep sha256 maxDeliveryAttempts w e = some w') : UploadedKeys w'.promotion := by
  rcases scanningStep_promotes h with hsame | ⟨event, hids, -, hstep⟩
  · rw [hsame]
    exact hi
  · exact uploadedKeys_step hi (hids hnew) hstep

/-! ## Runs -/

theorem gateInv_empty : GateInv sha256 .empty where
  staging := stagingInv_empty
  scans := fun x hx => absurd hx (Table.mem_rows_empty x)
  documents := fun d hd => absurd hd (Table.mem_rows_empty d)

theorem gateInv_run {es : List ScanningEvent}
    (hnew : Along (scanningStep sha256 maxDeliveryAttempts) NewUploads .empty es)
    (h : run (scanningStep sha256 maxDeliveryAttempts) .empty es = some w) : GateInv sha256 w :=
  run_inv_along (GateInv sha256) (fun _ _ _ hi hp hs => gate_step hi hp hs) gateInv_empty hnew h

/-- **The gate**: whatever uploads, scans, promotions and cleanups do in turn, a document is finalizing or
uploaded only if the scanner was sent exactly the bytes of the file that was staged for it, be it still there
or not, and answered clean; the document describes these bytes; and while it is finalizing, its staged object,
if it is there, holds them. -/
theorem scan_gate {es : List ScanningEvent}
    (hnew : Along (scanningStep sha256 maxDeliveryAttempts) NewUploads .empty es)
    (h : run (scanningStep sha256 maxDeliveryAttempts) .empty es = some w)
    (hd : d ∈ w.promotion.db.documents.rows)
    (hst : d.uploadStatus = .finalizing ∨ d.uploadStatus = .uploaded) :
    ∃ key n bytes, Closed w.uploads key n ∧ w.quarantine.objects.nodes n = bytes ∧
      ScannedClean w.exchanges d.identity key bytes ∧ (d.uploadStatus = .finalizing → d.objectKey = key) ∧
      d.contentLength = bytes.length ∧ d.checksumSha256 = sha256 bytes ∧
      ∀ content, w.quarantine.objects.get key = some content → content = bytes := by
  have hi := gateInv_run hnew h
  obtain ⟨key, n, hclosed, hkey, hlength, hsum, hscanned⟩ := hi.documents d hd
  exact ⟨key, n, _, hclosed, rfl, hscanned hst, fun hfin => hkey (.inr hfin), hlength, hsum,
    fun content hget => hi.staging.files.get hclosed.made hget⟩

end

/-! A policy document of three bytes: it is staged, and scanned. -/

/-- a check of new ids that can be evaluated: the document is the first one -/
def ScanningWorld.drawsNew (w : ScanningWorld) : ScanningEvent → Bool
  | .beginUpload uploadId _ _ _ _ => w.uploads.rows.all fun u => u.uploadId ≠ uploadId
  | .create _ _ _ _ _ => w.promotion.db.documents.rows.isEmpty
  | _ => true

theorem newUploads_of_drawsNew {w : ScanningWorld} {e : ScanningEvent} (h : w.drawsNew e = true) :
    NewUploads w e := by
  cases e with
  | beginUpload uploadId workspaceId owner filename contentType =>
    intro u hu
    exact of_decide_eq_true (List.all_eq_true.mp h u hu)
  | create uploadId command metadata messageId commits =>
    intro d db' _ u hu
    rw [List.isEmpty_iff.mp h] at hu
    exact absurd hu List.not_mem_nil
  | upload _ _ => exact trivial
  | removeObject _ => exact trivial
  | removeMetadata _ => exact trivial
  | receive _ _ _ => exact trivial
  | scan _ _ => exact trivial
  | finalization _ => exact trivial

def sampleDocument : CreateDocumentPayload :=
  ⟨.policy ⟨7⟩, "a.pdf", "application/pdf", 3, sampleStagedKey.text, sampleSha256 sampleBytes,
    Base64.encodeStandard (toBeBytes (crc32c sampleBytes))⟩

def sampleScanMessage : WorkerMessage where
  messageId := "1"
  eventType := legacyDocumentScanRequested
  aggregateType := "policy_document"
  aggregateId := "00000000-0000-0000-0000-000000000009"
  requestId := none
  payload := .obj [("policy_id", .str "00000000-0000-0000-0000-000000000007"),
    ("object_key", .str sampleStagedKey.text)]
  deliveryAttempt := some 1

def sampleStaging : List ScanningEvent :=
  [.finalization (.housekeeping (.addPolicy ⟨⟨7⟩, ⟨1⟩, none⟩)),
    .beginUpload 11 ⟨1⟩ (.policy ⟨7⟩) "a.pdf" "application/pdf",
    .upload 11 (.createFile .created), .upload 11 (.receiveChunk [1, 2] .none),
    .upload 11 (.receiveChunk [3] .none), .upload 11 (.endOfStream true),
    .upload 11 (.createMetadata .created), .upload 11 (.writeMetadata true),
    .create 11 (.createPolicyDocument ⟨⟨⟨2⟩, ⟨3⟩, ⟨1⟩, .all⟩, ⟨7⟩, ⟨9⟩, sampleDocument, 0⟩) .background 1 true]

/-- a scan that gets this answer -/
def sampleScan (answer : String) : List ScanningEvent :=
  [.receive 1 sampleScanMessage true, .scan 1 (.head true), .scan 1 (.openObject true),
    .scan 1 (.sendChunk 2 true), .scan 1 (.sendChunk 2 true), .scan 1 (.sendChunk 2 true),
    .scan 1 (.answer [.ok (asBytes answer ++ [0])]), .scan 1 (.record 2 .none)]

theorem scan_gate_sample :
    ∃ w, run (scanningStep sampleSha256 5) .empty (sampleStaging ++ sampleScan "stream: OK") = some w ∧
      ∃ d ∈ w.promotion.db.documents.rows, d.uploadStatus = .finalizing ∧
        ∃ key n bytes, Closed w.uploads key n ∧ w.quarantine.objects.nodes n = bytes ∧
          ScannedClean w.exchanges d.identity key bytes ∧ (d.uploadStatus = .finalizing → d.objectKey = key) ∧
          d.contentLength = bytes.length ∧ d.checksumSha256 = sampleSha256 bytes ∧
          ∀ content, w.quarantine.objects.get key = some content → content = bytes := by
  have hrun : ((runChecked (scanningStep sampleSha256 5) ScanningWorld.drawsNew .empty
      (sampleStaging ++ sampleScan "stream: OK")).any fun w =>
        w.promotion.db.documents.rows.any fun d => d.uploadStatus = .finalizing) = true := by
    decide +kernel
  obtain ⟨w, hchecked, hany⟩ := (Option.any_eq_true _ _).mp hrun
  obtain ⟨hw, halong⟩ := runChecked_some hchecked
  obtain ⟨d, hd, hst⟩ := List.any_eq_true.mp hany
  have hfin : d.uploadStatus = .finalizing := of_decide_eq_true hst
  exact ⟨w, hw, d, hd, hfin, scan_gate (halong.imp fun w e h => newUploads_of_drawsNew h) hw hd (.inl hfin)⟩

end Proofplane
