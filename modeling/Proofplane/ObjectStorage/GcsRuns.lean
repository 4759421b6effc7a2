import Proofplane.ObjectStorage.GcsMoves

/-!
# The object store on Cloud Storage, over any interleaving

* `GcsInv`            what was written is recorded, labels are true, and so is what every operation knows; `gcs_run`;
* `gcs_answers`       **every description that is answered is true**;
* `gcs_failures_spare`   **a failed write removes and changes what it wrote itself, and nothing else**;
* `gcs_failures_clean`   **and leaves nothing, unless a reply is lost, a rewrite does not tell what it has made, or
                      the removal is refused**.
-/

namespace Proofplane
open Base

structure GcsInv {σ : Type} (S : CloudStorage σ) (sha256 : List UInt8 → String) (w : GcsWorld σ) : Prop where
  tracks : Tracks (S.view w.objects) w.written
  labelled : Labelled sha256 (S.view w.objects)
  knows : ∀ c ∈ w.calls.rows, c.point.Knows sha256 w.written c

section
variable {σ : Type} {S : CloudStorage σ} {sha256 : List UInt8 → String} {w w' : GcsWorld σ} {e : GcsEvent}

theorem gcsStep_cases (h : gcsStep S sha256 w e = some w') :
    (∃ id request, e = .calls id request ∧ w.calls.get? id = none ∧
      w' = { w with calls := w.calls.upsert ⟨id, request, request.start⟩ }) ∨
    ∃ id reply c, e = .replies id reply ∧ w.calls.get? id = some c ∧ w.replyStep S sha256 c reply = some w' := by
  cases e with
  | calls id request =>
    obtain ⟨hnew, hsome⟩ := Option.ite_none_left_eq_some.mp h
    exact .inl ⟨id, request, rfl, by simpa using hnew, (Option.some.inj hsome).symm⟩
  | replies id reply =>
    obtain ⟨c, hc, hreply⟩ := Option.bind_eq_some_iff.mp h
    exact .inr ⟨id, reply, c, rfl, hc, hreply⟩

theorem start_knows (written : List GcsWrite) (id : Nat) (request : GcsRequest) :
    request.start.Knows sha256 written ⟨id, request, request.start⟩ := by
  cases request with
  | put store key contentType chunks => exact trivial
  | get store key => exact trivial
  | head store key => exact trivial
  | copy store source destinationStore destination =>
    unfold GcsRequest.start
    dsimp only
    split
    · exact trivial
    · exact trivial
  | delete store key => exact ⟨store, key, rfl⟩

/-- the reply to a request of an operation of the world -/
theorem GcsInv.replied {c : GcsCall} (hi : GcsInv S sha256 w) (hc : c ∈ w.calls.rows) {reply : GcsReply}
    (h : w.replyStep S sha256 c reply = some w') : GcsMove S sha256 w w' c reply :=
  replyStep_move hi.tracks hi.labelled (hi.knows c hc) h

theorem GcsInv.move {c : GcsCall} (hi : GcsInv S sha256 w) (hc : c ∈ w.calls.rows) {reply : GcsReply}
    (h : GcsMove S sha256 w w' c reply) : GcsInv S sha256 w' := by
  obtain ⟨point, hcalls, heffect, hknows, -⟩ := h
  refine ⟨heffect.tracks hi.tracks, heffect.labelled_true hi.tracks hi.labelled (hi.knows c hc), fun c' hc' => ?_⟩
  rw [hcalls] at hc'
  rcases Table.mem_upsert.mp hc' with rfl | ⟨hold, -⟩
  · exact hknows
  · exact (hi.knows c' hold).grows heffect.grows

/-- **Every reply keeps the record, the labels and what is known true.** -/
theorem gcsStep_inv (hi : GcsInv S sha256 w) (h : gcsStep S sha256 w e = some w') : GcsInv S sha256 w' := by
  rcases gcsStep_cases h with ⟨id, request, -, -, rfl⟩ | ⟨id, reply, c, -, hc, hreply⟩
  · refine ⟨hi.tracks, hi.labelled, fun c hc => ?_⟩
    rcases Table.mem_upsert.mp hc with rfl | ⟨hold, -⟩
    · exact start_knows _ id request
    · exact hi.knows c hold
  · have hmem : c ∈ w.calls.rows := Table.get?_mem hc
    exact hi.move hmem (hi.replied hmem hreply)

theorem empty_get?_ne (S : CloudStorage σ) (name : GcsName) (v : GcsObject) :
    (S.view S.empty).get? name ≠ some v := by
  rw [S.empty_get?]
  nofun

theorem gcsInv_empty : GcsInv S sha256 (.empty S) where
  tracks := .empty S.empty_get?
  labelled name v hv := absurd hv (empty_get?_ne S name v)
  knows c hc := absurd hc (Table.mem_rows_empty c)

theorem gcs_run {events : List GcsEvent} (h : run (gcsStep S sha256) (.empty S) events = some w) :
    GcsInv S sha256 w :=
  run_inv (GcsInv S sha256) (fun _ _ _ hi hstep => gcsStep_inv hi hstep) gcsInv_empty h

/-- no operation begins with a description -/
theorem start_ne (request : GcsRequest) (m : ObjectMetadata) : request.start ≠ .answered (.metadata m) := by
  cases request with
  | put store key contentType chunks => nofun
  | get store key => nofun
  | head store key => nofun
  | copy store source destinationStore destination =>
    unfold GcsRequest.start
    dsimp only
    split
    · nofun
    · nofun
  | delete store key => nofun

/-- **A description is answered as it is at that moment.** -/
theorem gcsStep_current (hi : GcsInv S sha256 w) (h : gcsStep S sha256 w e = some w') {c : GcsCall}
    (hc : c ∈ w'.calls.rows) (hnew : c ∉ w.calls.rows) {m : ObjectMetadata}
    (hpoint : c.point = .answered (.metadata m)) : c.request.described (S.view w'.objects) = .ok m := by
  rcases gcsStep_cases h with ⟨id, request, -, -, rfl⟩ | ⟨id, reply, c', -, hc', hreply⟩
  · rcases Table.mem_upsert.mp hc with rfl | ⟨hold, -⟩
    · exact absurd hpoint (start_ne request m)
    · exact absurd hold hnew
  · obtain ⟨point, hcalls, -, -, hcurrent⟩ := hi.replied (Table.get?_mem hc') hreply
    rw [hcalls] at hc
    rcases Table.mem_upsert.mp hc with rfl | ⟨hold, -⟩
    · exact hcurrent m hpoint
    · exact absurd hold hnew

/-- what the description of a put tells -/
theorem GcsInv.put {c : GcsCall} (hi : GcsInv S sha256 w) (hc : c ∈ w.calls.rows) {m : ObjectMetadata}
    (hpoint : c.point = .answered (.metadata m)) {store : GcsObjectStore} {key contentType : String}
    {chunks : List (Except StorageError (List UInt8))} (hrequest : c.request = .put store key contentType chunks) :
    DescribesWritten sha256 w.written (store.name key) key m ∧ ∃ bytes, delivered chunks = some bytes ∧
      m.contentLength = bytes.length ∧ m.sha256 = sha256 bytes ∧
      ∃ g, ⟨store.name key, g, c.id, ⟨contentType, bytes⟩⟩ ∈ w.written := by
  have htruth := hi.knows c hc
  rw [hpoint] at htruth
  rcases htruth with ⟨_, _, hother, -⟩ | ⟨_, _, _, _, g, hrequest', hm, _, _, _, _, bytes, hrequest'', hbytes,
    hwritten, hlength, hdigest⟩ | ⟨_, _, _, _, hother, -⟩
  · rw [hrequest] at hother
    cases hother
  · rw [hrequest] at hrequest' hrequest''
    cases hrequest'
    cases hrequest''
    exact ⟨hm, bytes, hbytes, hlength, hdigest, g, hwritten⟩
  · rw [hrequest] at hother
    cases hother

/-- what the description of an object tells -/
theorem GcsInv.head {c : GcsCall} (hi : GcsInv S sha256 w) (hc : c ∈ w.calls.rows) {m : ObjectMetadata}
    (hpoint : c.point = .answered (.metadata m)) {store : GcsObjectStore} {key : String}
    (hrequest : c.request = .head store key) : DescribesWritten sha256 w.written (store.name key) key m := by
  have htruth := hi.knows c hc
  rw [hpoint] at htruth
  rcases htruth with ⟨_, _, hrequest', hm⟩ | ⟨_, _, _, _, _, hother, -⟩ | ⟨_, _, _, _, hother, -⟩
  · rw [hrequest] at hrequest'
    cases hrequest'
    exact hm
  · rw [hrequest] at hother
    cases hother
  · rw [hrequest] at hother
    cases hother

/-- what the description of a copy tells -/
theorem GcsInv.copy {c : GcsCall} (hi : GcsInv S sha256 w) (hc : c ∈ w.calls.rows) {m : ObjectMetadata}
    (hpoint : c.point = .answered (.metadata m)) {store destinationStore : GcsObjectStore}
    {source destination : String} (hrequest : c.request = .copy store source destinationStore destination) :
    ∃ x ∈ w.written, x.key = store.name source ∧
      (∃ g, ⟨destinationStore.name destination, g, c.id, x.content⟩ ∈ w.written) ∧
      m = ⟨destination, x.content.contentType, x.content.bytes.length, sha256 x.content.bytes⟩ := by
  have htruth := hi.knows c hc
  rw [hpoint] at htruth
  rcases htruth with ⟨_, _, hother, -⟩ | ⟨_, _, _, _, _, hother, -⟩ | ⟨_, _, _, _, hrequest', hcopied⟩
  · rw [hrequest] at hother
    cases hother
  · rw [hrequest] at hother
    cases hother
  · rw [hrequest] at hrequest'
    cases hrequest'
    exact hcopied

/-- what is read, and with which description -/
theorem GcsInv.get {c : GcsCall} (hi : GcsInv S sha256 w) (hc : c ∈ w.calls.rows) {m : ObjectMetadata}
    {bytes : List UInt8} (hpoint : c.point = .answered (.stream m bytes)) {store : GcsObjectStore} {key : String}
    (hrequest : c.request = .get store key) :
    DescribesWritten sha256 w.written (store.name key) key m ∧
      ∃ x ∈ w.written, x.key = store.name key ∧ x.content.bytes = bytes := by
  have htruth := hi.knows c hc
  rw [hpoint] at htruth
  obtain ⟨_, _, hrequest', hm, hread⟩ := htruth
  rw [hrequest] at hrequest'
  cases hrequest'
  exact ⟨hm, hread⟩

/-- **What Cloud Storage is told and what it tells is true, over any interleaving.**  A label is the digest of the
bytes that it stands with.  A description that is answered is that of something that was written under the
name; that of a put has the length and the digest of all that was sent, that of a copy is of the bytes and the
type of a version of the source.  What a put, a head or a copy answers is what `head_object` answers at the
moment of the reply. -/
theorem gcs_answers {events : List GcsEvent} (h : run (gcsStep S sha256) (.empty S) events = some w) :
    (∀ name v, (S.view w.objects).get? name = some v →
        (∃ x ∈ w.written, x.key = name ∧ x.generation = v.generation ∧ x.content = v.content) ∧
        ∀ digest, v.label = some digest → digest = sha256 v.content.bytes) ∧
      (∀ c ∈ w.calls.rows,
        (∀ m, c.point = .answered (.metadata m) →
          (∀ store key contentType chunks, c.request = .put store key contentType chunks →
            DescribesWritten sha256 w.written (store.name key) key m ∧ ∃ bytes, delivered chunks = some bytes ∧
              m.contentLength = bytes.length ∧ m.sha256 = sha256 bytes ∧
              ∃ g, ⟨store.name key, g, c.id, ⟨contentType, bytes⟩⟩ ∈ w.written) ∧
          (∀ store key, c.request = .head store key →
            DescribesWritten sha256 w.written (store.name key) key m) ∧
          (∀ store source destinationStore destination,
            c.request = .copy store source destinationStore destination →
            ∃ x ∈ w.written, x.key = store.name source ∧
              (∃ g, ⟨destinationStore.name destination, g, c.id, x.content⟩ ∈ w.written) ∧
              m = ⟨destination, x.content.contentType, x.content.bytes.length, sha256 x.content.bytes⟩)) ∧
        ∀ m bytes, c.point = .answered (.stream m bytes) → ∀ store key, c.request = .get store key →
          DescribesWritten sha256 w.written (store.name key) key m ∧
            ∃ x ∈ w.written, x.key = store.name key ∧ x.content.bytes = bytes) ∧
      ∀ e w' c m, gcsStep S sha256 w e = some w' → c ∈ w'.calls.rows → c ∉ w.calls.rows →
        c.point = .answered (.metadata m) → c.request.described (S.view w'.objects) = .ok m := by
  have hi := gcs_run h
  refine ⟨fun name v hv => ⟨hi.tracks.live name v hv, hi.labelled name v hv⟩,
    fun c hc => ⟨fun m hpoint => ⟨?_, ?_, ?_⟩, ?_⟩, ?_⟩
  · exact fun store key contentType chunks => hi.put hc hpoint
  · exact fun store key => hi.head hc hpoint
  · exact fun store source destinationStore destination => hi.copy hc hpoint
  · exact fun m bytes hpoint store key => hi.get hc hpoint
  · exact fun e w' c m hstep hc hnew => gcsStep_current hi hstep hc hnew

/-! ## What a failure leaves alone -/

/-- the request of an operation replaces or removes what is under the name, and is done -/
def GcsWorld.replaces (w : GcsWorld σ) (name : GcsName) : GcsEvent → Bool
  | .calls _ _ => false
  | .replies id reply =>
    (w.calls.get? id).any fun c => decide (c.request.target = name) && c.point.replaces && reply.isDone

/-- **A version stays as it is**, unless its own operation changes or removes it, or another one is written. -/
theorem GcsEffect.stays {objects objects' : GcsObjects} {written written' : List GcsWrite} {c : GcsCall}
    {reply : GcsReply} {point : GcsPoint} (h : GcsEffect objects objects' written written' c reply point)
    (ht : Tracks objects written) (hknows : c.point.Knows sha256 written c) {x : GcsWrite} (hx : x ∈ written)
    {v : GcsObject} (hv : objects.get? x.key = some v) (hg : x.generation = v.generation) (hother : x.writer ≠ c.id)
    (hreplaces : x.key = c.request.target → c.point.replaces = true → reply.isDone = true → False) :
    objects'.get? x.key = some v := by
  -- the generation in hand is of the operation itself
  have howned : ∀ g content, ⟨c.request.target, g, c.id, content⟩ ∈ written →
      ¬ (x.key = c.request.target ∧ v.generation = g) := by
    rintro g content hwritten ⟨hkey, hgeneration⟩
    have hsame := ht.unique x hx _ hwritten hkey (hg.trans hgeneration)
    rw [hsame] at hother
    exact hother rfl
  cases h with
  | kept h _ _ => exact (h.get? x.key).trans hv
  | wrote g content label hrep hdone _ h _ _ =>
    exact h.get?_iff.mpr (.inr ⟨fun hkey => hreplaces hkey hrep hdone, hv⟩)
  | labelled g n digest hpoint h _ _ =>
    rw [hpoint] at hknows
    obtain ⟨content, hwritten⟩ := PutWritten.own hknows
    exact h.get?_iff.mpr (.inl ⟨hv, howned g content hwritten⟩)
  | cleaned g e hpoint h _ =>
    rw [hpoint] at hknows
    obtain ⟨content, hwritten⟩ := hknows
    exact h.get?_iff.mpr ⟨hv, howned g content hwritten⟩
  | abandoned g e _ _ h _ => exact (h.get? x.key).trans hv
  | deleted hpoint hdone h _ =>
    have hrep : c.point.replaces = true := by rw [hpoint]; rfl
    exact h.get?_iff.mpr ⟨fun hkey => hreplaces hkey hrep hdone, hv⟩

/-- an operation that has its answer waits for no reply -/
theorem replyStep_answered {c : GcsCall} {answer : GcsAnswer} (hpoint : c.point = .answered answer)
    (reply : GcsReply) : w.replyStep S sha256 c reply = none := by
  unfold GcsWorld.replyStep
  rw [hpoint]

/-- **A failure leaves the versions of others alone.**  A version whose operation has its answer stays as it is,
with its label, whatever else goes on, fails or is cleaned up, until something else is written under its name
or the name is deleted. -/
theorem gcs_failures_spare {events more : List GcsEvent} (h : run (gcsStep S sha256) (.empty S) events = some w)
    {x : GcsWrite} (hx : x ∈ w.written) {v : GcsObject} (hv : (S.view w.objects).get? x.key = some v)
    (hg : x.generation = v.generation) {c : GcsCall} {answer : GcsAnswer} (hc : w.calls.get? x.writer = some c)
    (hpoint : c.point = .answered answer)
    (halong : Along (gcsStep S sha256) (fun w e => w.replaces x.key e = false) w more)
    (h' : run (gcsStep S sha256) w more = some w') : (S.view w'.objects).get? x.key = some v := by
  have hrun := run_inv_along
    (fun w => GcsInv S sha256 w ∧ x ∈ w.written ∧ (S.view w.objects).get? x.key = some v ∧
      w.calls.get? x.writer = some c)
    (fun s e s' hs hquiet hstep => ?_) ⟨gcs_run h, hx, hv, hc⟩ halong h'
  · exact hrun.2.2.1
  · obtain ⟨hi, hmem, hthere, hget⟩ := hs
    refine ⟨gcsStep_inv hi hstep, ?_⟩
    rcases gcsStep_cases hstep with ⟨id, request, -, hnew, rfl⟩ | ⟨id, reply, c', rfl, hc', hreply⟩
    · refine ⟨hmem, hthere, ?_⟩
      have hne : id ≠ x.writer := by
        rintro rfl
        rw [hget] at hnew
        cases hnew
      rw [Table.get?_upsert_of_ne _ hne, hget]
    · have hcmem : c' ∈ s.calls.rows := Table.get?_mem hc'
      have hother : x.writer ≠ c'.id := by
        intro hsame
        have hcc : c' = c := by
          rw [hsame, Table.get?_of_mem hcmem] at hget
          exact Option.some.inj hget
        rw [hcc, replyStep_answered hpoint] at hreply
        cases hreply
      obtain ⟨point, hcalls, heffect, -⟩ := hi.replied hcmem hreply
      refine ⟨heffect.grows hmem, ?_, ?_⟩
      · refine heffect.stays hi.tracks (hi.knows c' hcmem) hmem hthere hg hother fun hkey hrep hdone => ?_
        unfold GcsWorld.replaces at hquiet
        dsimp only at hquiet
        rw [hc', Option.any_some, hkey, hrep, hdone, decide_eq_true rfl] at hquiet
        cases hquiet
      · have hne : ({ c' with point } : GcsCall).id ≠ x.writer := hother.symm
        rw [hcalls, Table.get?_upsert_of_ne _ hne, hget]

/-! ## What a failure leaves behind -/

def GcsPoint.isCleaning : GcsPoint → Bool
  | .cleaning _ _ => true
  | _ => false

/-- no reply is lost, no rewrite is told as done without its resource, and no removal of what a failed write has
written is refused -/
def GcsWorld.tidy (w : GcsWorld σ) : GcsEvent → Bool
  | .calls _ _ => true
  | .replies id reply =>
    !reply.isLost && !reply.isWithoutResource &&
      !((w.calls.get? id).any fun c => c.point.isCleaning && reply.isRefused)

/-- the operation that has written it has it in hand, or has told it as stored -/
def Accounted (calls : Table GcsCall.id) (x : GcsWrite) : Prop :=
  ∃ c, calls.get? x.writer = some c ∧ c.request.target = x.key ∧ c.point.Keeps x.generation

theorem Accounted.moves {calls : Table GcsCall.id} {x : GcsWrite} (h : Accounted calls x) {c : GcsCall}
    (hc : c ∈ calls.rows) {point : GcsPoint}
    (hkeeps : c.id = x.writer → c.request.target = x.key → c.point.Keeps x.generation →
      point.Keeps x.generation) : Accounted (calls.upsert { c with point }) x := by
  obtain ⟨d, hd, htarget, hheld⟩ := h
  by_cases hid : c.id = x.writer
  · have hcd : c = d := by
      rw [← hid, Table.get?_of_mem hc] at hd
      exact Option.some.inj hd
    subst hcd
    refine ⟨{ c with point }, ?_, htarget, hkeeps hid htarget hheld⟩
    rw [← hid]
    exact Table.get?_upsert_self calls { c with point }
  · refine ⟨d, ?_, htarget, hheld⟩
    have hne : ({ c with point } : GcsCall).id ≠ x.writer := hid
    rw [Table.get?_upsert_of_ne _ hne, hd]

/-- all that is there is accounted for -/
def AllAccounted (objects : GcsObjects) (written : List GcsWrite) (calls : Table GcsCall.id) : Prop :=
  ∀ x ∈ written, ∀ v, objects.get? x.key = some v → v.generation = x.generation → Accounted calls x

/-- **A reply that is told in full and leaves nothing behind accounts for all versions.** -/
theorem GcsEffect.accounted {calls : Table GcsCall.id} {objects objects' : GcsObjects}
    {written written' : List GcsWrite} {c : GcsCall} {reply : GcsReply} {point : GcsPoint}
    (h : GcsEffect objects objects' written written' c reply point) (hc : c ∈ calls.rows)
    (ht : Tracks objects written) (hall : AllAccounted objects written calls) (hlost : reply.isLost = false)
    (htold : reply.isWithoutResource = false) (hrefused : (c.point.isCleaning && reply.isRefused) = false) :
    AllAccounted objects' written' (calls.upsert { c with point }) := by
  intro x hx v hv hg
  cases h with
  | kept h hw hkeeps =>
    rw [hw] at hx
    exact (hall x hx v ((h.get? x.key).symm.trans hv) hg).moves hc fun _ _ => hkeeps x.generation
  | wrote g content label hrep _ _ h hw hkeeps =>
    rw [hw] at hx
    rcases List.mem_cons.mp hx with rfl | hold
    · exact ⟨{ c with point }, Table.get?_upsert_self calls { c with point }, rfl, hkeeps hlost htold⟩
    · rcases h.get?_iff.mp hv with ⟨hkey, rfl⟩ | ⟨-, hthere⟩
      · -- the generation is fresh, so that no earlier version has it
        have hused := ht.used x hold
        rw [hkey, ← hg] at hused
        exact absurd hused h.fresh
      · exact (hall x hold v hthere hg).moves hc fun _ _ hheld =>
          absurd hheld (c.point.not_keeps_of_replaces hrep _)
  | labelled g n digest hpoint h hw hkeeps =>
    rw [hw] at hx
    have hsame : ∀ u, objects.get? x.key = some u → u.generation = x.generation →
        Accounted (calls.upsert { c with point }) x := by
      intro u hu hgu
      refine (hall x hx u hu hgu).moves hc fun _ _ hheld => ?_
      rw [hpoint] at hheld
      have hgx : g = x.generation := hheld
      rw [← hgx]
      exact hkeeps
    rcases h.get?_iff.mp hv with ⟨hold, -⟩ | ⟨u, hu, -, -, rfl⟩
    · exact hsame v hold hg
    · exact hsame u hu hg
  | cleaned g e hpoint h hw =>
    rw [hw] at hx
    obtain ⟨hold, hnot⟩ := h.get?_iff.mp hv
    refine (hall x hx v hold hg).moves hc fun _ htarget hheld => absurd ⟨htarget.symm, ?_⟩ hnot
    rw [hpoint] at hheld
    have hgx : g = x.generation := hheld
    exact hg.trans hgx.symm
  | abandoned g e hpoint href h hw =>
    rw [hpoint, href] at hrefused
    cases hrefused
  | deleted hpoint _ h hw =>
    rw [hw] at hx
    refine (hall x hx v (h.get?_iff.mp hv).2 hg).moves hc fun _ _ hheld => ?_
    rw [hpoint] at hheld
    exact hheld.elim

/-- **A failed write leaves nothing behind**, in a run in which no reply is lost, no rewrite that is done is told
without its resource, and no removal is refused: every object that is there was written, under its name, by an
operation that has it in hand or has told it as stored, and there is none of an operation that has failed. -/
theorem gcs_failures_clean {events : List GcsEvent}
    (halong : Along (gcsStep S sha256) (fun w e => w.tidy e = true) (.empty S) events)
    (h : run (gcsStep S sha256) (.empty S) events = some w) :
    (∀ name v, (S.view w.objects).get? name = some v →
      ∃ x ∈ w.written, x.key = name ∧ x.generation = v.generation ∧ x.content = v.content ∧
        ∃ c, w.calls.get? x.writer = some c ∧ c.request.target = name ∧ c.point.Keeps v.generation) ∧
      ∀ c ∈ w.calls.rows, ∀ e, c.point = .answered (.failed e) →
        ∀ x ∈ w.written, x.writer = c.id → ∀ v, (S.view w.objects).get? x.key = some v →
          v.generation ≠ x.generation := by
  have hrun := run_inv_along
    (fun w => GcsInv S sha256 w ∧ AllAccounted (S.view w.objects) w.written w.calls)
    (fun s e s' hs htidy hstep => ?_) ⟨gcsInv_empty, nofun⟩ halong h
  · obtain ⟨hi, hall⟩ := hrun
    refine ⟨fun name v hv => ?_, fun c hc e hpoint x hx hwriter v hv hg => ?_⟩
    · obtain ⟨x, hx, rfl, hg, hcontent⟩ := hi.tracks.live name v hv
      refine ⟨x, hx, rfl, hg, hcontent, ?_⟩
      rw [← hg]
      exact hall x hx v hv hg.symm
    · obtain ⟨d, hd, -, hheld⟩ := hall x hx v hv hg
      have hcd : c = d := by
        rw [hwriter, Table.get?_of_mem hc] at hd
        exact Option.some.inj hd
      rw [← hcd, hpoint] at hheld
      exact hheld
  · obtain ⟨hi, hall⟩ := hs
    refine ⟨gcsStep_inv hi hstep, ?_⟩
    rcases gcsStep_cases hstep with ⟨id, request, -, hnew, rfl⟩ | ⟨id, reply, c, rfl, hc, hreply⟩
    · intro x hx v hv hg
      obtain ⟨d, hd, hheld⟩ := hall x hx v hv hg
      have hne : id ≠ x.writer := by
        rintro rfl
        rw [hd] at hnew
        cases hnew
      exact ⟨d, by rw [Table.get?_upsert_of_ne _ hne, hd], hheld⟩
    · have hmem : c ∈ s.calls.rows := Table.get?_mem hc
      obtain ⟨point, hcalls, heffect, -⟩ := hi.replied hmem hreply
      unfold GcsWorld.tidy at htidy
      obtain ⟨htold, hrefused⟩ := Bool.and_eq_true_iff.mp htidy
      obtain ⟨hlost, hresource⟩ := Bool.and_eq_true_iff.mp htold
      rw [hc, Option.any_some] at hrefused
      rw [hcalls]
      exact heffect.accounted hmem hi.tracks hall ((Bool.not_eq_true' _).mp hlost)
        ((Bool.not_eq_true' _).mp hresource) ((Bool.not_eq_true' _).mp hrefused)

end

/-! Two puts of one object.  The second replaces the version of the first before that is labelled: the first
fails and removes nothing, the second is told as stored, promoted into the other bucket and read from there. -/

def gcsSampleDigest (bytes : List UInt8) : String :=
  if bytes = [1, 2, 3] then "039058c6f2c0cb492c533b0a4d14ef77cc0f78abccced5287d84a1a2011cfb81" else ""

def gcsSampleStore : GcsObjectStore := ⟨"quarantine", "objects"⟩

def gcsSampleKey : String := "workspaces/00000000-0000-0000-0000-000000000001/uploads/a.pdf"

/-- the generation is not there any more -/
def gcsConditionNotMet : GcsProviderError := ⟨none, false, false, false, false, false, false, some 412, none⟩

def gcsSampleWrites : List GcsEvent :=
  [.calls 1 (.put gcsSampleStore gcsSampleKey "application/pdf" [.ok [9]]),
    .calls 2 (.put gcsSampleStore gcsSampleKey "application/pdf" [.ok [1, 2], .ok [3]]),
    .replies 1 (.uploaded 1), .replies 2 (.uploaded 3), .replies 2 .done, .replies 2 .done]

def gcsSampleRest : List GcsEvent :=
  [.replies 1 (.refused gcsConditionNotMet), .replies 1 .done,
    .calls 3 (.copy gcsSampleStore gcsSampleKey (gcsSampleStore.forBucket "evidence") gcsSampleKey),
    .replies 3 .done, .replies 3 (.more "next"), .replies 3 .done,
    .calls 4 (.get (gcsSampleStore.forBucket "evidence") gcsSampleKey), .replies 4 .done, .replies 4 .done]

def gcsSampleMetadata : ObjectMetadata :=
  ⟨gcsSampleKey, "application/pdf", 3, gcsSampleDigest [1, 2, 3]⟩

/-- the operation reads the object in the other bucket -/
def gcsSampleReads (c : GcsCall) : Bool :=
  match c.request with
  | .get store key => decide (store = gcsSampleStore.forBucket "evidence" ∧ key = gcsSampleKey)
  | _ => false

/-- the service, with its objects in a table -/
def gcsSampleCloud : CloudStorage (Versions GcsName GcsContent (Option String)) := Versions.store

theorem gcs_answers_sample :
    ∃ w, run (gcsStep gcsSampleCloud gcsSampleDigest) (.empty gcsSampleCloud) (gcsSampleWrites ++ gcsSampleRest)
        = some w ∧
      ∃ c ∈ w.calls.rows, c.point = .answered (.stream gcsSampleMetadata [1, 2, 3]) ∧
        DescribesWritten gcsSampleDigest w.written ((gcsSampleStore.forBucket "evidence").name gcsSampleKey)
          gcsSampleKey gcsSampleMetadata := by
  have hrun : ((run (gcsStep gcsSampleCloud gcsSampleDigest) (.empty gcsSampleCloud)
      (gcsSampleWrites ++ gcsSampleRest)).any fun w =>
        (w.calls.get? 4).any fun c =>
          decide (c.point = .answered (.stream gcsSampleMetadata [1, 2, 3])) && gcsSampleReads c) = true := by
    decide +kernel
  obtain ⟨w, hw, hcall⟩ := (Option.any_eq_true _ _).mp hrun
  obtain ⟨c, hc, hcond⟩ := (Option.any_eq_true _ _).mp hcall
  obtain ⟨hpoint, hreads⟩ := Bool.and_eq_true_iff.mp hcond
  have hmem : c ∈ w.calls.rows := Table.get?_mem hc
  refine ⟨w, hw, c, hmem, of_decide_eq_true hpoint, ?_⟩
  unfold gcsSampleReads at hreads
  split at hreads
  · next store key hrequest =>
    obtain ⟨rfl, rfl⟩ := of_decide_eq_true hreads
    exact (((gcs_answers hw).2.1 c hmem).2 _ _ (of_decide_eq_true hpoint) _ _ hrequest).1
  · cases hreads

/-- what the second put has written -/
def gcsSampleWrite : GcsWrite := ⟨gcsSampleStore.name gcsSampleKey, 1, 2, ⟨"application/pdf", [1, 2, 3]⟩⟩

/-- the first put fails while the second has its answer: what the second has written stays -/
theorem gcs_failures_spare_sample :
    ∃ w w' v, run (gcsStep gcsSampleCloud gcsSampleDigest) (.empty gcsSampleCloud) gcsSampleWrites = some w ∧
      run (gcsStep gcsSampleCloud gcsSampleDigest) w gcsSampleRest = some w' ∧
      (gcsSampleCloud.view w.objects).get? gcsSampleWrite.key = some v ∧ v.content = gcsSampleWrite.content ∧
      (gcsSampleCloud.view w'.objects).get? gcsSampleWrite.key = some v := by
  have hrun : ((run (gcsStep gcsSampleCloud gcsSampleDigest) (.empty gcsSampleCloud) gcsSampleWrites).any fun w =>
      ((gcsSampleCloud.view w.objects).get? gcsSampleWrite.key).any fun v =>
        decide (gcsSampleWrite ∈ w.written ∧ gcsSampleWrite.generation = v.generation ∧
          v.content = gcsSampleWrite.content) &&
        ((w.calls.get? 2).any fun c => decide (c.point = .answered (.metadata gcsSampleMetadata))) &&
        (runChecked (gcsStep gcsSampleCloud gcsSampleDigest) (fun w e => !w.replaces gcsSampleWrite.key e) w
          gcsSampleRest).isSome) = true := by
    decide +kernel
  obtain ⟨w, hw, hobject⟩ := (Option.any_eq_true _ _).mp hrun
  obtain ⟨v, hv, hcond⟩ := (Option.any_eq_true _ _).mp hobject
  obtain ⟨hfirst, hmore⟩ := Bool.and_eq_true_iff.mp hcond
  obtain ⟨hrecord, hcall⟩ := Bool.and_eq_true_iff.mp hfirst
  obtain ⟨hwritten, hgeneration, hcontent⟩ := of_decide_eq_true hrecord
  obtain ⟨c, hc, hpoint⟩ := (Option.any_eq_true _ _).mp hcall
  obtain ⟨w', hchecked⟩ := Option.isSome_iff_exists.mp hmore
  obtain ⟨hw', halong⟩ := runChecked_some hchecked
  refine ⟨w, w', v, hw, hw', hv, hcontent, ?_⟩
  exact gcs_failures_spare hw hwritten hv hgeneration hc (of_decide_eq_true hpoint)
    (halong.imp fun _ _ hquiet => (Bool.not_eq_true' _).mp hquiet) hw'

theorem gcs_failures_clean_sample :
    ∃ w c e, run (gcsStep gcsSampleCloud gcsSampleDigest) (.empty gcsSampleCloud)
        (gcsSampleWrites ++ gcsSampleRest) = some w ∧
      c ∈ w.calls.rows ∧ c.point = .answered (.failed e) ∧
      ∀ x ∈ w.written, x.writer = c.id → ∀ v, (gcsSampleCloud.view w.objects).get? x.key = some v →
        v.generation ≠ x.generation := by
  have hrun : ((runChecked (gcsStep gcsSampleCloud gcsSampleDigest) GcsWorld.tidy (.empty gcsSampleCloud)
      (gcsSampleWrites ++ gcsSampleRest)).any fun w => (w.calls.get? 1).any fun c =>
        decide (c.point = .answered (.failed (classifyProviderError gcsConditionNotMet)))) = true := by
    decide +kernel
  obtain ⟨w, hchecked, hcall⟩ := (Option.any_eq_true _ _).mp hrun
  obtain ⟨c, hc, hpoint⟩ := (Option.any_eq_true _ _).mp hcall
  obtain ⟨hw, halong⟩ := runChecked_some hchecked
  have hmem : c ∈ w.calls.rows := Table.get?_mem hc
  exact ⟨w, c, _, hw, hmem, of_decide_eq_true hpoint,
    (gcs_failures_clean halong hw).2 c hmem _ (of_decide_eq_true hpoint)⟩

end Proofplane
