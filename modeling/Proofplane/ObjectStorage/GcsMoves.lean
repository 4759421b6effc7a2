import Proofplane.ObjectStorage.Gcs

/-!
# The replies of Cloud Storage

What was written does not change, so what an operation knows of it stays true whatever the others do.

* `Knows`             what an operation knows at the point where it is, of what was written;
* `Keeps`             the generation that it has in hand, or has told as stored;
* `GcsEffect`         what the reply to a request may do to the objects;
* `GcsMove`           a reply with its effect, and what is known then; `replyStep_move`   **there is one for every
                      reply**.
-/

namespace Proofplane
open Base

/-! ## What is known -/

section
variable (sha256 : List UInt8 → String)

/-- the description is that of something that was written under this name -/
def DescribesWritten (written : List GcsWrite) (name : GcsName) (key : String) (m : ObjectMetadata) : Prop :=
  ∃ x ∈ written, x.key = name ∧ m = ⟨key, x.content.contentType, x.content.bytes.length, sha256 x.content.bytes⟩

/-- the operation is a put, and has written all its chunks -/
def PutWritten (written : List GcsWrite) (c : GcsCall) (g n : Nat) (digest : String) : Prop :=
  ∃ store key contentType chunks bytes, c.request = .put store key contentType chunks ∧
    delivered chunks = some bytes ∧ ⟨store.name key, g, c.id, ⟨contentType, bytes⟩⟩ ∈ written ∧
    n = bytes.length ∧ digest = sha256 bytes

/-- the operation is a copy, and has written what was its source, of the same description -/
def Copied (written : List GcsWrite) (c : GcsCall) (m : ObjectMetadata) : Prop :=
  ∃ (store : GcsObjectStore) (source : String) (destinationStore : GcsObjectStore) (destination : String),
    c.request = .copy store source destinationStore destination ∧
    ∃ x ∈ written, x.key = store.name source ∧
      (∃ g, ⟨destinationStore.name destination, g, c.id, x.content⟩ ∈ written) ∧
      m = ⟨destination, x.content.contentType, x.content.bytes.length, sha256 x.content.bytes⟩

/-- what an answer tells is true -/
def GcsAnswer.Truthful (written : List GcsWrite) (c : GcsCall) : GcsAnswer → Prop
  | .metadata m =>
    (∃ store key, c.request = .head store key ∧ DescribesWritten sha256 written (store.name key) key m) ∨
      (∃ store key contentType chunks g, c.request = .put store key contentType chunks ∧
        DescribesWritten sha256 written (store.name key) key m ∧
        PutWritten sha256 written c g m.contentLength m.sha256) ∨
      Copied sha256 written c m
  | .stream m bytes =>
    ∃ (store : GcsObjectStore) (key : String), c.request = .get store key ∧
      DescribesWritten sha256 written (store.name key) key m ∧
      ∃ x ∈ written, x.key = store.name key ∧ x.content.bytes = bytes
  | .deleted => ∃ store key, c.request = .delete store key
  | .failed _ => True

/-- what an operation knows at the point where it is -/
def GcsPoint.Knows (written : List GcsWrite) (c : GcsCall) : GcsPoint → Prop
  | .writing => True
  | .labelling g n digest => PutWritten sha256 written c g n digest
  | .checking g n digest => PutWritten sha256 written c g n digest
  | .heading => True
  | .reading m =>
    ∃ store key, c.request = .get store key ∧ DescribesWritten sha256 written (store.name key) key m
  | .rewriting m _ =>
    ∃ store source destinationStore destination, c.request = .copy store source destinationStore destination ∧
      DescribesWritten sha256 written (store.name source) source m
  | .cleaning g _ => ∃ content : GcsContent, ⟨c.request.target, g, c.id, content⟩ ∈ written
  | .deleting => ∃ store key, c.request = .delete store key
  | .answered answer => answer.Truthful sha256 written c

end

/-- the description of the object that the operation answers about -/
def GcsRequest.described (objects : GcsObjects) : GcsRequest → Except GcsError ObjectMetadata
  | .put store key _ _ => headObject objects store key
  | .get store key => headObject objects store key
  | .head store key => headObject objects store key
  | .copy _ _ store key => headObject objects store key
  | .delete store key => headObject objects store key

/-- it has this generation in hand, or has told what it wrote as stored -/
def GcsPoint.Keeps (g : Nat) : GcsPoint → Prop
  | .labelling g' _ _ => g' = g
  | .checking g' _ _ => g' = g
  | .cleaning g' _ => g' = g
  | .answered (.metadata _) => True
  | _ => False

/-- its request replaces or removes whatever version there is -/
def GcsPoint.replaces : GcsPoint → Bool
  | .writing => true
  | .rewriting _ _ => true
  | .deleting => true
  | _ => false

/-- who replaces a version has none in hand -/
theorem GcsPoint.not_keeps_of_replaces {point : GcsPoint} (h : point.replaces = true) (g : Nat) :
    ¬ point.Keeps g := by
  cases point with
  | writing => exact id
  | rewriting m rewriteToken => exact id
  | deleting => exact id
  | labelling g n digest => cases h
  | checking g n digest => cases h
  | heading => cases h
  | reading m => cases h
  | cleaning g e => cases h
  | answered answer => cases h

/-- the request was done -/
def GcsReply.isDone : GcsReply → Bool
  | .refused _ => false
  | .more _ => false
  | _ => true

def GcsReply.isLost : GcsReply → Bool
  | .lost _ => true
  | _ => false

/-- a rewrite that is done is told without what it has made -/
def GcsReply.isWithoutResource : GcsReply → Bool
  | .noResource => true
  | _ => false

def GcsReply.isRefused : GcsReply → Bool
  | .refused _ => true
  | _ => false

/-! ## The effect of a reply -/

/-- what a reply may do to the objects, to the record of what was written, and to the generation in hand -/
inductive GcsEffect (objects objects' : GcsObjects) (written written' : List GcsWrite) (c : GcsCall)
    (reply : GcsReply) (point : GcsPoint) : Prop
  | kept (h : objects.Same objects') (hw : written' = written) (hkeeps : ∀ g, c.point.Keeps g → point.Keeps g) :
      GcsEffect objects objects' written written' c reply point
  | wrote (g : Nat) (content : GcsContent) (label : Option String) (hreplaces : c.point.replaces = true)
      (hdone : reply.isDone = true)
      (hlabel : label = none ∨ ∃ name v, objects.get? name = some v ∧ v.label = label ∧
        v.content.bytes = content.bytes)
      (h : objects.Wrote objects' c.request.target g content label)
      (hw : written' = ⟨c.request.target, g, c.id, content⟩ :: written)
      (hkeeps : reply.isLost = false → reply.isWithoutResource = false → point.Keeps g) :
      GcsEffect objects objects' written written' c reply point
  | labelled (g n : Nat) (digest : String) (hpoint : c.point = .labelling g n digest)
      (h : objects.Relabelled objects' c.request.target g (some digest)) (hw : written' = written)
      (hkeeps : point.Keeps g) : GcsEffect objects objects' written written' c reply point
  | cleaned (g : Nat) (e : GcsError) (hpoint : c.point = .cleaning g e)
      (h : objects.RemovedIf objects' c.request.target g) (hw : written' = written) :
      GcsEffect objects objects' written written' c reply point
  | abandoned (g : Nat) (e : GcsError) (hpoint : c.point = .cleaning g e) (hrefused : reply.isRefused = true)
      (h : objects.Same objects') (hw : written' = written) : GcsEffect objects objects' written written' c reply point
  | deleted (hpoint : c.point = .deleting) (hdone : reply.isDone = true)
      (h : objects.Removed objects' c.request.target) (hw : written' = written) :
      GcsEffect objects objects' written written' c reply point

/-- every label is the digest of the bytes -/
def Labelled (sha256 : List UInt8 → String) (objects : GcsObjects) : Prop :=
  ∀ name v, objects.get? name = some v → ∀ digest, v.label = some digest → digest = sha256 v.content.bytes

section
variable {sha256 : List UInt8 → String} {objects objects' : GcsObjects} {written written' : List GcsWrite}
  {c : GcsCall} {reply : GcsReply} {point : GcsPoint}

/-- nothing that was written is forgotten -/
theorem GcsEffect.grows (h : GcsEffect objects objects' written written' c reply point) : written ⊆ written' := by
  cases h with
  | kept _ hw _ => rw [hw]; exact List.Subset.refl _
  | wrote g content label _ _ _ _ hw _ => rw [hw]; exact List.subset_cons_self _ _
  | labelled g n digest _ _ hw _ => rw [hw]; exact List.Subset.refl _
  | cleaned g e _ _ hw => rw [hw]; exact List.Subset.refl _
  | abandoned g e _ _ _ hw => rw [hw]; exact List.Subset.refl _
  | deleted _ _ _ hw => rw [hw]; exact List.Subset.refl _

/-- **The record of what was written is kept.** -/
theorem GcsEffect.tracks (h : GcsEffect objects objects' written written' c reply point)
    (ht : Tracks objects written) : Tracks objects' written' := by
  cases h with
  | kept h hw _ => rw [hw]; exact ht.same h
  | wrote g content label _ _ _ h hw _ => rw [hw]; exact ht.wrote h c.id
  | labelled g n digest _ h hw _ => rw [hw]; exact ht.relabelled h
  | cleaned g e _ h hw => rw [hw]; exact ht.removedIf h
  | abandoned g e _ _ h hw => rw [hw]; exact ht.same h
  | deleted _ _ h hw => rw [hw]; exact ht.removed h

theorem DescribesWritten.grows {name : GcsName} {key : String} {m : ObjectMetadata}
    (h : DescribesWritten sha256 written name key m) (hgrows : written ⊆ written') :
    DescribesWritten sha256 written' name key m := by
  obtain ⟨x, hx, hrest⟩ := h
  exact ⟨x, hgrows hx, hrest⟩

theorem PutWritten.grows {g n : Nat} {digest : String} (h : PutWritten sha256 written c g n digest)
    (hgrows : written ⊆ written') : PutWritten sha256 written' c g n digest := by
  obtain ⟨store, key, contentType, chunks, bytes, hrequest, hbytes, hwritten, hrest⟩ := h
  exact ⟨store, key, contentType, chunks, bytes, hrequest, hbytes, hgrows hwritten, hrest⟩

theorem GcsAnswer.Truthful.grows {answer : GcsAnswer} (h : answer.Truthful sha256 written c)
    (hgrows : written ⊆ written') : answer.Truthful sha256 written' c := by
  cases answer with
  | metadata m =>
    rcases h with ⟨store, key, hrequest, hm⟩ | ⟨store, key, contentType, chunks, g, hrequest, hm, hput⟩ |
      ⟨store, source, destinationStore, destination, hrequest, x, hx, hname, ⟨g, hcopy⟩, hm⟩
    · exact .inl ⟨store, key, hrequest, hm.grows hgrows⟩
    · exact .inr (.inl ⟨store, key, contentType, chunks, g, hrequest, hm.grows hgrows, hput.grows hgrows⟩)
    · exact .inr (.inr ⟨store, source, destinationStore, destination, hrequest, x, hgrows hx, hname,
        ⟨g, hgrows hcopy⟩, hm⟩)
  | stream m bytes =>
    obtain ⟨store, key, hrequest, hm, x, hx, hrest⟩ := h
    exact ⟨store, key, hrequest, hm.grows hgrows, x, hgrows hx, hrest⟩
  | deleted => exact h
  | failed e => exact trivial

/-- **What is known of what was written stays true.** -/
theorem GcsPoint.Knows.grows (h : point.Knows sha256 written c) (hgrows : written ⊆ written') :
    point.Knows sha256 written' c := by
  cases point with
  | writing => exact trivial
  | labelling g n digest => exact PutWritten.grows h hgrows
  | checking g n digest => exact PutWritten.grows h hgrows
  | heading => exact trivial
  | reading m =>
    obtain ⟨store, key, hrequest, hm⟩ := h
    exact ⟨store, key, hrequest, hm.grows hgrows⟩
  | rewriting m rewriteToken =>
    obtain ⟨store, source, destinationStore, destination, hrequest, hm⟩ := h
    exact ⟨store, source, destinationStore, destination, hrequest, hm.grows hgrows⟩
  | cleaning g e =>
    obtain ⟨content, hwritten⟩ := h
    exact ⟨content, hgrows hwritten⟩
  | deleting => exact h
  | answered answer => exact GcsAnswer.Truthful.grows h hgrows

/-- **An operation labels its own bytes only**, so labels stay true. -/
theorem GcsEffect.labelled_true (h : GcsEffect objects objects' written written' c reply point)
    (ht : Tracks objects written) (hl : Labelled sha256 objects) (hknows : c.point.Knows sha256 written c) :
    Labelled sha256 objects' := by
  intro name v hv digest hdigest
  cases h with
  | kept h _ _ => exact hl name v ((h.get? name).symm.trans hv) digest hdigest
  | wrote g content label _ _ hlabel h _ _ =>
    rcases h.get?_iff.mp hv with ⟨-, rfl⟩ | ⟨-, hold⟩
    · rcases hlabel with hnone | ⟨name', u, hu, hsame, hbytes⟩
      · rw [hnone] at hdigest
        cases hdigest
      · have hu' : digest = sha256 u.content.bytes := hl name' u hu digest (hsame.trans hdigest)
        rw [hu', hbytes]
    · exact hl name v hold digest hdigest
  | labelled g n digest' hpoint h _ _ =>
    rcases h.get?_iff.mp hv with ⟨hold, -⟩ | ⟨u, hu, hname, hg, rfl⟩
    · exact hl name v hold digest hdigest
    · rw [hpoint] at hknows
      obtain ⟨store, key, contentType, chunks, bytes, hrequest, -, hwritten, -, htrue⟩ := hknows
      have htarget : c.request.target = store.name key := by rw [hrequest]; rfl
      rw [hname, htarget] at hu
      have hcontent : (⟨contentType, bytes⟩ : GcsContent) = u.content := ht.content_eq hwritten hu hg.symm
      have hdig : digest' = digest := Option.some.inj hdigest
      rw [← hdig, htrue, ← hcontent]
  | cleaned g e _ h _ => exact hl name v (h.get?_iff.mp hv).1 digest hdigest
  | abandoned g e _ _ h _ => exact hl name v ((h.get? name).symm.trans hv) digest hdigest
  | deleted _ _ h _ => exact hl name v (h.get?_iff.mp hv).2 digest hdigest

/-! ## Every reply -/

theorem mapObjectMetadata_ok {key physicalName : String} {object : GcsObject} {m : ObjectMetadata}
    (h : mapObjectMetadata key physicalName object = .ok m) :
    ∃ digest, object.label = some digest ∧
      m = ⟨key, object.content.contentType, object.content.bytes.length, digest⟩ := by
  unfold mapObjectMetadata at h
  split at h
  · cases h
  · split at h
    · cases h
    · next digest hlabel =>
      split at h
      · cases h
        exact ⟨digest, hlabel, rfl⟩
      · cases h

/-- **A description is that of the version that is there.** -/
theorem headObject_ok (ht : Tracks objects written) (hl : Labelled sha256 objects) {store : GcsObjectStore}
    {key : String} {m : ObjectMetadata} (h : headObject objects store key = .ok m) :
    DescribesWritten sha256 written (store.name key) key m := by
  unfold headObject at h
  split at h
  · cases h
  · next object hobject =>
    obtain ⟨digest, hlabel, rfl⟩ := mapObjectMetadata_ok h
    obtain ⟨x, hx, hkey, -, hcontent⟩ := ht.live _ object hobject
    refine ⟨x, hx, hkey, ?_⟩
    rw [hcontent, hl _ object hobject digest hlabel]

end

section
variable {σ : Type} {S : CloudStorage σ} {sha256 : List UInt8 → String} {w w' : GcsWorld σ} {c : GcsCall}
  {reply : GcsReply} {point : GcsPoint} {objects : σ}

/-- a reply, with its effect and with what is known afterwards; a description is answered as it is then -/
def GcsMove (S : CloudStorage σ) (sha256 : List UInt8 → String) (w w' : GcsWorld σ) (c : GcsCall)
    (reply : GcsReply) : Prop :=
  ∃ point, w'.calls = w.calls.upsert { c with point } ∧
    GcsEffect (S.view w.objects) (S.view w'.objects) w.written w'.written c reply point ∧
    point.Knows sha256 w'.written c ∧
    ∀ m, point = .answered (.metadata m) → c.request.described (S.view w'.objects) = .ok m

/-- the operation goes on, and the objects are as before -/
theorem goes_move (h : w.goes c objects point = some w') (hsame : (S.view w.objects).Same (S.view objects))
    (hknows : point.Knows sha256 w.written c) (hkeeps : ∀ g, c.point.Keeps g → point.Keeps g)
    (hcurrent : ∀ m, point = .answered (.metadata m) → c.request.described (S.view objects) = .ok m) :
    GcsMove S sha256 w w' c reply := by
  cases h
  exact ⟨point, rfl, .kept hsame rfl hkeeps, hknows, hcurrent⟩

/-- the operation fails before it has written anything -/
theorem failed_move {e : GcsError} (h : w.failed c objects e = some w')
    (hsame : (S.view w.objects).Same (S.view objects)) (hkeeps : ∀ g, ¬ c.point.Keeps g) :
    GcsMove S sha256 w w' c reply :=
  goes_move h hsame trivial (fun g hg => absurd hg (hkeeps g)) nofun

/-- the operation has written a version -/
theorem wrote_move {r : Nat × σ} {content : GcsContent} {label : Option String}
    (h : w.wrote c r content point = some w') (hreplaces : c.point.replaces = true) (hdone : reply.isDone = true)
    (hlabel : label = none ∨ ∃ name v, (S.view w.objects).get? name = some v ∧ v.label = label ∧
      v.content.bytes = content.bytes)
    (hwrote : (S.view w.objects).Wrote (S.view r.2) c.request.target r.1 content label)
    (hkeeps : reply.isLost = false → reply.isWithoutResource = false → point.Keeps r.1)
    (hknows : point.Knows sha256 (⟨c.request.target, r.1, c.id, content⟩ :: w.written) c)
    (hcurrent : ∀ m, point = .answered (.metadata m) → c.request.described (S.view r.2) = .ok m) :
    GcsMove S sha256 w w' c reply := by
  cases h
  exact ⟨point, rfl, .wrote r.1 content label hreplaces hdone hlabel hwrote rfl hkeeps, hknows, hcurrent⟩

/-- a put that has uploaded all goes on with the digest, or removes what it has uploaded -/
theorem uploadedPoint_cases (sha256 : List UInt8 → String) (g : Nat) (size : Int) (bytes : List UInt8) :
    GcsWorld.uploadedPoint sha256 g size bytes = .labelling g bytes.length (sha256 bytes) ∨
      ∃ e, GcsWorld.uploadedPoint sha256 g size bytes = .cleaning g e := by
  unfold GcsWorld.uploadedPoint
  split
  · exact .inr ⟨_, rfl⟩
  · exact .inl rfl

theorem writeObject_move {store : GcsObjectStore} {key contentType : String}
    {chunks : List (Except StorageError (List UInt8))} (hpoint : c.point = .writing)
    (hrequest : c.request = .put store key contentType chunks)
    (h : w.writeObject S sha256 c contentType chunks reply = some w') : GcsMove S sha256 w w' c reply := by
  have hreplaces : c.point.replaces = true := by rw [hpoint]; rfl
  have htarget : c.request.target = store.name key := by rw [hrequest]; rfl
  unfold GcsWorld.writeObject at h
  split at h
  · exact failed_move h (S.refuse_same _) (c.point.not_keeps_of_replaces hreplaces)
  · next size =>
    obtain ⟨bytes, hbytes, hsome⟩ := Option.bind_eq_some_iff.mp h
    obtain ⟨-, hsome⟩ := Option.ite_none_left_eq_some.mp hsome
    dsimp only at hsome
    have hwritten := S.write_fresh w.objects c.request.target ⟨contentType, bytes⟩ none
    generalize S.write w.objects c.request.target ⟨contentType, bytes⟩ none = r at hsome hwritten
    have hown : (⟨c.request.target, r.1, c.id, ⟨contentType, bytes⟩⟩ : GcsWrite)
        ∈ ⟨c.request.target, r.1, c.id, ⟨contentType, bytes⟩⟩ :: w.written := List.mem_cons_self
    rcases uploadedPoint_cases sha256 r.1 size bytes with hgoes | ⟨e, hgoes⟩
    · rw [hgoes] at hsome
      refine wrote_move hsome hreplaces rfl (.inl rfl) hwritten (fun _ _ => rfl) ?_ nofun
      refine ⟨store, key, contentType, chunks, bytes, hrequest, hbytes, ?_, rfl, rfl⟩
      rw [← htarget]
      exact hown
    · rw [hgoes] at hsome
      exact wrote_move hsome hreplaces rfl (.inl rfl) hwritten (fun _ _ => rfl) ⟨_, hown⟩ nofun
  · next e =>
    obtain ⟨bytes, -, hsome⟩ := Option.bind_eq_some_iff.mp h
    obtain ⟨-, hsome⟩ := Option.ite_none_left_eq_some.mp hsome
    exact wrote_move hsome hreplaces rfl (.inl rfl) (S.write_fresh _ _ _ _) (fun hlost => nomatch hlost) trivial nofun
  · cases h

/-- what was put is the operation's own -/
theorem PutWritten.own {written : List GcsWrite} {g n : Nat} {digest : String}
    (h : PutWritten sha256 written c g n digest) :
    ∃ content : GcsContent, ⟨c.request.target, g, c.id, content⟩ ∈ written := by
  obtain ⟨store, key, contentType, chunks, bytes, hrequest, -, hwritten, -⟩ := h
  rw [hrequest]
  exact ⟨_, hwritten⟩

theorem updateObject_move {g n : Nat} {digest : String} (hpoint : c.point = .labelling g n digest)
    (hknows : PutWritten sha256 w.written c g n digest) (h : w.updateObject S c g n digest reply = some w') :
    GcsMove S sha256 w w' c reply := by
  have hlabelled := S.setLabel_conditional w.objects c.request.target g (some digest)
  unfold GcsWorld.updateObject at h
  split at h
  · refine goes_move h (S.refuse_same _) hknows.own (fun g' hg' => ?_) nofun
    rw [hpoint] at hg'
    exact hg'
  · obtain ⟨-, hsome⟩ := Option.ite_none_right_eq_some.mp h
    cases hsome
    exact ⟨_, rfl, .labelled g n digest hpoint hlabelled rfl rfl, hknows, nofun⟩
  · cases h
    exact ⟨_, rfl, .labelled g n digest hpoint hlabelled rfl rfl, hknows.own, nofun⟩
  · cases h

theorem checkObject_move (ht : Tracks (S.view w.objects) w.written) (hl : Labelled sha256 (S.view w.objects))
    {store : GcsObjectStore} {key contentType : String} {chunks : List (Except StorageError (List UInt8))}
    {g n : Nat} {digest : String} (hpoint : c.point = .checking g n digest)
    (hrequest : c.request = .put store key contentType chunks) (hknows : PutWritten sha256 w.written c g n digest)
    (h : w.checkObject S c store key g n digest reply = some w') : GcsMove S sha256 w w' c reply := by
  have hkeeps : ∀ e g', c.point.Keeps g' → (GcsPoint.cleaning g e).Keeps g' := by
    intro e g' hg'
    rw [hpoint] at hg'
    exact hg'
  unfold GcsWorld.checkObject at h
  split at h
  · exact goes_move h (S.refuse_same _) hknows.own (hkeeps _) nofun
  · split at h
    · exact goes_move h (.refl _) hknows.own (hkeeps _) nofun
    · next m hm =>
      split at h
      · exact goes_move h (.refl _) hknows.own (hkeeps _) nofun
      · next hsame =>
        obtain ⟨hlength, hdigest⟩ := not_or.mp hsame
        have hput : PutWritten sha256 w.written c g m.contentLength m.sha256 := by
          rw [not_not.mp hlength, not_not.mp hdigest]
          exact hknows
        refine goes_move h (.refl _)
          (.inr (.inl ⟨store, key, contentType, chunks, g, hrequest, headObject_ok ht hl hm, hput⟩))
          (fun _ _ => trivial) fun m' hm' => ?_
        cases hm'
        rw [hrequest]
        exact hm
  · cases h

theorem describeObject_move (ht : Tracks (S.view w.objects) w.written) (hl : Labelled sha256 (S.view w.objects))
    {store : GcsObjectStore} {key : String} {next : ObjectMetadata → GcsPoint} (hpoint : c.point = .heading)
    (h : w.describeObject S c store key next reply = some w')
    (hnext : ∀ m, DescribesWritten sha256 w.written (store.name key) key m → (next m).Knows sha256 w.written c)
    (hcurrent : ∀ m m', headObject (S.view w.objects) store key = .ok m → next m = .answered (.metadata m') →
      c.request.described (S.view w.objects) = .ok m') : GcsMove S sha256 w w' c reply := by
  have hkeeps : ∀ g, ¬ c.point.Keeps g := by
    intro g
    rw [hpoint]
    exact id
  unfold GcsWorld.describeObject at h
  split at h
  · exact failed_move h (S.refuse_same _) hkeeps
  · split at h
    · exact failed_move h (.refl _) hkeeps
    · next m hm =>
      exact goes_move h (.refl _) (hnext m (headObject_ok ht hl hm)) (fun g hg => absurd hg (hkeeps g))
        fun m' => hcurrent m m' hm
  · cases h

theorem readObject_move (ht : Tracks (S.view w.objects) w.written) {m : ObjectMetadata}
    (hpoint : c.point = .reading m) (hknows : (GcsPoint.reading m).Knows sha256 w.written c)
    (h : w.readObject S c m reply = some w') : GcsMove S sha256 w w' c reply := by
  have hkeeps : ∀ g, ¬ c.point.Keeps g := by
    intro g
    rw [hpoint]
    exact id
  obtain ⟨store, key, hrequest, hm⟩ := hknows
  have htarget : c.request.target = store.name key := by rw [hrequest]; rfl
  unfold GcsWorld.readObject at h
  split at h
  · exact failed_move h (S.refuse_same _) hkeeps
  · split at h
    · exact failed_move h (.refl _) hkeeps
    · next content hread =>
      rw [S.read_eq] at hread
      obtain ⟨v, hv, rfl⟩ := Option.map_eq_some_iff.mp hread
      obtain ⟨x, hx, hkey, -, hcontent⟩ := ht.live _ v hv
      refine goes_move h (.refl _) ⟨store, key, hrequest, hm, x, hx, hkey.trans htarget, ?_⟩
        (fun g hg => absurd hg (hkeeps g)) nofun
      rw [hcontent]
  · cases h

/-- **A rewrite makes a version of what its source is then**, with its metadata. -/
theorem rewrites_eq_some {sourceName : GcsName} {p : (Nat × σ) × GcsObject}
    (h : w.rewrites S c sourceName = some p) :
    ∃ v, (S.view w.objects).get? sourceName = some v ∧
      (S.view w.objects).Wrote (S.view p.1.2) c.request.target p.1.1 v.content v.label ∧
      (S.view p.1.2).get? c.request.target = some p.2 ∧
      p.2 = ⟨c.request.target, p.1.1, v.content, v.label⟩ := by
  unfold GcsWorld.rewrites at h
  obtain ⟨r, hcopy, hsome⟩ := Option.bind_eq_some_iff.mp h
  obtain ⟨object, hobject, rfl⟩ := Option.map_eq_some_iff.mp hsome
  obtain ⟨v, hv, hwrote⟩ := S.copy_source _ _ _ _ hcopy
  exact ⟨v, hv, hwrote, hobject, Option.some.inj (hobject.symm.trans hwrote.written)⟩

/-- a copy that is done is answered as it is described, or removed -/
theorem copyPoint_cases (source : ObjectMetadata) (g : Nat) (destination : Except GcsError ObjectMetadata) :
    (∃ m, destination = .ok m ∧ GcsWorld.copyPoint source g destination = .answered (.metadata m)) ∨
      ∃ e, GcsWorld.copyPoint source g destination = .cleaning g e := by
  unfold GcsWorld.copyPoint
  cases destination with
  | error e => exact .inr ⟨e, rfl⟩
  | ok m =>
    dsimp only
    split
    · exact .inr ⟨_, rfl⟩
    · exact .inl ⟨m, rfl, rfl⟩

theorem rewriteObject_move (ht : Tracks (S.view w.objects) w.written) (hl : Labelled sha256 (S.view w.objects))
    {store destinationStore : GcsObjectStore} {source destination : String} {m : ObjectMetadata}
    {rewriteToken : Option String} (hpoint : c.point = .rewriting m rewriteToken)
    (hrequest : c.request = .copy store source destinationStore destination)
    (hknows : (GcsPoint.rewriting m rewriteToken).Knows sha256 w.written c)
    (h : w.rewriteObject S c (store.name source) destinationStore destination m reply = some w') :
    GcsMove S sha256 w w' c reply := by
  have hreplaces : c.point.replaces = true := by rw [hpoint]; rfl
  have hkeeps := c.point.not_keeps_of_replaces hreplaces
  have htarget : c.request.target = destinationStore.name destination := by rw [hrequest]; rfl
  unfold GcsWorld.rewriteObject at h
  split at h
  · exact failed_move h (S.refuse_same _) hkeeps
  · split at h
    · exact failed_move h (.refl _) hkeeps
    · exact goes_move h (.refl _) hknows (fun g hg => absurd hg (hkeeps g)) nofun
  · obtain ⟨p, hp, hsome⟩ := Option.bind_eq_some_iff.mp h
    obtain ⟨v, hv, hwrote, -, hobject⟩ := rewrites_eq_some hp
    rw [hobject] at hsome
    exact wrote_move hsome hreplaces rfl (.inr ⟨_, v, hv, rfl, rfl⟩) hwrote (fun _ htold => nomatch htold) trivial nofun
  · obtain ⟨p, hp, hsome⟩ := Option.bind_eq_some_iff.mp h
    obtain ⟨v, hv, hwrote, -, hobject⟩ := rewrites_eq_some hp
    rw [hobject] at hsome
    exact wrote_move hsome hreplaces rfl (.inr ⟨_, v, hv, rfl, rfl⟩) hwrote (fun hlost => nomatch hlost) trivial nofun
  · obtain ⟨p, hp, hsome⟩ := Option.bind_eq_some_iff.mp h
    obtain ⟨v, hv, hwrote, hthere, hobject⟩ := rewrites_eq_some hp
    rw [hobject] at hsome hthere
    have hown : (⟨c.request.target, p.1.1, c.id, v.content⟩ : GcsWrite)
        ∈ ⟨c.request.target, p.1.1, c.id, v.content⟩ :: w.written := List.mem_cons_self
    rcases copyPoint_cases m p.1.1 (mapObjectMetadata destination (destinationStore.physicalName destination)
      ⟨c.request.target, p.1.1, v.content, v.label⟩) with ⟨m', hdescribed, hgoes⟩ | ⟨e, hgoes⟩
    · rw [hgoes] at hsome
      obtain ⟨digest, hdigest, hm'⟩ := mapObjectMetadata_ok hdescribed
      obtain ⟨x, hx, hkey, -, hcontent⟩ := ht.live _ v hv
      have hcopied : Copied sha256 (⟨c.request.target, p.1.1, c.id, v.content⟩ :: w.written) c m' := by
        refine ⟨store, source, destinationStore, destination, hrequest, x, List.mem_cons_of_mem _ hx, hkey,
          ⟨p.1.1, ?_⟩, ?_⟩
        · rw [hcontent, ← htarget]
          exact hown
        · rw [hm', hcontent, hl _ v hv digest hdigest]
      refine wrote_move hsome hreplaces rfl (.inr ⟨_, v, hv, rfl, rfl⟩) hwrote (fun _ _ => trivial)
        (.inr (.inr hcopied)) fun m'' hm'' => ?_
      cases hm''
      rw [hrequest]
      show headObject _ destinationStore destination = _
      unfold headObject
      rw [← htarget, hthere]
      exact hdescribed
    · rw [hgoes] at hsome
      exact wrote_move hsome hreplaces rfl (.inr ⟨_, v, hv, rfl, rfl⟩) hwrote (fun _ _ => rfl) ⟨_, hown⟩ nofun
  · cases h

theorem cleanupFailedWrite_move {g : Nat} {e : GcsError} (hpoint : c.point = .cleaning g e)
    (h : w.cleanupFailedWrite S c g e reply = some w') : GcsMove S sha256 w w' c reply := by
  have hremoved := S.removeIf_conditional w.objects c.request.target g
  unfold GcsWorld.cleanupFailedWrite at h
  split at h
  · cases h
    exact ⟨_, rfl, .abandoned g e hpoint rfl (S.refuse_same _) rfl, trivial, nofun⟩
  · cases h
    exact ⟨_, rfl, .cleaned g e hpoint hremoved rfl, trivial, nofun⟩
  · cases h
    exact ⟨_, rfl, .cleaned g e hpoint hremoved rfl, trivial, nofun⟩
  · cases h

theorem deletedOr_truthful {written : List GcsWrite} (hknows : GcsPoint.deleting.Knows sha256 written c)
    (e : GcsError) : (deletedOr e).Truthful sha256 written c := by
  unfold deletedOr
  split
  · exact hknows
  · exact trivial

theorem deletedOr_ne (e : GcsError) (m : ObjectMetadata) : GcsPoint.answered (deletedOr e) ≠ .answered (.metadata m) := by
  unfold deletedOr
  split
  · simp
  · simp

theorem deleteObject_move (hpoint : c.point = .deleting) (hknows : GcsPoint.deleting.Knows sha256 w.written c)
    (h : w.deleteObject S c reply = some w') : GcsMove S sha256 w w' c reply := by
  have hremoved := S.remove_any w.objects c.request.target
  unfold GcsWorld.deleteObject at h
  split at h
  · refine goes_move h (S.refuse_same _) (deletedOr_truthful hknows _) (fun g hg => ?_)
      fun m hm => absurd hm (deletedOr_ne _ m)
    rw [hpoint] at hg
    exact hg.elim
  · cases h
    exact ⟨_, rfl, .deleted hpoint rfl hremoved rfl, hknows, nofun⟩
  · cases h
    exact ⟨_, rfl, .deleted hpoint rfl hremoved rfl, deletedOr_truthful hknows _,
      fun m hm => absurd hm (deletedOr_ne _ m)⟩
  · cases h

/-- **Every reply has one of the effects.** -/
theorem replyStep_move (ht : Tracks (S.view w.objects) w.written) (hl : Labelled sha256 (S.view w.objects))
    (hknows : c.point.Knows sha256 w.written c) (h : w.replyStep S sha256 c reply = some w') :
    GcsMove S sha256 w w' c reply := by
  unfold GcsWorld.replyStep at h
  split at h
  · next hpoint hrequest => exact writeObject_move hpoint hrequest h
  · next hpoint =>
    rw [hpoint] at hknows
    exact updateObject_move hpoint hknows h
  · next hpoint hrequest =>
    rw [hpoint] at hknows
    exact checkObject_move ht hl hpoint hrequest hknows h
  · next store key hpoint hrequest =>
    exact describeObject_move ht hl hpoint h (fun m hm => ⟨store, key, hrequest, hm⟩) fun _ _ _ hm => nomatch hm
  · next store key hpoint hrequest =>
    refine describeObject_move ht hl hpoint h (fun m hm => .inl ⟨store, key, hrequest, hm⟩) fun m m' hm hm' => ?_
    cases hm'
    rw [hrequest]
    exact hm
  · next store source destinationStore destination hpoint hrequest =>
    exact describeObject_move ht hl hpoint h
      (fun m hm => ⟨store, source, destinationStore, destination, hrequest, hm⟩) fun _ _ _ hm => nomatch hm
  · next hpoint =>
    rw [hpoint] at hknows
    exact readObject_move ht hpoint hknows h
  · next hpoint hrequest =>
    rw [hpoint] at hknows
    exact rewriteObject_move ht hl hpoint hrequest hknows h
  · next hpoint => exact cleanupFailedWrite_move hpoint h
  · next hpoint =>
    rw [hpoint] at hknows
    exact deleteObject_move hpoint hknows h
  · cases h

end

end Proofplane
