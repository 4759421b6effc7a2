import Proofplane.Documents.Moves

/-!
# A grant is used at most once

One kind of grants, seen apart from everything else: the stored grants, the stored documents and the
documents that were created with a grant of the kind so far.

* `GrantView`, `GrantMove`    the view, and all that can happen to it;
* `GrantInv`                  **each grant has made at most one document; it is completed exactly when
                              it has, and then names it; the document is the declared one**;
* `GrantInv.move`             every move keeps it;
* `GrantMove.keeps`           a completed grant never changes again.
-/

namespace Proofplane
open Base

/-- a document that was created with a grant: by which attempt, with which authority and when -/
structure GrantCreation (K : UploadTarget) where
  attempt : Nat
  grantId : Id K.idKind
  authority : UploadAuthority K
  document : Document
  completedAt : Int

structure GrantView (K : UploadTarget) where
  grants : Table (UploadGrant.id (K := K))
  documents : Table Document.id
  creations : List (GrantCreation K)

/-- the document is the one that the grant declares -/
structure Declared {K : UploadTarget} (g : UploadGrant K) (d : Document) : Prop where
  owner : d.owner = K.owner g.target
  workspaceId : d.workspaceId = g.workspaceId
  filename : d.filename = g.declaration.filename
  contentType : d.contentType = g.declaration.contentType
  received : g.declaration.Received d.contentLength d.checksumSha256

/-- the documents go on: none is lost, and none changes but in key, status and archiving -/
def Continues (documents documents' : Table Document.id) : Prop :=
  ∀ d0, ∀ d ∈ documents.rows, Document.SameFile d0 d → ∃ d' ∈ documents'.rows, Document.SameFile d0 d'

/-- the completion of a grant with a document -/
structure Completes {K : UploadTarget} (v v' : GrantView K) (g : UploadGrant K)
    (c : GrantCreation K) : Prop where
  mem : g ∈ v.grants.rows
  pending : g.documentId = none
  grantId : c.grantId = g.id
  authority : c.authority = g.authority
  issued : g.issuedAt ≤ c.completedAt
  expires : c.completedAt < g.expiresAt
  declared : Declared g c.document
  valid : (UploadGrant.toRow { g with lifecycle := .completed c.document.id c.completedAt }).valid
    = true
  grants : v'.grants = v.grants.upsert
    (UploadGrant.toRow { g with lifecycle := .completed c.document.id c.completedAt })
  documents : ∃ d ∈ v'.documents.rows, Document.SameFile c.document d
  continues : Continues v.documents v'.documents
  creations : v'.creations = v.creations ++ [c]

/-- all that can happen to the grants of a kind -/
inductive GrantMove {K : UploadTarget} (v v' : GrantView K) : Prop
  | aside (hg : v'.grants = v.grants) (hc : v'.creations = v.creations)
      (hd : Continues v.documents v'.documents) : GrantMove v v'
  | issued (g : UploadGrant K) (hnew : v.grants.get? g.id = none) (hpending : g.lifecycle = .pending)
      (hvalid : g.toRow.valid = true) (hg : v'.grants = v.grants.upsert g.toRow)
      (hc : v'.creations = v.creations) (hd : Continues v.documents v'.documents) : GrantMove v v'
  | completed (g : UploadGrant K) (c : GrantCreation K) (h : Completes v v' g c) : GrantMove v v'

/-- what a stored grant and a document created with it have to do with each other -/
structure Honours {K : UploadTarget} (g : UploadGrant K) (c : GrantCreation K) : Prop where
  grantId : g.id = c.grantId
  lifecycle : g.lifecycle = .completed c.document.id (pgTimestamp c.completedAt)
  authority : c.authority = g.authority
  issued : g.issuedAt ≤ c.completedAt
  expires : c.completedAt < g.expiresAt
  declared : Declared g c.document

structure GrantInv {K : UploadTarget} (v : GrantView K) : Prop where
  valid : ∀ g ∈ v.grants.rows, g.valid = true
  stored : ∀ g ∈ v.grants.rows, g.toRow = g
  once : (v.creations.map GrantCreation.grantId).Nodup
  recorded : ∀ g ∈ v.grants.rows, ∀ id, g.documentId = some id →
    ∃ c ∈ v.creations, c.grantId = g.id ∧ c.document.id = id
  honoured : ∀ c ∈ v.creations, ∃ g ∈ v.grants.rows, Honours g c
  documents : ∀ c ∈ v.creations, ∃ d ∈ v.documents.rows, Document.SameFile c.document d

section
variable {K : UploadTarget} {v v' : GrantView K}

@[simp] theorem UploadGrant.toRow_id (g : UploadGrant K) : g.toRow.id = g.id := rfl

@[simp] theorem UploadGrant.toRow_toRow (g : UploadGrant K) : g.toRow.toRow = g.toRow := by
  unfold UploadGrant.toRow
  cases hl : g.lifecycle with
  | pending => simp [K.toRow_toRow]
  | completed documentId completedAt => simp [K.toRow_toRow]

theorem continues_refl (documents : Table Document.id) : Continues documents documents :=
  fun _ d hd h => ⟨d, hd, h⟩

/-- a new document beside the others -/
theorem continues_upsert_new {documents : Table Document.id} {d : Document}
    (hnew : ∀ x ∈ documents.rows, x.id ≠ d.id) : Continues documents (documents.upsert d.toRow) := by
  intro d0 x hx hsame
  exact ⟨x, Table.mem_upsert.mpr (.inr ⟨hx, hnew x hx⟩), hsame⟩

/-- one document moves on -/
theorem continues_upsert {documents : Table Document.id} {d d' : Document}
    (hd : d ∈ documents.rows) (hid : d'.id = d.id)
    (hsame : ∀ d0, Document.SameFile d0 d → Document.SameFile d0 d'.toRow) :
    Continues documents (documents.upsert d'.toRow) := by
  intro d0 x hx hx0
  by_cases hxd : x.id = d.id
  · have hxd' : x = d := documents.eq_of_key hx hd hxd
    rw [hxd'] at hx0
    exact ⟨d'.toRow, Table.mem_upsert.mpr (.inl rfl), hsame d0 hx0⟩
  · refine ⟨x, Table.mem_upsert.mpr (.inr ⟨hx, ?_⟩), hx0⟩
    rw [Document.toRow_id, hid]
    exact hxd

/-- a completed grant stays as it is -/
theorem GrantMove.keeps (hm : GrantMove v v') {g : UploadGrant K} (hg : g ∈ v.grants.rows)
    {id : DocumentId} (hdoc : g.documentId = some id) : g ∈ v'.grants.rows := by
  cases hm with
  | aside hgr hc hd =>
    rw [hgr]
    exact hg
  | issued g1 hnew hpending hvalid hgr hc hd =>
    rw [hgr]
    refine Table.mem_upsert.mpr (.inr ⟨hg, ?_⟩)
    exact Table.get?_eq_none_iff.mp hnew g hg
  | completed g1 c h =>
    rw [h.grants]
    refine Table.mem_upsert.mpr (.inr ⟨hg, ?_⟩)
    intro hid
    have : g = g1 := v.grants.eq_of_key hg h.mem hid
    rw [this, h.pending] at hdoc
    cases hdoc

theorem GrantInv.aside (hi : GrantInv v) (hg : v'.grants = v.grants)
    (hc : v'.creations = v.creations) (hd : Continues v.documents v'.documents) : GrantInv v' where
  valid := by
    rw [hg]
    exact hi.valid
  stored := by
    rw [hg]
    exact hi.stored
  once := by
    rw [hc]
    exact hi.once
  recorded := by
    rw [hg, hc]
    exact hi.recorded
  honoured := by
    rw [hg, hc]
    exact hi.honoured
  documents := by
    rw [hc]
    intro c hcm
    obtain ⟨d, hdm, hsame⟩ := hi.documents c hcm
    exact hd c.document d hdm hsame

theorem GrantInv.issued (hi : GrantInv v) {g : UploadGrant K} (hnew : v.grants.get? g.id = none)
    (hpending : g.lifecycle = .pending) (hvalid : g.toRow.valid = true)
    (hg : v'.grants = v.grants.upsert g.toRow) (hc : v'.creations = v.creations)
    (hd : Continues v.documents v'.documents) : GrantInv v' where
  valid := by
    rw [hg]
    intro x hx
    rcases Table.mem_upsert.mp hx with rfl | ⟨hx, -⟩
    · exact hvalid
    · exact hi.valid x hx
  stored := by
    rw [hg]
    intro x hx
    rcases Table.mem_upsert.mp hx with rfl | ⟨hx, -⟩
    · exact g.toRow_toRow
    · exact hi.stored x hx
  once := by
    rw [hc]
    exact hi.once
  recorded := by
    rw [hg, hc]
    intro x hx id hid
    rcases Table.mem_upsert.mp hx with rfl | ⟨hx, -⟩
    · simp [UploadGrant.documentId, UploadGrant.toRow, hpending] at hid
    · exact hi.recorded x hx id hid
  honoured := by
    rw [hg, hc]
    intro c hcm
    obtain ⟨x, hx, hh⟩ := hi.honoured c hcm
    exact ⟨x, Table.mem_upsert.mpr (.inr ⟨hx, Table.get?_eq_none_iff.mp hnew x hx⟩), hh⟩
  documents := by
    rw [hc]
    intro c hcm
    obtain ⟨d, hdm, hsame⟩ := hi.documents c hcm
    exact hd c.document d hdm hsame

/-- the stored form of a completed grant honours its creation -/
theorem Completes.honours {g : UploadGrant K} {c : GrantCreation K} (h : Completes v v' g c)
    (hstored : g.toRow = g) :
    Honours (UploadGrant.toRow { g with lifecycle := .completed c.document.id c.completedAt }) c := by
  have htarget : K.toRow g.target = g.target := congrArg UploadGrant.target hstored
  have hissued : pgTimestamp g.issuedAt = g.issuedAt := congrArg UploadGrant.issuedAt hstored
  have hexpires : pgTimestamp g.expiresAt = g.expiresAt := congrArg UploadGrant.expiresAt hstored
  refine ⟨h.grantId.symm, rfl, ?_, ?_, ?_, ?_⟩
  · rw [h.authority]
    simp only [UploadGrant.authority, UploadGrant.toRow, htarget, hexpires]
  · show pgTimestamp g.issuedAt ≤ c.completedAt
    rw [hissued]
    exact h.issued
  · show c.completedAt < pgTimestamp g.expiresAt
    rw [hexpires]
    exact h.expires
  · refine ⟨?_, h.declared.workspaceId, h.declared.filename, h.declared.contentType,
      h.declared.received⟩
    show c.document.owner = K.owner (K.toRow g.target)
    rw [K.owner_toRow]
    exact h.declared.owner

theorem GrantInv.completed (hi : GrantInv v) {g : UploadGrant K} {c : GrantCreation K}
    (h : Completes v v' g c) : GrantInv v' where
  valid := by
    rw [h.grants]
    intro x hx
    rcases Table.mem_upsert.mp hx with rfl | ⟨hx, -⟩
    · exact h.valid
    · exact hi.valid x hx
  stored := by
    rw [h.grants]
    intro x hx
    rcases Table.mem_upsert.mp hx with rfl | ⟨hx, -⟩
    · exact UploadGrant.toRow_toRow _
    · exact hi.stored x hx
  once := by
    rw [h.creations, List.map_append, List.nodup_append]
    refine ⟨hi.once, List.nodup_singleton _, ?_⟩
    -- a grant that was used before is completed, and this one is pending
    intro a ha b hb hab
    obtain ⟨c1, hc1, rfl⟩ := List.mem_map.mp ha
    obtain ⟨g1, hg1, hh⟩ := hi.honoured c1 hc1
    have hb' : b = g.id := by
      rw [← h.grantId]
      simpa using hb
    have heq : g1 = g := v.grants.eq_of_key hg1 h.mem (by rw [hh.grantId, hab, hb'])
    have hpending := h.pending
    rw [← heq] at hpending
    simp [UploadGrant.documentId, hh.lifecycle] at hpending
  recorded := by
    rw [h.grants, h.creations]
    intro x hx id hid
    rcases Table.mem_upsert.mp hx with rfl | ⟨hx, -⟩
    · have hid' : c.document.id = id := by
        simpa [UploadGrant.documentId, UploadGrant.toRow] using hid
      exact ⟨c, List.mem_append_right _ List.mem_cons_self, h.grantId, hid'⟩
    · obtain ⟨c1, hc1, hgrant, hdoc⟩ := hi.recorded x hx id hid
      exact ⟨c1, List.mem_append_left _ hc1, hgrant, hdoc⟩
  honoured := by
    rw [h.grants, h.creations]
    intro c1 hc1
    rcases List.mem_append.mp hc1 with hold | hnew
    · obtain ⟨x, hx, hh⟩ := hi.honoured c1 hold
      refine ⟨x, Table.mem_upsert.mpr (.inr ⟨hx, ?_⟩), hh⟩
      intro hid
      have heq : x = g := v.grants.eq_of_key hx h.mem hid
      have hpending := h.pending
      rw [← heq] at hpending
      simp [UploadGrant.documentId, hh.lifecycle] at hpending
    · rw [List.mem_singleton] at hnew
      subst hnew
      exact ⟨_, Table.mem_upsert.mpr (.inl rfl), h.honours (hi.stored g h.mem)⟩
  documents := by
    rw [h.creations]
    intro c1 hc1
    rcases List.mem_append.mp hc1 with hold | hnew
    · obtain ⟨d, hdm, hsame⟩ := hi.documents c1 hold
      exact h.continues c1.document d hdm hsame
    · rw [List.mem_singleton] at hnew
      subst hnew
      exact h.documents

/-- **Every move keeps the invariant.** -/
theorem GrantInv.move (hi : GrantInv v) (hm : GrantMove v v') : GrantInv v' := by
  cases hm with
  | aside hg hc hd => exact hi.aside hg hc hd
  | issued g hnew hpending hvalid hg hc hd => exact hi.issued hnew hpending hvalid hg hc hd
  | completed g c h => exact hi.completed h

theorem grantInv_empty : GrantInv (⟨.empty, .empty, []⟩ : GrantView K) where
  valid := fun g hg => absurd hg (Table.mem_rows_empty g)
  stored := fun g hg => absurd hg (Table.mem_rows_empty g)
  once := List.nodup_nil
  recorded := fun g hg => absurd hg (Table.mem_rows_empty g)
  honoured := fun _ hc => absurd hc List.not_mem_nil
  documents := fun _ hc => absurd hc List.not_mem_nil

end

end Proofplane
