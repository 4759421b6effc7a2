import Proofplane.Mappings.EvidenceStore

/-!
# One relation between evidence and controls

Whether a mapping command comes from the side of the evidence or from that of a control, it takes a batch of
pairs: all of them if each is admissible, or none.

* `Work`                     what a unit of work may find, and the handler around it;
* `Mappable`, `Removable`  the pairs that can be mapped, or unmapped;
* `mapEvidence_work`, `mapControl_work`         **what the two commands that map find**;
* `unmapEvidence_work`, `unmapControl_work`     **and the two that unmap**.
-/

namespace Proofplane
open Base MappingDb

/-! ## Units of work on pairs -/

/-- what a unit of work may find: its owner missing, elements to refuse, an unsound request, or nothing of
the kind -/
inductive Work {ι α : Type} (db : MappingDb) (found sound : Prop) (unknown conflicting : List ι)
    (Effect : MappingDb → Prop) : Except RepositoryError (MappingOutcome ι α × MappingDb) → Prop
  | notFound (h : ¬ found) : Work db found sound unknown conflicting Effect (.ok (.notFound, db))
  | rejected (h : found) (hne : unknown ≠ [] ∨ conflicting ≠ []) :
    Work db found sound unknown conflicting Effect (.ok (.rejected unknown conflicting, db))
  | failed (h : ¬ sound) (e : RepositoryError) :
    Work db found sound unknown conflicting Effect (.error e)
  | done (h : found ∧ unknown = [] ∧ conflicting = [] ∧ sound) (answer : α) (db' : MappingDb)
      (heffect : Effect db') :
    Work db found sound unknown conflicting Effect (.ok (.done answer, db'))

section
variable {ι α β : Type} {db : MappingDb} {found sound : Prop} {unknown conflicting : List ι}
  {connection : AgentConnectionContext}
  {work : Except RepositoryError (MappingOutcome ι α × MappingDb)}

/-- **A handler around such work is a batch**, where the elements fit if there is nothing to refuse. -/
theorem Work.batch {Fit : MappingDb → β → Prop} {Effect : MappingDb → List β → MappingDb → Prop}
    {bs : List β} (h : Work db found sound unknown conflicting (Effect db bs) work)
    (hfit : (∀ b ∈ bs, Fit db b) ↔ connection.permissions.has .writeControls ∧ found ∧ unknown = [] ∧
      conflicting = [] ∧ sound) :
    Batch Fit Effect db bs (settleMapping connection db work) := by
  unfold settleMapping
  by_cases hallowed : connection.permissions.has .writeControls
  · rw [if_pos hallowed]
    cases h with
    | notFound hnot =>
      refine ⟨fun hb => absurd (hfit.mp hb).2.1 hnot, fun t ht => ?_, fun _ => rfl⟩
      cases ht
    | rejected _ hne =>
      refine ⟨fun hb => ?_, fun t ht => ?_, fun _ => rfl⟩
      · obtain ⟨-, -, hu, hc, -⟩ := hfit.mp hb
        exact absurd hne (by rw [hu, hc]; simp)
      · cases ht
    | failed hnot e =>
      refine ⟨fun hb => absurd (hfit.mp hb).2.2.2.2 hnot, fun t ht => ?_, fun _ => rfl⟩
      cases ht
    | done hall answer db' heffect =>
      refine ⟨fun _ => ⟨db', rfl⟩, fun t ht => ?_, fun hc => ?_⟩
      · cases ht
        exact ⟨hfit.mpr ⟨hallowed, hall⟩, heffect⟩
      · cases hc
  · rw [if_neg hallowed]
    refine ⟨fun hb => absurd (hfit.mp hb).1 hallowed, fun t ht => ?_, fun _ => rfl⟩
    cases ht

/-- **What a rejection reports**: the elements to refuse, of which there are some. -/
theorem Work.reports {Effect : MappingDb → Prop}
    (h : Work db found sound unknown conflicting Effect work) {u c : List ι}
    (hr : (settleMapping connection db work).1 = .error (.rejected u c)) :
    u = unknown ∧ c = conflicting ∧ (unknown ≠ [] ∨ conflicting ≠ []) := by
  unfold settleMapping at hr
  by_cases hallowed : connection.permissions.has .writeControls
  · rw [if_pos hallowed] at hr
    cases h with
    | notFound hnot => cases hr
    | rejected _ hne =>
      cases hr
      exact ⟨rfl, rfl, hne⟩
    | failed hnot e => cases hr
    | done hall answer db' heffect => cases hr
  · rw [if_neg hallowed] at hr
    cases hr

end

/-- a pair that is to be mapped, with its rationale -/
abbrev Mapping := EvidenceId × ControlId × String

/-- a pair that a connection can map -/
structure Mappable (connection : AgentConnectionContext) (db : MappingDb) (m : Mapping) : Prop where
  allowed : connection.permissions.has .writeControls
  evidence : db.HasEvidence connection.workspaceId m.1
  control : db.HasControl connection.workspaceId m.2.1
  free : ¬ db.IsMapped m.1 m.2.1
  rationale : isBlank m.2.2 = false

/-- a pair that a connection can unmap -/
structure Removable (connection : AgentConnectionContext) (db : MappingDb) (p : EvidenceId × ControlId) :
    Prop where
  allowed : connection.permissions.has .writeControls
  evidence : db.HasEvidence connection.workspaceId p.1
  control : db.HasControl connection.workspaceId p.2
  mapped : db.IsMapped p.1 p.2

/-- the pairs and their rationales are added, and nothing else changes -/
def Maps (db : MappingDb) (ms : List Mapping) (db' : MappingDb) : Prop :=
  ∃ new, db.Gains new db' ∧ (∀ r ∈ new, r.Valid ∧ db.SameWorkspace r) ∧
    ∀ t, t ∈ new.map (·.triple) ↔ t ∈ ms

/-- the pairs are taken away, and nothing else changes -/
def Unmaps (db : MappingDb) (ps : List (EvidenceId × ControlId)) (db' : MappingDb) : Prop :=
  db.Loses (fun k => k ∈ ps) db'

section
variable {db : MappingDb}

/-- a mapping between evidence and control of the workspace can be read -/
theorem getEvidenceMapping_eq {workspaceId : WorkspaceId} {evidenceId : EvidenceId}
    {controlId : ControlId} (hevidence : db.HasEvidence workspaceId evidenceId)
    (hcontrol : db.HasControl workspaceId controlId) (hmapped : db.IsMapped evidenceId controlId) :
    ∃ m, db.getEvidenceMapping workspaceId evidenceId controlId = some m := by
  obtain ⟨r, hr, hrid, hrworkspace⟩ := hevidence
  obtain ⟨c, hc, hcid, hcworkspace⟩ := hcontrol
  obtain ⟨m, hm, hkey⟩ := hmapped
  refine ⟨⟨m.evidenceId, c, m.rationale, m.createdAt⟩, ?_⟩
  have hevidence : (db.evidence.get? evidenceId).filter (fun row => row.workspaceId = workspaceId)
      = some r := by
    rw [Table.get?_eq_some_iff.mpr ⟨hr, hrid⟩]
    exact if_pos (decide_eq_true hrworkspace)
  have hcontrol : (db.controls.get? controlId).filter (fun row => row.workspaceId = workspaceId)
      = some c := by
    rw [Table.get?_eq_some_iff.mpr ⟨hc, hcid⟩]
    exact if_pos (decide_eq_true hcworkspace)
  unfold getEvidenceMapping
  rw [hevidence, hcontrol, Table.get?_eq_some_iff.mpr ⟨hm, hkey⟩]

theorem mapEvidence_work (hdb : db.Stored) (clock : Nat → Int) (command : MapEvidenceToControls)
    (hnodup : (command.mappings.map EvidenceControlMappingInput.controlId).Nodup) :
    Work db (db.HasEvidence command.connection.workspaceId command.evidenceId)
      (∀ m ∈ command.mappings, isBlank m.rationale = false)
      ((command.mappings.map EvidenceControlMappingInput.controlId).filter fun id =>
        ¬ db.HasControl command.connection.workspaceId id)
      ((command.mappings.map EvidenceControlMappingInput.controlId).filter fun id =>
        db.IsMapped command.evidenceId id)
      (Maps db (command.mappings.map fun m => (command.evidenceId, m.controlId, m.rationale)))
      (mapEvidence db clock command) := by
  obtain ⟨connection, evidenceId, mappings⟩ := command
  dsimp only at hnodup ⊢
  rcases getEvidence_cases hdb connection.workspaceId evidenceId with
    ⟨hno, hget⟩ | ⟨e, hget, rfl, -, hhas, hload⟩
  · unfold mapEvidence
    dsimp only
    rw [hget]
    exact .notFound hno
  · have hunknown : ((mappings.map EvidenceControlMappingInput.controlId).filter fun id =>
        id ∉ db.controls.existingIds connection.workspaceId
          (mappings.map EvidenceControlMappingInput.controlId))
        = (mappings.map EvidenceControlMappingInput.controlId).filter fun id =>
          ¬ db.HasControl connection.workspaceId id :=
      Controls.filter_existingIds _ _ _
    have halready : ((mappings.map EvidenceControlMappingInput.controlId).filter fun id => e.isMapped id)
        = (mappings.map EvidenceControlMappingInput.controlId).filter fun id =>
          db.IsMapped e.id id :=
      List.filter_congr fun id _ => by
        rw [Bool.eq_iff_iff, decide_eq_true_eq]
        exact hload.isMapped id
    unfold mapEvidence
    dsimp only
    rw [hget]
    dsimp only
    rw [hunknown, halready]
    by_cases hne : ((mappings.map EvidenceControlMappingInput.controlId).filter fun id =>
        ¬ db.HasControl connection.workspaceId id) ≠ [] ∨
        ((mappings.map EvidenceControlMappingInput.controlId).filter fun id =>
          db.IsMapped e.id id) ≠ []
    · rw [if_pos hne]
      exact .rejected hhas hne
    · rw [if_neg hne]
      obtain ⟨hu, hc⟩ := not_or.mp hne
      rw [not_not] at hu hc
      cases hnew : newMappings clock 0 mappings with
      | error err =>
        refine .failed (fun hsound => ?_) err
        obtain ⟨new, hok, -⟩ := newMappings_eq clock 0 hsound
        rw [hok] at hnew
        cases hnew
      | ok new =>
        have hsound := newMappings_ok hnew
        obtain ⟨new', hok, hmap⟩ := newMappings_eq clock 0 hsound
        rw [hok] at hnew
        cases hnew
        -- the new mappings are those of the request
        have hcontrols : new.map EvidenceControlMappingState.controlId
            = mappings.map EvidenceControlMappingInput.controlId := by
          have := congrArg (List.map Prod.fst) hmap
          rwa [List.map_map, List.map_map] at this
        have hfree : ∀ m ∈ new, ¬ db.IsMapped e.id m.controlId := by
          intro m hm
          have hid : m.controlId ∈ mappings.map EvidenceControlMappingInput.controlId :=
            hcontrols ▸ List.mem_map_of_mem hm
          have := List.filter_eq_nil_iff.mp hc _ hid
          rwa [decide_eq_true_eq] at this
        obtain ⟨e', saved, hreplace, hsave, hgains⟩ :=
          saveEvidence_add hload new (hcontrols ▸ hnodup) hfree
        have hcontrol : ∀ id ∈ mappings.map EvidenceControlMappingInput.controlId,
            db.HasControl connection.workspaceId id := by
          intro id hid
          have := List.filter_eq_nil_iff.mp hu id hid
          rwa [decide_eq_true_eq, not_not] at this
        have hread : ∃ xs, (mappings.map EvidenceControlMappingInput.controlId).mapM
            (saved.getEvidenceMapping connection.workspaceId e.id) = some xs := by
          refine mapM_eq_some fun id hid => getEvidenceMapping_eq ?_ ?_ ?_
          · unfold HasEvidence
            rw [hgains.evidence]
            exact hhas
          · unfold HasControl
            rw [hgains.controls]
            exact hcontrol id hid
          · rw [hgains.isMapped]
            obtain ⟨m, hm, rfl⟩ := List.mem_map.mp (hcontrols ▸ hid)
            exact .inr ⟨_, List.mem_map_of_mem hm, rfl⟩
        obtain ⟨xs, hxs⟩ := hread
        dsimp only
        rw [hreplace]
        dsimp only
        rw [hsave]
        dsimp only
        rw [hxs]
        refine .done ⟨hhas, hu, hc, hsound⟩ _ saved ⟨_, hgains, fun r hr => ?_, fun t => ?_⟩
        · obtain ⟨m, hm, rfl⟩ := List.mem_map.mp hr
          refine ⟨EvidenceControlMappingRecord.valid_fromDomain _ _, connection.workspaceId, hhas, ?_⟩
          exact hcontrol _ (hcontrols ▸ List.mem_map_of_mem hm)
        · have htriples : (new.map (EvidenceControlMappingRecord.fromDomain e.id)).map
              EvidenceControlMappingRecord.triple
              = mappings.map fun m => (e.id, m.controlId, m.rationale) := by
            have := congrArg (List.map fun p : ControlId × String => (e.id, p)) hmap
            rw [List.map_map, List.map_map] at this
            rw [List.map_map]
            exact this
          show t ∈ (new.map (EvidenceControlMappingRecord.fromDomain e.id)).map
              EvidenceControlMappingRecord.triple ↔ _
          rw [htriples]

theorem unmapEvidence_work (hdb : db.Stored) (command : UnmapEvidenceFromControls) :
    Work db (db.HasEvidence command.connection.workspaceId command.evidenceId) True
      (command.controlIds.filter fun id => ¬ db.HasControl command.connection.workspaceId id)
      (command.controlIds.filter fun id => db.HasControl command.connection.workspaceId id ∧
        ¬ db.IsMapped command.evidenceId id)
      (Unmaps db (command.controlIds.map fun c => (command.evidenceId, c)))
      (unmapEvidence db command) := by
  obtain ⟨connection, evidenceId, ids⟩ := command
  dsimp only
  rcases getEvidence_cases hdb connection.workspaceId evidenceId with
    ⟨hno, hget⟩ | ⟨e, hget, rfl, -, hhas, hload⟩
  · unfold unmapEvidence
    dsimp only
    rw [hget]
    exact .notFound hno
  · have hunknown : (ids.filter fun id => id ∉ db.controls.existingIds connection.workspaceId ids)
        = ids.filter fun id => ¬ db.HasControl connection.workspaceId id :=
      Controls.filter_existingIds _ _ _
    have hnotMapped : (ids.filter fun id =>
          id ∈ db.controls.existingIds connection.workspaceId ids ∧ e.isMapped id = false)
        = ids.filter fun id => db.HasControl connection.workspaceId id ∧ ¬ db.IsMapped e.id id :=
      List.filter_congr fun id hid => decide_eq_decide.mpr
        (and_congr (Controls.mem_existingIds hid) (by rw [← hload.isMapped, Bool.not_eq_true]))
    unfold unmapEvidence
    dsimp only
    rw [hget]
    dsimp only
    rw [hunknown, hnotMapped]
    by_cases hne : (ids.filter fun id => ¬ db.HasControl connection.workspaceId id) ≠ [] ∨
        (ids.filter fun id => db.HasControl connection.workspaceId id ∧ ¬ db.IsMapped e.id id) ≠ []
    · rw [if_pos hne]
      exact .rejected hhas hne
    · rw [if_neg hne]
      obtain ⟨hu, hc⟩ := not_or.mp hne
      rw [not_not] at hu hc
      obtain ⟨e', saved, hreplace, hsave, hloses⟩ := saveEvidence_drop hload fun c => c ∉ ids
      rw [hreplace]
      dsimp only
      rw [hsave]
      refine .done ⟨hhas, hu, hc, trivial⟩ ids saved (hloses.congr fun k => ?_)
      rw [decide_eq_false_iff_not, not_not, List.mem_map]
      constructor
      · rintro ⟨hk, hmem⟩
        exact ⟨k.2, hmem, Prod.ext hk.symm rfl⟩
      · rintro ⟨c, hc, rfl⟩
        exact ⟨rfl, hc⟩

/-- the evidence of a mapping is in the workspace of its control -/
theorem hasEvidence_of_isMapped (hdb : db.Stored) {workspaceId : WorkspaceId} {evidenceId : EvidenceId}
    {controlId : ControlId} (hcontrol : db.HasControl workspaceId controlId)
    (hmapped : db.IsMapped evidenceId controlId) : db.HasEvidence workspaceId evidenceId := by
  obtain ⟨m, hm, hkey⟩ := hmapped
  obtain ⟨c, hc, hcid, rfl⟩ := hcontrol
  obtain ⟨-, w, hevidence, c', hc', hcid', rfl⟩ := hdb.mappings m hm
  have hcontrolId : m.controlId = controlId := congrArg Prod.snd hkey
  rw [db.controls.eq_of_key hc hc' (hcid.trans (hcontrolId.symm.trans hcid'.symm)),
    ← show m.evidenceId = evidenceId from congrArg Prod.fst hkey]
  exact hevidence

/-- the items that a request on a control finds -/
structure Found (db : MappingDb) (workspaceId : WorkspaceId) (ids : List EvidenceId)
    (items : List Evidence) : Prop where
  load : loadEvidence db workspaceId (evidenceLockOrder ids) = .ok items
  loaded : ∀ item ∈ items, db.Loaded item
  workspace : ∀ item ∈ items, item.workspaceId = workspaceId
  mem : ∀ id, id ∈ items.map Evidence.id ↔ id ∈ ids ∧ db.HasEvidence workspaceId id
  nodup : ids.Nodup → (items.map Evidence.id).Nodup

theorem exists_found (hdb : db.Stored) (workspaceId : WorkspaceId) (ids : List EvidenceId) :
    ∃ items, Found db workspaceId ids items := by
  obtain ⟨items, hload, hloaded, hworkspace, hids⟩ :=
    loadEvidence_eq hdb workspaceId (evidenceLockOrder ids)
  have hperm : (evidenceLockOrder ids).Perm ids := List.perm_insertionSort _ ids
  refine ⟨items, hload, hloaded, hworkspace, fun id => ?_, fun hnodup => ?_⟩
  · rw [hids, List.mem_filter, hperm.mem_iff, decide_eq_true_eq]
  · rw [hids]
    exact (hperm.nodup_iff.mpr hnodup).filter _

section
variable {workspaceId : WorkspaceId} {ids : List EvidenceId} {items : List Evidence}

theorem Found.unknown (h : Found db workspaceId ids items) :
    (ids.filter fun id => items.all fun item => item.id ≠ id)
      = ids.filter fun id => ¬ db.HasEvidence workspaceId id := by
  refine List.filter_congr fun id hid => ?_
  rw [Bool.eq_iff_iff, List.all_eq_true, decide_eq_true_eq]
  constructor
  · intro hall hhas
    obtain ⟨item, hitem, heq⟩ := List.mem_map.mp ((h.mem id).mpr ⟨hid, hhas⟩)
    exact of_decide_eq_true (hall item hitem) heq
  · intro hno item hitem
    refine decide_eq_true fun heq => hno ?_
    rw [← heq]
    exact ((h.mem item.id).mp (List.mem_map_of_mem hitem)).2

theorem Found.any_iff (h : Found db workspaceId ids items) {id : EvidenceId} (hid : id ∈ ids) :
    (items.any fun item => item.id = id) = true ↔ db.HasEvidence workspaceId id := by
  rw [List.any_eq_true]
  constructor
  · rintro ⟨item, hitem, heq⟩
    rw [← of_decide_eq_true heq]
    exact ((h.mem item.id).mp (List.mem_map_of_mem hitem)).2
  · intro hhas
    obtain ⟨item, hitem, heq⟩ := List.mem_map.mp ((h.mem id).mpr ⟨hid, hhas⟩)
    exact ⟨item, hitem, decide_eq_true heq⟩

theorem Found.any_mapped_iff (h : Found db workspaceId ids items) (hdb : db.Stored) {id : EvidenceId}
    (hid : id ∈ ids) {controlId : ControlId} (hcontrol : db.HasControl workspaceId controlId) :
    (items.any fun item => item.id = id ∧ item.isMapped controlId) = true ↔
      db.IsMapped id controlId := by
  rw [List.any_eq_true]
  constructor
  · rintro ⟨item, hitem, heq⟩
    obtain ⟨rfl, hmapped⟩ := of_decide_eq_true heq
    exact ((h.loaded item hitem).isMapped controlId).mp hmapped
  · intro hmapped
    have hhas := hasEvidence_of_isMapped hdb hcontrol hmapped
    obtain ⟨item, hitem, rfl⟩ := List.mem_map.mp ((h.mem id).mpr ⟨hid, hhas⟩)
    exact ⟨item, hitem, decide_eq_true ⟨rfl, ((h.loaded item hitem).isMapped controlId).mpr hmapped⟩⟩

end

theorem mapControl_work (hdb : db.Stored) (clock : Nat → Int) (command : MapControlToEvidence)
    (hnodup : (command.mappings.map ControlEvidenceMapping.evidenceId).Nodup) :
    Work db (db.HasControl command.connection.workspaceId command.controlId)
      (∀ m ∈ command.mappings, isBlank m.rationale = false)
      ((command.mappings.map ControlEvidenceMapping.evidenceId).filter fun id =>
        ¬ db.HasEvidence command.connection.workspaceId id)
      ((command.mappings.map ControlEvidenceMapping.evidenceId).filter fun id =>
        db.IsMapped id command.controlId)
      (Maps db (command.mappings.map fun m => (m.evidenceId, command.controlId, m.rationale)))
      (mapControl db clock command) := by
  obtain ⟨connection, controlId, mappings⟩ := command
  dsimp only at hnodup ⊢
  unfold mapControl
  dsimp only
  by_cases hcontrol : db.HasControl connection.workspaceId controlId
  · rw [if_pos ((idsExist_singleton controlId).mpr hcontrol)]
    obtain ⟨items, hfound⟩ := exists_found hdb connection.workspaceId
      (mappings.map ControlEvidenceMapping.evidenceId)
    have halready : ((mappings.map ControlEvidenceMapping.evidenceId).filter fun id =>
          items.any fun item => item.id = id ∧ item.isMapped controlId)
        = (mappings.map ControlEvidenceMapping.evidenceId).filter fun id =>
          db.IsMapped id controlId :=
      List.filter_congr fun id hid => by
        rw [Bool.eq_iff_iff, decide_eq_true_eq]
        exact hfound.any_mapped_iff hdb hid hcontrol
    rw [hfound.load]
    dsimp only
    rw [hfound.unknown, halready]
    by_cases hne : ((mappings.map ControlEvidenceMapping.evidenceId).filter fun id =>
        ¬ db.HasEvidence connection.workspaceId id) ≠ [] ∨
        ((mappings.map ControlEvidenceMapping.evidenceId).filter fun id =>
          db.IsMapped id controlId) ≠ []
    · rw [if_pos hne]
      exact .rejected hcontrol hne
    · rw [if_neg hne]
      obtain ⟨hu, hc⟩ := not_or.mp hne
      rw [not_not] at hu hc
      have hall : ∀ id ∈ mappings.map ControlEvidenceMapping.evidenceId,
          db.HasEvidence connection.workspaceId id := by
        intro id hid
        have := List.filter_eq_nil_iff.mp hu id hid
        rwa [decide_eq_true_eq, not_not] at this
      have hmem : ∀ id, id ∈ items.map Evidence.id ↔
          id ∈ mappings.map ControlEvidenceMapping.evidenceId := by
        intro id
        rw [hfound.mem id]
        exact and_iff_left_of_imp (hall id)
      -- each of the items has one mapping of the request, with its rationale
      have hrequest : ∀ item ∈ items, ∃ m ∈ mappings, m.evidenceId = item.id ∧
          rationaleFor mappings item.id = some m.rationale := by
        intro item hitem
        obtain ⟨m, hm, heq⟩ := List.mem_map.mp ((hmem item.id).mp (List.mem_map_of_mem hitem))
        exact ⟨m, hm, heq, heq ▸ rationaleFor_of_mem hnodup hm⟩
      have hfree : ∀ item ∈ items, ¬ db.IsMapped item.id controlId := by
        intro item hitem
        have := List.filter_eq_nil_iff.mp hc item.id ((hmem item.id).mp (List.mem_map_of_mem hitem))
        rwa [decide_eq_true_eq] at this
      cases hloop : mapEach controlId clock mappings 0 db items with
      | error err =>
        refine .failed (fun hsound => ?_) err
        obtain ⟨db', new, hok, -⟩ := mapEach_eq controlId clock mappings 0 hfound.loaded
          (hfound.nodup hnodup) hfree fun item hitem => by
            obtain ⟨m, hm, -, hr⟩ := hrequest item hitem
            exact ⟨m.rationale, hr, hsound m hm⟩
        rw [hok] at hloop
        cases hloop
      | ok db' =>
        have hrationales := mapEach_ok hloop
        have hsound : ∀ m ∈ mappings, isBlank m.rationale = false := by
          intro m hm
          obtain ⟨item, hitem, heq⟩ := List.mem_map.mp ((hmem m.evidenceId).mpr (List.mem_map_of_mem hm))
          obtain ⟨r, hr, hblank⟩ := hrationales item hitem
          rw [heq, rationaleFor_of_mem hnodup hm] at hr
          cases hr
          exact hblank
        obtain ⟨db'', new, hok, hgains, hvalid, htriples⟩ := mapEach_eq controlId clock mappings 0
          hfound.loaded (hfound.nodup hnodup) hfree hrationales
        rw [hok] at hloop
        cases hloop
        have hnew : ∀ t, t ∈ new.map EvidenceControlMappingRecord.triple ↔
            t ∈ mappings.map fun m => (m.evidenceId, controlId, m.rationale) := by
          intro t
          rw [htriples, List.mem_map, List.mem_map]
          constructor
          · rintro ⟨item, hitem, rfl⟩
            obtain ⟨m, hm, heq, hr⟩ := hrequest item hitem
            refine ⟨m, hm, ?_⟩
            rw [heq, hr]
            rfl
          · rintro ⟨m, hm, rfl⟩
            obtain ⟨item, hitem, heq⟩ :=
              List.mem_map.mp ((hmem m.evidenceId).mpr (List.mem_map_of_mem hm))
            refine ⟨item, hitem, ?_⟩
            rw [heq, rationaleFor_of_mem hnodup hm]
            rfl
        refine .done ⟨hcontrol, hu, hc, hsound⟩ _ db' ⟨new, hgains, fun r hr => ⟨hvalid r hr, ?_⟩, hnew⟩
        obtain ⟨m, hm, heq⟩ := List.mem_map.mp ((hnew r.triple).mp (List.mem_map_of_mem hr))
        refine ⟨connection.workspaceId, ?_, ?_⟩
        · rw [← show m.evidenceId = r.evidenceId from congrArg Prod.fst heq]
          exact hall _ (List.mem_map_of_mem hm)
        · rw [← show controlId = r.controlId from congrArg (fun t => t.2.1) heq]
          exact hcontrol
  · rw [if_neg fun hc => hcontrol ((idsExist_singleton controlId).mp hc)]
    exact .notFound hcontrol

theorem unmapControl_work (hdb : db.Stored) (command : UnmapControlFromEvidence)
    (hnodup : command.evidenceIds.Nodup) :
    Work db (db.HasControl command.connection.workspaceId command.controlId) True
      (command.evidenceIds.filter fun id => ¬ db.HasEvidence command.connection.workspaceId id)
      (command.evidenceIds.filter fun id => db.HasEvidence command.connection.workspaceId id ∧
        ¬ db.IsMapped id command.controlId)
      (Unmaps db (command.evidenceIds.map fun e => (e, command.controlId)))
      (unmapControl db command) := by
  obtain ⟨connection, controlId, ids⟩ := command
  dsimp only at hnodup ⊢
  unfold unmapControl
  dsimp only
  by_cases hcontrol : db.HasControl connection.workspaceId controlId
  · rw [if_pos ((idsExist_singleton controlId).mpr hcontrol)]
    obtain ⟨items, hfound⟩ := exists_found hdb connection.workspaceId ids
    have hnotMapped : (ids.filter fun id => (items.any fun item => item.id = id) ∧
          ¬ items.any fun item => item.id = id ∧ item.isMapped controlId)
        = ids.filter fun id => db.HasEvidence connection.workspaceId id ∧
          ¬ db.IsMapped id controlId :=
      List.filter_congr fun id hid => decide_eq_decide.mpr (and_congr (hfound.any_iff hid)
        (not_congr (hfound.any_mapped_iff hdb hid hcontrol)))
    rw [hfound.load]
    dsimp only
    rw [hfound.unknown, hnotMapped]
    by_cases hne : (ids.filter fun id => ¬ db.HasEvidence connection.workspaceId id) ≠ [] ∨
        (ids.filter fun id => db.HasEvidence connection.workspaceId id ∧
          ¬ db.IsMapped id controlId) ≠ []
    · rw [if_pos hne]
      exact .rejected hcontrol hne
    · rw [if_neg hne]
      obtain ⟨hu, hc⟩ := not_or.mp hne
      rw [not_not] at hu hc
      obtain ⟨db', hloop, hloses⟩ := unmapEach_eq controlId hfound.loaded (hfound.nodup hnodup)
      rw [hloop]
      refine .done ⟨hcontrol, hu, hc, trivial⟩ ids db' (hloses.congr fun k => ?_)
      rw [hfound.mem, List.mem_map]
      constructor
      · rintro ⟨⟨hid, -⟩, hk⟩
        exact ⟨k.1, hid, Prod.ext rfl hk.symm⟩
      · rintro ⟨id, hid, rfl⟩
        have := List.filter_eq_nil_iff.mp hu id hid
        rw [decide_eq_true_eq, not_not] at this
        exact ⟨⟨hid, this⟩, rfl⟩
  · rw [if_neg fun hc => hcontrol ((idsExist_singleton controlId).mp hc)]
    exact .notFound hcontrol

end

end Proofplane
