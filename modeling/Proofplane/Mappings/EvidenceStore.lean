import Proofplane.Base.Batch
import Proofplane.Mappings.Evidence

/-!
# Evidence and its mappings in the database

What the tables can hold in a run, and what the repository does on them.

* `MappingDb.Stored`         what every table of a run can hold;
* `Loaded db e`              the aggregate is what the database has;
* `getEvidence_cases`        **what a load finds**;
* `saveEvidence_add`, `saveEvidence_drop`   **a save of a loaded aggregate with more or fewer mappings**;
* `mapEach_eq`, `unmapEach_eq`              **the loops over the items of a control**;
* `saveEvidence_stored`      any save keeps what the tables can hold.
-/

namespace Proofplane
open Base

/-! ## What the tables hold -/

structure EvidenceRecord.Valid (r : EvidenceRecord) : Prop where
  title : isBlank r.title = false
  description : isBlank r.description = false
  collectionInstructions : isBlank r.collectionInstructions = false
  ordered : r.createdAt ≤ r.updatedAt
  createdAt : pgTimestamp r.createdAt = r.createdAt
  updatedAt : pgTimestamp r.updatedAt = r.updatedAt

structure EvidenceControlMappingRecord.Valid (m : EvidenceControlMappingRecord) : Prop where
  rationale : isBlank m.rationale = false
  createdAt : pgTimestamp m.createdAt = m.createdAt

theorem EvidenceRecord.valid_fromDomain (e : Evidence) : (fromDomain e).Valid where
  title := e.definition.title.2
  description := e.definition.description.2
  collectionInstructions := e.definition.collectionInstructions.2
  ordered := pgTimestamp_mono e.ordered
  createdAt := pgTimestamp_idem _
  updatedAt := pgTimestamp_idem _

theorem EvidenceControlMappingRecord.valid_fromDomain (id : EvidenceId)
    (m : EvidenceControlMappingState) : (fromDomain id m).Valid where
  rationale := m.rationale.2
  createdAt := pgTimestamp_idem _

namespace MappingDb

/-- the evidence is one of the workspace -/
def HasEvidence (db : MappingDb) (workspaceId : WorkspaceId) (id : EvidenceId) : Prop :=
  ∃ r ∈ db.evidence.rows, r.id = id ∧ r.workspaceId = workspaceId

/-- the control is one of the workspace -/
def HasControl (db : MappingDb) (workspaceId : WorkspaceId) (id : ControlId) : Prop :=
  db.controls.Has workspaceId id

def IsMapped (db : MappingDb) (evidenceId : EvidenceId) (controlId : ControlId) : Prop :=
  ∃ m ∈ db.mappings.rows, m.key = (evidenceId, controlId)

instance (db : MappingDb) (w : WorkspaceId) (id : EvidenceId) : Decidable (db.HasEvidence w id) :=
  inferInstanceAs (Decidable (∃ r ∈ _, _))

instance (db : MappingDb) (w : WorkspaceId) (id : ControlId) : Decidable (db.HasControl w id) :=
  inferInstanceAs (Decidable (db.controls.Has w id))

instance (db : MappingDb) (e : EvidenceId) (c : ControlId) : Decidable (db.IsMapped e c) :=
  inferInstanceAs (Decidable (∃ m ∈ _, _))

/-- the two ends of a mapping are in one workspace -/
def SameWorkspace (db : MappingDb) (m : EvidenceControlMappingRecord) : Prop :=
  ∃ w, db.HasEvidence w m.evidenceId ∧ db.HasControl w m.controlId

structure Stored (db : MappingDb) : Prop where
  evidence : ∀ r ∈ db.evidence.rows, r.Valid
  mappings : ∀ m ∈ db.mappings.rows, m.Valid ∧ db.SameWorkspace m

/-- the aggregate is what the database has under its id -/
structure Loaded (db : MappingDb) (e : Evidence) : Prop where
  row : db.evidence.get? e.id = some (.fromDomain e)
  mappings : Snapshot db.mappings e.id (e.mappings.map (.fromDomain e.id))

end MappingDb

open MappingDb

section
variable {db db' : MappingDb} {e : Evidence} {workspaceId : WorkspaceId}

theorem isMapped_iff {controlId : ControlId} :
    e.isMapped controlId = true ↔ ∃ m ∈ e.mappings, m.controlId = controlId := by
  unfold Evidence.isMapped
  simp only [List.any_eq_true, decide_eq_true_eq]

theorem MappingDb.Loaded.isMapped (h : Loaded db e) (controlId : ControlId) :
    e.isMapped controlId = true ↔ db.IsMapped e.id controlId := by
  rw [isMapped_iff]
  constructor
  · rintro ⟨m, hm, rfl⟩
    exact ⟨_, ((h.mappings.mem _).mp (List.mem_map_of_mem hm)).1, rfl⟩
  · rintro ⟨row, hrow, hkey⟩
    have hmem := (h.mappings.mem row).mpr ⟨hrow, congrArg Prod.fst hkey⟩
    obtain ⟨m, hm, rfl⟩ := List.mem_map.mp hmem
    exact ⟨m, hm, congrArg Prod.snd hkey⟩

/-! ## The repository -/

/-- rows of one item are the records of the mappings that are read from them -/
theorem mapM_mappingFromRow (id : EvidenceId) (rows : List EvidenceControlMappingRecord)
    (h : ∀ r ∈ rows, r.evidenceId = id ∧ r.Valid) :
    ∃ ms, rows.mapM mappingFromRow = .ok ms ∧
      ms.map (EvidenceControlMappingRecord.fromDomain id) = rows := by
  induction rows with
  | nil => exact ⟨[], rfl, rfl⟩
  | cons r rows ih =>
    obtain ⟨hid, hvalid⟩ := h r List.mem_cons_self
    obtain ⟨ms, hms, hrows⟩ := ih fun s hs => h s (List.mem_cons_of_mem _ hs)
    have hone : mappingFromRow r = .ok ⟨r.controlId, ⟨r.rationale, hvalid.rationale⟩, r.createdAt⟩ := by
      unfold mappingFromRow EvidenceControlMappingState.new requiredText
      rw [dif_pos hvalid.rationale]
      rfl
    refine ⟨⟨r.controlId, ⟨r.rationale, hvalid.rationale⟩, r.createdAt⟩ :: ms, ?_, ?_⟩
    · rw [List.mapM_cons, hone, hms]
      rfl
    · rw [List.map_cons, hrows]
      refine congrArg (· :: rows) ?_
      obtain ⟨evidenceId, controlId, rationale, createdAt⟩ := r
      have hcreated : pgTimestamp createdAt = createdAt := hvalid.createdAt
      show (⟨id, controlId, rationale, pgTimestamp createdAt⟩ : EvidenceControlMappingRecord) = _
      rw [hcreated, ← hid]

/-- the records of distinct controls have distinct keys -/
theorem nodup_fromDomain (id : EvidenceId) {ms : List EvidenceControlMappingState} :
    ((ms.map (EvidenceControlMappingRecord.fromDomain id)).map EvidenceControlMappingRecord.key).Nodup ↔
      (ms.map EvidenceControlMappingState.controlId).Nodup := by
  have hmap : (ms.map (EvidenceControlMappingRecord.fromDomain id)).map EvidenceControlMappingRecord.key
      = (ms.map EvidenceControlMappingState.controlId).map fun c => (id, c) := by
    rw [List.map_map, List.map_map]
    rfl
  rw [hmap]
  exact List.nodup_map_iff fun a b hab => congrArg Prod.snd hab

/-- **What a load finds.** -/
theorem getEvidence_cases (hdb : db.Stored) (workspaceId : WorkspaceId) (id : EvidenceId) :
    (¬ db.HasEvidence workspaceId id ∧ db.getEvidence workspaceId id = .ok none) ∨
    ∃ e, db.getEvidence workspaceId id = .ok (some e) ∧ e.id = id ∧ e.workspaceId = workspaceId ∧
      db.HasEvidence workspaceId id ∧ db.Loaded e := by
  by_cases hhas : db.HasEvidence workspaceId id
  · right
    have hfound := hhas
    obtain ⟨r, hr, hid, hworkspace⟩ := hfound
    have hget : (db.evidence.get? id).filter (fun row => row.workspaceId = workspaceId) = some r := by
      rw [Table.get?_eq_some_iff.mpr ⟨hr, hid⟩]
      exact if_pos (decide_eq_true hworkspace)
    have hsnapshot : Snapshot db.mappings id (db.mappingRows id) :=
      (snapshot_linksOf db.mappings id).perm (List.perm_insertionSort _ _)
    obtain ⟨ms, hms, hrows⟩ := mapM_mappingFromRow id (db.mappingRows id) fun m hm =>
      ⟨((hsnapshot.mem m).mp hm).2, (hdb.mappings m ((hsnapshot.mem m).mp hm).1).1⟩
    have hvalid := hdb.evidence r hr
    have hdistinct : (ms.map EvidenceControlMappingState.controlId).Nodup := by
      rw [← nodup_fromDomain id, hrows]
      exact hsnapshot.nodup
    let definition : EvidenceDefinition :=
      ⟨⟨r.title, hvalid.title⟩, ⟨r.description, hvalid.description⟩,
        ⟨r.collectionInstructions, hvalid.collectionInstructions⟩⟩
    have hdefinition : EvidenceDefinition.new r.title r.description r.collectionInstructions
        = .ok definition := definition.new_eq
    obtain ⟨e, he, hperm, heid, heworkspace, hedef, hestatus, hecreated, heupdated⟩ :=
      Evidence.rehydrate_eq r.id r.workspaceId definition r.status hvalid.ordered hdistinct
    refine ⟨e, ?_, heid.trans hid, heworkspace.trans hworkspace, hhas, ?_, ?_⟩
    · unfold getEvidence
      rw [hget]
      dsimp only
      rw [hms]
      dsimp only
      unfold EvidenceRecord.intoDomain
      rw [hdefinition]
      dsimp only
      rw [he]
      rfl
    · rw [heid, Table.get?_of_mem hr]
      refine congrArg some ?_
      unfold EvidenceRecord.fromDomain
      rw [heid, heworkspace, hedef, hestatus, hecreated, heupdated, hvalid.createdAt, hvalid.updatedAt]
    · rw [heid, hid]
      refine hsnapshot.perm ?_
      rw [← hrows]
      exact hperm.map _
  · left
    refine ⟨hhas, ?_⟩
    have hget : (db.evidence.get? id).filter (fun row => row.workspaceId = workspaceId) = none := by
      rw [Option.filter_eq_none_iff]
      intro r hr hworkspace
      obtain ⟨hmem, hid⟩ := Table.get?_eq_some_iff.mp hr
      exact hhas ⟨r, hmem, hid, of_decide_eq_true hworkspace⟩
    unfold getEvidence
    rw [hget]

/-- the rows that a change adds; everything else is as it was -/
structure MappingDb.Gains (db : MappingDb) (new : List EvidenceControlMappingRecord) (db' : MappingDb) :
    Prop where
  controls : db'.controls = db.controls
  evidence : db'.evidence = db.evidence
  mappings : Adds db.mappings db'.mappings new

/-- the pairs whose rows a change takes away; everything else is as it was -/
structure MappingDb.Loses (db : MappingDb) (p : EvidenceId × ControlId → Prop) (db' : MappingDb) :
    Prop where
  controls : db'.controls = db.controls
  evidence : db'.evidence = db.evidence
  mappings : Drops db.mappings db'.mappings p

/-- **A loaded aggregate can be saved with other mappings**; its row stays. -/
theorem saveEvidence_replace (h : db.Loaded e) {ms : List EvidenceControlMappingState}
    (hms : (ms.map EvidenceControlMappingState.controlId).Nodup) :
    ∃ e', e.replaceMappings ms = .ok e' ∧ e'.mappings.Perm ms ∧
      ∀ t, replaceLinks db.mappings e.id
          (e'.mappings.map (EvidenceControlMappingRecord.fromDomain e.id)) = some t →
        db.saveEvidence e' = .ok { db with mappings := t } := by
  obtain ⟨e', he', hperm, hid, hworkspace, hdefinition, hstatus, hcreated, hupdated⟩ :=
    e.replaceMappings_eq hms
  refine ⟨e', he', hperm, fun t ht => ?_⟩
  have hrow : EvidenceRecord.fromDomain e' = .fromDomain e := by
    unfold EvidenceRecord.fromDomain
    rw [hid, hworkspace, hdefinition, hstatus, hcreated, hupdated]
  unfold saveEvidence
  rw [hid, ht, hrow]
  dsimp only
  rw [Table.upsert_of_mem (Table.get?_mem h.row)]

/-- **A loaded aggregate with more mappings adds their rows.** -/
theorem saveEvidence_add (h : db.Loaded e) (new : List EvidenceControlMappingState)
    (hnodup : (new.map EvidenceControlMappingState.controlId).Nodup)
    (hfree : ∀ m ∈ new, ¬ db.IsMapped e.id m.controlId) :
    ∃ e' db', e.replaceMappings (e.mappings ++ new) = .ok e' ∧ db.saveEvidence e' = .ok db' ∧
      db.Gains (new.map (.fromDomain e.id)) db' := by
  have hdistinct : ((e.mappings ++ new).map EvidenceControlMappingState.controlId).Nodup := by
    rw [List.map_append, List.nodup_append]
    refine ⟨e.distinct, hnodup, ?_⟩
    rintro c hc c' hc' rfl
    obtain ⟨m, hm, rfl⟩ := List.mem_map.mp hc
    obtain ⟨m', hm', heq⟩ := List.mem_map.mp hc'
    refine hfree m' hm' ((h.isMapped m'.controlId).mp ?_)
    exact isMapped_iff.mpr ⟨m, hm, heq.symm⟩
  obtain ⟨e', he', hperm, hsave⟩ := saveEvidence_replace h hdistinct
  obtain ⟨t, ht, hadds⟩ := h.mappings.add
    (e'.mappings.map (EvidenceControlMappingRecord.fromDomain e.id))
    (new.map (EvidenceControlMappingRecord.fromDomain e.id))
    (fun x => by rw [(hperm.map _).mem_iff, List.map_append, List.mem_append])
    ((nodup_fromDomain e.id).mpr e'.distinct)
    (fun r hr => by
      obtain ⟨m, -, rfl⟩ := List.mem_map.mp hr
      rfl)
  exact ⟨e', _, he', hsave t ht, rfl, rfl, hadds⟩

/-- **A loaded aggregate with fewer mappings drops the rows of the others.** -/
theorem saveEvidence_drop (h : db.Loaded e) (q : ControlId → Bool) :
    ∃ e' db', e.replaceMappings (e.mappings.filter fun m => q m.controlId) = .ok e' ∧
      db.saveEvidence e' = .ok db' ∧ db.Loses (fun k => k.1 = e.id ∧ q k.2 = false) db' := by
  have hdistinct : ((e.mappings.filter fun m => q m.controlId).map
      EvidenceControlMappingState.controlId).Nodup := e.distinct.sublist (List.filter_sublist.map _)
  obtain ⟨e', he', hperm, hsave⟩ := saveEvidence_replace h hdistinct
  obtain ⟨t, ht, hdrops⟩ := h.mappings.drop
    (e'.mappings.map (EvidenceControlMappingRecord.fromDomain e.id))
    (fun k => k.1 = e.id ∧ q k.2 = false)
    (fun x => by
      rw [(hperm.map _).mem_iff]
      constructor
      · intro hx
        obtain ⟨m, hm, rfl⟩ := List.mem_map.mp hx
        obtain ⟨hm, hq⟩ := List.mem_filter.mp hm
        refine ⟨List.mem_map_of_mem hm, fun hc => ?_⟩
        exact Bool.false_ne_true (hc.2.symm.trans hq)
      · rintro ⟨hx, hnot⟩
        obtain ⟨m, hm, rfl⟩ := List.mem_map.mp hx
        refine List.mem_map_of_mem (List.mem_filter.mpr ⟨hm, ?_⟩)
        by_contra hq
        exact hnot ⟨rfl, Bool.eq_false_of_not_eq_true hq⟩)
    ((nodup_fromDomain e.id).mpr e'.distinct)
    (fun k hk => hk.1)
  exact ⟨e', _, he', hsave t ht, rfl, rfl, hdrops⟩

/-! ## The controls and the items of a request -/

theorem idsExist_singleton (id : ControlId) :
    db.idsExist workspaceId [id] = true ↔ db.HasControl workspaceId id := by
  have hdedup : [id].dedup = [id] := List.dedup_eq_self.mpr (List.nodup_singleton id)
  unfold idsExist
  rw [decide_eq_true_eq, (Controls.existingIds_perm db.controls workspaceId [id]).length_eq, hdedup]
  by_cases h : db.HasControl workspaceId id
  · have hfilter : [id].filter (fun id => db.controls.Has workspaceId id) = [id] :=
      List.filter_eq_self.mpr fun x hx => by rw [List.mem_singleton.mp hx]; exact decide_eq_true h
    rw [hfilter]
    exact iff_of_true rfl h
  · have hfilter : [id].filter (fun id => db.controls.Has workspaceId id) = [] :=
      List.filter_eq_nil_iff.mpr fun x hx => by
        rw [List.mem_singleton.mp hx, decide_eq_true_eq]
        exact h
    rw [hfilter]
    exact iff_of_false (fun hc => by cases hc) h

/-- the items of a request that exist, as they are loaded -/
theorem loadEvidence_eq (hdb : db.Stored) (workspaceId : WorkspaceId) (ids : List EvidenceId) :
    ∃ items, loadEvidence db workspaceId ids = .ok items ∧ (∀ item ∈ items, db.Loaded item) ∧
      (∀ item ∈ items, item.workspaceId = workspaceId) ∧
      items.map Evidence.id = ids.filter fun id => db.HasEvidence workspaceId id := by
  induction ids with
  | nil =>
    exact ⟨[], rfl, fun item h => absurd h List.not_mem_nil, fun item h => absurd h List.not_mem_nil,
      rfl⟩
  | cons id ids ih =>
    obtain ⟨items, hload, hloaded, hworkspaces, hids⟩ := ih
    rcases getEvidence_cases hdb workspaceId id with
      ⟨hno, hget⟩ | ⟨e, hget, hid, hworkspace, hhas, he⟩
    · refine ⟨items, ?_, hloaded, hworkspaces, ?_⟩
      · unfold loadEvidence
        rw [hget]
        exact hload
      · rw [List.filter_cons, if_neg (by rwa [decide_eq_true_eq])]
        exact hids
    · refine ⟨e :: items, ?_, List.forall_mem_cons.mpr ⟨he, hloaded⟩,
        List.forall_mem_cons.mpr ⟨hworkspace, hworkspaces⟩, ?_⟩
      · unfold loadEvidence
        rw [hget]
        dsimp only
        rw [hload]
        rfl
      · rw [List.filter_cons, if_pos (decide_eq_true hhas), List.map_cons, hids, hid]

/-! ## Pairs with their rationales -/

/-- the row as a pair with its rationale -/
def EvidenceControlMappingRecord.triple (m : EvidenceControlMappingRecord) :
    EvidenceId × ControlId × String :=
  (m.evidenceId, m.controlId, m.rationale)

/-- the new mappings of one item, unless a rationale is blank -/
theorem newMappings_eq (clock : Nat → Int) (n : Nat) {ms : List EvidenceControlMappingInput}
    (h : ∀ m ∈ ms, isBlank m.rationale = false) :
    ∃ new, newMappings clock n ms = .ok new ∧
      new.map (fun s => (s.controlId, s.rationale.1)) = ms.map fun m => (m.controlId, m.rationale) := by
  induction ms generalizing n with
  | nil => exact ⟨[], rfl, rfl⟩
  | cons m ms ih =>
    have hm := h m List.mem_cons_self
    obtain ⟨new, hnew, hmap⟩ := ih (n + 1) fun x hx => h x (List.mem_cons_of_mem _ hx)
    refine ⟨⟨m.controlId, ⟨m.rationale, hm⟩, clock n⟩ :: new, ?_, ?_⟩
    · unfold newMappings EvidenceControlMappingState.new requiredText
      rw [dif_pos hm, hnew]
      rfl
    · rw [List.map_cons, List.map_cons, hmap]

theorem newMappings_ok {clock : Nat → Int} {n : Nat} {ms : List EvidenceControlMappingInput}
    {new : List EvidenceControlMappingState} (h : newMappings clock n ms = .ok new) :
    ∀ m ∈ ms, isBlank m.rationale = false := by
  induction ms generalizing n new with
  | nil => exact fun m hm => absurd hm List.not_mem_nil
  | cons m ms ih =>
    unfold newMappings EvidenceControlMappingState.new requiredText at h
    by_cases hm : isBlank m.rationale = false
    · rw [dif_pos hm] at h
      cases hrest : newMappings clock (n + 1) ms with
      | error e =>
        rw [hrest] at h
        cases h
      | ok rest =>
        intro x hx
        rcases List.mem_cons.mp hx with rfl | hx
        · exact hm
        · exact ih hrest x hx
    · rw [dif_neg hm] at h
      cases h

/-- the new mappings are to controls of the request -/
theorem newMappings_mem {clock : Nat → Int} {n : Nat} {ms : List EvidenceControlMappingInput}
    {new : List EvidenceControlMappingState} (h : newMappings clock n ms = .ok new) :
    ∀ m ∈ new, m.controlId ∈ ms.map EvidenceControlMappingInput.controlId := by
  obtain ⟨new', hok, hmap⟩ := newMappings_eq clock n (newMappings_ok h)
  rw [h] at hok
  cases hok
  intro m hm
  have hpair := List.mem_map_of_mem (f := fun s : EvidenceControlMappingState =>
    (s.controlId, s.rationale.1)) hm
  rw [hmap] at hpair
  obtain ⟨x, hx, heq⟩ := List.mem_map.mp hpair
  exact List.mem_map.mpr ⟨x, hx, congrArg Prod.fst heq⟩

/-- in a request that names every item once, the last rationale for it is the only one -/
theorem rationaleFor_of_mem {ms : List ControlEvidenceMapping} {m : ControlEvidenceMapping}
    (hnodup : (ms.map ControlEvidenceMapping.evidenceId).Nodup) (hm : m ∈ ms) :
    rationaleFor ms m.evidenceId = some m.rationale := by
  unfold rationaleFor
  cases hfind : ms.reverse.find? fun x => x.evidenceId = m.evidenceId with
  | none => exact absurd (decide_eq_true rfl) (List.find?_eq_none.mp hfind m (List.mem_reverse.mpr hm))
  | some x =>
    have hx := List.mem_reverse.mp (List.mem_of_find?_eq_some hfind)
    have hid : x.evidenceId = m.evidenceId := by
      simpa using List.find?_some hfind
    rw [List.inj_on_of_nodup_map hnodup hx hm hid]
    rfl

/-! ## The loops over the items of a control -/

theorem MappingDb.Gains.isMapped {new : List EvidenceControlMappingRecord} (h : db.Gains new db')
    (evidenceId : EvidenceId) (controlId : ControlId) :
    db'.IsMapped evidenceId controlId ↔
      db.IsMapped evidenceId controlId ∨ ∃ m ∈ new, m.key = (evidenceId, controlId) := by
  constructor
  · rintro ⟨m, hm, hkey⟩
    rcases (h.mappings m).mp hm with hm | hm
    · exact .inl ⟨m, hm, hkey⟩
    · exact .inr ⟨m, hm, hkey⟩
  · rintro (⟨m, hm, hkey⟩ | ⟨m, hm, hkey⟩)
    · exact ⟨m, (h.mappings m).mpr (.inl hm), hkey⟩
    · exact ⟨m, (h.mappings m).mpr (.inr hm), hkey⟩

theorem MappingDb.Gains.trans {db'' : MappingDb} {new more : List EvidenceControlMappingRecord}
    (h : db.Gains new db') (h' : db'.Gains more db'') : db.Gains (new ++ more) db'' where
  controls := h'.controls.trans h.controls
  evidence := h'.evidence.trans h.evidence
  mappings := h.mappings.trans h'.mappings

theorem MappingDb.Loses.isMapped {p : EvidenceId × ControlId → Prop} (h : db.Loses p db')
    (evidenceId : EvidenceId) (controlId : ControlId) :
    db'.IsMapped evidenceId controlId ↔
      db.IsMapped evidenceId controlId ∧ ¬ p (evidenceId, controlId) := by
  constructor
  · rintro ⟨m, hm, hkey⟩
    obtain ⟨hm, hnot⟩ := (h.mappings m).mp hm
    exact ⟨⟨m, hm, hkey⟩, hkey ▸ hnot⟩
  · rintro ⟨⟨m, hm, hkey⟩, hnot⟩
    exact ⟨m, (h.mappings m).mpr ⟨hm, hkey ▸ hnot⟩, hkey⟩

theorem MappingDb.Loses.congr {p q : EvidenceId × ControlId → Prop} (h : db.Loses p db')
    (hpq : ∀ k, p k ↔ q k) : db.Loses q db' where
  controls := h.controls
  evidence := h.evidence
  mappings := fun x => by rw [h.mappings x, hpq]

theorem MappingDb.Loses.trans {db'' : MappingDb} {p q : EvidenceId × ControlId → Prop}
    (h : db.Loses p db') (h' : db'.Loses q db'') : db.Loses (fun k => p k ∨ q k) db'' where
  controls := h'.controls.trans h.controls
  evidence := h'.evidence.trans h.evidence
  mappings := h.mappings.trans h'.mappings

/-- an item that gains nothing stays loaded -/
theorem MappingDb.Loaded.of_gains {new : List EvidenceControlMappingRecord} (h : db.Loaded e)
    (hgains : db.Gains new db') (hother : ∀ m ∈ new, m.evidenceId ≠ e.id) : db'.Loaded e where
  row := hgains.evidence ▸ h.row
  mappings := h.mappings.of_adds hgains.mappings hother

theorem MappingDb.Loaded.of_loses {p : EvidenceId × ControlId → Prop} (h : db.Loaded e)
    (hloses : db.Loses p db') (hother : ∀ k, p k → k.1 ≠ e.id) : db'.Loaded e where
  row := hloses.evidence ▸ h.row
  mappings := h.mappings.of_drops hloses.mappings hother

/-- **The loop gives each of the items one row.**  An item that was saved is another than those to come. -/
theorem mapEach_eq (controlId : ControlId) (clock : Nat → Int) (ms : List ControlEvidenceMapping)
    (n : Nat) {items : List Evidence} (hload : ∀ item ∈ items, db.Loaded item)
    (hids : (items.map Evidence.id).Nodup) (hfree : ∀ item ∈ items, ¬ db.IsMapped item.id controlId)
    (hrationale : ∀ item ∈ items, ∃ r, rationaleFor ms item.id = some r ∧ isBlank r = false) :
    ∃ db' new, mapEach controlId clock ms n db items = .ok db' ∧ db.Gains new db' ∧
      (∀ m ∈ new, m.Valid) ∧ new.map EvidenceControlMappingRecord.triple
        = items.map fun item => (item.id, controlId, (rationaleFor ms item.id).getD "") := by
  induction items generalizing db n with
  | nil => exact ⟨db, [], rfl, ⟨rfl, rfl, .nil _⟩, fun m h => absurd h List.not_mem_nil, rfl⟩
  | cons item items ih =>
    rw [List.map_cons, List.nodup_cons] at hids
    obtain ⟨hnew, hids⟩ := hids
    obtain ⟨r, hr, hblank⟩ := hrationale item List.mem_cons_self
    let mapping : EvidenceControlMappingState := ⟨controlId, ⟨r, hblank⟩, clock n⟩
    obtain ⟨item', saved, hreplace, hsave, hgains⟩ := saveEvidence_add (hload item List.mem_cons_self)
      [mapping] (List.nodup_singleton _) fun m hm => by
        rw [List.mem_singleton.mp hm]
        exact hfree item List.mem_cons_self
    have hne : ∀ x ∈ items, item.id ≠ x.id := by
      intro x hx hc
      exact hnew (hc ▸ List.mem_map_of_mem hx)
    have hload' : ∀ x ∈ items, saved.Loaded x := by
      intro x hx
      refine (hload x (List.mem_cons_of_mem _ hx)).of_gains hgains fun m hm => ?_
      rw [List.mem_singleton.mp hm]
      exact hne x hx
    have hfree' : ∀ x ∈ items, ¬ saved.IsMapped x.id controlId := by
      intro x hx hc
      rcases (hgains.isMapped x.id controlId).mp hc with hc | ⟨m, hm, hkey⟩
      · exact hfree x (List.mem_cons_of_mem _ hx) hc
      · rw [List.mem_singleton.mp hm] at hkey
        exact hne x hx (congrArg Prod.fst hkey)
    obtain ⟨db', new, hloop, hgains', hvalid, htriples⟩ := ih (n + 1) hload' hids hfree'
      fun x hx => hrationale x (List.mem_cons_of_mem _ hx)
    refine ⟨db', [.fromDomain item.id mapping] ++ new, ?_, hgains.trans hgains', ?_, ?_⟩
    · have hmapping : EvidenceControlMappingState.new controlId r (clock n) = .ok mapping :=
        EvidenceControlMappingState.new_eq mapping
      unfold mapEach
      rw [hr]
      dsimp only
      rw [hmapping]
      dsimp only
      rw [hreplace]
      dsimp only
      rw [hsave]
      exact hloop
    · intro m hm
      rcases List.mem_append.mp hm with hm | hm
      · rw [List.mem_singleton.mp hm]
        exact EvidenceControlMappingRecord.valid_fromDomain _ _
      · exact hvalid m hm
    · rw [List.map_append, htriples]
      show _ = (item.id, controlId, (rationaleFor ms item.id).getD "") :: _
      rw [hr]
      rfl

/-- a loop that ends has found a rationale for each of the items -/
theorem mapEach_ok {controlId : ControlId} {clock : Nat → Int} {ms : List ControlEvidenceMapping}
    {n : Nat} {items : List Evidence} (h : mapEach controlId clock ms n db items = .ok db') :
    ∀ item ∈ items, ∃ r, rationaleFor ms item.id = some r ∧ isBlank r = false := by
  induction items generalizing db n with
  | nil => exact fun item hitem => absurd hitem List.not_mem_nil
  | cons item items ih =>
    unfold mapEach EvidenceControlMappingState.new requiredText at h
    cases hr : rationaleFor ms item.id with
    | none =>
      rw [hr] at h
      cases h
    | some r =>
      rw [hr] at h
      dsimp only at h
      by_cases hblank : isBlank r = false
      · rw [dif_pos hblank] at h
        dsimp only [Except.map] at h
        split at h
        · cases h
        · split at h
          · cases h
          · intro x hx
            rcases List.mem_cons.mp hx with rfl | hx
            · exact ⟨r, hr, hblank⟩
            · exact ih h x hx
      · rw [dif_neg hblank] at h
        cases h

/-- **The loop takes the row of the control from each of the items.** -/
theorem unmapEach_eq (controlId : ControlId) {items : List Evidence}
    (hload : ∀ item ∈ items, db.Loaded item) (hids : (items.map Evidence.id).Nodup) :
    ∃ db', unmapEach controlId db items = .ok db' ∧
      db.Loses (fun k => k.1 ∈ items.map Evidence.id ∧ k.2 = controlId) db' := by
  induction items generalizing db with
  | nil =>
    refine ⟨db, rfl, rfl, rfl, fun x => ?_⟩
    exact (and_iff_left fun hc => absurd hc.1 List.not_mem_nil).symm
  | cons item items ih =>
    rw [List.map_cons, List.nodup_cons] at hids
    obtain ⟨hnew, hids⟩ := hids
    obtain ⟨item', saved, hreplace, hsave, hloses⟩ := saveEvidence_drop (hload item List.mem_cons_self)
      fun c => c ≠ controlId
    have hload' : ∀ x ∈ items, saved.Loaded x := by
      intro x hx
      refine (hload x (List.mem_cons_of_mem _ hx)).of_loses hloses fun k hk hc => ?_
      exact hnew (hk.1 ▸ hc ▸ List.mem_map_of_mem hx)
    obtain ⟨db', hloop, hloses'⟩ := ih hload' hids
    refine ⟨db', ?_, (hloses.trans hloses').congr fun k => ?_⟩
    · unfold unmapEach
      rw [hreplace]
      dsimp only
      rw [hsave]
      exact hloop
    · rw [decide_eq_false_iff_not, not_not, List.map_cons, List.mem_cons]
      tauto

/-! ## Any save -/

/-- the controls of the item are in its workspace -/
def MappingDb.Sound (db : MappingDb) (e : Evidence) : Prop :=
  ∀ m ∈ e.mappings, db.HasControl e.workspaceId m.controlId

theorem MappingDb.Loaded.sound (hdb : db.Stored) (h : db.Loaded e) : db.Sound e := by
  intro m hm
  have hrow := (h.mappings.mem _).mp (List.mem_map_of_mem hm)
  obtain ⟨-, w, ⟨r, hr, hid, hw⟩, hcontrol⟩ := hdb.mappings _ hrow.1
  obtain ⟨hmem, hkey⟩ := Table.get?_eq_some_iff.mp h.row
  have hsame : r = .fromDomain e := db.evidence.eq_of_key hr hmem (hid.trans hkey.symm)
  have hworkspace : e.workspaceId = w := by
    rw [← hw, hsame]
    rfl
  exact hworkspace ▸ hcontrol

/-- **A save of any sound aggregate keeps what the tables can hold.** -/
theorem saveEvidence_stored (hdb : db.Stored) (he : db.Sound e) (h : db.saveEvidence e = .ok db') :
    db'.Stored ∧ db'.controls = db.controls := by
  obtain ⟨t, ht, hmem⟩ := replaceLinks_eq (t := db.mappings) (o := e.id)
    ((nodup_fromDomain e.id).mpr e.distinct) fun r hr => by
      obtain ⟨m, -, rfl⟩ := List.mem_map.mp hr
      rfl
  unfold saveEvidence at h
  rw [ht] at h
  cases h
  refine ⟨⟨fun r hr => ?_, fun x hx => ?_⟩, rfl⟩
  · rcases Table.mem_upsert.mp hr with rfl | ⟨hr, -⟩
    · exact EvidenceRecord.valid_fromDomain e
    · exact hdb.evidence r hr
  · rcases (hmem x).mp hx with ⟨hx, hne⟩ | hx
    · obtain ⟨hvalid, w, ⟨r, hr, hid, hw⟩, hcontrol⟩ := hdb.mappings x hx
      refine ⟨hvalid, w, ⟨r, Table.mem_upsert.mpr (.inr ⟨hr, ?_⟩), hid, hw⟩, hcontrol⟩
      rw [hid]
      exact hne
    · obtain ⟨m, hm, rfl⟩ := List.mem_map.mp hx
      refine ⟨EvidenceControlMappingRecord.valid_fromDomain _ _, e.workspaceId,
        ⟨.fromDomain e, Table.mem_upsert.mpr (.inl rfl), rfl, rfl⟩, he m hm⟩

/-- a sound aggregate whose mappings are replaced by others in its workspace is sound -/
theorem sound_of_replaceMappings {e' : Evidence} {ms : List EvidenceControlMappingState}
    (h : e.replaceMappings ms = .ok e') (hms : ∀ m ∈ ms, db.HasControl e.workspaceId m.controlId) :
    db.Sound e' := by
  obtain ⟨e'', he'', hperm, -, hworkspace, -⟩ := e.replaceMappings_eq (Evidence.replaceMappings_ok h)
  rw [h] at he''
  cases he''
  intro m hm
  rw [hworkspace]
  exact hms m (hperm.mem_iff.mp hm)

/-- the loop over items of one workspace, whatever the request repeats -/
theorem mapEach_stored {controlId : ControlId} {clock : Nat → Int} {ms : List ControlEvidenceMapping}
    {n : Nat} {items : List Evidence} (hdb : db.Stored)
    (hitems : ∀ item ∈ items, item.workspaceId = workspaceId ∧ db.Sound item)
    (hcontrol : db.HasControl workspaceId controlId)
    (h : mapEach controlId clock ms n db items = .ok db') : db'.Stored := by
  induction items generalizing db n with
  | nil =>
    cases h
    exact hdb
  | cons item items ih =>
    obtain ⟨hworkspace, hsound⟩ := hitems item List.mem_cons_self
    unfold mapEach at h
    split at h
    · cases h
    · split at h
      · cases h
      · next mapping hmapping =>
        split at h
        · cases h
        · next item' hreplace =>
          split at h
          · cases h
          · next saved hsave =>
            have hid : mapping.controlId = controlId := (EvidenceControlMappingState.new_ok hmapping).1
            have hsound' : db.Sound item' := sound_of_replaceMappings hreplace fun m hm => by
              rcases List.mem_append.mp hm with hm | hm
              · exact hsound m hm
              · rw [List.mem_singleton.mp hm, hid, hworkspace]
                exact hcontrol
            obtain ⟨hsaved, hcontrols⟩ := saveEvidence_stored hdb hsound' hsave
            have hkeep : ∀ w c, saved.HasControl w c ↔ db.HasControl w c := by
              intro w c
              unfold HasControl
              rw [hcontrols]
            refine ih hsaved (fun x hx => ?_) ((hkeep _ _).mpr hcontrol) h
            obtain ⟨hxw, hx⟩ := hitems x (List.mem_cons_of_mem _ hx)
            exact ⟨hxw, fun m hm => (hkeep _ _).mpr (hx m hm)⟩

theorem unmapEach_stored {controlId : ControlId} {items : List Evidence} (hdb : db.Stored)
    (hitems : ∀ item ∈ items, db.Sound item) (h : unmapEach controlId db items = .ok db') :
    db'.Stored := by
  induction items generalizing db with
  | nil =>
    cases h
    exact hdb
  | cons item items ih =>
    unfold unmapEach at h
    split at h
    · cases h
    · next item' hreplace =>
      split at h
      · cases h
      · next saved hsave =>
        have hsound' : db.Sound item' := sound_of_replaceMappings hreplace fun m hm =>
          hitems item List.mem_cons_self m (List.mem_of_mem_filter hm)
        obtain ⟨hsaved, hcontrols⟩ := saveEvidence_stored hdb hsound' hsave
        refine ih hsaved (fun x hx m hm => ?_) h
        unfold HasControl
        rw [hcontrols]
        exact hitems x (List.mem_cons_of_mem _ hx) m hm

end

end Proofplane
