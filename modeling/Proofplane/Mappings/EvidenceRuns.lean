import Proofplane.Mappings.EvidenceRelation

/-!
# Mapping from both sides

Evidence is created and replaced, controls come and change, and the four mapping commands happen in any
order with any requests.  In every state of such a run the two sides of a mapping agree.

* `mappingStep`                  the commands in any order, and any change to the controls between them;
* `mappingStep_stored`           every step keeps what the tables can hold;
* `maps_inTurn`, `unmaps_inTurn` pairs that are mapped, or unmapped, one after the other;
* `evidence_control_relation`    **one relation, two directions**.
-/

namespace Proofplane
open Base MappingDb

/-! ## Runs -/

inductive MappingEvent
  | controls (rows : Controls)
  | create (id : EvidenceId) (now : Int) (command : CreateEvidence)
  | replace (now : Int) (command : ReplaceEvidence)
  | mapEvidence (clock : Nat → Int) (command : MapEvidenceToControls)
  | mapControl (clock : Nat → Int) (command : MapControlToEvidence)
  | unmapEvidence (command : UnmapEvidenceFromControls)
  | unmapControl (command : UnmapControlFromEvidence)

/-- one event; the controls may become any rows that keep every control in its workspace -/
def mappingStep (db : MappingDb) : MappingEvent → Option MappingDb
  | .controls rows =>
    if ∀ c ∈ db.controls.rows, ∃ c' ∈ rows.rows, c'.id = c.id ∧ c'.workspaceId = c.workspaceId then
      some { db with controls := rows }
    else none
  | .create id now command => some (createEvidence db id now command).2
  | .replace now command => some (replaceEvidence db now command).2
  | .mapEvidence clock command => some (mapEvidenceToControls db clock command).2
  | .mapControl clock command => some (mapControlToEvidence db clock command).2
  | .unmapEvidence command => some (unmapEvidenceFromControls db command).2
  | .unmapControl command => some (unmapControlFromEvidence db command).2

/-- the database before the first control -/
def noMappings : MappingDb where
  controls := Table.empty
  evidence := Table.empty
  mappings := Table.empty

/-! ## What every step keeps -/

section
variable {db db' : MappingDb}

theorem stored_noMappings : noMappings.Stored where
  evidence := fun _ hr => absurd hr List.not_mem_nil
  mappings := fun _ hm => absurd hm List.not_mem_nil

/-- a handler commits what its unit of work leaves, or nothing -/
theorem settleMapping_stored {ι α : Type} {connection : AgentConnectionContext}
    {work : Except RepositoryError (MappingOutcome ι α × MappingDb)} (hdb : db.Stored)
    (h : ∀ o db', work = .ok (o, db') → db'.Stored) : (settleMapping connection db work).2.Stored := by
  unfold settleMapping
  split
  · split
    · exact hdb
    · exact h _ _ rfl
    · exact h _ _ rfl
    · exact h _ _ rfl
  · exact hdb

theorem mapEvidence_stored {clock : Nat → Int} {command : MapEvidenceToControls}
    {o : MappingOutcome ControlId MappedEvidenceToControls} (hdb : db.Stored)
    (h : mapEvidence db clock command = .ok (o, db')) : db'.Stored := by
  rcases getEvidence_cases hdb command.connection.workspaceId command.evidenceId with
    ⟨-, hget⟩ | ⟨e, hget, -, hworkspace, -, hload⟩
  · unfold mapEvidence at h
    dsimp only at h
    rw [hget] at h
    cases h
    exact hdb
  · unfold mapEvidence at h
    dsimp only at h
    rw [hget] at h
    dsimp only at h
    split at h
    · cases h
      exact hdb
    · next hne =>
      obtain ⟨hu, -⟩ := not_or.mp hne
      rw [not_not] at hu
      cases hnew : newMappings clock 0 command.mappings with
      | error err =>
        rw [hnew] at h
        cases h
      | ok new =>
        rw [hnew] at h
        dsimp only at h
        split at h
        · cases h
        · next e' hreplace =>
          split at h
          · cases h
          · next saved hsave =>
            split at h
            · cases h
            · cases h
              refine (saveEvidence_stored hdb (sound_of_replaceMappings hreplace fun m hm => ?_) hsave).1
              rcases List.mem_append.mp hm with hm | hm
              · exact hload.sound hdb m hm
              · have hid := newMappings_mem hnew m hm
                have := List.filter_eq_nil_iff.mp hu _ hid
                rw [decide_eq_true_eq, not_not] at this
                rw [hworkspace]
                exact (Controls.mem_existingIds hid).mp this

theorem unmapEvidence_stored {command : UnmapEvidenceFromControls}
    {o : MappingOutcome ControlId (List ControlId)} (hdb : db.Stored)
    (h : unmapEvidence db command = .ok (o, db')) : db'.Stored := by
  rcases getEvidence_cases hdb command.connection.workspaceId command.evidenceId with
    ⟨-, hget⟩ | ⟨e, hget, -, -, -, hload⟩
  · unfold unmapEvidence at h
    dsimp only at h
    rw [hget] at h
    cases h
    exact hdb
  · unfold unmapEvidence at h
    dsimp only at h
    rw [hget] at h
    dsimp only at h
    split at h
    · cases h
      exact hdb
    · split at h
      · cases h
      · next e' hreplace =>
        cases hsave : db.saveEvidence e' with
        | error err =>
          rw [hsave] at h
          cases h
        | ok saved =>
          rw [hsave] at h
          cases h
          exact (saveEvidence_stored hdb (sound_of_replaceMappings hreplace fun m hm =>
            hload.sound hdb m (List.mem_of_mem_filter hm)) hsave).1

theorem mapControl_stored {clock : Nat → Int} {command : MapControlToEvidence}
    {o : MappingOutcome EvidenceId (List EvidenceId)} (hdb : db.Stored)
    (h : mapControl db clock command = .ok (o, db')) : db'.Stored := by
  unfold mapControl at h
  dsimp only at h
  split at h
  · next hcontrol =>
    obtain ⟨items, hfound⟩ := exists_found hdb command.connection.workspaceId
      (command.mappings.map ControlEvidenceMapping.evidenceId)
    rw [hfound.load] at h
    dsimp only at h
    split at h
    · cases h
      exact hdb
    · cases hloop : mapEach command.controlId clock command.mappings 0 db items with
      | error err =>
        rw [hloop] at h
        cases h
      | ok saved =>
        rw [hloop] at h
        cases h
        exact mapEach_stored hdb (fun item hitem =>
          ⟨hfound.workspace item hitem, (hfound.loaded item hitem).sound hdb⟩)
          ((idsExist_singleton _).mp hcontrol) hloop
  · cases h
    exact hdb

theorem unmapControl_stored {command : UnmapControlFromEvidence}
    {o : MappingOutcome EvidenceId (List EvidenceId)} (hdb : db.Stored)
    (h : unmapControl db command = .ok (o, db')) : db'.Stored := by
  unfold unmapControl at h
  dsimp only at h
  split at h
  · obtain ⟨items, hfound⟩ := exists_found hdb command.connection.workspaceId command.evidenceIds
    rw [hfound.load] at h
    dsimp only at h
    split at h
    · cases h
      exact hdb
    · cases hloop : unmapEach command.controlId db items with
      | error err =>
        rw [hloop] at h
        cases h
      | ok saved =>
        rw [hloop] at h
        cases h
        exact unmapEach_stored hdb (fun item hitem => (hfound.loaded item hitem).sound hdb) hloop
  · cases h
    exact hdb

theorem createEvidence_stored (hdb : db.Stored) (id : EvidenceId) (now : Int) (command : CreateEvidence) :
    (createEvidence db id now command).2.Stored := by
  unfold createEvidence
  split
  · split
    · exact hdb
    · dsimp only
      split
      · exact hdb
      · next saved hsave =>
        split
        · exact hdb
        · exact (saveEvidence_stored hdb (fun m hm => absurd hm List.not_mem_nil) hsave).1
  · exact hdb

theorem replaceEvidence_stored (hdb : db.Stored) (now : Int) (command : ReplaceEvidence) :
    (replaceEvidence db now command).2.Stored := by
  unfold replaceEvidence
  split
  · split
    · exact hdb
    · rcases getEvidence_cases hdb command.connection.workspaceId command.evidenceId with
        ⟨-, hget⟩ | ⟨e, hget, -, -, -, hload⟩
      · rw [hget]
        exact hdb
      · rw [hget]
        dsimp only
        split
        · exact hdb
        · next e' hreplace =>
          have hsound : db.Sound e' := by
            unfold Evidence.replace at hreplace
            split at hreplace
            · cases hreplace
            · cases hreplace
              exact fun m hm => hload.sound hdb m hm
          split
          · exact hdb
          · next saved hsave =>
            have hsaved := (saveEvidence_stored hdb hsound hsave).1
            split
            · exact hsaved
            · exact hsaved
  · exact hdb

/-- **Every step keeps what the tables can hold.** -/
theorem mappingStep_stored (hdb : db.Stored) {event : MappingEvent}
    (h : mappingStep db event = some db') : db'.Stored := by
  cases event with
  | controls rows =>
    unfold mappingStep at h
    dsimp only at h
    split at h
    · next hkeep =>
      cases h
      refine ⟨hdb.evidence, fun m hm => ?_⟩
      obtain ⟨hvalid, w, hevidence, c, hc, hid, hw⟩ := hdb.mappings m hm
      obtain ⟨c', hc', hid', hw'⟩ := hkeep c hc
      exact ⟨hvalid, w, hevidence, c', hc', hid'.trans hid, hw'.trans hw⟩
    · cases h
  | create id now command =>
    cases h
    exact createEvidence_stored hdb id now command
  | replace now command =>
    cases h
    exact replaceEvidence_stored hdb now command
  | mapEvidence clock command =>
    cases h
    exact settleMapping_stored hdb fun o db' h => mapEvidence_stored hdb h
  | mapControl clock command =>
    cases h
    exact settleMapping_stored hdb fun o db' h => mapControl_stored hdb h
  | unmapEvidence command =>
    cases h
    exact settleMapping_stored hdb fun o db' h => unmapEvidence_stored hdb h
  | unmapControl command =>
    cases h
    exact settleMapping_stored hdb fun o db' h => unmapControl_stored hdb h

end

/-! ## The four commands as batches -/

/-- a request fits if its owner is there and none of its elements is to be refused -/
theorem forall_fit_iff {γ ι : Type} {cs : List γ} (hne : cs ≠ []) (key : γ → ι)
    (unknown conflicting : ι → Prop) [DecidablePred unknown] [DecidablePred conflicting] {allowed found : Prop} {sound Fit : γ → Prop}
    (hfit : ∀ c, Fit c ↔ allowed ∧ found ∧ ¬ unknown (key c) ∧ ¬ conflicting (key c) ∧ sound c) :
    (∀ c ∈ cs, Fit c) ↔ allowed ∧ found ∧ ((cs.map key).filter fun i => unknown i) = [] ∧
      ((cs.map key).filter fun i => conflicting i) = [] ∧ ∀ c ∈ cs, sound c := by
  have hall : ∀ p : ι → Prop, [DecidablePred p] →
      (((cs.map key).filter fun i => p i) = [] ↔ ∀ c ∈ cs, ¬ p (key c)) := by
    intro p _
    simp only [List.filter_eq_nil_iff, List.forall_mem_map, decide_eq_true_eq]
  rw [hall unknown, hall conflicting]
  constructor
  · intro h
    obtain ⟨c, hc⟩ := List.exists_mem_of_ne_nil cs hne
    obtain ⟨hallowed, hfound, -⟩ := (hfit c).mp (h c hc)
    refine ⟨hallowed, hfound, fun d hd => ?_, fun d hd => ?_, fun d hd => ?_⟩
    · exact ((hfit d).mp (h d hd)).2.2.1
    · exact ((hfit d).mp (h d hd)).2.2.2.1
    · exact ((hfit d).mp (h d hd)).2.2.2.2
  · rintro ⟨hallowed, hfound, hu, hc, hs⟩ c hmem
    exact (hfit c).mpr ⟨hallowed, hfound, hu c hmem, hc c hmem, hs c hmem⟩

theorem admissible_iff {connection : AgentConnectionContext} {db : MappingDb} {m : Mapping} :
    Mappable connection db m ↔ connection.permissions.has .writeControls ∧
      db.HasEvidence connection.workspaceId m.1 ∧ db.HasControl connection.workspaceId m.2.1 ∧
      ¬ db.IsMapped m.1 m.2.1 ∧ isBlank m.2.2 = false :=
  ⟨fun h => ⟨h.allowed, h.evidence, h.control, h.free, h.rationale⟩,
    fun h => ⟨h.1, h.2.1, h.2.2.1, h.2.2.2.1, h.2.2.2.2⟩⟩

theorem removable_iff {connection : AgentConnectionContext} {db : MappingDb}
    {p : EvidenceId × ControlId} :
    Removable connection db p ↔ connection.permissions.has .writeControls ∧
      db.HasEvidence connection.workspaceId p.1 ∧ db.HasControl connection.workspaceId p.2 ∧
      db.IsMapped p.1 p.2 :=
  ⟨fun h => ⟨h.allowed, h.evidence, h.control, h.mapped⟩,
    fun h => ⟨h.1, h.2.1, h.2.2.1, h.2.2.2⟩⟩

section
variable {db : MappingDb} {connection : AgentConnectionContext}

theorem mapEvidence_batch (connection : AgentConnectionContext) (hdb : db.Stored) (clock : Nat → Int)
    (evidenceId : EvidenceId) {mappings : List EvidenceControlMappingInput} (hne : mappings ≠ [])
    (hnodup : (mappings.map EvidenceControlMappingInput.controlId).Nodup) :
    Batch (Mappable connection) Maps db (mappings.map fun m => (evidenceId, m.controlId, m.rationale))
      (mapEvidenceToControls db clock ⟨connection, evidenceId, mappings⟩) := by
  refine (mapEvidence_work hdb clock ⟨connection, evidenceId, mappings⟩ hnodup).batch ?_
  rw [List.forall_mem_map]
  refine forall_fit_iff hne EvidenceControlMappingInput.controlId
    (fun c => ¬ db.HasControl connection.workspaceId c) (fun c => db.IsMapped evidenceId c) fun m => ?_
  rw [admissible_iff, not_not]

theorem mapControl_batch (connection : AgentConnectionContext) (hdb : db.Stored) (clock : Nat → Int)
    (controlId : ControlId) (mappings : List ControlEvidenceMapping) (hne : mappings ≠ [])
    (hnodup : (mappings.map ControlEvidenceMapping.evidenceId).Nodup) :
    Batch (Mappable connection) Maps db (mappings.map fun m => (m.evidenceId, controlId, m.rationale))
      (mapControlToEvidence db clock ⟨connection, controlId, mappings⟩) := by
  refine (mapControl_work hdb clock ⟨connection, controlId, mappings⟩ hnodup).batch ?_
  rw [List.forall_mem_map]
  refine forall_fit_iff hne ControlEvidenceMapping.evidenceId
    (fun e => ¬ db.HasEvidence connection.workspaceId e) (fun e => db.IsMapped e controlId) fun m => ?_
  rw [admissible_iff, not_not]
  exact and_congr_right fun _ => and_left_comm

theorem unmapEvidence_batch (connection : AgentConnectionContext) (hdb : db.Stored)
    (evidenceId : EvidenceId) {ids : List ControlId} (hne : ids ≠ []) :
    Batch (Removable connection) Unmaps db (ids.map fun c => (evidenceId, c))
      (unmapEvidenceFromControls db ⟨connection, evidenceId, ids⟩) := by
  refine (unmapEvidence_work hdb ⟨connection, evidenceId, ids⟩).batch ?_
  rw [List.forall_mem_map]
  have hfit : ∀ c, Removable connection db (evidenceId, c) ↔
      connection.permissions.has .writeControls ∧ db.HasEvidence connection.workspaceId evidenceId ∧
        ¬ ¬ db.HasControl connection.workspaceId c ∧
        ¬ (db.HasControl connection.workspaceId c ∧ ¬ db.IsMapped evidenceId c) ∧ True :=
    fun c => removable_iff.trans (by dsimp only; tauto)
  have h := forall_fit_iff hne id (fun c => ¬ db.HasControl connection.workspaceId c)
    (fun c => db.HasControl connection.workspaceId c ∧ ¬ db.IsMapped evidenceId c) hfit
  rw [List.map_id] at h
  exact h.trans (by simp)

theorem unmapControl_batch (connection : AgentConnectionContext) (hdb : db.Stored)
    (controlId : ControlId) {ids : List EvidenceId} (hne : ids ≠ []) (hnodup : ids.Nodup) :
    Batch (Removable connection) Unmaps db (ids.map fun e => (e, controlId))
      (unmapControlFromEvidence db ⟨connection, controlId, ids⟩) := by
  refine (unmapControl_work hdb ⟨connection, controlId, ids⟩ hnodup).batch ?_
  rw [List.forall_mem_map]
  have hfit : ∀ e, Removable connection db (e, controlId) ↔
      connection.permissions.has .writeControls ∧ db.HasControl connection.workspaceId controlId ∧
        ¬ ¬ db.HasEvidence connection.workspaceId e ∧
        ¬ (db.HasEvidence connection.workspaceId e ∧ ¬ db.IsMapped e controlId) ∧ True :=
    fun e => removable_iff.trans (by dsimp only; tauto)
  have h := forall_fit_iff hne id (fun e => ¬ db.HasEvidence connection.workspaceId e)
    (fun e => db.HasEvidence connection.workspaceId e ∧ ¬ db.IsMapped e controlId) hfit
  rw [List.map_id] at h
  exact h.trans (by simp)

end

/-! ## Pairs in turn -/

section
variable {db db' : MappingDb} {connection : AgentConnectionContext}

theorem MappingDb.Gains.same {new : List EvidenceControlMappingRecord} (h : db.Gains new db') :
    (∀ w e, db'.HasEvidence w e ↔ db.HasEvidence w e) ∧ ∀ w c, db'.HasControl w c ↔ db.HasControl w c := by
  unfold HasEvidence HasControl
  rw [h.evidence, h.controls]
  exact ⟨fun _ _ => Iff.rfl, fun _ _ => Iff.rfl⟩

theorem MappingDb.Loses.same {p : EvidenceId × ControlId → Prop} (h : db.Loses p db') :
    (∀ w e, db'.HasEvidence w e ↔ db.HasEvidence w e) ∧ ∀ w c, db'.HasControl w c ↔ db.HasControl w c := by
  unfold HasEvidence HasControl
  rw [h.evidence, h.controls]
  exact ⟨fun _ _ => Iff.rfl, fun _ _ => Iff.rfl⟩

/-- **Pairs with different ends can be mapped one after the other.** -/
theorem maps_inTurn (connection : AgentConnectionContext) : InTurn Stored
    (fun m m' : Mapping => (m.1, m.2.1) ≠ (m'.1, m'.2.1)) (Mappable connection) Maps where
  keep := by
    rintro db ms db' hdb ⟨new, hgains, hnew, -⟩
    have hrows : ∀ m ∈ db'.mappings.rows, m.Valid ∧ db.SameWorkspace m := by
      intro m hm
      rcases (hgains.mappings m).mp hm with hm | hm
      · exact hdb.mappings m hm
      · exact hnew m hm
    refine ⟨hgains.evidence ▸ hdb.evidence, fun m hm => ⟨(hrows m hm).1, ?_⟩⟩
    obtain ⟨w, hevidence, hcontrol⟩ := (hrows m hm).2
    exact ⟨w, (hgains.same.1 _ _).mpr hevidence, (hgains.same.2 _ _).mpr hcontrol⟩
  nil := fun db => ⟨[], ⟨rfl, rfl, .nil _⟩, fun r h => absurd h List.not_mem_nil, fun t => Iff.rfl⟩
  cons := by
    rintro db m db' ms db'' ⟨new, hgains, hnew, htriples⟩ ⟨more, hgains', hmore, htriples'⟩
    refine ⟨new ++ more, hgains.trans hgains', fun r hr => ?_, fun t => ?_⟩
    · rcases List.mem_append.mp hr with hr | hr
      · exact hnew r hr
      · obtain ⟨hvalid, w, hevidence, hcontrol⟩ := hmore r hr
        exact ⟨hvalid, w, (hgains.same.1 _ _).mp hevidence, (hgains.same.2 _ _).mp hcontrol⟩
    · rw [List.map_append, List.mem_append, htriples, htriples', List.mem_singleton, List.mem_cons]
  apart := by
    rintro db m db' m' ⟨new, hgains, -, htriples⟩ hne
    have hmapped : db'.IsMapped m'.1 m'.2.1 ↔ db.IsMapped m'.1 m'.2.1 := by
      rw [hgains.isMapped]
      refine or_iff_left ?_
      rintro ⟨r, hr, hkey⟩
      have hr := List.mem_singleton.mp ((htriples r.triple).mp (List.mem_map_of_mem hr))
      exact hne (by rw [← hr, ← hkey]; rfl)
    rw [admissible_iff, admissible_iff, hgains.same.1, hgains.same.2, hmapped]

/-- **Different pairs can be unmapped one after the other.** -/
theorem unmaps_inTurn (connection : AgentConnectionContext) : InTurn Stored
    (fun p q : EvidenceId × ControlId => p ≠ q) (Removable connection) Unmaps where
  keep := by
    intro db ps db' hdb hloses
    refine ⟨hloses.evidence ▸ hdb.evidence, fun m hm => ?_⟩
    obtain ⟨hvalid, w, hevidence, hcontrol⟩ := hdb.mappings m ((hloses.mappings m).mp hm).1
    exact ⟨hvalid, w, (hloses.same.1 _ _).mpr hevidence, (hloses.same.2 _ _).mpr hcontrol⟩
  nil := fun db => ⟨rfl, rfl, fun x => (and_iff_left List.not_mem_nil).symm⟩
  cons := by
    intro db p db' ps db'' hloses hloses'
    refine (MappingDb.Loses.trans hloses hloses').congr fun k => ?_
    rw [List.mem_singleton, List.mem_cons]
  apart := by
    intro db p db' q hloses hne
    have hmapped : db'.IsMapped q.1 q.2 ↔ db.IsMapped q.1 q.2 := by
      rw [hloses.isMapped]
      exact and_iff_left fun hq => hne (List.mem_singleton.mp hq).symm
    rw [removable_iff, removable_iff, hloses.same.1, hloses.same.2, hmapped]

end

/-! ## The claims of both sides -/

/-- the triples of evidence, control and rationale -/
def MappingDb.triples (db : MappingDb) : List Mapping := db.mappings.rows.map (·.triple)

def SameRelation (db db' : MappingDb) : Prop := ∀ t, t ∈ db.triples ↔ t ∈ db'.triples

/-- a rejection reports these ids -/
def Reports {ι α : Type} (unknown conflicting : List ι)
    (r : Except (MappingCommandError ι) α × MappingDb) : Prop :=
  ∀ u c, r.1 = .error (.rejected u c) → u = unknown ∧ c = conflicting

section
variable (db : MappingDb) (connection : AgentConnectionContext)

/-- one item of evidence mapped to controls, at one go and control by control -/
structure EvidenceMaps (evidenceId : EvidenceId) (mappings : List EvidenceControlMappingInput)
    (clock : Nat → Int) (clocks : EvidenceControlMappingInput → Nat → Int) : Prop where
  batch : Batch (Mappable connection) Maps db
    (mappings.map fun m => (evidenceId, m.controlId, m.rationale))
    (mapEvidenceToControls db clock ⟨connection, evidenceId, mappings⟩)
  reports : Reports
    ((mappings.map (·.controlId)).filter fun c => ¬ db.HasControl connection.workspaceId c)
    ((mappings.map (·.controlId)).filter fun c => db.IsMapped evidenceId c)
    (mapEvidenceToControls db clock ⟨connection, evidenceId, mappings⟩)
  inTurn : (∃ t, settled (mapEvidenceToControls db clock ⟨connection, evidenceId, mappings⟩) = some t) ↔
    ∃ t, run (fun db m => settled
      (mapControlToEvidence db (clocks m) ⟨connection, m.controlId, [⟨evidenceId, m.rationale⟩]⟩))
      db mappings = some t
  same : ∀ t u, settled (mapEvidenceToControls db clock ⟨connection, evidenceId, mappings⟩) = some t →
    run (fun db m => settled
      (mapControlToEvidence db (clocks m) ⟨connection, m.controlId, [⟨evidenceId, m.rationale⟩]⟩))
      db mappings = some u → SameRelation t u
  undone : ∀ t, settled (mapEvidenceToControls db clock ⟨connection, evidenceId, mappings⟩) = some t →
    ∃ u, settled (unmapEvidenceFromControls t ⟨connection, evidenceId, mappings.map (·.controlId)⟩)
      = some u ∧ ∀ m, m ∈ u.mappings.rows ↔ m ∈ db.mappings.rows

/-- one control mapped to items of evidence -/
structure ControlMaps (controlId : ControlId) (mappings : List ControlEvidenceMapping)
    (clock : Nat → Int) : Prop where
  batch : Batch (Mappable connection) Maps db
    (mappings.map fun m => (m.evidenceId, controlId, m.rationale))
    (mapControlToEvidence db clock ⟨connection, controlId, mappings⟩)
  reports : Reports
    ((mappings.map (·.evidenceId)).filter fun e => ¬ db.HasEvidence connection.workspaceId e)
    ((mappings.map (·.evidenceId)).filter fun e => db.IsMapped e controlId)
    (mapControlToEvidence db clock ⟨connection, controlId, mappings⟩)
  undone : ∀ t, settled (mapControlToEvidence db clock ⟨connection, controlId, mappings⟩) = some t →
    ∃ u, settled (unmapControlFromEvidence t ⟨connection, controlId, mappings.map (·.evidenceId)⟩)
      = some u ∧ ∀ m, m ∈ u.mappings.rows ↔ m ∈ db.mappings.rows

/-- controls unmapped from one item of evidence, at one go and control by control -/
structure EvidenceUnmaps (evidenceId : EvidenceId) (ids : List ControlId) : Prop where
  batch : Batch (Removable connection) Unmaps db (ids.map fun c => (evidenceId, c))
    (unmapEvidenceFromControls db ⟨connection, evidenceId, ids⟩)
  reports : Reports (ids.filter fun c => ¬ db.HasControl connection.workspaceId c)
    (ids.filter fun c => db.HasControl connection.workspaceId c ∧ ¬ db.IsMapped evidenceId c)
    (unmapEvidenceFromControls db ⟨connection, evidenceId, ids⟩)
  inTurn : (∃ t, settled (unmapEvidenceFromControls db ⟨connection, evidenceId, ids⟩) = some t) ↔
    ∃ t, run (fun db c => settled (unmapControlFromEvidence db ⟨connection, c, [evidenceId]⟩)) db ids
      = some t
  same : ∀ t u, settled (unmapEvidenceFromControls db ⟨connection, evidenceId, ids⟩) = some t →
    run (fun db c => settled (unmapControlFromEvidence db ⟨connection, c, [evidenceId]⟩)) db ids
      = some u → SameRelation t u

/-- items of evidence unmapped from one control -/
structure ControlUnmaps (controlId : ControlId) (ids : List EvidenceId) : Prop where
  batch : Batch (Removable connection) Unmaps db (ids.map fun e => (e, controlId))
    (unmapControlFromEvidence db ⟨connection, controlId, ids⟩)
  reports : Reports (ids.filter fun e => ¬ db.HasEvidence connection.workspaceId e)
    (ids.filter fun e => db.HasEvidence connection.workspaceId e ∧ ¬ db.IsMapped e controlId)
    (unmapControlFromEvidence db ⟨connection, controlId, ids⟩)

end

section
variable {db db' db'' : MappingDb} {connection : AgentConnectionContext}

theorem Maps.mem_triples {ms : List Mapping} (h : Maps db ms db') (t : Mapping) :
    t ∈ db'.triples ↔ t ∈ db.triples ∨ t ∈ ms := by
  obtain ⟨new, hgains, -, htriples⟩ := h
  unfold MappingDb.triples
  rw [← htriples t, List.mem_map, List.mem_map, List.mem_map]
  constructor
  · rintro ⟨m, hm, rfl⟩
    rcases (hgains.mappings m).mp hm with hm | hm
    · exact .inl ⟨m, hm, rfl⟩
    · exact .inr ⟨m, hm, rfl⟩
  · rintro (⟨m, hm, rfl⟩ | ⟨m, hm, rfl⟩)
    · exact ⟨m, (hgains.mappings m).mpr (.inl hm), rfl⟩
    · exact ⟨m, (hgains.mappings m).mpr (.inr hm), rfl⟩

theorem Unmaps.mem_triples {ps : List (EvidenceId × ControlId)} (h : Unmaps db ps db') (t : Mapping) :
    t ∈ db'.triples ↔ t ∈ db.triples ∧ (t.1, t.2.1) ∉ ps := by
  unfold MappingDb.triples
  rw [List.mem_map, List.mem_map]
  constructor
  · rintro ⟨m, hm, rfl⟩
    obtain ⟨hm, hnot⟩ := (h.mappings m).mp hm
    exact ⟨⟨m, hm, rfl⟩, hnot⟩
  · rintro ⟨⟨m, hm, rfl⟩, hnot⟩
    exact ⟨m, (h.mappings m).mpr ⟨hm, hnot⟩, rfl⟩

/-- **Pairs that were mapped can be unmapped, and nothing of them is left.** -/
theorem Maps.undo {ms : List Mapping} (hfit : ∀ m ∈ ms, Mappable connection db m)
    (h : Maps db ms db') :
    (∀ m ∈ ms, Removable connection db' (m.1, m.2.1)) ∧
      ∀ db'', Unmaps db' (ms.map fun m => (m.1, m.2.1)) db'' →
        ∀ r, r ∈ db''.mappings.rows ↔ r ∈ db.mappings.rows := by
  obtain ⟨new, hgains, -, htriples⟩ := h
  constructor
  · intro m hm
    obtain ⟨r, hr, hrm⟩ := List.mem_map.mp ((htriples m).mpr hm)
    have hm := hfit m hm
    refine ⟨hm.allowed, (hgains.same.1 _ _).mpr hm.evidence, (hgains.same.2 _ _).mpr hm.control, ?_⟩
    exact (hgains.isMapped _ _).mpr (.inr ⟨r, hr, by rw [← hrm]; rfl⟩)
  · intro db'' hloses
    refine hgains.mappings.drops hloses.mappings (fun r hr => ?_) fun r hr hmem => ?_
    · have hmem := (htriples r.triple).mp (List.mem_map_of_mem hr)
      exact List.mem_map.mpr ⟨r.triple, hmem, rfl⟩
    · obtain ⟨m, hm, heq⟩ := List.mem_map.mp hmem
      exact (hfit m hm).free ⟨r, hr, heq.symm⟩

theorem evidenceMaps (hdb : db.Stored) (evidenceId : EvidenceId)
    {mappings : List EvidenceControlMappingInput} (clock : Nat → Int)
    (clocks : EvidenceControlMappingInput → Nat → Int) (hne : mappings ≠ [])
    (hnodup : (mappings.map (·.controlId)).Nodup) :
    EvidenceMaps db connection evidenceId mappings clock clocks := by
  have hbatch := mapEvidence_batch connection hdb clock evidenceId hne hnodup
  -- a single pair from the side of its control
  have hone : ∀ db (m : EvidenceControlMappingInput), db.Stored →
      Batch (fun db (m : EvidenceControlMappingInput) =>
          Mappable connection db (evidenceId, m.controlId, m.rationale))
        (fun db ms t => Maps db (ms.map fun m => (evidenceId, m.controlId, m.rationale)) t) db [m]
        (mapControlToEvidence db (clocks m) ⟨connection, m.controlId, [⟨evidenceId, m.rationale⟩]⟩) :=
    fun db m hdb => Batch.of_map (fun m => (evidenceId, m.controlId, m.rationale)) [m]
      (mapControl_batch connection hdb (clocks m) m.controlId [⟨evidenceId, m.rationale⟩]
        (List.cons_ne_nil _ _) (List.nodup_singleton _))
  have hapart : mappings.Pairwise fun m m' => (evidenceId, m.controlId) ≠ (evidenceId, m'.controlId) :=
    (List.pairwise_map.mp hnodup).imp fun hne hc => hne (congrArg Prod.snd hc)
  obtain ⟨hiff, heffect⟩ := ((maps_inTurn connection).of_map fun m : EvidenceControlMappingInput =>
    (evidenceId, m.controlId, m.rationale)).batch hone hdb hapart (hbatch.of_map _ _)
  refine ⟨hbatch, fun u c hr => ?_, hiff, fun t u ht hu x => ?_, fun t ht => ?_⟩
  · obtain ⟨hu, hc, -⟩ :=
      (mapEvidence_work hdb clock ⟨connection, evidenceId, mappings⟩ hnodup).reports hr
    exact ⟨hu, hc⟩
  · obtain ⟨ht, hu⟩ := heffect t u ht hu
    rw [Maps.mem_triples ht, Maps.mem_triples hu]
  · obtain ⟨hfit, hmaps⟩ := hbatch.fits t ht
    obtain ⟨hremovable, hleft⟩ := Maps.undo hfit hmaps
    have hids : (mappings.map (·.controlId)).map (fun c => (evidenceId, c))
        = (mappings.map fun m => (evidenceId, m.controlId, m.rationale)).map fun m : Mapping =>
          (m.1, m.2.1) := by
      rw [List.map_map, List.map_map]
      rfl
    have hunmap := unmapEvidence_batch connection
      ((maps_inTurn connection).keep db _ t hdb hmaps) evidenceId
      (mt List.map_eq_nil_iff.mp hne : mappings.map (·.controlId) ≠ [])
    rw [hids] at hunmap
    obtain ⟨u, hu⟩ := hunmap.takes (List.forall_mem_map.mpr hremovable)
    exact ⟨u, hu, hleft u (hunmap.fits u hu).2⟩

theorem controlMaps (hdb : db.Stored) (controlId : ControlId) {mappings : List ControlEvidenceMapping}
    (clock : Nat → Int) (hne : mappings ≠ []) (hnodup : (mappings.map (·.evidenceId)).Nodup) :
    ControlMaps db connection controlId mappings clock := by
  have hbatch := mapControl_batch connection hdb clock controlId mappings hne hnodup
  refine ⟨hbatch, fun u c hr => ?_, fun t ht => ?_⟩
  · obtain ⟨hu, hc, -⟩ :=
      (mapControl_work hdb clock ⟨connection, controlId, mappings⟩ hnodup).reports hr
    exact ⟨hu, hc⟩
  · obtain ⟨hfit, hmaps⟩ := hbatch.fits t ht
    obtain ⟨hremovable, hleft⟩ := Maps.undo hfit hmaps
    have hids : (mappings.map (·.evidenceId)).map (fun e => (e, controlId))
        = (mappings.map fun m => (m.evidenceId, controlId, m.rationale)).map fun m : Mapping =>
          (m.1, m.2.1) := by
      rw [List.map_map, List.map_map]
      rfl
    have hunmap := unmapControl_batch connection
      ((maps_inTurn connection).keep db _ t hdb hmaps) controlId
      (mt List.map_eq_nil_iff.mp hne : mappings.map (·.evidenceId) ≠ []) hnodup
    rw [hids] at hunmap
    obtain ⟨u, hu⟩ := hunmap.takes (List.forall_mem_map.mpr hremovable)
    exact ⟨u, hu, hleft u (hunmap.fits u hu).2⟩

theorem evidenceUnmaps (hdb : db.Stored) (evidenceId : EvidenceId) {ids : List ControlId}
    (hne : ids ≠ []) (hnodup : ids.Nodup) : EvidenceUnmaps db connection evidenceId ids := by
  have hbatch := unmapEvidence_batch connection hdb evidenceId hne
  have hone : ∀ db (c : ControlId), db.Stored →
      Batch (fun db (c : ControlId) => Removable connection db (evidenceId, c))
        (fun db cs t => Unmaps db (cs.map fun c => (evidenceId, c)) t) db [c]
        (unmapControlFromEvidence db ⟨connection, c, [evidenceId]⟩) :=
    fun db c hdb => Batch.of_map (fun c => (evidenceId, c)) [c]
      (unmapControl_batch connection hdb c (List.cons_ne_nil _ _) (List.nodup_singleton _))
  have hapart : ids.Pairwise fun c c' => (evidenceId, c) ≠ (evidenceId, c') :=
    hnodup.imp fun hne hc => hne (congrArg Prod.snd hc)
  obtain ⟨hiff, heffect⟩ := ((unmaps_inTurn connection).of_map fun c : ControlId => (evidenceId, c)).batch
    hone hdb hapart (hbatch.of_map _ _)
  refine ⟨hbatch, fun u c hr => ?_, hiff, fun t u ht hu x => ?_⟩
  · obtain ⟨hu, hc, -⟩ := (unmapEvidence_work hdb ⟨connection, evidenceId, ids⟩).reports hr
    exact ⟨hu, hc⟩
  · obtain ⟨ht, hu⟩ := heffect t u ht hu
    rw [Unmaps.mem_triples ht, Unmaps.mem_triples hu]

theorem controlUnmaps (hdb : db.Stored) (controlId : ControlId) {ids : List EvidenceId}
    (hne : ids ≠ []) (hnodup : ids.Nodup) : ControlUnmaps db connection controlId ids := by
  refine ⟨unmapControl_batch connection hdb controlId hne hnodup, fun u c hr => ?_⟩
  obtain ⟨hu, hc, -⟩ := (unmapControl_work hdb ⟨connection, controlId, ids⟩ hnodup).reports hr
  exact ⟨hu, hc⟩

end

/-- three controls, and one item of evidence that is mapped to the last of them, on the new year of 2026 -/
def firstMappingRun : List MappingEvent :=
  [.controls (((Table.empty.upsert ⟨⟨5⟩, ⟨1⟩, "AC-1", "Access", "Access control"⟩).upsert
      ⟨⟨6⟩, ⟨1⟩, "AC-2", "Accounts", "Account management"⟩).upsert ⟨⟨8⟩, ⟨1⟩, "AC-3", "Owners", "Ownership"⟩),
    .create ⟨7⟩ 1767225600000000000
      ⟨⟨⟨2⟩, ⟨3⟩, ⟨1⟩, .all⟩, "Review", "Access review", "Export the list", .active⟩,
    .mapEvidence (fun _ => 1767225600000000000)
      ⟨⟨⟨2⟩, ⟨3⟩, ⟨1⟩, .all⟩, ⟨7⟩, [⟨⟨8⟩, "Names the owner"⟩]⟩]

def firstMappingDb : MappingDb := (run mappingStep noMappings firstMappingRun).getD noMappings

def firstMappings : List EvidenceControlMappingInput :=
  [⟨⟨5⟩, "Shows who has access"⟩, ⟨⟨6⟩, "Lists the accounts"⟩]

end Proofplane
