import Proofplane.Base.Batch
import Proofplane.Mappings.Policy

/-!
# Policies and their mappings in the database

What the tables can hold in a run, and what the repository does on them.

* `PolicyDb.Stored`          what every table of a run can hold;
* `Loaded db p`              the aggregate is what the database has;
* `getPolicy_cases`          **what a load finds**;
* `savePolicy_add`, `savePolicy_drop`   **a save of a loaded policy with more or fewer mappings**;
* `changeEach_eq`            **the loop over the policies of a control**;
* `Frozen`, `Kept`           archived policies are left alone, and the tables hold what they can hold.
-/

namespace Proofplane
open Base

/-! ## What the tables hold -/

structure PolicyRecord.Valid (r : PolicyRecord) : Prop where
  name : TrimmedText 200 r.name
  description : ∀ d ∈ r.description, TrimmedText 4000 d
  ordered : r.createdAt ≤ r.updatedAt
  archivedLater : ∀ t ∈ r.archivedAt, r.createdAt ≤ t
  createdAt : pgTimestamp r.createdAt = r.createdAt
  updatedAt : pgTimestamp r.updatedAt = r.updatedAt
  archivedAt : r.archivedAt.map pgTimestamp = r.archivedAt

theorem PolicyRecord.valid_fromDomain (p : Policy) : (fromDomain p).Valid where
  name := p.definition.name.2
  description := by
    intro d hd
    obtain ⟨t, -, rfl⟩ := Option.map_eq_some_iff.mp hd
    exact t.2
  ordered := pgTimestamp_mono p.ordered
  archivedLater := by
    intro t ht
    obtain ⟨at', hat, rfl⟩ := Option.map_eq_some_iff.mp ht
    exact pgTimestamp_mono (p.archivedLater at' hat)
  createdAt := pgTimestamp_idem _
  updatedAt := pgTimestamp_idem _
  archivedAt := by
    show (p.archivedAt.map pgTimestamp).map pgTimestamp = p.archivedAt.map pgTimestamp
    rw [Option.map_map]
    congr 1
    funext t
    exact pgTimestamp_idem t

/-- the definition that a valid row holds -/
theorem PolicyRecord.Valid.definition {r : PolicyRecord} (h : r.Valid) :
    ∃ d : PolicyDefinition, d.name.1 = r.name ∧ d.description.map Subtype.val = r.description := by
  obtain ⟨description, hdescription⟩ := exists_optionalText h.description
  exact ⟨⟨⟨r.name, h.name⟩, description⟩, rfl, hdescription⟩

namespace PolicyDb

structure Stored (lower : String → String) (db : PolicyDb) : Prop where
  policies : ∀ r ∈ db.policies.rows, r.Valid
  names : ∀ r ∈ db.policies.rows, ∀ s ∈ db.policies.rows, SameName lower r s → r.id = s.id
  mappings : ∀ m ∈ db.mappings.rows, pgTimestamp m.createdAt = m.createdAt

/-- the policy is one of the workspace -/
def HasPolicy (db : PolicyDb) (workspaceId : WorkspaceId) (id : PolicyId) : Prop :=
  ∃ r ∈ db.policies.rows, r.id = id ∧ r.workspaceId = workspaceId

/-- the policy is one of the workspace, and it is not archived -/
def HasActivePolicy (db : PolicyDb) (workspaceId : WorkspaceId) (id : PolicyId) : Prop :=
  ∃ r ∈ db.policies.rows, r.id = id ∧ r.workspaceId = workspaceId ∧ r.archivedAt = none

def IsAttached (db : PolicyDb) (policyId : PolicyId) (controlId : ControlId) : Prop :=
  ∃ m ∈ db.mappings.rows, m.key = (policyId, controlId)

instance (db : PolicyDb) (w : WorkspaceId) (id : PolicyId) : Decidable (db.HasPolicy w id) :=
  inferInstanceAs (Decidable (∃ r ∈ _, _))

instance (db : PolicyDb) (w : WorkspaceId) (id : PolicyId) : Decidable (db.HasActivePolicy w id) :=
  inferInstanceAs (Decidable (∃ r ∈ _, _))

instance (db : PolicyDb) (p : PolicyId) (c : ControlId) : Decidable (db.IsAttached p c) :=
  inferInstanceAs (Decidable (∃ m ∈ _, _))

theorem HasActivePolicy.hasPolicy {db : PolicyDb} {w : WorkspaceId} {id : PolicyId}
    (h : db.HasActivePolicy w id) : db.HasPolicy w id := by
  obtain ⟨r, hr, hid, hw, -⟩ := h
  exact ⟨r, hr, hid, hw⟩

/-- the aggregate is what the database has under its id -/
structure Loaded (db : PolicyDb) (p : Policy) : Prop where
  row : db.policies.get? p.id = some (.fromDomain p)
  mappings : Snapshot db.mappings p.id (p.mappings.map (.fromDomain p.id))

end PolicyDb

open PolicyDb

section
variable {lower : String → String} {db db' : PolicyDb} {p : Policy} {workspaceId : WorkspaceId}

theorem policyIsMapped_iff {controlId : ControlId} :
    p.isMapped controlId = true ↔ ∃ m ∈ p.mappings, m.controlId = controlId := by
  unfold Policy.isMapped
  simp only [List.any_eq_true, decide_eq_true_eq]

theorem PolicyDb.Loaded.isMapped (h : Loaded db p) (controlId : ControlId) :
    p.isMapped controlId = true ↔ db.IsAttached p.id controlId := by
  rw [policyIsMapped_iff]
  constructor
  · rintro ⟨m, hm, rfl⟩
    exact ⟨_, ((h.mappings.mem _).mp (List.mem_map_of_mem hm)).1, rfl⟩
  · rintro ⟨row, hrow, hkey⟩
    have hmem := (h.mappings.mem row).mpr ⟨hrow, congrArg Prod.fst hkey⟩
    obtain ⟨m, hm, rfl⟩ := List.mem_map.mp hmem
    exact ⟨m, hm, congrArg Prod.snd hkey⟩

/-! ## The repository -/

theorem nodup_policyFromDomain (id : PolicyId) {ms : List PolicyControlMappingState} :
    ((ms.map (PolicyControlMappingRecord.fromDomain id)).map PolicyControlMappingRecord.key).Nodup ↔
      (ms.map PolicyControlMappingState.controlId).Nodup := by
  have hmap : (ms.map (PolicyControlMappingRecord.fromDomain id)).map PolicyControlMappingRecord.key
      = (ms.map PolicyControlMappingState.controlId).map fun c => (id, c) := by
    rw [List.map_map, List.map_map]
    rfl
  rw [hmap]
  exact List.nodup_map_iff fun a b hab => congrArg Prod.snd hab

/-- rows of one policy are the records of the mappings that are read from them -/
theorem map_policyMappingFromRow (id : PolicyId) (rows : List PolicyControlMappingRecord)
    (h : ∀ r ∈ rows, r.policyId = id ∧ pgTimestamp r.createdAt = r.createdAt) :
    (rows.map policyMappingFromRow).map (PolicyControlMappingRecord.fromDomain id) = rows := by
  rw [List.map_map]
  refine (List.map_congr_left fun r hr => ?_).trans (List.map_id _)
  obtain ⟨hid, hcreated⟩ := h r hr
  obtain ⟨policyId, controlId, createdAt⟩ := r
  show (⟨id, controlId, pgTimestamp createdAt⟩ : PolicyControlMappingRecord) = _
  rw [← hid, show pgTimestamp createdAt = createdAt from hcreated]
  rfl

/-- **What a load finds.** -/
theorem getPolicy_cases (hdb : db.Stored lower) (workspaceId : WorkspaceId) (id : PolicyId) :
    (¬ db.HasPolicy workspaceId id ∧ db.getPolicy workspaceId id = .ok none) ∨
    ∃ p, db.getPolicy workspaceId id = .ok (some p) ∧ p.id = id ∧ db.HasPolicy workspaceId id ∧
      (p.archivedAt = none ↔ db.HasActivePolicy workspaceId id) ∧ db.Loaded p := by
  by_cases hhas : db.HasPolicy workspaceId id
  · right
    have hfound := hhas
    obtain ⟨r, hr, hid, hworkspace⟩ := hfound
    have hget : (db.policies.get? id).filter (fun row => row.workspaceId = workspaceId) = some r := by
      rw [Table.get?_eq_some_iff.mpr ⟨hr, hid⟩]
      exact if_pos (decide_eq_true hworkspace)
    have hsnapshot : Snapshot db.mappings id (db.mappingRows id) :=
      (snapshot_linksOf db.mappings id).perm (List.perm_insertionSort _ _)
    have hrows := map_policyMappingFromRow id (db.mappingRows id) fun m hm =>
      ⟨((hsnapshot.mem m).mp hm).2, hdb.mappings m ((hsnapshot.mem m).mp hm).1⟩
    have hvalid := hdb.policies r hr
    have hdistinct : (((db.mappingRows id).map policyMappingFromRow).map
        PolicyControlMappingState.controlId).Nodup := by
      rw [← nodup_policyFromDomain id, hrows]
      exact hsnapshot.nodup
    obtain ⟨d, hname, hdescription⟩ := hvalid.definition
    have hdefinition : PolicyDefinition.new r.name r.description = .ok d := by
      have := d.new_eq
      rwa [hname, hdescription] at this
    obtain ⟨p, hp, hperm, hpid, hpworkspace, hpdef, hpcreated, hpupdated, hparchived⟩ :=
      Policy.rehydrate_eq r.id r.workspaceId d hvalid.ordered hvalid.archivedLater hdistinct
    have hactive : p.archivedAt = none ↔ db.HasActivePolicy workspaceId id := by
      rw [hparchived]
      constructor
      · intro hnone
        exact ⟨r, hr, hid, hworkspace, hnone⟩
      · rintro ⟨s, hs, hsid, -, hnone⟩
        rw [db.policies.eq_of_key hr hs (hid.trans hsid.symm)]
        exact hnone
    refine ⟨p, ?_, hpid.trans hid, hhas, hactive, ?_, ?_⟩
    · unfold getPolicy
      rw [hget]
      dsimp only
      unfold PolicyRecord.intoDomain
      rw [hdefinition]
      dsimp only
      rw [hp]
      rfl
    · rw [hpid, Table.get?_of_mem hr]
      refine congrArg some ?_
      unfold PolicyRecord.fromDomain
      rw [hpid, hpworkspace, hpdef, hpcreated, hpupdated, hparchived, hvalid.createdAt,
        hvalid.updatedAt, hvalid.archivedAt, hname, hdescription]
    · rw [hpid, hid]
      refine hsnapshot.perm ?_
      have := hperm.map (PolicyControlMappingRecord.fromDomain id)
      rwa [hrows] at this
  · left
    refine ⟨hhas, ?_⟩
    have hget : (db.policies.get? id).filter (fun row => row.workspaceId = workspaceId) = none := by
      rw [Option.filter_eq_none_iff]
      intro r hr hworkspace
      obtain ⟨hmem, hid⟩ := Table.get?_eq_some_iff.mp hr
      exact hhas ⟨r, hmem, hid, of_decide_eq_true hworkspace⟩
    unfold getPolicy
    rw [hget]

/-- a loaded policy that is active has no namesake -/
theorem no_namesake (hdb : db.Stored lower) (h : db.Loaded p) :
    ¬ ∃ r ∈ db.policies.rows, r.id ≠ (PolicyRecord.fromDomain p).id ∧
      SameName lower r (.fromDomain p) := by
  rintro ⟨r, hr, hne, hname⟩
  exact hne (hdb.names r hr _ (Table.get?_mem h.row) hname)

/-- **A loaded policy that is active can be saved with other mappings**; its row stays. -/
theorem savePolicy_replace (hdb : db.Stored lower) (h : db.Loaded p) (hactive : p.archivedAt = none)
    {ms : List PolicyControlMappingState}
    (hms : (ms.map PolicyControlMappingState.controlId).Nodup) :
    ∃ p', p.replaceMappings ms = .ok p' ∧ p'.mappings.Perm ms ∧
      ∀ t, replaceLinks db.mappings p.id
          (p'.mappings.map (PolicyControlMappingRecord.fromDomain p.id)) = some t →
        db.savePolicy lower p' = .ok { db with mappings := t } := by
  obtain ⟨p', hp', hperm, hid, hworkspace, hdefinition, hcreated, hupdated, harchived⟩ :=
    p.replaceMappings_eq hactive hms
  refine ⟨p', hp', hperm, fun t ht => ?_⟩
  have hrow : PolicyRecord.fromDomain p' = .fromDomain p := by
    unfold PolicyRecord.fromDomain
    rw [hid, hworkspace, hdefinition, hcreated, hupdated, harchived]
  unfold savePolicy
  dsimp only
  rw [hrow, if_neg (no_namesake hdb h), hid, ht]
  dsimp only
  rw [Table.upsert_of_mem (Table.get?_mem h.row)]

/-! ## Attaching and detaching -/

/-- the pairs are attached, or detached, and nothing else changes -/
structure PolicyDb.Changes (attach : Bool) (db : PolicyDb) (ps : List (PolicyId × ControlId))
    (db' : PolicyDb) : Prop where
  controls : db'.controls = db.controls
  policies : db'.policies = db.policies
  mappings : match attach with
    | true => ∃ new, Adds db.mappings db'.mappings new ∧
        (∀ k, k ∈ new.map PolicyControlMappingRecord.key ↔ k ∈ ps) ∧
        ∀ m ∈ new, pgTimestamp m.createdAt = m.createdAt
    | false => Drops db.mappings db'.mappings fun k => k ∈ ps

theorem map_newPolicyMappings (clock : Nat → Int) (n : Nat) (ids : List ControlId) :
    (newPolicyMappings clock n ids).map PolicyControlMappingState.controlId = ids := by
  induction ids generalizing n with
  | nil => rfl
  | cons id ids ih =>
    unfold newPolicyMappings
    rw [List.map_cons, ih]

/-- **A loaded policy that is active, with the controls attached to it.** -/
theorem savePolicy_attach (hdb : db.Stored lower) (h : db.Loaded p) (hactive : p.archivedAt = none)
    (clock : Nat → Int) (n : Nat) {ids : List ControlId} (hnodup : ids.Nodup)
    (hfree : ∀ c ∈ ids, ¬ db.IsAttached p.id c) :
    ∃ p' db', p.replaceMappings (p.mappings ++ newPolicyMappings clock n ids) = .ok p' ∧
      db.savePolicy lower p' = .ok db' ∧ db.Changes true (ids.map fun c => (p.id, c)) db' := by
  have hnew := map_newPolicyMappings clock n ids
  have hdistinct : ((p.mappings ++ newPolicyMappings clock n ids).map
      PolicyControlMappingState.controlId).Nodup := by
    rw [List.map_append, hnew, List.nodup_append]
    refine ⟨p.distinct, hnodup, ?_⟩
    rintro c hc c' hc' rfl
    obtain ⟨m, hm, rfl⟩ := List.mem_map.mp hc
    exact hfree _ hc' ((h.isMapped _).mp (policyIsMapped_iff.mpr ⟨m, hm, rfl⟩))
  obtain ⟨p', hp', hperm, hsave⟩ := savePolicy_replace hdb h hactive hdistinct
  obtain ⟨t, ht, hadds⟩ := h.mappings.add
    (p'.mappings.map (PolicyControlMappingRecord.fromDomain p.id))
    ((newPolicyMappings clock n ids).map (PolicyControlMappingRecord.fromDomain p.id))
    (fun x => by rw [(hperm.map _).mem_iff, List.map_append, List.mem_append])
    ((nodup_policyFromDomain p.id).mpr p'.distinct)
    (fun r hr => by
      obtain ⟨m, -, rfl⟩ := List.mem_map.mp hr
      rfl)
  refine ⟨p', _, hp', hsave t ht, rfl, rfl, _, hadds, fun k => ?_, fun m hm => ?_⟩
  · have hkeys : ((newPolicyMappings clock n ids).map (PolicyControlMappingRecord.fromDomain p.id)).map
        PolicyControlMappingRecord.key = ids.map fun c => (p.id, c) := by
      conv_rhs => rw [← hnew]
      rw [List.map_map, List.map_map]
      rfl
    rw [hkeys]
  · obtain ⟨m, -, rfl⟩ := List.mem_map.mp hm
    exact pgTimestamp_idem _

/-- **A loaded policy that is active, with the controls detached from it.** -/
theorem savePolicy_detach (hdb : db.Stored lower) (h : db.Loaded p) (hactive : p.archivedAt = none)
    (ids : List ControlId) :
    ∃ p' db', p.replaceMappings (p.mappings.filter fun m => m.controlId ∉ ids) = .ok p' ∧
      db.savePolicy lower p' = .ok db' ∧ db.Changes false (ids.map fun c => (p.id, c)) db' := by
  obtain ⟨p', hp', hperm, hsave⟩ := savePolicy_replace hdb h hactive
    (p.distinct.sublist (List.filter_sublist.map _) :
      ((p.mappings.filter fun m => m.controlId ∉ ids).map PolicyControlMappingState.controlId).Nodup)
  have hmem : ∀ k : PolicyId × ControlId, k ∈ ids.map (fun c => (p.id, c)) ↔ k.1 = p.id ∧ k.2 ∈ ids := by
    intro k
    rw [List.mem_map]
    constructor
    · rintro ⟨c, hc, rfl⟩
      exact ⟨rfl, hc⟩
    · rintro ⟨hk, hc⟩
      exact ⟨k.2, hc, Prod.ext hk.symm rfl⟩
  obtain ⟨t, ht, hdrops⟩ := h.mappings.drop
    (p'.mappings.map (PolicyControlMappingRecord.fromDomain p.id))
    (fun k => k ∈ ids.map fun c => (p.id, c))
    (fun x => by
      rw [(hperm.map _).mem_iff]
      constructor
      · intro hx
        obtain ⟨m, hm, rfl⟩ := List.mem_map.mp hx
        obtain ⟨hm, hnot⟩ := List.mem_filter.mp hm
        refine ⟨List.mem_map_of_mem hm, fun hc => ?_⟩
        exact of_decide_eq_true hnot ((hmem _).mp hc).2
      · rintro ⟨hx, hnot⟩
        obtain ⟨m, hm, rfl⟩ := List.mem_map.mp hx
        refine List.mem_map_of_mem (List.mem_filter.mpr ⟨hm, decide_eq_true fun hc => ?_⟩)
        exact hnot ((hmem _).mpr ⟨rfl, hc⟩))
    ((nodup_policyFromDomain p.id).mpr p'.distinct)
    (fun k hk => ((hmem k).mp hk).1)
  exact ⟨p', _, hp', hsave t ht, rfl, rfl, hdrops⟩

/-- the mappings of a change, on either side of it -/
def nextMappings (attach : Bool) (p : Policy) (clock : Nat → Int) (n : Nat) (ids : List ControlId) :
    List PolicyControlMappingState :=
  if attach then p.mappings ++ newPolicyMappings clock n ids
  else p.mappings.filter fun m => m.controlId ∉ ids

theorem savePolicy_change (hdb : db.Stored lower) (h : db.Loaded p) (hactive : p.archivedAt = none)
    (attach : Bool) (clock : Nat → Int) (n : Nat) {ids : List ControlId} (hnodup : ids.Nodup)
    (hfree : attach = true → ∀ c ∈ ids, ¬ db.IsAttached p.id c) :
    ∃ p' db', p.replaceMappings (nextMappings attach p clock n ids) = .ok p' ∧
      db.savePolicy lower p' = .ok db' ∧ db.Changes attach (ids.map fun c => (p.id, c)) db' := by
  cases attach with
  | true => exact savePolicy_attach hdb h hactive clock n hnodup (hfree rfl)
  | false => exact savePolicy_detach hdb h hactive ids

namespace PolicyDb.Changes

variable {attach : Bool} {db'' : PolicyDb} {ps qs : List (PolicyId × ControlId)}

theorem stored (h : db.Changes attach ps db') (hdb : db.Stored lower) : db'.Stored lower := by
  refine ⟨h.policies ▸ hdb.policies, h.policies ▸ hdb.names, fun m hm => ?_⟩
  cases attach with
  | true =>
    obtain ⟨new, hadds, -, hnew⟩ := h.mappings
    rcases (hadds m).mp hm with hm | hm
    · exact hdb.mappings m hm
    · exact hnew m hm
  | false => exact hdb.mappings m ((h.mappings m).mp hm).1

theorem congr (h : db.Changes attach ps db') (hps : ∀ k, k ∈ ps ↔ k ∈ qs) :
    db.Changes attach qs db' := by
  refine ⟨h.controls, h.policies, ?_⟩
  cases attach with
  | true =>
    obtain ⟨new, hadds, hkeys, hnew⟩ := h.mappings
    exact ⟨new, hadds, fun k => (hkeys k).trans (hps k), hnew⟩
  | false => exact fun x => (h.mappings x).trans (and_congr_right fun _ => not_congr (hps _))

theorem nil (attach : Bool) (db : PolicyDb) : db.Changes attach [] db := by
  refine ⟨rfl, rfl, ?_⟩
  cases attach with
  | true => exact ⟨[], .nil _, fun k => Iff.rfl, fun m hm => absurd hm List.not_mem_nil⟩
  | false => exact fun x => (and_iff_left List.not_mem_nil).symm

theorem trans (h : db.Changes attach ps db') (h' : db'.Changes attach qs db'') :
    db.Changes attach (ps ++ qs) db'' := by
  refine ⟨h'.controls.trans h.controls, h'.policies.trans h.policies, ?_⟩
  cases attach with
  | true =>
    obtain ⟨new, hadds, hkeys, hnew⟩ := h.mappings
    obtain ⟨more, hadds', hkeys', hmore⟩ := h'.mappings
    refine ⟨new ++ more, hadds.trans hadds', fun k => ?_, fun m hm => ?_⟩
    · rw [List.map_append, List.mem_append, List.mem_append, hkeys, hkeys']
    · rcases List.mem_append.mp hm with hm | hm
      · exact hnew m hm
      · exact hmore m hm
  | false =>
    intro x
    rw [h'.mappings x, h.mappings x]
    dsimp only
    rw [List.mem_append, not_or, and_assoc]

/-- a pair that is not changed is attached as before -/
theorem isAttached_of_notMem (h : db.Changes attach ps db') {id : PolicyId} {c : ControlId}
    (hnot : (id, c) ∉ ps) : db'.IsAttached id c ↔ db.IsAttached id c := by
  cases attach with
  | true =>
    obtain ⟨new, hadds, hkeys, -⟩ := h.mappings
    constructor
    · rintro ⟨m, hm, hkey⟩
      rcases (hadds m).mp hm with hm | hm
      · exact ⟨m, hm, hkey⟩
      · exact absurd ((hkeys _).mp (hkey ▸ List.mem_map_of_mem hm)) hnot
    · rintro ⟨m, hm, hkey⟩
      exact ⟨m, (hadds m).mpr (.inl hm), hkey⟩
  | false =>
    constructor
    · rintro ⟨m, hm, hkey⟩
      exact ⟨m, ((h.mappings m).mp hm).1, hkey⟩
    · rintro ⟨m, hm, hkey⟩
      exact ⟨m, (h.mappings m).mpr ⟨hm, hkey ▸ hnot⟩, hkey⟩

/-- a pair that is changed is attached, or it is not -/
theorem isAttached_of_mem (h : db.Changes attach ps db') {id : PolicyId} {c : ControlId}
    (hmem : (id, c) ∈ ps) : db'.IsAttached id c ↔ attach = true := by
  cases attach with
  | true =>
    obtain ⟨new, hadds, hkeys, -⟩ := h.mappings
    obtain ⟨m, hm, hkey⟩ := List.mem_map.mp ((hkeys _).mpr hmem)
    exact iff_of_true ⟨m, (hadds m).mpr (.inr hm), hkey⟩ rfl
  | false =>
    refine iff_of_false ?_ Bool.false_ne_true
    rintro ⟨m, hm, hkey⟩
    exact ((h.mappings m).mp hm).2 (hkey ▸ hmem)

theorem snapshot (h : db.Changes attach ps db') {id : PolicyId} {rows : List PolicyControlMappingRecord}
    (hrows : Snapshot db.mappings id rows) (hother : ∀ k ∈ ps, k.1 ≠ id) :
    Snapshot db'.mappings id rows := by
  cases attach with
  | true =>
    obtain ⟨new, hadds, hkeys, -⟩ := h.mappings
    exact hrows.of_adds hadds fun r hr => hother _ ((hkeys _).mp (List.mem_map_of_mem hr))
  | false => exact hrows.of_drops h.mappings hother

/-- a policy of which no pair is changed stays loaded -/
theorem loaded (h : db.Changes attach ps db') (hp : db.Loaded p) (hother : ∀ k ∈ ps, k.1 ≠ p.id) :
    db'.Loaded p where
  row := h.policies ▸ hp.row
  mappings := h.snapshot hp.mappings hother

end PolicyDb.Changes

/-- **The loop changes one pair of each of the policies.** -/
theorem changeEach_eq (attach : Bool) (controlId : ControlId) (clock : Nat → Int) (n : Nat)
    {policies : List Policy} (hdb : db.Stored lower) (hload : ∀ q ∈ policies, db.Loaded q)
    (hactive : ∀ q ∈ policies, q.archivedAt = none) (hids : (policies.map Policy.id).Nodup)
    (hfree : attach = true → ∀ q ∈ policies, ¬ db.IsAttached q.id controlId) :
    ∃ db', changeEach lower controlId attach clock n db policies = .ok db' ∧
      db.Changes attach (policies.map fun q => (q.id, controlId)) db' := by
  induction policies generalizing db n with
  | nil => exact ⟨db, rfl, .nil attach db⟩
  | cons q policies ih =>
    rw [List.map_cons, List.nodup_cons] at hids
    obtain ⟨hnew, hids⟩ := hids
    obtain ⟨q', saved, hreplace, hsave, hchanges⟩ := savePolicy_change hdb
      (hload q List.mem_cons_self) (hactive q List.mem_cons_self) attach clock n
      (List.nodup_singleton controlId) fun hattach c hc => by
        rw [List.mem_singleton.mp hc]
        exact hfree hattach q List.mem_cons_self
    have hne : ∀ x ∈ policies, q.id ≠ x.id := by
      intro x hx hc
      exact hnew (hc ▸ List.mem_map_of_mem hx)
    obtain ⟨db', hloop, hchanges'⟩ := ih (n + 1) (hchanges.stored hdb)
      (fun x hx => hchanges.loaded (hload x (List.mem_cons_of_mem _ hx)) fun k hk => by
        rw [List.mem_singleton.mp hk]
        exact hne x hx)
      (fun x hx => hactive x (List.mem_cons_of_mem _ hx)) hids
      fun hattach x hx => by
        rw [hchanges.isAttached_of_notMem fun hc =>
          hne x hx (congrArg Prod.fst (List.mem_singleton.mp hc)).symm]
        exact hfree hattach x (List.mem_cons_of_mem _ hx)
    refine ⟨db', ?_, hchanges.trans hchanges'⟩
    have hnext : (if attach then q.mappings ++ [⟨controlId, clock n⟩]
        else q.mappings.filter fun m => m.controlId ≠ controlId)
        = nextMappings attach q clock n [controlId] := by
      unfold nextMappings
      cases attach with
      | true => rfl
      | false => exact List.filter_congr fun m _ =>
          decide_eq_decide.mpr (not_congr List.mem_singleton.symm)
    unfold changeEach
    dsimp only
    rw [hnext, hreplace]
    dsimp only
    rw [hsave]
    exact hloop

/-! ## Any save -/

/-- nothing that is archived has this id -/
def PolicyDb.Open (db : PolicyDb) (id : PolicyId) : Prop :=
  ∀ r ∈ db.policies.rows, r.id = id → r.archivedAt = none

theorem PolicyDb.Loaded.isOpen (h : db.Loaded p) (hactive : p.archivedAt = none) : db.Open p.id := by
  intro r hr hid
  obtain ⟨hmem, hkey⟩ := Table.get?_eq_some_iff.mp h.row
  rw [db.policies.eq_of_key hr hmem (hid.trans hkey.symm)]
  show p.archivedAt.map pgTimestamp = none
  rw [hactive]
  rfl

/-- what a save that succeeds has found and done -/
theorem savePolicy_ok (h : db.savePolicy lower p = .ok db') :
    (¬ ∃ r ∈ db.policies.rows, r.id ≠ p.id ∧ SameName lower r (.fromDomain p)) ∧
      db'.controls = db.controls ∧ db'.policies = db.policies.upsert (.fromDomain p) ∧
      ∀ x, x ∈ db'.mappings.rows ↔ (x ∈ db.mappings.rows ∧ x.policyId ≠ p.id) ∨
        x ∈ p.mappings.map (PolicyControlMappingRecord.fromDomain p.id) := by
  obtain ⟨t, ht, hmem⟩ := replaceLinks_eq (t := db.mappings) (o := p.id)
    ((nodup_policyFromDomain p.id).mpr p.distinct) fun r hr => by
      obtain ⟨m, -, rfl⟩ := List.mem_map.mp hr
      rfl
  unfold savePolicy at h
  dsimp only at h
  split at h
  · cases h
  · next hname =>
    rw [ht] at h
    cases h
    exact ⟨hname, rfl, rfl, hmem⟩

/-- **Any save keeps what the tables can hold.** -/
theorem savePolicy_stored (hdb : db.Stored lower) (h : db.savePolicy lower p = .ok db') :
    db'.Stored lower := by
  obtain ⟨hname, -, hpolicies, hmappings⟩ := savePolicy_ok h
  have hrow : ∀ r, r ∈ db'.policies.rows ↔
      r = .fromDomain p ∨ (r ∈ db.policies.rows ∧ r.id ≠ p.id) := by
    intro r
    rw [hpolicies, Table.mem_upsert]
    rfl
  refine ⟨fun r hr => ?_, fun r hr s hs hsame => ?_, fun m hm => ?_⟩
  · rcases (hrow r).mp hr with rfl | ⟨hr, -⟩
    · exact PolicyRecord.valid_fromDomain p
    · exact hdb.policies r hr
  · rcases (hrow r).mp hr with rfl | ⟨hr, hrp⟩
    · rcases (hrow s).mp hs with rfl | ⟨hs, hsp⟩
      · rfl
      · obtain ⟨h1, h2, h3, h4⟩ := hsame
        exact absurd ⟨s, hs, hsp, h2, h1, h3.symm, h4.symm⟩ hname
    · rcases (hrow s).mp hs with rfl | ⟨hs, -⟩
      · exact absurd ⟨r, hr, hrp, hsame⟩ hname
      · exact hdb.names r hr s hs hsame
  · rcases (hmappings m).mp hm with ⟨hm, -⟩ | hm
    · exact hdb.mappings m hm
    · obtain ⟨x, -, rfl⟩ := List.mem_map.mp hm
      exact pgTimestamp_idem _

/-- archived policies and their mappings are as they were -/
def PolicyDb.Frozen (db db' : PolicyDb) : Prop :=
  ∀ r ∈ db.policies.rows, r.archivedAt ≠ none → r ∈ db'.policies.rows ∧
    ∀ m : PolicyControlMappingRecord, m.policyId = r.id →
      (m ∈ db'.mappings.rows ↔ m ∈ db.mappings.rows)

theorem PolicyDb.Frozen.refl (db : PolicyDb) : Frozen db db :=
  fun _ hr _ => ⟨hr, fun _ _ => Iff.rfl⟩

theorem PolicyDb.Frozen.trans {db'' : PolicyDb} (h : Frozen db db') (h' : Frozen db' db'') :
    Frozen db db'' := by
  intro r hr harchived
  obtain ⟨hr', hm⟩ := h r hr harchived
  obtain ⟨hr'', hm'⟩ := h' r hr' harchived
  exact ⟨hr'', fun m hid => (hm' m hid).trans (hm m hid)⟩

theorem savePolicy_frozen (hopen : db.Open p.id) (h : db.savePolicy lower p = .ok db') :
    Frozen db db' := by
  obtain ⟨-, -, hpolicies, hmappings⟩ := savePolicy_ok h
  intro r hr harchived
  have hne : r.id ≠ p.id := fun hid => harchived (hopen r hr hid)
  refine ⟨?_, fun m hid => ?_⟩
  · rw [hpolicies]
    exact Table.mem_upsert.mpr (.inr ⟨hr, hne⟩)
  · rw [hmappings m]
    constructor
    · rintro (⟨hm, -⟩ | hm)
      · exact hm
      · obtain ⟨x, -, rfl⟩ := List.mem_map.mp hm
        exact absurd hid.symm hne
    · intro hm
      exact .inl ⟨hm, hid ▸ hne⟩

/-- **A change of pairs of active policies leaves the archived ones alone.** -/
theorem PolicyDb.Changes.frozen {attach : Bool} {ps : List (PolicyId × ControlId)}
    (h : db.Changes attach ps db') (hactive : ∀ k ∈ ps, ∃ w, db.HasActivePolicy w k.1) :
    Frozen db db' := by
  intro r hr harchived
  have hother : ∀ k ∈ ps, k.1 ≠ r.id := by
    intro k hk hid
    obtain ⟨w, s, hs, hsid, -, hnone⟩ := hactive k hk
    rw [db.policies.eq_of_key hr hs (hid.symm.trans hsid.symm)] at harchived
    exact harchived hnone
  refine ⟨h.policies ▸ hr, fun m hid => ?_⟩
  have hrows := snapshot_linksOf db.mappings r.id
  have h1 := hrows.mem m
  have h2 := (h.snapshot hrows hother).mem m
  exact (and_iff_left hid).symm.trans ((h2.symm.trans h1).trans (and_iff_left hid))

/-- what a step keeps -/
structure PolicyDb.Kept (lower : String → String) (db db' : PolicyDb) : Prop where
  stored : db'.Stored lower
  frozen : Frozen db db'

theorem PolicyDb.Kept.refl (hdb : db.Stored lower) : Kept lower db db := ⟨hdb, .refl db⟩

theorem PolicyDb.Kept.save (hdb : db.Stored lower) (hopen : db.Open p.id)
    (hsave : db.savePolicy lower p = .ok db') : Kept lower db db' :=
  ⟨savePolicy_stored hdb hsave, savePolicy_frozen hopen hsave⟩

/-- a policy whose mappings were replaced is active, and has the same id -/
theorem replaceMappings_same {p' : Policy} {ms : List PolicyControlMappingState}
    (h : p.replaceMappings ms = .ok p') : p.archivedAt = none ∧ p'.archivedAt = none ∧ p'.id = p.id := by
  obtain ⟨hactive, hms⟩ := Policy.replaceMappings_ok h
  obtain ⟨p'', hp'', -, hid, -, -, -, -, harchived⟩ := p.replaceMappings_eq hactive hms
  rw [h] at hp''
  cases hp''
  exact ⟨hactive, harchived.trans hactive, hid⟩

end

end Proofplane
