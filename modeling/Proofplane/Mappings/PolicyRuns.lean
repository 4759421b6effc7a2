import Proofplane.Mappings.PolicyRelation

/-!
# Attaching from both sides

Policies are created, replaced and archived, controls change, and pairs are attached and detached from both
sides, in any order with any requests.

* `policyMappingStep`            the commands in any order, and any change to the controls between them;
* `policyMappingStep_kept`       **every step leaves archived policies alone**;
* `changes_inTurn`               pairs that are changed one after the other;
* `policy_control_relation`      **one relation, two directions**.
-/

namespace Proofplane
open Base PolicyDb

/-! ## Runs -/

inductive PolicyMappingEvent
  | controls (rows : Controls)
  | create (id : PolicyId) (clock : Nat → Int) (command : CreatePolicy)
  | replace (now : Int) (command : ReplacePolicy)
  | archive (now : Int) (inProgress : Bool) (connection : AgentConnectionContext) (policyId : PolicyId)
  | changeMappings (clock : Nat → Int) (connection : AgentConnectionContext) (policyId : PolicyId)
    (requested : List ControlId) (attach : Bool)
  | changeControlPolicies (clock : Nat → Int) (connection : AgentConnectionContext)
    (controlId : ControlId) (requested : List PolicyId) (attach : Bool)

/-- one event; the id of a new policy is one that no policy has -/
def policyMappingStep (lower : String → String) (db : PolicyDb) : PolicyMappingEvent → Option PolicyDb
  | .controls rows => some { db with controls := rows }
  | .create id clock command =>
    if (db.policies.get? id).isSome then none else some (createPolicy lower db id clock command).2
  | .replace now command => some (replacePolicy lower db now command).2
  | .archive now inProgress connection policyId =>
    some (archivePolicy lower db now inProgress connection policyId).2
  | .changeMappings clock connection policyId requested attach =>
    some (changeMappings lower db clock connection policyId requested attach).2
  | .changeControlPolicies clock connection controlId requested attach =>
    some (changeControlPolicies lower db clock connection controlId requested attach).2

/-- the database before the first control -/
def noPolicies : PolicyDb where
  controls := Table.empty
  policies := Table.empty
  mappings := Table.empty

/-! ## What every step does -/

section
variable {lower : String → String} {db db' : PolicyDb}

theorem stored_noPolicies : noPolicies.Stored lower where
  policies := fun _ hr => absurd hr List.not_mem_nil
  names := fun _ hr => absurd hr List.not_mem_nil
  mappings := fun _ hm => absurd hm List.not_mem_nil

/-- a function around a unit of work keeps what it must if the change does -/
theorem PolicyWork.kept {ρ α ε β : Type} {connection : AgentConnectionContext} {unavailable : ε}
    {repository : RepositoryError → ε} {rejected : ρ → ε} {answer : α → β} {found clean : Prop}
    {rejection : ρ} {Effect : PolicyDb → Prop}
    {work : Except RepositoryError (PolicyOutcome ρ α × PolicyDb)} (hdb : db.Stored lower)
    (h : PolicyWork db found clean rejection Effect work)
    (heffect : found ∧ clean → ∀ db', Effect db' → Kept lower db db') :
    Kept lower db (settlePolicy connection db unavailable repository rejected answer work).2 := by
  unfold settlePolicy
  split
  · cases h with
    | unavailable hnot => exact .refl hdb
    | rejected _ hdirty => exact .refl hdb
    | changed hall a db' hchanged => exact heffect hall db' hchanged
  · exact .refl hdb

theorem changeMappings_kept (hdb : db.Stored lower) (clock : Nat → Int)
    (connection : AgentConnectionContext) (policyId : PolicyId) (ids : List ControlId) (attach : Bool) :
    Kept lower db (changeMappings lower db clock connection policyId ids attach).2 := by
  refine (changeMappings_work hdb clock connection policyId ids attach).kept hdb
    fun hfound db' hchanges => ⟨hchanges.stored hdb, hchanges.frozen fun k hk => ?_⟩
  obtain ⟨c, -, rfl⟩ := List.mem_map.mp hk
  exact ⟨_, hfound.1⟩

theorem changeControlPolicies_kept (hdb : db.Stored lower) (clock : Nat → Int)
    (connection : AgentConnectionContext) (controlId : ControlId) (ids : List PolicyId)
    (attach : Bool) :
    Kept lower db (changeControlPolicies lower db clock connection controlId ids attach).2 := by
  refine (changeControlPolicies_work hdb clock connection controlId ids attach).kept hdb
    fun hfound db' hchanges => ⟨hchanges.stored hdb, hchanges.frozen fun k hk => ?_⟩
  obtain ⟨id, hid, rfl⟩ := List.mem_map.mp hk
  exact ⟨_, hfound.2.1 id hid⟩

theorem createPolicy_kept (hdb : db.Stored lower) {id : PolicyId} (hfresh : db.policies.get? id = none) (clock : Nat → Int)
    (command : CreatePolicy) : Kept lower db (createPolicy lower db id clock command).2 := by
  unfold createPolicy
  split
  · split
    · exact .refl hdb
    · split
      · exact .refl hdb
      · dsimp only
        split
        · exact .refl hdb
        · split
          · exact .refl hdb
          · next p hreplace =>
            split
            · exact .refl hdb
            · next saved hsave =>
              have hid : p.id = id := (replaceMappings_same hreplace).2.2
              have hopen : db.Open p.id := by
                intro r hr hrid
                exact absurd (hrid.trans hid) (Table.get?_eq_none_iff.mp hfresh r hr)
              split
              · exact .refl hdb
              · exact .save hdb hopen hsave
  · exact .refl hdb

theorem replacePolicy_kept (hdb : db.Stored lower) (now : Int) (command : ReplacePolicy) :
    Kept lower db (replacePolicy lower db now command).2 := by
  unfold replacePolicy
  split
  · split
    · exact .refl hdb
    · rcases getPolicy_cases hdb command.connection.workspaceId command.policyId with
        ⟨-, hget⟩ | ⟨p, hget, -, -, -, hload⟩
      · rw [hget]
        exact .refl hdb
      · rw [hget]
        dsimp only
        split
        · exact .refl hdb
        · next hnone =>
          split
          · exact .refl hdb
          · next p' hreplace =>
            have hid : p'.id = p.id := by
              unfold Policy.replace at hreplace
              split at hreplace
              · cases hreplace
              · split at hreplace
                · cases hreplace
                · cases hreplace
                  rfl
            have hopen := hload.isOpen (Option.not_isSome_iff_eq_none.mp hnone)
            split
            · exact .refl hdb
            · next saved hsave =>
              split
              · exact .save hdb (hid ▸ hopen) hsave
              · exact .save hdb (hid ▸ hopen) hsave
  · exact .refl hdb

theorem archivePolicy_kept (hdb : db.Stored lower) (now : Int) (inProgress : Bool)
    (connection : AgentConnectionContext) (policyId : PolicyId) :
    Kept lower db (archivePolicy lower db now inProgress connection policyId).2 := by
  unfold archivePolicy
  split
  · rcases getPolicy_cases hdb connection.workspaceId policyId with
      ⟨-, hget⟩ | ⟨p, hget, -, -, -, hload⟩
    · rw [hget]
      exact .refl hdb
    · rw [hget]
      dsimp only
      split
      · exact .refl hdb
      · next hnone =>
        split
        · exact .refl hdb
        · split
          · exact .refl hdb
          · next p' harchive =>
            have hid : p'.id = p.id := by
              unfold Policy.archive at harchive
              split at harchive
              · cases harchive
              · split at harchive
                · cases harchive
                · cases harchive
                  rfl
            have hopen := hload.isOpen (Option.not_isSome_iff_eq_none.mp hnone)
            split
            · exact .refl hdb
            · split
              · exact .refl hdb
              · next saved hsave => exact .save hdb (hid ▸ hopen) hsave
  · exact .refl hdb

/-- **Every step keeps what the tables can hold, and leaves archived policies alone.** -/
theorem policyMappingStep_kept (hdb : db.Stored lower) {event : PolicyMappingEvent}
    (h : policyMappingStep lower db event = some db') : Kept lower db db' := by
  cases event with
  | controls rows =>
    cases h
    exact ⟨⟨hdb.policies, hdb.names, hdb.mappings⟩, fun r hr _ => ⟨hr, fun m _ => Iff.rfl⟩⟩
  | create id clock command =>
    unfold policyMappingStep at h
    dsimp only at h
    split at h
    · cases h
    · next hfresh =>
      cases h
      exact createPolicy_kept hdb (Option.not_isSome_iff_eq_none.mp hfresh) clock command
  | replace now command =>
    cases h
    exact replacePolicy_kept hdb now command
  | archive now inProgress connection policyId =>
    cases h
    exact archivePolicy_kept hdb now inProgress connection policyId
  | changeMappings clock connection policyId requested attach =>
    cases h
    exact changeMappings_kept hdb clock connection policyId requested attach
  | changeControlPolicies clock connection controlId requested attach =>
    cases h
    exact changeControlPolicies_kept hdb clock connection controlId requested attach

/-! ## Pairs in turn -/

/-- **Different pairs can be changed one after the other.** -/
theorem changes_inTurn (connection : AgentConnectionContext) (attach : Bool) :
    InTurn (PolicyDb.Stored lower) (fun p q : PolicyId × ControlId => p ≠ q)
      (Changeable connection attach) (PolicyDb.Changes attach) where
  keep := fun db ps db' hdb hchanges => hchanges.stored hdb
  nil := fun db => .nil attach db
  cons := fun db p db' ps db'' h h' => h.trans h'
  apart := by
    intro db p db' q hchanges hne
    have hpair : db'.IsAttached q.1 q.2 ↔ db.IsAttached q.1 q.2 :=
      hchanges.isAttached_of_notMem fun hq => hne (List.mem_singleton.mp hq).symm
    rw [changeable_iff, changeable_iff]
    unfold Offends HasActivePolicy
    rw [hchanges.policies, hchanges.controls, hpair]

/-- **What was attached can be detached, and nothing of it is left.** -/
theorem PolicyDb.Changes.undo {connection : AgentConnectionContext} {ps : List (PolicyId × ControlId)}
    (hfit : ∀ p ∈ ps, Changeable connection true db p) (h : db.Changes true ps db') :
    (∀ p ∈ ps, Changeable connection false db' p) ∧
      ∀ db'', db'.Changes false ps db'' → ∀ m, m ∈ db''.mappings.rows ↔ m ∈ db.mappings.rows := by
  constructor
  · intro p hp
    have hfit := hfit p hp
    refine ⟨hfit.allowed, ?_, ?_, ?_⟩
    · unfold HasActivePolicy
      rw [h.policies]
      exact hfit.policy
    · rw [h.controls]
      exact hfit.control
    · exact (h.isAttached_of_mem hp).trans (iff_of_true rfl rfl)
  · intro db'' h'
    obtain ⟨new, hadds, hkeys, -⟩ := h.mappings
    refine hadds.drops h'.mappings (fun r hr => (hkeys _).mp (List.mem_map_of_mem hr)) fun r hr hmem => ?_
    exact Bool.false_ne_true ((hfit _ hmem).pair.mp ⟨r, hr, rfl⟩).symm

end

/-! ## The claims of both sides -/

/-- the pairs of policies and controls -/
def PolicyDb.pairs (db : PolicyDb) : List (PolicyId × ControlId) := db.mappings.rows.map (·.key)

def SameAttachments (db db' : PolicyDb) : Prop := ∀ k, k ∈ db.pairs ↔ k ∈ db'.pairs

section
variable (lower : String → String) (db : PolicyDb) (connection : AgentConnectionContext)

/-- the requested controls of one policy, changed at one go and control by control -/
structure PolicyChange (policyId : PolicyId) (ids : List ControlId) (attach : Bool) (clock : Nat → Int)
    (clocks : ControlId → Nat → Int) : Prop where
  succeeds : (∃ t, settled (changeMappings lower db clock connection policyId ids attach) = some t) ↔
    ids.Nodup ∧ ∀ c ∈ ids, Changeable connection attach db (policyId, c)
  changes : ∀ t, settled (changeMappings lower db clock connection policyId ids attach) = some t →
    db.Changes attach (ids.map fun c => (policyId, c)) t
  refuses : settled (changeMappings lower db clock connection policyId ids attach) = none →
    (changeMappings lower db clock connection policyId ids attach).2 = db
  reports : ∀ u i, (changeMappings lower db clock connection policyId ids attach).1
      = .error (.rejected u i) →
    (∀ c, c ∈ u ↔ c ∈ ids ∧ ¬ db.controls.Has connection.workspaceId c) ∧
    ∀ c, c ∈ i ↔ c ∈ ids ∧ db.controls.Has connection.workspaceId c ∧ Offends attach db policyId c
  inTurn : ids.Nodup →
    ((∃ t, settled (changeMappings lower db clock connection policyId ids attach) = some t) ↔
      ∃ t, run (fun db c => settled
        (changeControlPolicies lower db (clocks c) connection c [policyId] attach)) db ids = some t)
  same : ids.Nodup → ∀ t u,
    settled (changeMappings lower db clock connection policyId ids attach) = some t →
    run (fun db c => settled
      (changeControlPolicies lower db (clocks c) connection c [policyId] attach)) db ids = some u →
    SameAttachments t u

/-- the requested policies of one control -/
structure ControlChange (controlId : ControlId) (ids : List PolicyId) (attach : Bool)
    (clock : Nat → Int) : Prop where
  succeeds :
    (∃ t, settled (changeControlPolicies lower db clock connection controlId ids attach) = some t) ↔
      ids.Nodup ∧ ∀ id ∈ ids, Changeable connection attach db (id, controlId)
  changes : ∀ t,
    settled (changeControlPolicies lower db clock connection controlId ids attach) = some t →
    db.Changes attach (ids.map fun id => (id, controlId)) t
  refuses : settled (changeControlPolicies lower db clock connection controlId ids attach) = none →
    (changeControlPolicies lower db clock connection controlId ids attach).2 = db
  reports : ∀ u a i, (changeControlPolicies lower db clock connection controlId ids attach).1
      = .error (.rejected u a i) →
    (∀ id, id ∈ u ↔ id ∈ ids ∧ ¬ db.HasPolicy connection.workspaceId id) ∧
    (∀ id, id ∈ a ↔ id ∈ ids ∧ db.HasPolicy connection.workspaceId id ∧
      ¬ db.HasActivePolicy connection.workspaceId id) ∧
    ∀ id, id ∈ i ↔ id ∈ ids ∧ db.HasActivePolicy connection.workspaceId id ∧
      Offends attach db id controlId

end

section
variable {lower : String → String} {db db' : PolicyDb} {connection : AgentConnectionContext}

theorem PolicyDb.Changes.mem_pairs {attach : Bool} {ps : List (PolicyId × ControlId)}
    (h : db.Changes attach ps db') (k : PolicyId × ControlId) :
    k ∈ db'.pairs ↔ if k ∈ ps then attach = true else k ∈ db.pairs := by
  have hpair : ∀ d : PolicyDb, k ∈ d.pairs ↔ d.IsAttached k.1 k.2 := fun d => List.mem_map
  rw [hpair, hpair]
  by_cases hk : k ∈ ps
  · rw [if_pos hk]
    exact h.isAttached_of_mem hk
  · rw [if_neg hk]
    exact h.isAttached_of_notMem hk

/-- the pairs of one policy fit if the policy is active, and each control can be changed -/
theorem forall_policy_changeable {attach : Bool} {policyId : PolicyId} {ids : List ControlId}
    (hne : ids ≠ []) (hnodup : ids.Nodup) :
    (∀ p ∈ ids.map fun c => (policyId, c), Changeable connection attach db p) ↔
      connection.permissions.has .writeControls ∧ db.HasActivePolicy connection.workspaceId policyId ∧
        (∀ c ∈ ids, db.controls.Has connection.workspaceId c) ∧
        (∀ c ∈ ids, ¬ Offends attach db policyId c) ∧ ids.Nodup := by
  simp only [List.forall_mem_map, changeable_iff]
  constructor
  · intro h
    obtain ⟨c, hc⟩ := List.exists_mem_of_ne_nil ids hne
    exact ⟨(h c hc).1, (h c hc).2.1, fun c hc => (h c hc).2.2.1, fun c hc => (h c hc).2.2.2, hnodup⟩
  · rintro ⟨hallowed, hpolicy, hcontrols, hfree, -⟩ c hc
    exact ⟨hallowed, hpolicy, hcontrols c hc, hfree c hc⟩

theorem forall_control_changeable {attach : Bool} {controlId : ControlId} {ids : List PolicyId}
    (hne : ids ≠ []) (hnodup : ids.Nodup) :
    (∀ p ∈ ids.map fun id => (id, controlId), Changeable connection attach db p) ↔
      connection.permissions.has .writeControls ∧ db.controls.Has connection.workspaceId controlId ∧
        (∀ id ∈ ids, db.HasActivePolicy connection.workspaceId id) ∧
        (∀ id ∈ ids, ¬ Offends attach db id controlId) ∧ ids.Nodup := by
  simp only [List.forall_mem_map, changeable_iff]
  constructor
  · intro h
    obtain ⟨id, hid⟩ := List.exists_mem_of_ne_nil ids hne
    exact ⟨(h id hid).1, (h id hid).2.2.1, fun id hid => (h id hid).2.1,
      fun id hid => (h id hid).2.2.2, hnodup⟩
  · rintro ⟨hallowed, hcontrol, hpolicies, hfree, -⟩ id hid
    exact ⟨hallowed, hpolicies id hid, hcontrol, hfree id hid⟩

theorem changeMappings_batch (hdb : db.Stored lower) (clock : Nat → Int)
    (connection : AgentConnectionContext) (policyId : PolicyId) {ids : List ControlId} (hne : ids ≠ [])
    (hnodup : ids.Nodup) (attach : Bool) :
    Batch (Changeable connection attach) (PolicyDb.Changes attach) db (ids.map fun c => (policyId, c))
      (changeMappings lower db clock connection policyId ids attach) :=
  (changeMappings_work hdb clock connection policyId ids attach).batch
    (forall_policy_changeable hne hnodup)

theorem changeControlPolicies_batch (hdb : db.Stored lower) (clock : Nat → Int)
    (connection : AgentConnectionContext) (controlId : ControlId) {ids : List PolicyId} (hne : ids ≠ [])
    (hnodup : ids.Nodup) (attach : Bool) :
    Batch (Changeable connection attach) (PolicyDb.Changes attach) db (ids.map fun id => (id, controlId))
      (changeControlPolicies lower db clock connection controlId ids attach) :=
  (changeControlPolicies_work hdb clock connection controlId ids attach).batch
    (forall_control_changeable hne hnodup)

theorem policyChange (hdb : db.Stored lower) (policyId : PolicyId) {ids : List ControlId}
    (hne : ids ≠ []) (attach : Bool) (clock : Nat → Int) (clocks : ControlId → Nat → Int) :
    PolicyChange lower db connection policyId ids attach clock clocks := by
  have hwork := changeMappings_work hdb clock connection policyId ids attach
  have hclean : ∀ t, settled (changeMappings lower db clock connection policyId ids attach) = some t →
      ids.Nodup := fun t ht => (hwork.isClean ht).2.2
  have hbatch := fun hnodup : ids.Nodup =>
    changeMappings_batch hdb clock connection policyId hne hnodup attach
  have hone : ∀ db (c : ControlId), db.Stored lower →
      Batch (fun db c => Changeable connection attach db (policyId, c))
        (fun db cs t => db.Changes attach (cs.map fun c => (policyId, c)) t) db [c]
        (changeControlPolicies lower db (clocks c) connection c [policyId] attach) :=
    fun db c hdb => Batch.of_map (fun c => (policyId, c)) [c]
      (changeControlPolicies_batch hdb (clocks c) connection c (List.cons_ne_nil _ _)
        (List.nodup_singleton _) attach)
  have hturn : ids.Nodup → _ := fun hnodup =>
    ((changes_inTurn connection attach).of_map fun c : ControlId => (policyId, c)).batch hone hdb
      (hnodup.imp fun hne hc => hne (congrArg Prod.snd hc)) ((hbatch hnodup).of_map _ _)
  refine
    { succeeds := ⟨fun ⟨t, ht⟩ => ?_, fun ⟨hnodup, hfit⟩ => ?_⟩
      changes := fun t ht => ((hbatch (hclean t ht)).fits t ht).2
      refuses := hwork.refuses
      reports := fun u i hr => ?_
      inTurn := fun hnodup => (hturn hnodup).1
      same := fun hnodup t u ht hu k => ?_ }
  · exact ⟨hclean t ht, List.forall_mem_map.mp ((hbatch (hclean t ht)).fits t ht).1⟩
  · exact (hbatch hnodup).takes (List.forall_mem_map.mpr hfit)
  · rcases hwork.reports hr with he | he
    · cases he
    · cases he
      refine ⟨fun c => ?_, fun c => ?_⟩
      · rw [List.mem_filter, decide_eq_true_eq]
      · rw [List.mem_filter, decide_eq_true_eq]
  · obtain ⟨ht, hu⟩ := (hturn hnodup).2 t u ht hu
    rw [ht.mem_pairs, hu.mem_pairs]

theorem controlChange (hdb : db.Stored lower) (controlId : ControlId) {ids : List PolicyId}
    (hne : ids ≠ []) (attach : Bool) (clock : Nat → Int) :
    ControlChange lower db connection controlId ids attach clock := by
  have hwork := changeControlPolicies_work hdb clock connection controlId ids attach
  have hclean : ∀ t,
      settled (changeControlPolicies lower db clock connection controlId ids attach) = some t →
      ids.Nodup := fun t ht => (hwork.isClean ht).2.2
  have hbatch := fun hnodup : ids.Nodup =>
    changeControlPolicies_batch hdb clock connection controlId hne hnodup attach
  have hperm : (policyLockOrder ids).Perm ids := List.perm_insertionSort _ ids
  refine
    { succeeds := ⟨fun ⟨t, ht⟩ => ?_, fun ⟨hnodup, hfit⟩ => ?_⟩
      changes := fun t ht => ((hbatch (hclean t ht)).fits t ht).2
      refuses := hwork.refuses
      reports := fun u a i hr => ?_ }
  · exact ⟨hclean t ht, List.forall_mem_map.mp ((hbatch (hclean t ht)).fits t ht).1⟩
  · exact (hbatch hnodup).takes (List.forall_mem_map.mpr hfit)
  · rcases hwork.reports hr with he | he
    · cases he
    · cases he
      refine ⟨fun id => ?_, fun id => ?_, fun id => ?_⟩
      · exact List.mem_filter.trans (by rw [decide_eq_true_eq, hperm.mem_iff])
      · exact List.mem_filter.trans (by rw [decide_eq_true_eq, hperm.mem_iff])
      · exact List.mem_filter.trans (by rw [decide_eq_true_eq, hperm.mem_iff])

/-- **Attaching and then detaching** from the side of a policy, and from that of a control. -/
theorem changeMappings_undone (hdb : db.Stored lower) (policyId : PolicyId) {ids : List ControlId}
    (hne : ids ≠ []) (clock later : Nat → Int) {t : PolicyDb}
    (ht : settled (changeMappings lower db clock connection policyId ids true) = some t) :
    ∃ u, settled (changeMappings lower t later connection policyId ids false) = some u ∧
      ∀ m, m ∈ u.mappings.rows ↔ m ∈ db.mappings.rows := by
  have hnodup := ((changeMappings_work hdb clock connection policyId ids true).isClean ht).2.2
  obtain ⟨hfit, hchanges⟩ :=
    (changeMappings_batch hdb clock connection policyId hne hnodup true).fits t ht
  obtain ⟨hback, hleft⟩ := hchanges.undo hfit
  have hbatch := changeMappings_batch (hchanges.stored hdb) later connection policyId hne hnodup false
  obtain ⟨u, hu⟩ := hbatch.takes hback
  exact ⟨u, hu, hleft u (hbatch.fits u hu).2⟩

theorem changeControlPolicies_undone (hdb : db.Stored lower) (controlId : ControlId)
    {ids : List PolicyId} (hne : ids ≠ []) (clock later : Nat → Int) {t : PolicyDb}
    (ht : settled (changeControlPolicies lower db clock connection controlId ids true) = some t) :
    ∃ u, settled (changeControlPolicies lower t later connection controlId ids false) = some u ∧
      ∀ m, m ∈ u.mappings.rows ↔ m ∈ db.mappings.rows := by
  have hnodup := ((changeControlPolicies_work hdb clock connection controlId ids true).isClean ht).2.2
  obtain ⟨hfit, hchanges⟩ :=
    (changeControlPolicies_batch hdb clock connection controlId hne hnodup true).fits t ht
  obtain ⟨hback, hleft⟩ := hchanges.undo hfit
  have hbatch :=
    changeControlPolicies_batch (hchanges.stored hdb) later connection controlId hne hnodup false
  obtain ⟨u, hu⟩ := hbatch.takes hback
  exact ⟨u, hu, hleft u (hbatch.fits u hu).2⟩

end

/-- three controls, and one policy that is attached to the last of them, on the new year of 2026 -/
def firstPolicyRun : List PolicyMappingEvent :=
  [.controls (((Table.empty.upsert ⟨⟨5⟩, ⟨1⟩, "AC-1", "Access", "Access control"⟩).upsert
      ⟨⟨6⟩, ⟨1⟩, "AC-2", "Accounts", "Account management"⟩).upsert ⟨⟨8⟩, ⟨1⟩, "AC-3", "Owners", "Ownership"⟩),
    .create ⟨7⟩ (fun _ => 1767225600000000000) ⟨⟨⟨2⟩, ⟨3⟩, ⟨1⟩, .all⟩, "Access policy", none, []⟩,
    .changeMappings (fun _ => 1767225600000000000) ⟨⟨2⟩, ⟨3⟩, ⟨1⟩, .all⟩ ⟨7⟩ [⟨8⟩] true]

def firstPolicyDb : PolicyDb := (run (policyMappingStep id) noPolicies firstPolicyRun).getD noPolicies

end Proofplane
