import Proofplane.Mappings.PolicyStore

/-!
# One relation between policies and controls

Whether a change comes from the side of the policy or from that of a control, it takes a batch of pairs: all
of them if each can be changed and none is named twice, or none.

* `PolicyWork`               what a unit of work may find, and the function around it;
* `Changeable`               the pairs that can be attached, or detached;
* `changeMappings_work`, `changeControlPolicies_work`     **what the two functions find**;
* `changes_inTurn`           pairs that are changed one after the other.
-/

namespace Proofplane
open Base PolicyDb

/-! ## Units of work on pairs -/

/-- what a unit of work may find: its owner missing, something to reject, or nothing of the kind -/
inductive PolicyWork {ρ α : Type} (db : PolicyDb) (found clean : Prop) (rejection : ρ)
    (Effect : PolicyDb → Prop) : Except RepositoryError (PolicyOutcome ρ α × PolicyDb) → Prop
  | unavailable (h : ¬ found) : PolicyWork db found clean rejection Effect (.ok (.unavailable, db))
  | rejected (h : found) (hdirty : ¬ clean) :
    PolicyWork db found clean rejection Effect (.ok (.rejected rejection, db))
  | changed (h : found ∧ clean) (answer : α) (db' : PolicyDb) (heffect : Effect db') :
    PolicyWork db found clean rejection Effect (.ok (.changed answer, db'))

section
variable {ρ α ε β γ : Type} {db : PolicyDb} {found clean : Prop} {rejection : ρ}
  {connection : AgentConnectionContext} {unavailable : ε} {repository : RepositoryError → ε}
  {rejected : ρ → ε} {answer : α → β} {work : Except RepositoryError (PolicyOutcome ρ α × PolicyDb)}

/-- **A function around such work is a batch**, where the elements fit if there is nothing to reject. -/
theorem PolicyWork.batch {Fit : PolicyDb → γ → Prop} {Effect : PolicyDb → List γ → PolicyDb → Prop}
    {cs : List γ} (h : PolicyWork db found clean rejection (Effect db cs) work)
    (hfit : (∀ c ∈ cs, Fit db c) ↔ connection.permissions.has .writeControls ∧ found ∧ clean) :
    Batch Fit Effect db cs
      (settlePolicy connection db unavailable repository rejected answer work) := by
  unfold settlePolicy
  by_cases hallowed : connection.permissions.has .writeControls
  · rw [if_pos hallowed]
    cases h with
    | unavailable hnot =>
      refine ⟨fun hc => absurd (hfit.mp hc).2.1 hnot, fun t ht => ?_, fun _ => rfl⟩
      cases ht
    | rejected _ hdirty =>
      refine ⟨fun hc => absurd (hfit.mp hc).2.2 hdirty, fun t ht => ?_, fun _ => rfl⟩
      cases ht
    | changed hall a db' heffect =>
      refine ⟨fun _ => ⟨db', rfl⟩, fun t ht => ?_, fun hc => ?_⟩
      · cases ht
        exact ⟨hfit.mpr ⟨hallowed, hall⟩, heffect⟩
      · cases hc
  · rw [if_neg hallowed]
    refine ⟨fun hc => absurd (hfit.mp hc).1 hallowed, fun t ht => ?_, fun _ => rfl⟩
    cases ht

/-- what succeeds has found nothing to reject -/
theorem PolicyWork.isClean {Effect : PolicyDb → Prop}
    (h : PolicyWork db found clean rejection Effect work) {t : PolicyDb}
    (ht : settled (settlePolicy connection db unavailable repository rejected answer work) = some t) :
    clean := by
  unfold settlePolicy at ht
  by_cases hallowed : connection.permissions.has .writeControls
  · rw [if_pos hallowed] at ht
    cases h with
    | unavailable hnot => cases ht
    | rejected _ hdirty => cases ht
    | changed hall a db' heffect => exact hall.2
  · rw [if_neg hallowed] at ht
    cases ht

/-- what is refused changes nothing -/
theorem PolicyWork.refuses {Effect : PolicyDb → Prop}
    (h : PolicyWork db found clean rejection Effect work)
    (ht : settled (settlePolicy connection db unavailable repository rejected answer work) = none) :
    (settlePolicy connection db unavailable repository rejected answer work).2 = db := by
  unfold settlePolicy at ht ⊢
  by_cases hallowed : connection.permissions.has .writeControls
  · rw [if_pos hallowed] at ht ⊢
    cases h with
    | unavailable hnot => rfl
    | rejected _ hdirty => rfl
    | changed hall a db' heffect => cases ht
  · rw [if_neg hallowed]

/-- an error is that of something missing, or the rejection -/
theorem PolicyWork.reports {Effect : PolicyDb → Prop}
    (h : PolicyWork db found clean rejection Effect work) {e : ε}
    (he : (settlePolicy connection db unavailable repository rejected answer work).1 = .error e) :
    e = unavailable ∨ e = rejected rejection := by
  unfold settlePolicy at he
  by_cases hallowed : connection.permissions.has .writeControls
  · rw [if_pos hallowed] at he
    cases h with
    | unavailable hnot =>
      cases he
      exact .inl rfl
    | rejected _ hdirty =>
      cases he
      exact .inr rfl
    | changed hall a db' heffect => cases he
  · rw [if_neg hallowed] at he
    cases he
    exact .inl rfl

end

/-- a pair that a connection can attach, or detach -/
structure Changeable (connection : AgentConnectionContext) (attach : Bool) (db : PolicyDb)
    (p : PolicyId × ControlId) : Prop where
  allowed : connection.permissions.has .writeControls
  policy : db.HasActivePolicy connection.workspaceId p.1
  control : db.controls.Has connection.workspaceId p.2
  pair : db.IsAttached p.1 p.2 ↔ attach = false

/-- the pair is attached already where it should be attached, or it is not where it should be detached -/
def Offends (attach : Bool) (db : PolicyDb) (policyId : PolicyId) (controlId : ControlId) : Prop :=
  db.IsAttached policyId controlId ↔ attach = true

instance (attach : Bool) (db : PolicyDb) (p : PolicyId) (c : ControlId) :
    Decidable (Offends attach db p c) :=
  inferInstanceAs (Decidable (_ ↔ _))

theorem not_offends_iff {attach : Bool} {db : PolicyDb} {p : PolicyId} {c : ControlId} :
    ¬ Offends attach db p c ↔ (db.IsAttached p c ↔ attach = false) := by
  unfold Offends
  cases attach with
  | true => simp
  | false => simp

theorem changeable_iff {connection : AgentConnectionContext} {attach : Bool} {db : PolicyDb}
    {p : PolicyId × ControlId} :
    Changeable connection attach db p ↔ connection.permissions.has .writeControls ∧
      db.HasActivePolicy connection.workspaceId p.1 ∧ db.controls.Has connection.workspaceId p.2 ∧
      ¬ Offends attach db p.1 p.2 := by
  rw [not_offends_iff]
  exact ⟨fun h => ⟨h.allowed, h.policy, h.control, h.pair⟩, fun h => ⟨h.1, h.2.1, h.2.2.1, h.2.2.2⟩⟩

section
variable {lower : String → String} {db : PolicyDb}

/-- a mapping of an active policy to a control of the workspace can be read -/
theorem getControlMapping_eq {workspaceId : WorkspaceId} {policyId : PolicyId} {controlId : ControlId}
    (hpolicy : db.HasActivePolicy workspaceId policyId) (hcontrol : db.controls.Has workspaceId controlId)
    (hattached : db.IsAttached policyId controlId) :
    ∃ m, db.getControlMapping workspaceId policyId controlId = some m := by
  obtain ⟨r, hr, hrid, hrworkspace, hactive⟩ := hpolicy
  obtain ⟨c, hc, hcid, hcworkspace⟩ := hcontrol
  obtain ⟨m, hm, hkey⟩ := hattached
  refine ⟨⟨m.policyId, c, m.createdAt⟩, ?_⟩
  have hpolicy : db.readPolicy workspaceId policyId = some r := by
    unfold readPolicy
    rw [Table.get?_eq_some_iff.mpr ⟨hr, hrid⟩]
    exact if_pos (decide_eq_true ⟨hrworkspace, hactive⟩)
  have hcontrol : (db.controls.get? controlId).filter (fun row => row.workspaceId = workspaceId)
      = some c := by
    rw [Table.get?_eq_some_iff.mpr ⟨hc, hcid⟩]
    exact if_pos (decide_eq_true hcworkspace)
  unfold getControlMapping
  rw [hpolicy, hcontrol, Table.get?_eq_some_iff.mpr ⟨hm, hkey⟩]

/-! ## One policy -/

theorem changeMappings_work (hdb : db.Stored lower) (clock : Nat → Int)
    (connection : AgentConnectionContext) (policyId : PolicyId) (ids : List ControlId) (attach : Bool) :
    PolicyWork db (db.HasActivePolicy connection.workspaceId policyId)
      ((∀ c ∈ ids, db.controls.Has connection.workspaceId c) ∧
        (∀ c ∈ ids, ¬ Offends attach db policyId c) ∧ ids.Nodup)
      (ids.filter fun c => ¬ db.controls.Has connection.workspaceId c,
        ids.filter fun c => db.controls.Has connection.workspaceId c ∧ Offends attach db policyId c)
      (db.Changes attach (ids.map fun c => (policyId, c)))
      (changeMappingsWork lower db clock connection policyId ids attach) := by
  rcases getPolicy_cases hdb connection.workspaceId policyId with
    ⟨hno, hget⟩ | ⟨p, hget, rfl, -, hactive, hload⟩
  · unfold changeMappingsWork
    rw [hget]
    exact .unavailable fun h => hno h.hasPolicy
  · by_cases hnone : p.archivedAt = none
    · have hsome : ¬ p.archivedAt.isSome = true := by
        rw [hnone]
        exact Bool.false_ne_true
      have hinvalid : (ids.filter fun c => c ∈ db.controls.existingIds connection.workspaceId ids ∧
            if attach then p.isMapped c = true else p.isMapped c = false)
          = ids.filter fun c => db.controls.Has connection.workspaceId c ∧ Offends attach db p.id c := by
        refine List.filter_congr fun c hc => decide_eq_decide.mpr
          (and_congr (Controls.mem_existingIds hc) ?_)
        unfold Offends
        rw [← hload.isMapped]
        cases attach with
        | true => exact (iff_true_right rfl).symm
        | false => simp
      unfold changeMappingsWork
      rw [hget]
      dsimp only
      rw [if_neg hsome, hinvalid, Controls.filter_existingIds]
      by_cases hclean : (∀ c ∈ ids, db.controls.Has connection.workspaceId c) ∧
          (∀ c ∈ ids, ¬ Offends attach db p.id c) ∧ ids.Nodup
      · obtain ⟨hcontrols, hfree, hnodup⟩ := hclean
        have hnot : ¬ ((ids.filter fun c => ¬ db.controls.Has connection.workspaceId c) ≠ [] ∨
            (ids.filter fun c => db.controls.Has connection.workspaceId c ∧
              Offends attach db p.id c) ≠ [] ∨ ¬ ids.Nodup) := by
          simp only [not_or, not_not, List.filter_eq_nil_iff, decide_eq_true_eq, not_and]
          exact ⟨hcontrols, fun c hc _ => hfree c hc, hnodup⟩
        rw [if_neg hnot]
        obtain ⟨p', saved, hreplace, hsave, hchanges⟩ := savePolicy_change hdb hload hnone attach clock 0
          hnodup fun hattach c hc hattached => hfree c hc (iff_of_true hattached hattach)
        unfold nextMappings at hreplace
        rw [hreplace]
        dsimp only
        rw [hsave]
        dsimp only
        cases attach with
        | false => exact .changed ⟨hactive.mp hnone, hcontrols, hfree, hnodup⟩ [] saved hchanges
        | true =>
          have hread : ∃ xs, ids.mapM (saved.getControlMapping connection.workspaceId p.id)
              = some xs := by
            refine mapM_eq_some fun c hc => getControlMapping_eq ?_ ?_ ?_
            · unfold HasActivePolicy
              rw [hchanges.policies]
              exact hactive.mp hnone
            · rw [hchanges.controls]
              exact hcontrols c hc
            · exact (hchanges.isAttached_of_mem (List.mem_map_of_mem hc)).mpr rfl
          obtain ⟨xs, hxs⟩ := hread
          rw [if_pos rfl, hxs]
          exact .changed ⟨hactive.mp hnone, hcontrols, hfree, hnodup⟩ xs saved hchanges
      · refine (congrArg (PolicyWork _ _ _ _ _) (if_pos ?_)).mpr (.rejected (hactive.mp hnone) hclean)
        by_contra hnot
        simp only [not_or, not_not, List.filter_eq_nil_iff, decide_eq_true_eq, not_and] at hnot
        exact hclean ⟨hnot.1, fun c hc => hnot.2.1 c hc (hnot.1 c hc), hnot.2.2⟩
    · unfold changeMappingsWork
      rw [hget]
      dsimp only
      rw [if_pos (Option.isSome_iff_ne_none.mpr hnone)]
      exact .unavailable fun h => hnone (hactive.mpr h)

/-! ## One control -/

/-- **The policies of a request, sorted out.** -/
theorem sortPolicies_eq (hdb : db.Stored lower) (workspaceId : WorkspaceId) (controlId : ControlId)
    (attach : Bool) (ids : List PolicyId) :
    ∃ s, sortPolicies db workspaceId controlId attach ids = .ok s ∧
      (∀ p ∈ s.policies, db.Loaded p ∧ p.archivedAt = none) ∧
      s.policies.map Policy.id = (ids.filter fun id => db.HasActivePolicy workspaceId id) ∧
      s.unknown = (ids.filter fun id => ¬ db.HasPolicy workspaceId id) ∧
      s.archived = (ids.filter fun id =>
        db.HasPolicy workspaceId id ∧ ¬ db.HasActivePolicy workspaceId id) ∧
      s.invalid = ids.filter fun id =>
        db.HasActivePolicy workspaceId id ∧ Offends attach db id controlId := by
  induction ids with
  | nil => exact ⟨⟨[], [], [], []⟩, rfl, fun p h => absurd h List.not_mem_nil, rfl, rfl, rfl, rfl⟩
  | cons id ids ih =>
    obtain ⟨s, hsort, hpolicies, hactive, hunknown, harchived, hinvalid⟩ := ih
    unfold sortPolicies
    rcases getPolicy_cases hdb workspaceId id with ⟨hno, hget⟩ | ⟨p, hget, rfl, hhas, hopen, hload⟩
    · have hnotActive : ¬ db.HasActivePolicy workspaceId id := fun h => hno h.hasPolicy
      refine ⟨{ s with unknown := id :: s.unknown }, ?_, hpolicies, ?_, ?_, ?_, ?_⟩
      · rw [hget, hsort]
        rfl
      · simp [hnotActive, hactive]
      · simp [hno, hunknown]
      · simp [hno, harchived]
      · simp [hnotActive, hinvalid]
    · by_cases hnone : p.archivedAt = none
      · have hactiveNow := hopen.mp hnone
        have hsome : ¬ p.archivedAt.isSome = true := by
          rw [hnone]
          exact Bool.false_ne_true
        have hoffends : ((attach && p.isMapped controlId) || (!attach && !p.isMapped controlId)) = true ↔
            Offends attach db p.id controlId := by
          unfold Offends
          rw [← hload.isMapped]
          cases attach with
          | true => simp
          | false => simp
        refine ⟨{ s with
          invalid := if (attach && p.isMapped controlId) || (!attach && !p.isMapped controlId) then
            p.id :: s.invalid else s.invalid
          policies := p :: s.policies }, ?_, ?_, ?_, ?_, ?_, ?_⟩
        · rw [hget]
          dsimp only
          rw [if_neg hsome, hsort]
          rfl
        · exact List.forall_mem_cons.mpr ⟨⟨hload, hnone⟩, hpolicies⟩
        · simp [hactiveNow, hactive]
        · simp [hhas, hunknown]
        · simp [hactiveNow, harchived]
        · by_cases hoff : Offends attach db p.id controlId
          · simp only [if_pos (hoffends.mpr hoff)]
            simp [hactiveNow, hoff, hinvalid]
          · simp only [if_neg (mt hoffends.mp hoff)]
            simp [hoff, hinvalid]
      · have hnotActive : ¬ db.HasActivePolicy workspaceId p.id := fun h => hnone (hopen.mpr h)
        refine ⟨{ s with archived := p.id :: s.archived }, ?_, hpolicies, ?_, ?_, ?_, ?_⟩
        · rw [hget]
          dsimp only
          rw [if_pos (Option.isSome_iff_ne_none.mpr hnone), hsort]
          rfl
        · simp [hnotActive, hactive]
        · simp [hhas, hunknown]
        · simp [hhas, hnotActive, harchived]
        · simp [hnotActive, hinvalid]

/-- the ids that a request on a control cannot change, in the order of the locks -/
def rejectedPolicies (db : PolicyDb) (workspaceId : WorkspaceId) (controlId : ControlId) (attach : Bool)
    (ids : List PolicyId) : PolicyRejection where
  unknown := (policyLockOrder ids).filter fun id => ¬ db.HasPolicy workspaceId id
  archived := (policyLockOrder ids).filter fun id =>
    db.HasPolicy workspaceId id ∧ ¬ db.HasActivePolicy workspaceId id
  invalid := (policyLockOrder ids).filter fun id =>
    db.HasActivePolicy workspaceId id ∧ Offends attach db id controlId

theorem changeControlPolicies_work (hdb : db.Stored lower) (clock : Nat → Int)
    (connection : AgentConnectionContext) (controlId : ControlId) (ids : List PolicyId)
    (attach : Bool) :
    PolicyWork db (db.controls.Has connection.workspaceId controlId)
      ((∀ id ∈ ids, db.HasActivePolicy connection.workspaceId id) ∧
        (∀ id ∈ ids, ¬ Offends attach db id controlId) ∧ ids.Nodup)
      (rejectedPolicies db connection.workspaceId controlId attach ids)
      (db.Changes attach (ids.map fun id => (id, controlId)))
      (changeControlPoliciesWork lower db clock connection controlId ids attach) := by
  unfold changeControlPoliciesWork
  by_cases hcontrol : db.controls.Has connection.workspaceId controlId
  · rw [if_neg (not_not.mpr ((Controls.mem_existingIds List.mem_cons_self).mpr hcontrol))]
    obtain ⟨s, hsort, hpolicies, hactive, hunknown, harchived, hinvalid⟩ :=
      sortPolicies_eq hdb connection.workspaceId controlId attach (policyLockOrder ids)
    have hperm : (policyLockOrder ids).Perm ids := List.perm_insertionSort _ ids
    rw [hsort]
    dsimp only
    rw [hunknown, harchived, hinvalid]
    have hdirty : (((policyLockOrder ids).filter fun id => ¬ db.HasPolicy connection.workspaceId id) ≠ [] ∨
        ((policyLockOrder ids).filter fun id => db.HasPolicy connection.workspaceId id ∧
          ¬ db.HasActivePolicy connection.workspaceId id) ≠ [] ∨
        ((policyLockOrder ids).filter fun id => db.HasActivePolicy connection.workspaceId id ∧
          Offends attach db id controlId) ≠ [] ∨ ¬ ids.Nodup) ↔
        ¬ ((∀ id ∈ ids, db.HasActivePolicy connection.workspaceId id) ∧
          (∀ id ∈ ids, ¬ Offends attach db id controlId) ∧ ids.Nodup) := by
      have hall : ∀ q : PolicyId → Prop, [DecidablePred q] →
          (((policyLockOrder ids).filter fun id => q id) ≠ [] ↔ ¬ ∀ id ∈ ids, ¬ q id) := by
        intro q _
        simp only [ne_eq, List.filter_eq_nil_iff, decide_eq_true_eq, hperm.mem_iff]
      rw [hall, hall, hall, ← not_and_or, ← not_and_or, ← not_and_or, not_iff_not]
      constructor
      · rintro ⟨hknown, hopen, hfree, hnodup⟩
        have hall : ∀ id ∈ ids, db.HasActivePolicy connection.workspaceId id := by
          intro id hid
          by_contra hnot
          exact hopen id hid ⟨not_not.mp (hknown id hid), hnot⟩
        exact ⟨hall, fun id hid hoff => hfree id hid ⟨hall id hid, hoff⟩, hnodup⟩
      · rintro ⟨hall, hfree, hnodup⟩
        exact ⟨fun id hid => not_not.mpr (hall id hid).hasPolicy, fun id hid h => h.2 (hall id hid),
          fun id hid h => hfree id hid h.2, hnodup⟩
    by_cases hclean : (∀ id ∈ ids, db.HasActivePolicy connection.workspaceId id) ∧
        (∀ id ∈ ids, ¬ Offends attach db id controlId) ∧ ids.Nodup
    · rw [if_neg fun hc => hdirty.mp hc hclean]
      obtain ⟨hall, hfree, hnodup⟩ := hclean
      have hids : s.policies.map Policy.id = policyLockOrder ids := by
        rw [hactive]
        exact List.filter_eq_self.mpr fun id hid => decide_eq_true (hall id (hperm.mem_iff.mp hid))
      obtain ⟨db', hloop, hchanges⟩ := changeEach_eq attach controlId clock 0 hdb
        (fun q hq => (hpolicies q hq).1) (fun q hq => (hpolicies q hq).2)
        (by rw [hids]; exact hperm.nodup_iff.mpr hnodup)
        fun hattach q hq hattached => by
          have hq : q.id ∈ ids := hperm.mem_iff.mp (hids ▸ List.mem_map_of_mem hq)
          exact hfree q.id hq (iff_of_true hattached hattach)
      rw [hloop]
      refine .changed ⟨hcontrol, hall, hfree, hnodup⟩ () db' (hchanges.congr fun k => ?_)
      have hpairs : (s.policies.map fun q => (q.id, controlId))
          = (policyLockOrder ids).map fun id => (id, controlId) := by
        rw [← hids, List.map_map]
        rfl
      rw [hpairs]
      exact (hperm.map _).mem_iff
    · rw [if_pos (hdirty.mpr hclean)]
      exact .rejected hcontrol hclean
  · rw [if_pos fun hc => hcontrol ((Controls.mem_existingIds List.mem_cons_self).mp hc)]
    exact .unavailable hcontrol

end

end Proofplane
