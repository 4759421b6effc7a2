import Proofplane.Domain.Control
import Proofplane.Domain.Evidence
import Proofplane.Domain.Policy

/-!
# Lists of mappings as they are stored

Three aggregates hold a list of references and replace it as a whole: it is sorted by UUID and refused if
it names a control, or a requirement, twice.  Two of the copies look at neighbours, the third keeps a set.

* `EvidenceMethod.replaceMappings`, `PolicyMethod.replaceMappings`   the methods, statement by statement;
* `replaceMappings_exec`   each is the computation on the whole aggregate, settled;
* `StoresNormalised`       what such a method does, whatever the sort;
* `mapping_normalisation`  **all three do it**.
-/

namespace Proofplane
open Base Mutation

/-! ## The methods -/

theorem Evidence.mappingKey_agrees (a b : EvidenceControlMappingState) :
    Evidence.mappingKey a = Evidence.mappingKey b ↔ a.controlId = b.controlId :=
  ⟨fun h => Id.ext (BitVec.eq_of_toNat_eq h), congrArg fun id : ControlId => id.uuid.toNat⟩

theorem Policy.mappingKey_agrees (a b : PolicyControlMappingState) :
    Policy.mappingKey a = Policy.mappingKey b ↔ a.controlId = b.controlId :=
  ⟨fun h => Id.ext (BitVec.eq_of_toNat_eq h), congrArg fun id : ControlId => id.uuid.toNat⟩

namespace EvidenceMethod

/-- `normalize_mappings` -/
def normalizeMappings (sort : UnstableSort Evidence.mappingKey)
    (mappings : List EvidenceControlMappingState) :
    Except EvidenceError (List EvidenceControlMappingState) :=
  let mappings := sort.run mappings
  match (windows2 mappings).find? fun pair => pair.1.controlId = pair.2.controlId with
  | some pair => .error (.duplicateControlMapping pair.1.controlId)
  | none => .ok mappings

section
variable {sort sort' : UnstableSort Evidence.mappingKey} {ms ms' s : List EvidenceControlMappingState}

theorem normalizeMappings_eq (sort : UnstableSort Evidence.mappingKey)
    (ms : List EvidenceControlMappingState) :
    normalizeMappings sort ms
      = match firstTwice EvidenceControlMappingState.controlId (sort.run ms) with
        | some id => .error (.duplicateControlMapping id)
        | none => .ok (sort.run ms) := by
  unfold normalizeMappings firstTwice
  dsimp only
  cases (windows2 (sort.run ms)).find? fun pair => pair.1.controlId = pair.2.controlId with
  | none => rfl
  | some pair => rfl

theorem normalizeMappings_ok_iff :
    normalizeMappings sort ms = .ok s ↔
      (ms.map EvidenceControlMappingState.controlId).Nodup ∧ s = sort.run ms := by
  have hnone := firstTwice_eq_none_iff Evidence.mappingKey_agrees (sort.sorted ms)
  rw [((sort.perm ms).map _).nodup_iff] at hnone
  rw [normalizeMappings_eq]
  split
  case h_1 id hid =>
    refine iff_of_false (fun h => nomatch h) fun h => ?_
    rw [hnone.mpr h.1] at hid
    cases hid
  case h_2 hid =>
    rw [Except.ok.injEq, eq_comm]
    exact (and_iff_right (hnone.mp hid)).symm

theorem normalizeMappings_normalised (h : normalizeMappings sort ms = .ok s) :
    Normalised Evidence.mappingKey ms s := by
  obtain ⟨hnodup, rfl⟩ := normalizeMappings_ok_iff.mp h
  exact sort.normalised ((nodup_key_iff Evidence.mappingKey_agrees ms).mpr hnodup)

theorem normalizeMappings_perm (hperm : ms.Perm ms') :
    normalizeMappings sort ms = normalizeMappings sort' ms' := by
  have hfirst := firstTwice_run Evidence.mappingKey_agrees sort sort' hperm
  cases hs : normalizeMappings sort ms with
  | ok s =>
    have hnodup := (normalizeMappings_ok_iff.mp hs).1
    have hs' : normalizeMappings sort' ms' = .ok (sort'.run ms') :=
      normalizeMappings_ok_iff.mpr ⟨((hperm.map _).nodup_iff).mp hnodup, rfl⟩
    rw [hs', (normalizeMappings_normalised hs).unique (normalizeMappings_normalised hs') hperm]
  | error e =>
    rw [normalizeMappings_eq, hfirst] at hs
    rw [normalizeMappings_eq]
    split at hs
    · rw [← hs]
    · cases hs

/-- `Evidence::replace_mappings` -/
def replaceMappings (sort : UnstableSort Evidence.mappingKey)
    (mappings : List EvidenceControlMappingState) : Mutation EvidenceError Evidence Unit :=
  match h : normalizeMappings sort mappings with
  | .error e => throw e
  | .ok mappings =>
    modify fun e => { e with
      mappings := mappings
      distinct := ((normalizeMappings_normalised h).perm.map _).nodup_iff.mpr
        (normalizeMappings_ok_iff.mp h).1 }

theorem replaceMappings_error {err : EvidenceError} (h : normalizeMappings sort ms = .error err)
    (e : Evidence) : (replaceMappings sort ms).exec e = (.error err, e) := by
  unfold replaceMappings
  split
  case h_1 err' herr =>
    obtain rfl : err = err' := Except.error.inj (h.symm.trans herr)
    rfl
  case h_2 s hs =>
    rw [h] at hs
    cases hs

theorem replaceMappings_ok (h : normalizeMappings sort ms = .ok s) (e : Evidence) :
    ∃ hdistinct, (replaceMappings sort ms).exec e
      = (.ok (), { e with mappings := s, distinct := hdistinct }) := by
  unfold replaceMappings
  split
  case h_1 err herr =>
    rw [h] at herr
    cases herr
  case h_2 s' hs =>
    obtain rfl : s = s' := Except.ok.inj (h.symm.trans hs)
    exact ⟨((normalizeMappings_normalised h).perm.map _).nodup_iff.mpr
      (normalizeMappings_ok_iff.mp h).1, rfl⟩

/-- all that a replacement can do -/
theorem replaceMappings_cases (sort : UnstableSort Evidence.mappingKey)
    (ms : List EvidenceControlMappingState) (e : Evidence) :
    (∃ hdistinct, (ms.map EvidenceControlMappingState.controlId).Nodup ∧
      (replaceMappings sort ms).exec e
        = (.ok (), { e with mappings := sort.run ms, distinct := hdistinct })) ∨
    (¬ (ms.map EvidenceControlMappingState.controlId).Nodup ∧
      ∃ err, (replaceMappings sort ms).exec e = (.error err, e)) := by
  cases hms : normalizeMappings sort ms with
  | error err =>
    refine .inr ⟨fun hnodup => ?_, err, replaceMappings_error hms e⟩
    rw [normalizeMappings_ok_iff.mpr ⟨hnodup, rfl⟩] at hms
    cases hms
  | ok s =>
    obtain ⟨hnodup, rfl⟩ := normalizeMappings_ok_iff.mp hms
    obtain ⟨hdistinct, hexec⟩ := replaceMappings_ok hms e
    exact .inl ⟨hdistinct, hnodup, hexec⟩

theorem replaceMappings_congr (e : Evidence)
    (h : normalizeMappings sort ms = normalizeMappings sort' ms') :
    (replaceMappings sort ms).exec e = (replaceMappings sort' ms').exec e := by
  cases hms : normalizeMappings sort' ms' with
  | error err => rw [replaceMappings_error (h.trans hms), replaceMappings_error hms]
  | ok s =>
    obtain ⟨_, hexec⟩ := replaceMappings_ok (h.trans hms) e
    obtain ⟨_, hexec'⟩ := replaceMappings_ok hms e
    rw [hexec, hexec']

/-- insertion sort and the comparison of keys come to the same -/
theorem normalizeMappings_insertion (ms : List EvidenceControlMappingState) :
    normalizeMappings (.insertion Evidence.mappingKey) ms
      = (normalizeBy Evidence.mappingKey ms).mapError fun m => .duplicateControlMapping m.controlId := by
  have hagree : (fun pair : EvidenceControlMappingState × EvidenceControlMappingState =>
        decide (Evidence.mappingKey pair.1 = Evidence.mappingKey pair.2))
      = fun pair => decide (pair.1.controlId = pair.2.controlId) := by
    funext pair
    exact decide_eq_decide.mpr (Evidence.mappingKey_agrees pair.1 pair.2)
  unfold normalizeMappings normalizeBy
  dsimp only
  rw [firstRepeated_eq, hagree]
  show (match (windows2 (ms.insertionSort _)).find? _ with | some pair => _ | none => _) = _
  cases (windows2 (ms.insertionSort fun a b => Evidence.mappingKey a ≤ Evidence.mappingKey b)).find?
      fun pair => decide (pair.1.controlId = pair.2.controlId) with
  | none => rfl
  | some pair => rfl

/-- the method is the computation on the whole item, settled -/
theorem replaceMappings_exec (e : Evidence) :
    (replaceMappings sort ms).exec e = settle e ((e.replaceMappings ms).map fun e' => ((), e')) := by
  have hins : normalizeMappings sort ms = _ :=
    (normalizeMappings_perm (List.Perm.refl ms)).trans (normalizeMappings_insertion ms)
  unfold Evidence.replaceMappings
  split
  case h_1 m hm =>
    rw [hm] at hins
    exact replaceMappings_error hins e
  case h_2 s hs =>
    rw [hs] at hins
    obtain ⟨_, hexec⟩ := replaceMappings_ok hins e
    exact hexec

end

end EvidenceMethod

namespace PolicyMethod

/-- `ensure_active` -/
def ensureActive : Mutation PolicyError Policy Unit := do
  let p ← get
  refuse (p.archivedAt.isSome = true) .archived

/-- no two neighbours of the sorted list are mappings to one control -/
theorem neighbours_apart_iff (sort : UnstableSort Policy.mappingKey) (ms : List PolicyControlMappingState) :
    ¬ (windows2 (sort.run ms)).any (fun pair => pair.1.controlId = pair.2.controlId) = true ↔
      (ms.map PolicyControlMappingState.controlId).Nodup := by
  rw [← ((sort.perm ms).map _).nodup_iff,
    ← firstTwice_eq_none_iff Policy.mappingKey_agrees (sort.sorted ms)]
  unfold firstTwice
  rw [Option.map_eq_none_iff, List.find?_eq_none, List.any_eq_true, not_exists]
  exact forall_congr' fun pair => not_and

/-- `Policy::replace_mappings` -/
def replaceMappings (sort : UnstableSort Policy.mappingKey)
    (mappings : List PolicyControlMappingState) : Mutation PolicyError Policy Unit := do
  ensureActive
  if h : (windows2 (sort.run mappings)).any (fun pair => pair.1.controlId = pair.2.controlId) = true then
    throw .duplicateControlMapping
  else
    modify fun p => { p with
      mappings := sort.run mappings
      distinct := (((sort.perm mappings).map _).nodup_iff).mpr ((neighbours_apart_iff sort mappings).mp h) }

theorem ensureActive_exec (p : Policy) :
    ensureActive.exec p = if p.archivedAt.isSome = true then (.error .archived, p) else (.ok (), p) := by
  unfold ensureActive
  rw [exec_get_bind, exec_refuse]

section
variable {sort sort' : UnstableSort Policy.mappingKey} {ms ms' : List PolicyControlMappingState} {p : Policy}

/-- an archived policy is refused before the list is looked at -/
theorem replaceMappings_archived (sort : UnstableSort Policy.mappingKey) (ms : List PolicyControlMappingState)
    (h : p.archivedAt ≠ none) : (replaceMappings sort ms).exec p = (.error .archived, p) := by
  unfold replaceMappings
  rw [exec_bind, ensureActive_exec, if_pos (Option.isSome_iff_ne_none.mpr h)]

theorem replaceMappings_duplicate (hactive : p.archivedAt = none)
    (hnodup : ¬ (ms.map PolicyControlMappingState.controlId).Nodup) :
    (replaceMappings sort ms).exec p = (.error .duplicateControlMapping, p) := by
  have hneighbours := not_not.mp fun h => hnodup ((neighbours_apart_iff sort ms).mp h)
  unfold replaceMappings
  rw [exec_bind, ensureActive_exec, if_neg (Option.not_isSome_iff_eq_none.mpr hactive)]
  dsimp only
  rw [dif_pos hneighbours]
  rfl

theorem replaceMappings_ok (sort : UnstableSort Policy.mappingKey) (hactive : p.archivedAt = none)
    (hnodup : (ms.map PolicyControlMappingState.controlId).Nodup) :
    ∃ hdistinct, (replaceMappings sort ms).exec p
      = (.ok (), { p with mappings := sort.run ms, distinct := hdistinct }) := by
  unfold replaceMappings
  rw [exec_bind, ensureActive_exec, if_neg (Option.not_isSome_iff_eq_none.mpr hactive)]
  dsimp only
  rw [dif_neg ((neighbours_apart_iff sort ms).mpr hnodup)]
  exact ⟨(((sort.perm ms).map _).nodup_iff).mpr hnodup, rfl⟩

/-- all that a replacement can do -/
theorem replaceMappings_cases (sort : UnstableSort Policy.mappingKey)
    (ms : List PolicyControlMappingState) (p : Policy) :
    (∃ hdistinct, p.archivedAt = none ∧ (ms.map PolicyControlMappingState.controlId).Nodup ∧
      (replaceMappings sort ms).exec p
        = (.ok (), { p with mappings := sort.run ms, distinct := hdistinct })) ∨
    (p.archivedAt = none ∧ ¬ (ms.map PolicyControlMappingState.controlId).Nodup ∧
      (replaceMappings sort ms).exec p = (.error .duplicateControlMapping, p)) ∨
    (p.archivedAt ≠ none ∧ (replaceMappings sort ms).exec p = (.error .archived, p)) := by
  by_cases hactive : p.archivedAt = none
  · by_cases hnodup : (ms.map PolicyControlMappingState.controlId).Nodup
    · obtain ⟨hdistinct, hexec⟩ := replaceMappings_ok sort hactive hnodup
      exact .inl ⟨hdistinct, hactive, hnodup, hexec⟩
    · exact .inr (.inl ⟨hactive, hnodup, replaceMappings_duplicate hactive hnodup⟩)
  · exact .inr (.inr ⟨hactive, replaceMappings_archived sort ms hactive⟩)

/-- the method is the computation on the whole policy, settled -/
theorem replaceMappings_exec (sort : UnstableSort Policy.mappingKey) (ms : List PolicyControlMappingState)
    (p : Policy) :
    (replaceMappings sort ms).exec p = settle p ((p.replaceMappings ms).map fun p' => ((), p')) := by
  obtain ⟨hdistinct, hactive, hnodup, h⟩ | ⟨hactive, hnodup, h⟩ | ⟨harchived, h⟩ :=
    replaceMappings_cases sort ms p
  · rw [h]
    unfold Policy.replaceMappings
    rw [if_neg (by rw [hactive]; exact Bool.false_ne_true)]
    split
    case h_1 m hm =>
      obtain ⟨s, hs, -⟩ := normalizeBy_eq ((Policy.nodup_mappingKey_iff ms).mpr hnodup)
      rw [hs] at hm
      cases hm
    case h_2 s hs =>
      have hrun : s = sort.run ms :=
        (normalizeBy_normalised hs).unique (sort.normalised (normalizeBy_ok hs).2) (List.Perm.refl ms)
      subst hrun
      rfl
  · rw [h]
    unfold Policy.replaceMappings
    rw [if_neg (by rw [hactive]; exact Bool.false_ne_true)]
    split
    case h_1 m hm => rfl
    case h_2 s hs => exact absurd ((Policy.nodup_mappingKey_iff ms).mp (normalizeBy_ok hs).2) hnodup
  · rw [h]
    unfold Policy.replaceMappings
    rw [if_pos (Option.isSome_iff_ne_none.mpr harchived)]
    rfl

/-- the order of the list and the sort do not matter -/
theorem replaceMappings_perm (sort sort' : UnstableSort Policy.mappingKey) (hperm : ms.Perm ms') (p : Policy) :
    (replaceMappings sort ms).exec p = (replaceMappings sort' ms').exec p := by
  by_cases hactive : p.archivedAt = none
  · have hiff := (hperm.map PolicyControlMappingState.controlId).nodup_iff
    by_cases hnodup : (ms.map PolicyControlMappingState.controlId).Nodup
    · have hrun : sort.run ms = sort'.run ms' :=
        (sort.normalised ((Policy.nodup_mappingKey_iff ms).mpr hnodup)).unique
          (sort'.normalised ((Policy.nodup_mappingKey_iff ms').mpr (hiff.mp hnodup))) hperm
      obtain ⟨_, hexec⟩ := replaceMappings_ok sort hactive hnodup
      obtain ⟨_, hexec'⟩ := replaceMappings_ok sort' hactive (hiff.mp hnodup)
      rw [hexec, hexec']
      simp only [hrun]
    · rw [replaceMappings_duplicate hactive hnodup,
        replaceMappings_duplicate hactive fun hnodup' => hnodup (hiff.mpr hnodup')]
  · rw [replaceMappings_archived sort ms hactive, replaceMappings_archived sort' ms' hactive]

end

end PolicyMethod

/-! ## All three -/

/-- a method that stores the list that it is given, normalised, or fails and stores nothing -/
structure StoresNormalised {ε σ α : Type} (key : α → Nat) (Ready : σ → Prop) (Distinct : List α → Prop)
    (stored : σ → List α) (Same : σ → σ → Prop)
    (method : UnstableSort key → List α → Mutation ε σ Unit) : Prop where
  succeeds : ∀ sort l s,
    (∃ s', (method sort l).exec s = (.ok (), s')) ↔ Ready s ∧ Distinct l
  stores : ∀ sort l s s', (method sort l).exec s = (.ok (), s') →
    Normalised key l (stored s') ∧ Same s s'
  anyOrder : ∀ sort sort' l l' s, l.Perm l' → (method sort l).exec s = (method sort' l').exec s
  keeps : ∀ sort l s e s', (method sort l).exec s = (.error e, s') → s' = s

section
variable {ε σ α : Type} {key : α → Nat} {Ready : σ → Prop} {Distinct : List α → Prop}
  {stored : σ → List α} {Same : σ → σ → Prop} {method : UnstableSort key → List α → Mutation ε σ Unit}

/-- from what a call can do, one by one -/
theorem StoresNormalised.of_cases (hkey : ∀ l, Distinct l → (l.map key).Nodup)
    (hcases : ∀ sort l s,
      (∃ s', Ready s ∧ Distinct l ∧ (method sort l).exec s = (.ok (), s') ∧
        stored s' = sort.run l ∧ Same s s') ∨
      (¬ (Ready s ∧ Distinct l) ∧ ∃ e, (method sort l).exec s = (.error e, s)))
    (hany : ∀ sort sort' l l' s, l.Perm l' → (method sort l).exec s = (method sort' l').exec s) :
    StoresNormalised key Ready Distinct stored Same method where
  succeeds := by
    intro sort l s
    obtain ⟨s', hready, hdistinct, h, -⟩ | ⟨hnot, e, h⟩ := hcases sort l s
    · exact iff_of_true ⟨s', h⟩ ⟨hready, hdistinct⟩
    · refine iff_of_false ?_ hnot
      rintro ⟨s', hs'⟩
      rw [h] at hs'
      cases hs'
  stores := by
    intro sort l s s' hs'
    obtain ⟨t, -, hdistinct, h, hstored, hsame⟩ | ⟨-, e, h⟩ := hcases sort l s
    · rw [h, Prod.mk.injEq] at hs'
      obtain ⟨-, rfl⟩ := hs'
      exact ⟨hstored ▸ sort.normalised (hkey l hdistinct), hsame⟩
    · rw [h] at hs'
      cases hs'
  anyOrder := hany
  keeps := by
    intro sort l s e s' hs'
    obtain ⟨t, -, -, h, -⟩ | ⟨-, e', h⟩ := hcases sort l s
    · rw [h] at hs'
      cases hs'
    · rw [h, Prod.mk.injEq] at hs'
      exact hs'.2.symm

end

/-- the item as it was, but for its mappings -/
def Evidence.SameButMappings (e e' : Evidence) : Prop :=
  e'.id = e.id ∧ e'.workspaceId = e.workspaceId ∧ e'.definition = e.definition ∧ e'.status = e.status ∧
    e'.createdAt = e.createdAt ∧ e'.updatedAt = e.updatedAt

/-- the policy as it was, but for its mappings -/
def Policy.SameButMappings (p p' : Policy) : Prop :=
  p'.id = p.id ∧ p'.workspaceId = p.workspaceId ∧ p'.definition = p.definition ∧
    p'.createdAt = p.createdAt ∧ p'.updatedAt = p.updatedAt ∧ p'.archivedAt = p.archivedAt

/-- the control with another definition, at another time -/
def Control.Redefined (definition : ControlDefinition) (updatedAt : Int) (c c' : Control) : Prop :=
  c'.id = c.id ∧ c'.workspaceId = c.workspaceId ∧ c'.definition = definition ∧
    c'.createdAt = c.createdAt ∧ c'.updatedAt = updatedAt

theorem evidence_storesNormalised :
    StoresNormalised Evidence.mappingKey (fun _ => True)
      (fun ms => (ms.map EvidenceControlMappingState.controlId).Nodup) Evidence.mappings
      Evidence.SameButMappings EvidenceMethod.replaceMappings := by
  refine .of_cases (fun ms => (Evidence.nodup_mappingKey_iff ms).mpr) ?_ ?_
  · intro sort ms e
    obtain ⟨hdistinct, hnodup, h⟩ | ⟨hnodup, err, h⟩ := EvidenceMethod.replaceMappings_cases sort ms e
    · exact .inl ⟨_, trivial, hnodup, h, rfl, rfl, rfl, rfl, rfl, rfl, rfl⟩
    · exact .inr ⟨fun hr => hnodup hr.2, err, h⟩
  · intro sort sort' ms ms' e hperm
    exact EvidenceMethod.replaceMappings_congr e (EvidenceMethod.normalizeMappings_perm hperm)

theorem policy_storesNormalised :
    StoresNormalised Policy.mappingKey (fun p => p.archivedAt = none)
      (fun ms => (ms.map PolicyControlMappingState.controlId).Nodup) Policy.mappings
      Policy.SameButMappings PolicyMethod.replaceMappings := by
  refine .of_cases (fun ms => (Policy.nodup_mappingKey_iff ms).mpr) ?_ ?_
  · intro sort ms p
    obtain ⟨hdistinct, ha, hn, h⟩ | ⟨-, hn, h⟩ | ⟨ha, h⟩ := PolicyMethod.replaceMappings_cases sort ms p
    · exact .inl ⟨_, ha, hn, h, rfl, rfl, rfl, rfl, rfl, rfl, rfl⟩
    · exact .inr ⟨fun hr => hn hr.2, _, h⟩
    · exact .inr ⟨fun hr => ha hr.1, _, h⟩
  · intro sort sort' ms ms' p hperm
    exact PolicyMethod.replaceMappings_perm sort sort' hperm p

theorem control_storesNormalised (definition : ControlDefinition) (updatedAt : Int) :
    StoresNormalised requirementKey (fun c => c.createdAt ≤ updatedAt) List.Nodup
      Control.frameworkRequirementIds (Control.Redefined definition updatedAt)
      fun sort ids => ControlMethod.replace sort definition ids updatedAt := by
  refine .of_cases (fun ids hids => ?_) ?_ ?_
  · exact (nodup_key_iff requirementKey_agrees ids).mpr (by rwa [List.map_id])
  · intro sort ids c
    obtain ⟨ho, hs, hn, ht, h⟩ | ⟨hnot, e, h⟩ := ControlMethod.replace_cases sort definition ids updatedAt c
    · exact .inl ⟨_, ht, hn, h, rfl, rfl, rfl, rfl, rfl, rfl⟩
    · refine .inr ⟨fun hr => ?_, e, h⟩
      rcases hnot with hn | ht
      · exact hn hr.2
      · exact absurd hr.1 (not_le.mpr ht)
  · intro sort sort' ids ids' c hperm
    exact ControlMethod.replace_congr _ _ c (normalizeFrameworkRequirementIds_perm hperm)

/-- an aggregate replaces a list of references exactly if nothing is named twice, and an archived policy
not at all; what it stores is the list in the order of the UUIDs, the same for every order of the list; a
replacement that fails changes nothing -/
theorem mapping_normalisation :
    StoresNormalised Evidence.mappingKey (fun _ => True)
      (fun ms => (ms.map EvidenceControlMappingState.controlId).Nodup) Evidence.mappings
      Evidence.SameButMappings EvidenceMethod.replaceMappings ∧
    StoresNormalised Policy.mappingKey (fun p => p.archivedAt = none)
      (fun ms => (ms.map PolicyControlMappingState.controlId).Nodup) Policy.mappings
      Policy.SameButMappings PolicyMethod.replaceMappings ∧
    (∀ (sort : UnstableSort requirementKey) (ids : List FrameworkRequirementId),
      ((∃ s, normalizeFrameworkRequirementIds sort ids = .ok s) ↔ ids.Nodup) ∧
      (∀ s, normalizeFrameworkRequirementIds sort ids = .ok s → Normalised requirementKey ids s) ∧
      (∀ (sort' : UnstableSort requirementKey) (ids' : List FrameworkRequirementId), ids.Perm ids' →
        normalizeFrameworkRequirementIds sort ids = normalizeFrameworkRequirementIds sort' ids')) ∧
    (∀ definition updatedAt,
      StoresNormalised requirementKey (fun c => c.createdAt ≤ updatedAt) List.Nodup
        Control.frameworkRequirementIds (Control.Redefined definition updatedAt)
        fun sort ids => ControlMethod.replace sort definition ids updatedAt) := by
  refine ⟨evidence_storesNormalised, policy_storesNormalised, fun sort ids => ⟨⟨?_, ?_⟩, ?_, ?_⟩,
    control_storesNormalised⟩
  · rintro ⟨s, hs⟩
    exact (normalizeFrameworkRequirementIds_ok_iff.mp hs).1
  · intro hnodup
    exact ⟨_, normalizeFrameworkRequirementIds_ok_iff.mpr ⟨hnodup, rfl⟩⟩
  · intro s hs
    exact normalizeFrameworkRequirementIds_normalised hs
  · intro sort' ids' hperm
    exact normalizeFrameworkRequirementIds_perm hperm

end Proofplane
