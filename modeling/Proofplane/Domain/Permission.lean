import Proofplane.Base.Normalise
import Proofplane.Domain.Ids
import Mathlib.Data.List.Nodup

/-!
# Permissions of a connection

What a token may do in its workspace.  A request carries a set of permissions in eight bits; a
stored connection and a token carry a list in the order of `WorkspacePermission.all`.

* `WorkspacePermissions.has`     membership in the eight bits;
* `canonicalPermissions`         the list in the fixed order, refused where one is named twice;
* `canonicalPermissions_eq`      what it does, without its loop;
* `markSeen`, `canonicalPermissionList`   the same with its array of flags and its error,
                                 `canonicalPermissionList_toOption`;
* `CanonicalPermissions`         a list in the fixed order, `canonicalPermissions_eq_some_iff`.
-/

namespace Proofplane

inductive WorkspacePermission
  | readEvidence | writeEvidence | readEvidenceSubmissions | writeEvidenceSubmissions
  | readControls | writeControls | manageAuditorAccess
  deriving DecidableEq, Repr

namespace WorkspacePermission

def all : List WorkspacePermission :=
  [.readEvidence, .writeEvidence, .readEvidenceSubmissions, .writeEvidenceSubmissions,
    .readControls, .writeControls, .manageAuditorAccess]

def asStr : WorkspacePermission → String
  | .readEvidence => "read_evidence"
  | .writeEvidence => "write_evidence"
  | .readEvidenceSubmissions => "read_evidence_submissions"
  | .writeEvidenceSubmissions => "write_evidence_submissions"
  | .readControls => "read_controls"
  | .writeControls => "write_controls"
  | .manageAuditorAccess => "manage_auditor_access"

def fromStr (value : String) : Option WorkspacePermission :=
  if value = "read_evidence" then some .readEvidence
  else if value = "write_evidence" then some .writeEvidence
  else if value = "read_evidence_submissions" then some .readEvidenceSubmissions
  else if value = "write_evidence_submissions" then some .writeEvidenceSubmissions
  else if value = "read_controls" then some .readControls
  else if value = "write_controls" then some .writeControls
  else if value = "manage_auditor_access" then some .manageAuditorAccess
  else none

theorem fromStr_asStr (p : WorkspacePermission) : fromStr p.asStr = some p := by
  cases p with
  | readEvidence => decide
  | writeEvidence => decide
  | readEvidenceSubmissions => decide
  | writeEvidenceSubmissions => decide
  | readControls => decide
  | writeControls => decide
  | manageAuditorAccess => decide

theorem asStr_injective : Function.Injective asStr := by
  intro p q h
  have hp := fromStr_asStr p
  rw [h, fromStr_asStr] at hp
  exact (Option.some.inj hp).symm

theorem fromStr_eq_some_iff {value : String} {p : WorkspacePermission} :
    fromStr value = some p ↔ value = p.asStr := by
  constructor
  · intro h
    unfold fromStr at h
    split_ifs at h <;> cases h <;> assumption
  · rintro rfl
    exact fromStr_asStr p

def bit : WorkspacePermission → BitVec 8
  | .readEvidence => 1
  | .writeEvidence => 2
  | .readEvidenceSubmissions => 4
  | .writeEvidenceSubmissions => 8
  | .readControls => 16
  | .writeControls => 32
  | .manageAuditorAccess => 64

theorem mem_all (p : WorkspacePermission) : p ∈ all := by
  cases p <;> decide

end WorkspacePermission

/-- a set of permissions in eight bits -/
structure WorkspacePermissions where
  bits : BitVec 8
  deriving DecidableEq, Repr

namespace WorkspacePermissions

def none : WorkspacePermissions := ⟨0⟩

def insert (s : WorkspacePermissions) (p : WorkspacePermission) : WorkspacePermissions :=
  ⟨s.bits ||| p.bit⟩

def fromIter (ps : List WorkspacePermission) : WorkspacePermissions := ps.foldl insert none

def all : WorkspacePermissions := fromIter WorkspacePermission.all

def has (s : WorkspacePermissions) (p : WorkspacePermission) : Bool := s.bits &&& p.bit != 0

theorem has_insert (s : WorkspacePermissions) (q p : WorkspacePermission) :
    (s.insert q).has p = true ↔ s.has p = true ∨ p = q := by
  have hbit : q.bit &&& p.bit ≠ 0 ↔ p = q := by
    cases q <;> cases p <;> decide
  unfold has insert
  dsimp only
  rw [bne_iff_ne, bne_iff_ne, ← hbit, BitVec.and_or_distrib_right]
  show ¬ (_ = 0#8) ↔ _
  rw [BitVec.or_eq_zero_iff, not_and_or]
  rfl

/-- **The set made from a list has what is in the list.** -/
theorem has_fromIter (ps : List WorkspacePermission) (p : WorkspacePermission) :
    (fromIter ps).has p = true ↔ p ∈ ps := by
  have hfold : ∀ s : WorkspacePermissions,
      (ps.foldl insert s).has p = true ↔ s.has p = true ∨ p ∈ ps := by
    induction ps with
    | nil => simp
    | cons q ps ih =>
      intro s
      rw [List.foldl_cons, ih, has_insert, List.mem_cons, or_assoc]
  have hnone : none.has p = false := by
    cases p <;> decide
  unfold fromIter
  rw [hfold, hnone]
  simp

end WorkspacePermissions

/-- authenticated machine scope supplied to application operations -/
structure AgentConnectionContext where
  userId : UserId
  connectionId : AgentConnectionId
  workspaceId : WorkspaceId
  permissions : WorkspacePermissions
  deriving DecidableEq, Repr

/-! ## The canonical list -/

/-- the loop over the values: what was seen so far, `none` at the first repetition -/
def seenPermissions (seen : List WorkspacePermission) :
    List WorkspacePermission → Option (List WorkspacePermission)
  | [] => some seen
  | p :: ps => if p ∈ seen then none else seenPermissions (p :: seen) ps

/-- `none` where a permission is named twice -/
def canonicalPermissions (values : List WorkspacePermission) : Option (List WorkspacePermission) :=
  (seenPermissions [] values).map fun seen =>
    WorkspacePermission.all.filter fun p => decide (p ∈ seen)

theorem seenPermissions_eq (seen values : List WorkspacePermission) (hs : seen.Nodup) :
    seenPermissions seen values
      = if (values.reverse ++ seen).Nodup then some (values.reverse ++ seen) else none := by
  induction values generalizing seen with
  | nil => simp [seenPermissions, hs]
  | cons p ps ih =>
    unfold seenPermissions
    have hlist : (p :: ps).reverse ++ seen = ps.reverse ++ p :: seen := by simp
    rw [hlist]
    split
    · next hp =>
      have hnot : ¬ (ps.reverse ++ p :: seen).Nodup := by
        intro h
        exact (List.nodup_cons.mp (List.nodup_append.mp h).2.1).1 hp
      rw [if_neg hnot]
    · next hp => exact ih (p :: seen) (List.nodup_cons.mpr ⟨hp, hs⟩)

/-- **The canonical list of a list without repetitions is its permissions in the fixed order.** -/
theorem canonicalPermissions_eq (values : List WorkspacePermission) :
    canonicalPermissions values
      = if values.Nodup then some (WorkspacePermission.all.filter fun p => decide (p ∈ values))
        else none := by
  unfold canonicalPermissions
  rw [seenPermissions_eq [] values List.nodup_nil, List.append_nil]
  by_cases h : values.Nodup
  · rw [if_pos (List.nodup_reverse.mpr h), if_pos h]
    simp only [Option.map_some, List.mem_reverse]
  · rw [if_neg (fun hc => h (List.nodup_reverse.mp hc)), if_neg h]
    rfl

theorem canonicalPermissions_nodup {values ps : List WorkspacePermission}
    (h : canonicalPermissions values = some ps) : ps.Nodup := by
  rw [canonicalPermissions_eq] at h
  split at h
  · cases h
    have hall : WorkspacePermission.all.Nodup := by decide
    exact hall.filter _
  · cases h

theorem mem_canonicalPermissions {values ps : List WorkspacePermission}
    (h : canonicalPermissions values = some ps) (p : WorkspacePermission) :
    p ∈ ps ↔ p ∈ values := by
  rw [canonicalPermissions_eq] at h
  split at h
  · cases h
    simp [WorkspacePermission.mem_all]
  · cases h

/-- a canonical list is its own canonical list -/
theorem canonicalPermissions_idem {values ps : List WorkspacePermission}
    (h : canonicalPermissions values = some ps) : canonicalPermissions ps = some ps := by
  have hmem := mem_canonicalPermissions h
  rw [canonicalPermissions_eq, if_pos (canonicalPermissions_nodup h)]
  rw [canonicalPermissions_eq] at h
  split at h
  · cases h
    simp only [hmem]
  · cases h

/-! ## The array of flags -/

/-- what `DomainError` says of permissions -/
inductive PermissionError
  | duplicatePermission (permission : String)
  deriving DecidableEq, Repr

def permissionIndex : WorkspacePermission → Fin 7
  | .readEvidence => 0
  | .writeEvidence => 1
  | .readEvidenceSubmissions => 2
  | .writeEvidenceSubmissions => 3
  | .readControls => 4
  | .writeControls => 5
  | .manageAuditorAccess => 6

theorem permissionIndex_inj {p q : WorkspacePermission} (h : permissionIndex p = permissionIndex q) :
    p = q := by
  revert h
  cases p <;> cases q <;> decide

/-- the loop over the values with the flags of those seen before -/
def markSeen (seen : Vector Bool 7) : List WorkspacePermission → Except PermissionError (Vector Bool 7)
  | [] => .ok seen
  | p :: ps =>
    if seen[permissionIndex p] then .error (.duplicatePermission p.asStr)
    else markSeen (seen.set (permissionIndex p) true) ps

/-- `canonical_permissions` -/
def canonicalPermissionList (values : List WorkspacePermission) :
    Except PermissionError (List WorkspacePermission) :=
  (markSeen (.replicate 7 false) values).map fun seen =>
    WorkspacePermission.all.filter fun p => seen[permissionIndex p]

/-- the flags are those of the permissions in the list -/
def Flags (seen : Vector Bool 7) (ps : List WorkspacePermission) : Prop :=
  ∀ p, seen[permissionIndex p] = true ↔ p ∈ ps

theorem flags_none : Flags (.replicate 7 false) [] := by
  intro p
  rw [Fin.getElem_fin, Vector.getElem_replicate]
  exact iff_of_false Bool.false_ne_true List.not_mem_nil

theorem Flags.cons {seen : Vector Bool 7} {ps : List WorkspacePermission} (h : Flags seen ps)
    (p : WorkspacePermission) : Flags (seen.set (permissionIndex p) true) (p :: ps) := by
  intro q
  rw [List.mem_cons, Fin.getElem_fin, Vector.getElem_set]
  by_cases hq : permissionIndex p = permissionIndex q
  · rw [if_pos (congrArg Fin.val hq)]
    exact iff_of_true rfl (.inl (permissionIndex_inj hq).symm)
  · rw [if_neg fun hval => hq (Fin.ext hval), ← Fin.getElem_fin, h q]
    have hne : q ≠ p := by
      rintro rfl
      exact hq rfl
    exact (or_iff_right hne).symm

/-- the loop goes as the one over the list of what was seen -/
theorem markSeen_flags {seen : Vector Bool 7} {ps : List WorkspacePermission} (h : Flags seen ps)
    (values : List WorkspacePermission) :
    match markSeen seen values, seenPermissions ps values with
    | .ok flags, some list => Flags flags list
    | .error _, none => True
    | _, _ => False := by
  induction values generalizing seen ps with
  | nil => exact h
  | cons p values ih =>
    unfold markSeen seenPermissions
    by_cases hp : p ∈ ps
    · rw [if_pos ((h p).mpr hp), if_pos hp]
      trivial
    · rw [if_neg fun hflag => hp ((h p).mp hflag), if_neg hp]
      exact ih (h.cons p)

theorem canonicalPermissionList_toOption (values : List WorkspacePermission) :
    (canonicalPermissionList values).toOption = canonicalPermissions values := by
  have hloop := markSeen_flags flags_none values
  unfold canonicalPermissionList canonicalPermissions
  revert hloop
  cases markSeen (.replicate 7 false) values with
  | error e =>
    cases seenPermissions [] values with
    | none => exact fun _ => rfl
    | some list => exact False.elim
  | ok flags =>
    cases seenPermissions [] values with
    | none => exact False.elim
    | some list =>
      intro hflags
      refine congrArg some (List.filter_congr fun p _ => ?_)
      rw [Bool.eq_iff_iff, decide_eq_true_eq]
      exact hflags p

theorem markSeen_error {seen : Vector Bool 7} {ps values : List WorkspacePermission} {e : PermissionError}
    (h : Flags seen ps) (hps : ps.Nodup) (herror : markSeen seen values = .error e) :
    ∃ before p after, values = before ++ p :: after ∧ (before.reverse ++ ps).Nodup ∧
      p ∈ before.reverse ++ ps ∧ e = .duplicatePermission p.asStr := by
  induction values generalizing seen ps with
  | nil => cases herror
  | cons p values ih =>
    unfold markSeen at herror
    split at herror
    · next hflag =>
      cases herror
      exact ⟨[], p, values, rfl, hps, (h p).mp hflag, rfl⟩
    · next hflag =>
      have hp : p ∉ ps := fun hmem => hflag ((h p).mpr hmem)
      obtain ⟨before, q, after, rfl, hnodup, hq, he⟩ :=
        ih (h.cons p) (List.nodup_cons.mpr ⟨hp, hps⟩) herror
      have hlist : (p :: before).reverse ++ ps = before.reverse ++ p :: ps := by simp
      exact ⟨p :: before, q, after, rfl, hlist ▸ hnodup, hlist ▸ hq, he⟩

/-- **A refused list is refused with what it lists a second time first.** -/
theorem canonicalPermissionList_error {values : List WorkspacePermission} {e : PermissionError}
    (h : canonicalPermissionList values = .error e) :
    ∃ before p after, values = before ++ p :: after ∧ before.Nodup ∧ p ∈ before ∧
      e = .duplicatePermission p.asStr := by
  unfold canonicalPermissionList at h
  cases hseen : markSeen (.replicate 7 false) values with
  | ok seen =>
    rw [hseen] at h
    cases h
  | error e' =>
    rw [hseen] at h
    cases h
    obtain ⟨before, p, after, hvalues, hnodup, hp, he⟩ :=
      markSeen_error flags_none List.nodup_nil hseen
    rw [List.append_nil] at hnodup hp
    exact ⟨before, p, after, hvalues, List.nodup_reverse.mp hnodup, List.mem_reverse.mp hp, he⟩

/-! ## The fixed order -/

/-- permissions in the order of `WorkspacePermission.all`, none twice -/
def CanonicalPermissions (ps : List WorkspacePermission) : Prop := ps.Sublist WorkspacePermission.all

theorem WorkspacePermission.nodup_all : WorkspacePermission.all.Nodup := by decide

namespace CanonicalPermissions
variable {values ps qs : List WorkspacePermission}

theorem nodup (h : CanonicalPermissions ps) : ps.Nodup := WorkspacePermission.nodup_all.sublist h

/-- **Two lists in the fixed order are equal if they have the same permissions.** -/
theorem eq_iff (h : CanonicalPermissions ps) (h' : CanonicalPermissions qs) :
    ps = qs ↔ ∀ p, p ∈ ps ↔ p ∈ qs := by
  constructor
  · rintro rfl p
    rfl
  · exact Base.eq_of_sublist WorkspacePermission.nodup_all h h'

end CanonicalPermissions

section
variable {values ps : List WorkspacePermission}

/-- **The canonical list is the one rearrangement in the fixed order**; a list without it names a
permission twice. -/
theorem canonicalPermissions_eq_some_iff :
    canonicalPermissions values = some ps ↔ CanonicalPermissions ps ∧ ps.Perm values := by
  have hforward : ∀ {qs}, canonicalPermissions values = some qs → CanonicalPermissions qs ∧ qs.Perm values := by
    intro qs h
    have hmem := mem_canonicalPermissions h
    have hnodup := canonicalPermissions_nodup h
    rw [canonicalPermissions_eq] at h
    split at h
    · next hvalues =>
      refine ⟨?_, (List.perm_ext_iff_of_nodup hnodup hvalues).mpr hmem⟩
      rw [← Option.some.inj h]
      exact List.filter_sublist
    · cases h
  refine ⟨hforward, ?_⟩
  rintro ⟨hcanonical, hperm⟩
  cases hvalues : canonicalPermissions values with
  | none =>
    rw [canonicalPermissions_eq, if_pos (hperm.nodup_iff.mp hcanonical.nodup)] at hvalues
    cases hvalues
  | some qs =>
    obtain ⟨hqs, hqperm⟩ := hforward hvalues
    rw [(hqs.eq_iff hcanonical).mpr fun p => (hqperm.trans hperm.symm).mem_iff]

theorem canonicalPermissions_eq_self_iff :
    canonicalPermissions ps = some ps ↔ CanonicalPermissions ps := by
  rw [canonicalPermissions_eq_some_iff]
  exact and_iff_left (.refl ps)

theorem canonicalPermissionList_eq_ok_iff :
    canonicalPermissionList values = .ok ps ↔ CanonicalPermissions ps ∧ ps.Perm values := by
  rw [← canonicalPermissions_eq_some_iff, ← canonicalPermissionList_toOption]
  cases canonicalPermissionList values with
  | error e => exact iff_of_false (by simp) (by simp [Except.toOption])
  | ok qs => simp [Except.toOption]

/-- what has no canonical list names a permission twice -/
theorem exists_canonicalPermissionList_iff :
    (∃ ps, canonicalPermissionList values = .ok ps) ↔ values.Nodup := by
  constructor
  · rintro ⟨ps, h⟩
    obtain ⟨hcanonical, hperm⟩ := canonicalPermissionList_eq_ok_iff.mp h
    exact hperm.nodup_iff.mp hcanonical.nodup
  · intro h
    have hsome := canonicalPermissions_eq values
    rw [if_pos h] at hsome
    exact ⟨_, canonicalPermissionList_eq_ok_iff.mpr (canonicalPermissions_eq_some_iff.mp hsome)⟩

/-- a list in the fixed order stays as it is -/
theorem CanonicalPermissions.canonicalPermissionList (h : CanonicalPermissions ps) :
    canonicalPermissionList ps = .ok ps :=
  canonicalPermissionList_eq_ok_iff.mpr ⟨h, .refl ps⟩

/-- the canonical list is that of the set -/
theorem canonicalPermissionList_of_mem_iff {values' : List WorkspacePermission}
    (h : canonicalPermissionList values = .ok ps) (hnodup : values'.Nodup)
    (hmem : ∀ p, p ∈ values' ↔ p ∈ values) : canonicalPermissionList values' = .ok ps := by
  obtain ⟨hcanonical, hperm⟩ := canonicalPermissionList_eq_ok_iff.mp h
  refine canonicalPermissionList_eq_ok_iff.mpr ⟨hcanonical, ?_⟩
  refine (List.perm_ext_iff_of_nodup hcanonical.nodup hnodup).mpr fun p => ?_
  rw [hperm.mem_iff, hmem p]

end

end Proofplane
