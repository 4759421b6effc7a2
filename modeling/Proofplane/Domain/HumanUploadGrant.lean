import Proofplane.Base.Clock
import Proofplane.Base.Mutation
import Proofplane.Domain.Ids

/-!
# Human upload grants

An agent hands a person a link that opens one upload session, for an evidence item and a window or for a
policy.  The two kinds of grants differ in what they are for, and in nothing else: `HumanUploadGrant` is
both of them, over the id and the target of a kind.

* `HumanUploadTarget`        what a kind of grant is for, and how its target is stored;
* `issue`, `rehydrate`, `matchesAuthority`, `redeem`   the operations;
* `redeem_exec`              **a redemption happens where `Redeemable` says so, and else nothing does**;
* `rehydrate_iff`            which stored grants are accepted, unchanged.
-/

namespace Proofplane
open Base Mutation

/-- what a kind of grant is for, the target as the database keeps it, the check on a stored target, and
the word for the kind in the texts of errors -/
structure HumanUploadTarget where
  idKind : IdKind
  Target : Type
  decTarget : DecidableEq Target
  toRow : Target → Target
  valid : Target → Bool
  noun : String
  toRow_toRow : ∀ t, toRow (toRow t) = toRow t
  valid_toRow : ∀ t, valid t = true → valid (toRow t) = true

instance (K : HumanUploadTarget) : DecidableEq K.Target := K.decTarget

@[ext] structure HumanUploadAuthority (K : HumanUploadTarget) where
  id : Id K.idKind
  workspaceId : WorkspaceId
  target : K.Target
  issuedByUserId : UserId
  issuedViaAgentConnectionId : AgentConnectionId
  expiresAt : Int

structure HumanUploadGrant (K : HumanUploadTarget) where
  id : Id K.idKind
  workspaceId : WorkspaceId
  target : K.Target
  issuedByUserId : UserId
  issuedViaAgentConnectionId : AgentConnectionId
  issuedAt : Int
  expiresAt : Int
  redeemedAt : Option Int

inductive HumanUploadGrantError
  | invalidIssuance | invalidRehydration | authorityMismatch | expired | alreadyRedeemed
  deriving DecidableEq, Repr

namespace HumanUploadGrant
variable {K : HumanUploadTarget}

/-- the authority that the link of this grant carries -/
def authority (g : HumanUploadGrant K) : HumanUploadAuthority K where
  id := g.id
  workspaceId := g.workspaceId
  target := g.target
  issuedByUserId := g.issuedByUserId
  issuedViaAgentConnectionId := g.issuedViaAgentConnectionId
  expiresAt := g.expiresAt

def issue (id : Id K.idKind) (workspaceId : WorkspaceId) (target : K.Target)
    (issuedByUserId : UserId) (issuedViaAgentConnectionId : AgentConnectionId)
    (issuedAt expiresAt : Int) : Except HumanUploadGrantError (HumanUploadGrant K) :=
  if expiresAt ≤ issuedAt then .error .invalidIssuance
  else
    .ok
      { id, workspaceId, target, issuedByUserId, issuedViaAgentConnectionId, issuedAt, expiresAt
        redeemedAt := none }

def rehydrate (row : HumanUploadGrant K) : Except HumanUploadGrantError (HumanUploadGrant K) :=
  match issue row.id row.workspaceId row.target row.issuedByUserId row.issuedViaAgentConnectionId
      row.issuedAt row.expiresAt with
  | .error _ => .error .invalidRehydration
  | .ok grant =>
    if row.redeemedAt.any fun t => decide (t < grant.issuedAt) || decide (grant.expiresAt ≤ t) then
      .error .invalidRehydration
    else .ok { grant with redeemedAt := row.redeemedAt }

def matchesAuthority (authority : HumanUploadAuthority K) :
    Mutation HumanUploadGrantError (HumanUploadGrant K) Unit := do
  let g ← get
  refuse
    (¬ (g.id = authority.id ∧ g.workspaceId = authority.workspaceId ∧ g.target = authority.target ∧
      g.issuedByUserId = authority.issuedByUserId ∧
      g.issuedViaAgentConnectionId = authority.issuedViaAgentConnectionId ∧
      g.expiresAt = authority.expiresAt)) .authorityMismatch

def redeem (authority : HumanUploadAuthority K) (redeemedAt : Int) :
    Mutation HumanUploadGrantError (HumanUploadGrant K) Unit := do
  matchesAuthority authority
  let g ← get
  refuse (g.redeemedAt.isSome = true) .alreadyRedeemed
  refuse (redeemedAt < g.issuedAt ∨ g.expiresAt ≤ redeemedAt) .expired
  modify fun g => { g with redeemedAt := some redeemedAt }

/-- the row of a grant: every instant in whole microseconds -/
def toRow (g : HumanUploadGrant K) : HumanUploadGrant K :=
  { g with
    target := K.toRow g.target
    issuedAt := pgTimestamp g.issuedAt
    expiresAt := pgTimestamp g.expiresAt
    redeemedAt := g.redeemedAt.map pgTimestamp }

/-- the instants of a grant fit together -/
def timesValid (g : HumanUploadGrant K) : Bool :=
  decide (g.issuedAt < g.expiresAt) &&
    g.redeemedAt.all fun t => decide (g.issuedAt ≤ t) && decide (t < g.expiresAt)

/-! ## What the operations do -/

/-- what a redemption needs -/
def Redeemable (g : HumanUploadGrant K) (authority : HumanUploadAuthority K) (t : Int) : Prop :=
  g.authority = authority ∧ g.redeemedAt = none ∧ g.issuedAt ≤ t ∧ t < g.expiresAt

theorem issue_ok {id : Id K.idKind} {workspaceId : WorkspaceId} {target : K.Target} {user : UserId}
    {connection : AgentConnectionId} {issuedAt expiresAt : Int} {g : HumanUploadGrant K}
    (h : issue id workspaceId target user connection issuedAt expiresAt = .ok g) :
    issuedAt < expiresAt ∧
      g = ⟨id, workspaceId, target, user, connection, issuedAt, expiresAt, none⟩ := by
  unfold issue at h
  split at h
  · cases h
  · next hlt =>
    cases h
    exact ⟨by omega, rfl⟩

theorem matchesAuthority_iff (g : HumanUploadGrant K) (a : HumanUploadAuthority K) :
    (g.id = a.id ∧ g.workspaceId = a.workspaceId ∧ g.target = a.target ∧
      g.issuedByUserId = a.issuedByUserId ∧
      g.issuedViaAgentConnectionId = a.issuedViaAgentConnectionId ∧ g.expiresAt = a.expiresAt) ↔
    g.authority = a := by
  constructor
  · rintro ⟨h1, h2, h3, h4, h5, h6⟩
    exact HumanUploadAuthority.ext h1 h2 h3 h4 h5 h6
  · intro h
    rw [← h]
    exact ⟨rfl, rfl, rfl, rfl, rfl, rfl⟩

theorem matchesAuthority_exec (g : HumanUploadGrant K) (a : HumanUploadAuthority K) :
    (matchesAuthority a).exec g
      = if g.id = a.id ∧ g.workspaceId = a.workspaceId ∧ g.target = a.target ∧
          g.issuedByUserId = a.issuedByUserId ∧
          g.issuedViaAgentConnectionId = a.issuedViaAgentConnectionId ∧ g.expiresAt = a.expiresAt then
          (.ok (), g)
        else (.error .authorityMismatch, g) := by
  unfold matchesAuthority
  rw [exec_get_bind, exec_refuse, ite_not]

/-- **What can be redeemed is, and a redemption that is refused leaves the grant as it was.** -/
theorem redeem_exec (g : HumanUploadGrant K) (a : HumanUploadAuthority K) (t : Int) :
    (g.Redeemable a t ∧ (redeem a t).exec g = (.ok (), { g with redeemedAt := some t })) ∨
    (¬ g.Redeemable a t ∧ ∃ e, (redeem a t).exec g = (.error e, g)) := by
  unfold redeem Redeemable
  rw [exec_bind, matchesAuthority_exec]
  by_cases hmatch : g.authority = a
  · rw [if_pos ((matchesAuthority_iff g a).mpr hmatch)]
    dsimp only
    rw [exec_get_bind, exec_refuse_bind]
    cases hredeemed : g.redeemedAt with
    | some s => exact .inr ⟨fun h => (by cases h.2.1), .alreadyRedeemed, rfl⟩
    | none =>
      rw [if_neg (by simp), exec_refuse_bind]
      by_cases hout : t < g.issuedAt ∨ g.expiresAt ≤ t
      · rw [if_pos hout]
        exact .inr ⟨fun h => (by omega), .expired, rfl⟩
      · rw [if_neg hout, exec_modify]
        exact .inl ⟨⟨hmatch, rfl, by omega, by omega⟩, rfl⟩
  · rw [if_neg (fun h => hmatch ((matchesAuthority_iff g a).mp h))]
    exact .inr ⟨fun h => hmatch h.1, .authorityMismatch, rfl⟩

/-- a stored grant is accepted as it is, where its instants fit together, and else refused -/
theorem rehydrate_iff (row : HumanUploadGrant K) :
    (row.timesValid = true ∧ row.rehydrate = .ok row) ∨
    (row.timesValid = false ∧ row.rehydrate = .error .invalidRehydration) := by
  unfold rehydrate issue timesValid
  by_cases hlt : row.expiresAt ≤ row.issuedAt
  · rw [if_pos hlt]
    exact .inr ⟨by simp [hlt], rfl⟩
  · rw [if_neg hlt]
    dsimp only
    have hlt' : decide (row.issuedAt < row.expiresAt) = true := decide_eq_true (by omega)
    rw [hlt', Bool.true_and]
    cases hredeemed : row.redeemedAt with
    | none =>
      refine .inl ⟨rfl, ?_⟩
      rw [if_neg (by simp), ← hredeemed]
    | some t =>
      by_cases hout : t < row.issuedAt ∨ row.expiresAt ≤ t
      · rw [if_pos (by simpa using hout)]
        refine .inr ⟨?_, rfl⟩
        simp only [Option.all_some, Bool.and_eq_false_iff, decide_eq_false_iff_not]
        omega
      · rw [if_neg (by simpa using hout), ← hredeemed]
        refine .inl ⟨?_, rfl⟩
        simp only [hredeemed, Option.all_some, Bool.and_eq_true, decide_eq_true_eq]
        omega

@[simp] theorem toRow_id (g : HumanUploadGrant K) : g.toRow.id = g.id := rfl

@[simp] theorem toRow_toRow (g : HumanUploadGrant K) : g.toRow.toRow = g.toRow := by
  unfold toRow
  simp [K.toRow_toRow, Option.map_map, Function.comp_def]

end HumanUploadGrant

/-! ## The two kinds -/

/-- a `CoverageWindow` at the readings of a clock, which can lie in a leap second -/
structure ClockWindow where
  validFrom : ClockInstant
  validUntil : ClockInstant
  deriving DecidableEq, Repr

/-- `CoverageWindow::new`: refused where the window ends before it begins -/
def ClockWindow.new (validFrom validUntil : ClockInstant) : Option ClockWindow :=
  if validUntil.before validFrom = true then none else some ⟨validFrom, validUntil⟩

theorem ClockWindow.new_some {validFrom validUntil : ClockInstant} {c : ClockWindow}
    (h : ClockWindow.new validFrom validUntil = some c) :
    c = ⟨validFrom, validUntil⟩ ∧ ClockWindow.new c.validFrom c.validUntil = some c := by
  have hc : c = ⟨validFrom, validUntil⟩ := by
    unfold ClockWindow.new at h
    split at h
    · cases h
    · exact (Option.some.inj h).symm
  refine ⟨hc, ?_⟩
  rw [← h, hc]

/-- the window as the database keeps it -/
def ClockWindow.toRow (c : ClockWindow) : ClockWindow :=
  ⟨c.validFrom.pgTimestamp, c.validUntil.pgTimestamp⟩

@[simp] theorem ClockWindow.toRow_toRow (c : ClockWindow) : c.toRow.toRow = c.toRow := by
  unfold toRow
  rw [ClockInstant.pgTimestamp_idem, ClockInstant.pgTimestamp_idem]

structure EvidenceDocumentTarget where
  evidenceId : EvidenceId
  coverage : ClockWindow
  deriving DecidableEq, Repr

/-- the upload of documents for a window of an evidence item; the window is checked as its columns keep
it -/
def evidenceDocumentUpload : HumanUploadTarget where
  idKind := .documentUploadGrant
  Target := EvidenceDocumentTarget
  decTarget := inferInstance
  toRow := fun t => { t with coverage := t.coverage.toRow }
  valid := fun t => (ClockWindow.new t.coverage.toRow.validFrom t.coverage.toRow.validUntil).isSome
  noun := "evidence"
  toRow_toRow := fun t => by rw [ClockWindow.toRow_toRow]
  valid_toRow := fun t h => by rwa [ClockWindow.toRow_toRow]

/-- the upload of the document of a policy -/
def policyDocumentUpload : HumanUploadTarget where
  idKind := .policyDocumentUploadGrant
  Target := PolicyId
  decTarget := inferInstance
  toRow := fun p => p
  valid := fun _ => true
  noun := "policy"
  toRow_toRow := fun _ => rfl
  valid_toRow := fun _ h => h

abbrev EvidenceDocumentUploadGrant := HumanUploadGrant evidenceDocumentUpload
abbrev EvidenceDocumentUploadGrantAuthority := HumanUploadAuthority evidenceDocumentUpload
abbrev PolicyDocumentUploadGrant := HumanUploadGrant policyDocumentUpload
abbrev PolicyDocumentUploadGrantAuthority := HumanUploadAuthority policyDocumentUpload

end Proofplane
