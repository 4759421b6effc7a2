import Proofplane.Documents.Store
import Proofplane.Domain.HumanUploadGrant

/-!
# Human upload grants in the database

* `load`, `find`, `save`     a stored grant, read under its lock and written as a whole;
* `redeemUnit`               the unit of work of a redemption, for both kinds;
* `redeemUnit_cases`         **all that it can do**: nothing, or the redemption of a grant that can be
                             redeemed;
* `redeemUnit_redeems`       **a stored grant that can be redeemed is**.
-/

namespace Proofplane
open Base Mutation

/-- the tables of both kinds, beside those of the documents -/
structure RedemptionDb extends DocumentDb where
  documentUploadGrants : Table (HumanUploadGrant.id (K := evidenceDocumentUpload))
  policyDocumentUploadGrants : Table (HumanUploadGrant.id (K := policyDocumentUpload))

/-- the table of a kind of grants -/
abbrev HumanUploadGrants (K : HumanUploadTarget) := Table (HumanUploadGrant.id (K := K))

/-- the answer to a redemption -/
structure RedeemedUploadGrant (K : HumanUploadTarget) where
  id : Id K.idKind
  workspaceId : WorkspaceId
  target : K.Target
  issuedByUserId : UserId
  issuedViaAgentConnectionId : AgentConnectionId
  expiresAt : Int
  redeemedAt : Int

inductive RedeemOutcome (K : HumanUploadTarget)
  | redeemed (grant : RedeemedUploadGrant K)
  | unavailable

namespace HumanUploadGrant
variable {K : HumanUploadTarget}

/-- `into_domain`: the target is read first -/
def load (row : HumanUploadGrant K) : Except RepositoryError (HumanUploadGrant K) :=
  if K.valid row.target then
    match row.rehydrate with
    | .error _ =>
      .error (.invariantViolation ("persisted " ++ K.noun ++ " human upload grant is invalid"))
    | .ok grant => .ok grant
  else .error .invalidData

/-- `WHERE id = … AND workspace_id = … FOR UPDATE` -/
def find (grants : HumanUploadGrants K) (id : Id K.idKind) (workspaceId : WorkspaceId) :
    Except RepositoryError (Option (HumanUploadGrant K)) :=
  match (grants.get? id).filter fun g => g.workspaceId = workspaceId with
  | none => .ok none
  | some row =>
    match row.load with
    | .error e => .error e
    | .ok grant => .ok (some grant)

/-- the `CHECK`s of the two tables -/
def rowChecks (row : HumanUploadGrant K) : Bool := K.valid row.target && row.timesValid

def save (grants : HumanUploadGrants K) (g : HumanUploadGrant K) :
    Except RepositoryError (HumanUploadGrants K) :=
  if g.toRow.rowChecks then .ok (grants.upsert g.toRow) else .error .database

/-- the unit of work of a redemption at `now` -/
def redeemUnit (grants : HumanUploadGrants K) (authority : HumanUploadAuthority K) (now : Int) :
    Except RepositoryError (RedeemOutcome K × HumanUploadGrants K) :=
  match find grants authority.id authority.workspaceId with
  | .error e => .error e
  | .ok none => .ok (.unavailable, grants)
  | .ok (some grant) =>
    match (redeem authority now).exec grant with
    | (.error _, _) => .ok (.unavailable, grants)
    | (.ok (), grant) =>
      match save grants grant with
      | .error e => .error e
      | .ok grants =>
        match find grants grant.id grant.workspaceId with
        | .error e => .error e
        | .ok none =>
          .error (.invariantViolation
            ("redeemed " ++ K.noun ++ " human upload grant must be readable"))
        | .ok (some grant) =>
          match grant.redeemedAt with
          | none =>
            .error (.invariantViolation
              ("redeemed " ++ K.noun ++ " human upload grant has a redemption time"))
          | some redeemedAt =>
            .ok (.redeemed ⟨grant.id, grant.workspaceId, grant.target, grant.issuedByUserId,
              grant.issuedViaAgentConnectionId, grant.expiresAt, redeemedAt⟩, grants)

/-! ## What is stored -/

/-- a row that the table has accepted -/
structure Stored (row : HumanUploadGrant K) : Prop where
  toRow : row.toRow = row
  target : K.valid row.target = true
  times : row.timesValid = true

namespace Stored
variable {row : HumanUploadGrant K}

theorem rehydrate (h : row.Stored) : row.rehydrate = .ok row := by
  rcases rehydrate_iff row with ⟨-, hr⟩ | ⟨hbad, -⟩
  · exact hr
  · rw [h.times] at hbad
    cases hbad

theorem load (h : row.Stored) : row.load = .ok row := by
  unfold HumanUploadGrant.load
  rw [if_pos h.target, h.rehydrate]

theorem issuedAt (h : row.Stored) : pgTimestamp row.issuedAt = row.issuedAt :=
  congrArg HumanUploadGrant.issuedAt h.toRow

theorem expiresAt (h : row.Stored) : pgTimestamp row.expiresAt = row.expiresAt :=
  congrArg HumanUploadGrant.expiresAt h.toRow

end Stored

/-- the row of a stored grant that is redeemed at `t` -/
def redeemedRow (g : HumanUploadGrant K) (t : Int) : HumanUploadGrant K :=
  { g with redeemedAt := some (pgTimestamp t) }

/-- the answer that tells of it -/
def redeemedAnswer (g : HumanUploadGrant K) (t : Int) : RedeemedUploadGrant K :=
  ⟨g.id, g.workspaceId, g.target, g.issuedByUserId, g.issuedViaAgentConnectionId, g.expiresAt,
    pgTimestamp t⟩

theorem load_ok {row g : HumanUploadGrant K} (h : row.load = .ok g) : g = row := by
  unfold load at h
  split at h
  · rcases rehydrate_iff row with ⟨-, hr⟩ | ⟨-, hr⟩
    · rw [hr] at h
      cases h
      rfl
    · rw [hr] at h
      cases h
  · cases h

theorem find_ok {grants : HumanUploadGrants K} {id : Id K.idKind} {workspaceId : WorkspaceId}
    {g : HumanUploadGrant K} (h : find grants id workspaceId = .ok (some g)) :
    g ∈ grants.rows ∧ g.id = id ∧ g.workspaceId = workspaceId := by
  unfold find at h
  split at h
  · cases h
  · next row hrow =>
    rw [Option.filter_eq_some_iff, Table.get?_eq_some_iff, decide_eq_true_eq] at hrow
    split at h
    · cases h
    · next g' hload =>
      cases h
      rw [load_ok hload]
      exact ⟨hrow.1.1, hrow.1.2, hrow.2⟩

theorem find_stored {grants : HumanUploadGrants K} {g : HumanUploadGrant K} (hg : g ∈ grants.rows)
    (hs : g.Stored) : find grants g.id g.workspaceId = .ok (some g) := by
  have hrow : ((grants.get? g.id).filter fun x => x.workspaceId = g.workspaceId) = some g := by
    rw [Option.filter_eq_some_iff, decide_eq_true_eq]
    exact ⟨Table.get?_of_mem hg, rfl⟩
  unfold find
  rw [hrow]
  dsimp only
  rw [hs.load]

theorem save_ok {grants grants' : HumanUploadGrants K} {g : HumanUploadGrant K}
    (h : save grants g = .ok grants') : grants' = grants.upsert g.toRow ∧ g.toRow.Stored := by
  unfold save rowChecks at h
  split at h
  · next hc =>
    cases h
    obtain ⟨htarget, htimes⟩ := Bool.and_eq_true_iff.mp hc
    exact ⟨rfl, toRow_toRow g, htarget, htimes⟩
  · cases h

/-- the row of a redeemed grant, whose other instants are already what the columns keep -/
theorem toRow_redeemed {g : HumanUploadGrant K} (hs : g.toRow = g) (t : Int) : ({ g with redeemedAt := some t } : HumanUploadGrant K).toRow = g.redeemedRow t := by
  have h : ({ g with redeemedAt := some t } : HumanUploadGrant K).toRow
      = { g.toRow with redeemedAt := some (pgTimestamp t) } := rfl
  rw [h, hs]
  rfl

/-! ## What a redemption does -/

/-- all that the unit of work of a redemption can do -/
inductive Redeems (grants : HumanUploadGrants K) (authority : HumanUploadAuthority K) (now : Int) :
    Except RepositoryError (RedeemOutcome K × HumanUploadGrants K) → Prop
  | failed (e : RepositoryError) : Redeems grants authority now (.error e)
  | unavailable : Redeems grants authority now (.ok (.unavailable, grants))
  | redeemed (g : HumanUploadGrant K) (hg : g ∈ grants.rows) (hredeemable : g.Redeemable authority now)
      (hstored : (g.redeemedRow now).Stored) :
      Redeems grants authority now
        (.ok (.redeemed (g.redeemedAnswer now), grants.upsert (g.redeemedRow now)))

variable {grants : HumanUploadGrants K} {authority : HumanUploadAuthority K} {now : Int}

theorem redeemUnit_cases (hrow : ∀ g, grants.get? authority.id = some g → g.toRow = g) :
    Redeems grants authority now (redeemUnit grants authority now) := by
  unfold redeemUnit
  split
  · exact .failed _
  · exact .unavailable
  · next g hfind =>
    obtain ⟨hg, hid, -⟩ := find_ok hfind
    have hgrow : g.toRow = g := hrow g (Table.get?_eq_some_iff.mpr ⟨hg, hid⟩)
    rcases redeem_exec g authority now with ⟨hredeemable, hexec⟩ | ⟨-, e, hexec⟩
    · rw [hexec]
      dsimp only
      cases hsave : save grants { g with redeemedAt := some now } with
      | error e => exact .failed e
      | ok grants' =>
        obtain ⟨rfl, hstored⟩ := save_ok hsave
        rw [toRow_redeemed hgrow] at hstored
        have hfind' : find (grants.upsert (g.redeemedRow now)) g.id g.workspaceId
            = .ok (some (g.redeemedRow now)) :=
          find_stored (Table.mem_upsert.mpr (.inl rfl)) hstored
        dsimp only
        rw [toRow_redeemed hgrow, hfind']
        exact .redeemed g hg hredeemable hstored
    · rw [hexec]
      exact .unavailable

/-- **A stored grant that can be redeemed is**, from 2000 on. -/
theorem redeemUnit_redeems {g : HumanUploadGrant K} (hg : g ∈ grants.rows) (hs : g.Stored)
    (hredeemable : g.Redeemable authority now) (hnow : pgEpoch ≤ now) :
    redeemUnit grants authority now
      = .ok (.redeemed (g.redeemedAnswer now), grants.upsert (g.redeemedRow now)) := by
  obtain ⟨rfl, hnone, hfrom, huntil⟩ := hredeemable
  have hrow := toRow_redeemed hs.toRow now
  have htimes : (g.redeemedRow now).timesValid = true := by
    have hfrom' := pgTimestamp_mono hfrom
    rw [hs.issuedAt] at hfrom'
    have huntil' : pgTimestamp now < g.expiresAt := by
      have hle : pgTimestamp now ≤ now := by
        rw [pgTimestamp_of_ge hnow]
        omega
      omega
    unfold timesValid redeemedRow
    simp only [Option.all_some, Bool.and_eq_true, decide_eq_true_eq]
    omega
  have hstored : (g.redeemedRow now).Stored := by
    refine ⟨?_, hs.target, htimes⟩
    rw [← hrow, toRow_toRow]
  have hsave : save grants { g with redeemedAt := some now }
      = .ok (grants.upsert (g.redeemedRow now)) := by
    unfold save rowChecks
    rw [hrow, hstored.target, htimes]
    rfl
  have hfind' : find (grants.upsert (g.redeemedRow now)) g.id g.workspaceId
      = .ok (some (g.redeemedRow now)) :=
    find_stored (Table.mem_upsert.mpr (.inl rfl)) hstored
  have hexec : (redeem g.authority now).exec g = (.ok (), { g with redeemedAt := some now }) := by
    rcases redeem_exec g g.authority now with ⟨-, hexec⟩ | ⟨hno, -⟩
    · exact hexec
    · exact absurd ⟨rfl, hnone, hfrom, huntil⟩ hno
  unfold redeemUnit
  rw [show find grants g.authority.id g.authority.workspaceId = .ok (some g) from find_stored hg hs]
  dsimp only
  rw [hexec]
  dsimp only
  rw [hsave]
  dsimp only
  rw [hfind']
  rfl

end HumanUploadGrant

end Proofplane
