import Proofplane.Base.Run
import Proofplane.Redemption.Commands

/-!
# A human upload grant is redeemed at most once

Grants of both kinds are issued and redeemed in any order, by commands with any authorities at any
instants, while other commands change the documents, evidence items and policies.  Each command is one
unit of work under the lock of its grant.

* `redemptionStep`            one command; a new grant gets an id that no grant has;
* `RedeemedOnce`              what the grants of a kind and the redemptions so far satisfy;
* `upload_grants_redeem_once`   **in every run**.
-/

namespace Proofplane
open Base

/-- a redemption that succeeded -/
structure Redemption (K : HumanUploadTarget) where
  authority : HumanUploadAuthority K
  instant : Int
  answer : RedeemedUploadGrant K

structure RedemptionWorld where
  db : RedemptionDb
  /-- every redemption that succeeded so far, by kind -/
  evidence : List (Redemption evidenceDocumentUpload)
  policy : List (Redemption policyDocumentUpload)

/-- the terms of a new grant -/
structure GrantTerms (K : HumanUploadTarget) where
  id : Id K.idKind
  workspaceId : WorkspaceId
  target : K.Target
  issuedByUserId : UserId
  issuedViaAgentConnectionId : AgentConnectionId
  issuedAt : Int
  expiresAt : Int

inductive RedemptionEvent
  | issueEvidence (terms : GrantTerms evidenceDocumentUpload)
  | issuePolicy (terms : GrantTerms policyDocumentUpload)
  | redeemEvidence (authority : EvidenceDocumentUploadGrantAuthority) (now : Int)
  | redeemPolicy (authority : PolicyDocumentUploadGrantAuthority) (now : Int)
  /-- any command on other tables -/
  | others (documents : DocumentDb)

/-- the redemptions after one more command -/
def recordRedemption {K : HumanUploadTarget} (authority : HumanUploadAuthority K) (now : Int)
    (answer : Except HumanUploadGrantHandlerError (RedeemedUploadGrant K))
    (redemptions : List (Redemption K)) : List (Redemption K) :=
  match answer with
  | .error _ => redemptions
  | .ok answer => ⟨authority, now, answer⟩ :: redemptions

/-- a grant issued on terms with a new id; where it is refused, the table is as it was -/
def issueOn {K : HumanUploadTarget} (grants : HumanUploadGrants K) (terms : GrantTerms K) :
    Option (HumanUploadGrants K) :=
  if (grants.get? terms.id).isSome then none
  else
    match HumanUploadGrant.issue terms.id terms.workspaceId terms.target terms.issuedByUserId
        terms.issuedViaAgentConnectionId terms.issuedAt terms.expiresAt with
    | .error _ => some grants
    | .ok grant =>
      match grant.saveIssued grants with
      | .error _ => some grants
      | .ok (_, grants) => some grants

def redemptionStep (w : RedemptionWorld) : RedemptionEvent → Option RedemptionWorld
  | .issueEvidence terms =>
    (issueOn w.db.documentUploadGrants terms).map fun grants =>
      { w with db := { w.db with documentUploadGrants := grants } }
  | .issuePolicy terms =>
    (issueOn w.db.policyDocumentUploadGrants terms).map fun grants =>
      { w with db := { w.db with policyDocumentUploadGrants := grants } }
  | .redeemEvidence authority now =>
    let r := w.db.redeemEvidenceDocumentUploadGrant authority now
    some { w with db := r.2, evidence := recordRedemption authority now r.1 w.evidence }
  | .redeemPolicy authority now =>
    let r := w.db.redeemPolicyDocumentUploadGrant authority now
    some { w with db := r.2, policy := recordRedemption authority now r.1 w.policy }
  | .others documents => some { w with db := { w.db with toDocumentDb := documents } }

/-- no grant of either kind has been issued -/
def RedemptionWorld.start (documents : DocumentDb) : RedemptionWorld :=
  ⟨⟨documents, .empty, .empty⟩, [], []⟩

/-! ## One command -/

section
variable {K : HumanUploadTarget} {grants grants' : HumanUploadGrants K}

/-- a grant on new terms, or nothing -/
theorem issueOn_cases {terms : GrantTerms K} (h : issueOn grants terms = some grants') :
    grants' = grants ∨ ∃ row : HumanUploadGrant K, row.Stored ∧ grants' = grants.upsert row ∧
      grants.get? row.id = none := by
  unfold issueOn at h
  split at h
  · cases h
  · next hnew =>
    split at h
    · cases h
      exact .inl rfl
    · next g hissue =>
      obtain ⟨-, rfl⟩ := HumanUploadGrant.issue_ok hissue
      split at h
      · cases h
        exact .inl rfl
      · next g' saved hsave =>
        cases h
        obtain ⟨rfl, hstored⟩ := HumanUploadGrant.saveIssued_ok hsave
        exact .inr ⟨_, hstored, rfl, Option.not_isSome_iff_eq_none.mp hnew⟩

/-- **A grant that lives for a microsecond is stored**, from 2000 on. -/
theorem saveIssued_of_lifetime {g : HumanUploadGrant K} (htarget : K.valid g.target = true)
    (hredeemed : g.redeemedAt = none) (h2000 : pgEpoch ≤ g.issuedAt)
    (hlife : g.issuedAt + 1000 ≤ g.expiresAt) :
    g.saveIssued grants = .ok (g.toRow, grants.upsert g.toRow) := by
  have htimes : g.toRow.timesValid = true := by
    unfold HumanUploadGrant.timesValid HumanUploadGrant.toRow
    rw [hredeemed, pgTimestamp_of_ge h2000, pgTimestamp_of_ge (by omega)]
    simp only [Option.map_none, Option.all_none, Bool.and_true, decide_eq_true_eq]
    omega
  have hstored : g.toRow.Stored := ⟨g.toRow_toRow, K.valid_toRow _ htarget, htimes⟩
  have hsave : HumanUploadGrant.save grants g = .ok (grants.upsert g.toRow) := by
    unfold HumanUploadGrant.save HumanUploadGrant.rowChecks
    rw [hstored.target, htimes]
    rfl
  have hfind : HumanUploadGrant.find (grants.upsert g.toRow) g.id g.workspaceId
      = .ok (some g.toRow) :=
    HumanUploadGrant.find_stored (Table.mem_upsert.mpr (.inl rfl)) hstored
  unfold HumanUploadGrant.saveIssued
  rw [hsave]
  dsimp only
  rw [hfind]

end

/-! ## The invariant -/

/-- no two redemptions were of one grant, each is the one that its grant records, and every grant is as
its table accepted it -/
structure RedeemedOnce {K : HumanUploadTarget} (grants : HumanUploadGrants K)
    (redemptions : List (Redemption K)) : Prop where
  once : (redemptions.map fun r => r.authority.id).Nodup
  recorded : ∀ r ∈ redemptions, ∃ g ∈ grants.rows, g.authority = r.authority ∧
    g.issuedAt ≤ r.instant ∧ r.instant < g.expiresAt ∧
    g.redeemedAt = some (pgTimestamp r.instant) ∧ r.answer = g.redeemedAnswer r.instant
  stored : ∀ g ∈ grants.rows, g.Stored

namespace RedeemedOnce
variable {K : HumanUploadTarget} {grants grants' : HumanUploadGrants K}
  {redemptions : List (Redemption K)}

theorem empty : RedeemedOnce (.empty : HumanUploadGrants K) [] where
  once := List.nodup_nil
  recorded _ h := absurd h List.not_mem_nil
  stored _ h := absurd h (Table.mem_rows_empty _)

theorem own (h : RedeemedOnce grants redemptions) (id : Id K.idKind) (g : HumanUploadGrant K)
    (hg : grants.get? id = some g) : g.toRow = g :=
  (h.stored g (Table.get?_mem hg)).toRow

theorem issued (h : RedeemedOnce grants redemptions) {row : HumanUploadGrant K} (hrow : row.Stored)
    (hnew : grants.get? row.id = none) : RedeemedOnce (grants.upsert row) redemptions where
  once := h.once
  recorded r hr := by
    obtain ⟨g, hg, hrest⟩ := h.recorded r hr
    have hne : g.id ≠ row.id := Table.get?_eq_none_iff.mp hnew g hg
    exact ⟨g, Table.mem_upsert.mpr (.inr ⟨hg, hne⟩), hrest⟩
  stored g hg := by
    rcases Table.mem_upsert.mp hg with rfl | ⟨hg, -⟩
    · exact hrow
    · exact h.stored g hg

theorem issueOn (h : RedeemedOnce grants redemptions) {terms : GrantTerms K}
    (hissue : Proofplane.issueOn grants terms = some grants') : RedeemedOnce grants' redemptions := by
  rcases issueOn_cases hissue with rfl | ⟨row, hrow, rfl, hnew⟩
  · exact h
  · exact h.issued hrow hnew

/-- a grant that has not been redeemed is not among the redemptions -/
theorem not_redeemed (h : RedeemedOnce grants redemptions) {g : HumanUploadGrant K}
    (hg : g ∈ grants.rows) (hnone : g.redeemedAt = none) {r : Redemption K}
    (hr : r ∈ redemptions) : r.authority.id ≠ g.id := by
  intro hid
  obtain ⟨g', hg', hauthority, -, -, hredeemed, -⟩ := h.recorded r hr
  have hid' : g'.id = g.id := (congrArg HumanUploadAuthority.id hauthority).trans hid
  rw [grants.eq_of_key hg' hg hid', hnone] at hredeemed
  cases hredeemed

theorem redeemCase (h : RedeemedOnce grants redemptions) {authority : HumanUploadAuthority K}
    {now : Int} {answer : Except HumanUploadGrantHandlerError (RedeemedUploadGrant K)}
    (hcase : RedeemCase grants authority now answer grants') :
    RedeemedOnce grants' (recordRedemption authority now answer redemptions) := by
  cases hcase with
  | refused e => exact h
  | redeemed g hg hredeemable hstored =>
    obtain ⟨rfl, hnone, hfrom, huntil⟩ := hredeemable
    refine ⟨?_, ?_, ?_⟩
    · refine List.nodup_cons.mpr ⟨?_, h.once⟩
      intro hmem
      obtain ⟨r, hr, hid⟩ := List.mem_map.mp hmem
      exact h.not_redeemed hg hnone hr hid
    · intro r hr
      rcases List.mem_cons.mp hr with rfl | hr
      · exact ⟨g.redeemedRow now, Table.mem_upsert.mpr (.inl rfl), rfl, hfrom, huntil, rfl, rfl⟩
      · obtain ⟨g', hg', hrest⟩ := h.recorded r hr
        have hne : g'.id ≠ g.id := by
          have hid := h.not_redeemed hg hnone hr
          rwa [← congrArg HumanUploadAuthority.id hrest.1] at hid
        exact ⟨g', Table.mem_upsert.mpr (.inr ⟨hg', hne⟩), hrest⟩
    · intro g' hg'
      rcases Table.mem_upsert.mp hg' with rfl | ⟨hg', -⟩
      · exact hstored
      · exact h.stored g' hg'

end RedeemedOnce

/-! ## Every run -/

/-- both kinds -/
def RedemptionInv (w : RedemptionWorld) : Prop :=
  RedeemedOnce w.db.documentUploadGrants w.evidence ∧
    RedeemedOnce w.db.policyDocumentUploadGrants w.policy

theorem redemptionStep_inv (w : RedemptionWorld) (e : RedemptionEvent) (w' : RedemptionWorld)
    (h : RedemptionInv w) (hstep : redemptionStep w e = some w') : RedemptionInv w' := by
  obtain ⟨hevidence, hpolicy⟩ := h
  cases e with
  | issueEvidence terms =>
    obtain ⟨grants, hissue, rfl⟩ := Option.map_eq_some_iff.mp hstep
    exact ⟨hevidence.issueOn hissue, hpolicy⟩
  | issuePolicy terms =>
    obtain ⟨grants, hissue, rfl⟩ := Option.map_eq_some_iff.mp hstep
    exact ⟨hevidence, hpolicy.issueOn hissue⟩
  | redeemEvidence authority now =>
    cases hstep
    obtain ⟨grants, hdb, hcase⟩ := redeemEvidence_case (hevidence.own _) now
    refine ⟨?_, ?_⟩
    · dsimp only
      rw [hdb]
      exact hevidence.redeemCase hcase
    · dsimp only
      rw [hdb]
      exact hpolicy
  | redeemPolicy authority now =>
    cases hstep
    obtain ⟨grants, hdb, hcase⟩ := redeemPolicy_case (hpolicy.own _) now
    refine ⟨?_, ?_⟩
    · dsimp only
      rw [hdb]
      exact hevidence
    · dsimp only
      rw [hdb]
      exact hpolicy.redeemCase hcase
  | others documents =>
    cases hstep
    exact ⟨hevidence, hpolicy⟩

/-- **A human upload grant is redeemed at most once.**  After any run of commands that starts without
grants: no two redemptions that succeeded were of one grant, each had the authority of its grant and an
instant within its time, which the grant records; the next redeem command either leaves everything as it
is or redeems the grant of its authority, not redeemed before, within its time; every grant is accepted
when it is read, unchanged; and a grant that is to live for a microsecond or more can be stored. -/
theorem upload_grants_redeem_once (documents : DocumentDb) (events : List RedemptionEvent)
    (w : RedemptionWorld) (hrun : run redemptionStep (.start documents) events = some w) :
    RedeemedOnce w.db.documentUploadGrants w.evidence ∧
    RedeemedOnce w.db.policyDocumentUploadGrants w.policy ∧
    (∀ authority now, ∃ grants,
      (w.db.redeemEvidenceDocumentUploadGrant authority now).2
        = { w.db with documentUploadGrants := grants } ∧
      RedeemCase w.db.documentUploadGrants authority now
        (w.db.redeemEvidenceDocumentUploadGrant authority now).1 grants) ∧
    (∀ authority now, ∃ grants,
      (w.db.redeemPolicyDocumentUploadGrant authority now).2
        = { w.db with policyDocumentUploadGrants := grants } ∧
      RedeemCase w.db.policyDocumentUploadGrants authority now
        (w.db.redeemPolicyDocumentUploadGrant authority now).1 grants) ∧
    (∀ g ∈ w.db.documentUploadGrants.rows, g.rehydrate = .ok g ∧ g.load = .ok g) ∧
    (∀ g ∈ w.db.policyDocumentUploadGrants.rows, g.rehydrate = .ok g ∧ g.load = .ok g) ∧
    ∀ (K : HumanUploadTarget) (grants : HumanUploadGrants K) (g : HumanUploadGrant K),
      K.valid g.target = true → g.redeemedAt = none → pgEpoch ≤ g.issuedAt →
      g.issuedAt + 1000 ≤ g.expiresAt →
      g.saveIssued grants = .ok (g.toRow, grants.upsert g.toRow) := by
  have hstart : RedemptionInv (.start documents) := ⟨.empty, .empty⟩
  obtain ⟨hevidence, hpolicy⟩ := run_inv RedemptionInv redemptionStep_inv hstart hrun
  refine ⟨hevidence, hpolicy, fun authority => redeemEvidence_case (hevidence.own authority.id),
    fun authority => redeemPolicy_case (hpolicy.own authority.id), ?_, ?_, ?_⟩
  · intro g hg
    exact ⟨(hevidence.stored g hg).rehydrate, (hevidence.stored g hg).load⟩
  · intro g hg
    exact ⟨(hpolicy.stored g hg).rehydrate, (hpolicy.stored g hg).load⟩
  · intro K grants g htarget hredeemed h2000 hlife
    exact saveIssued_of_lifetime htarget hredeemed h2000 hlife

/-- a grant of five minutes for a policy, issued half a microsecond past a full second -/
def newYearGrant : GrantTerms policyDocumentUpload where
  id := ⟨1⟩
  workspaceId := ⟨2⟩
  target := (⟨3⟩ : PolicyId)
  issuedByUserId := ⟨4⟩
  issuedViaAgentConnectionId := ⟨5⟩
  issuedAt := 1767225600000000500
  expiresAt := 1767225900000000000

/-- the authority of its link -/
def newYearGrantAuthority : PolicyDocumentUploadGrantAuthority :=
  ⟨⟨1⟩, ⟨2⟩, (⟨3⟩ : PolicyId), ⟨4⟩, ⟨5⟩, 1767225900000000000⟩

/-- two people follow one link; the first of them redeems it -/
theorem upload_grants_redeem_once_newYear :
    ∃ w, run redemptionStep
        (.start { DocumentDb.empty with policies := ⟨[⟨⟨3⟩, ⟨2⟩, none⟩], by simp⟩ })
        [.issuePolicy newYearGrant, .redeemPolicy newYearGrantAuthority 1767225660000000700,
          .redeemPolicy newYearGrantAuthority 1767225660000000800] = some w ∧
      w.policy.map Redemption.instant = [1767225660000000700] ∧
      RedeemedOnce w.db.policyDocumentUploadGrants w.policy := by
  have hrun : (run redemptionStep
      (.start { DocumentDb.empty with policies := ⟨[⟨⟨3⟩, ⟨2⟩, none⟩], by simp⟩ })
      [.issuePolicy newYearGrant, .redeemPolicy newYearGrantAuthority 1767225660000000700,
        .redeemPolicy newYearGrantAuthority 1767225660000000800]).map
          (fun w => w.policy.map Redemption.instant) = some [1767225660000000700] := rfl
  obtain ⟨w, hw, hpolicy⟩ := Option.map_eq_some_iff.mp hrun
  exact ⟨w, hw, hpolicy, (upload_grants_redeem_once _ _ w hw).2.1⟩

end Proofplane
