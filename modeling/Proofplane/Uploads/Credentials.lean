import Proofplane.Redemption.Once
import Proofplane.Redemption.PolicyLink
import Proofplane.Uploads.Issue
import Proofplane.Uploads.Once

/-!
# Upload credentials round-trip

The expiry of a grant exists in nanoseconds when it is asked for, in whole seconds in the credential and in
microseconds in the database, and an upload compares the last two for equality.

* `RoundTrips`            the law of one kind of machine grants: a credential fits its own grant until the
                          expiry that was told, and the credential of another grant never does;
* `roundTrips_sealed`     it holds of whatever `sealGrant` seals;
* `grantsKept_run`, `redemption_keeps`   a stored grant is there, with its terms, in every later state;
* `upload_credentials_roundtrip`   **for all three kinds**.
-/

namespace Proofplane
open Base

/-! ## Machine grants -/

section
variable {K : UploadTarget} [DecidableEq K.Ref]

/-- the law of one kind: `Issues` is what its command can answer, with the instant of the sealing -/
structure RoundTrips (verify : String → Int → Option (UploadAuthority K))
    (Issues : IssuedUploadGrant K → Int → Prop) : Prop where
  accepted : ∀ issued sealedAt, Issues issued sealedAt → ∀ now, floorSec sealedAt ≤ now →
    now < issued.grant.expiresAt → ∃ authority, verify issued.credential now = some authority ∧
      ∀ g, SameTerms issued.grant g → g.matchesAuthority authority = .ok ()
  foreign : ∀ issued sealedAt other otherSealedAt, Issues issued sealedAt →
    Issues other otherSealedAt → other.grant.id ≠ issued.grant.id →
      ∀ now authority, verify other.credential now = some authority →
        ∀ g, SameTerms issued.grant g → g.matchesAuthority authority = .error .authorityMismatch

theorem matchesAuthority_error {g : UploadGrant K} {a : UploadAuthority K} (h : a.uploadId ≠ g.id) :
    g.matchesAuthority a = .error .authorityMismatch := by
  unfold UploadGrant.matchesAuthority
  rw [if_neg fun hm => h hm.1.symm]

variable {implicitAssertion : String} {Key Nonce : Type} {C : GrantClaimKind K.Ref}
  {T : PasetoTokens implicitAssertion (GrantClaims C.Texts) Key Nonce}

/-- the credential and the stored form of a sealed grant -/
def Sealed (C : GrantClaimKind K.Ref) (T : PasetoTokens implicitAssertion (GrantClaims C.Texts) Key Nonce)
    (issued : IssuedUploadGrant K) (sealedAt : Int) : Prop :=
  ∃ connection uploadId target declaration ttl issuedAt nonce token grant,
    sealGrant C T connection uploadId target declaration ttl issuedAt sealedAt nonce
      = some (token, grant) ∧ issued = ⟨grant.toRow, token.token⟩

theorem roundTrips_sealed (hT : T.layer.Faithful) {Issues : IssuedUploadGrant K → Int → Prop}
    (hissues : ∀ issued sealedAt, Issues issued sealedAt → Sealed C T issued sealedAt) :
    RoundTrips (UploadAuthority.verify C T) Issues where
  accepted issued sealedAt hi now hfrom hto := by
    obtain ⟨connection, uploadId, target, declaration, ttl, issuedAt, nonce, token, grant, hseal, rfl⟩ :=
      hissues issued sealedAt hi
    obtain ⟨hauthority, hexpires⟩ := sealGrant_authority_toRow hseal
    have hto' : now < token.expiresAt := hexpires ▸ hto
    refine ⟨grant.authority, verify_sealed hT hseal hfrom hto', ?_⟩
    intro g hg
    rw [UploadGrant.matchesAuthority_ok, hg.authority]
    exact hauthority.symm
  foreign issued sealedAt other otherSealedAt hi ho hne now authority hv g hg := by
    obtain ⟨_, _, _, _, _, _, _, token, grant, hseal, rfl⟩ := hissues other otherSealedAt ho
    have hauthority : authority = grant.authority := verify_sealed_only hT hseal hv
    apply matchesAuthority_error
    rw [hauthority, hg.id]
    exact hne

end

/-! ## In every later state -/

theorem KeepsTerms.trans {K : UploadTarget} {grants grants' grants'' : Table (UploadGrant.id (K := K))}
    (h : KeepsTerms grants grants') (h' : KeepsTerms grants' grants'') : KeepsTerms grants grants'' where
  terms g hg := by
    obtain ⟨g', hg', hsame⟩ := h.terms g hg
    obtain ⟨g'', hg'', hsame'⟩ := h'.terms g' hg'
    exact ⟨g'', hg'', hsame.trans hsame'⟩
  completed g hg id hid := h'.completed g (h.completed g hg id hid) id hid

theorem GrantsKept.trans {db db' db'' : DocumentDb} (h : GrantsKept db db') (h' : GrantsKept db' db'') :
    GrantsKept db db'' :=
  ⟨h.evidence.trans h'.evidence, h.policy.trans h'.policy⟩

/-- no run loses a grant or changes its terms -/
theorem grantsKept_run {maxDocumentBytes : Nat} {es : List UploadEvent} {w w' : UploadWorld}
    (hi : UploadInv w) (h : run (uploadStep maxDocumentBytes) w es = some w') :
    GrantsKept w.db w'.db :=
  run_rel UploadInv (fun w w' => GrantsKept w.db w'.db)
    (fun _ _ _ hi hstep => hi.move (uploadStep_move hstep))
    (fun w => .refl w.db) (fun _ _ _ h h' => h.trans h')
    (fun _ _ _ hi hstep => grantsKept_move hi (uploadStep_move hstep).tables) hi h

/-- a sealed grant is one that housekeeping can issue -/
theorem sealGrant_reissue {K : UploadTarget} {implicitAssertion : String} {Key Nonce : Type}
    {C : GrantClaimKind K.Ref} {T : PasetoTokens implicitAssertion (GrantClaims C.Texts) Key Nonce}
    {connection : AgentConnectionContext} {uploadId : Id K.idKind} {target : K.Target}
    {declaration : DeclaredUploadFile} {ttl issuedAt sealedAt : Int} {nonce : Nonce}
    {token : IssuedPasetoToken} {grant : UploadGrant K}
    (h : sealGrant C T connection uploadId target declaration ttl issuedAt sealedAt nonce
      = some (token, grant)) : grant.reissue = .ok grant := by
  obtain ⟨-, hlt, rfl⟩ := sealGrant_ok h
  unfold UploadGrant.reissue UploadGrant.issue UploadGrant.new
  rw [if_neg (not_le.mpr hlt)]

section
variable {Key Nonce : Type} {maxDocumentBytes : Nat} {es es' : List UploadEvent} {w w' : UploadWorld}
  {db' : DocumentDb} {ttl issuedAt sealedAt : Int} {nonce : Nonce}

/-- the evidence command is a step of the system -/
theorem issueAgentEvidenceUploadGrant_step {T : AgentEvidenceUploadGrantTokens Key Nonce}
    {command : IssueAgentEvidenceUploadGrant} {uploadId : AgentEvidenceUploadGrantId}
    {submissionId : EvidenceSubmissionId} {issued : IssuedAgentEvidenceUploadGrant}
    (h : issueAgentEvidenceUploadGrantFor ttl T w.db command uploadId submissionId issuedAt sealedAt nonce
      = (.ok issued, db'))
    (hnew : w.db.evidenceGrants.get? uploadId = none) (hsub : submissionId ∉ w.submissionIds) :
    ∃ grant, uploadStep maxDocumentBytes w (.housekeeping (.issueEvidenceGrant grant))
      = some { w with db := db', submissionIds := submissionId :: w.submissionIds } := by
  obtain ⟨token, grant, hseal, hsave, -⟩ := issueAgentEvidenceUploadGrant_ok h
  obtain ⟨-, -, hgrant⟩ := sealGrant_ok hseal
  have hid : grant.id = uploadId := by rw [hgrant]; rfl
  have hsubmission : grant.submissionId = submissionId := by rw [hgrant]; rfl
  have hkeep : w.db.housekeep (.issueEvidenceGrant grant) = some db' := by
    show (if (w.db.evidenceGrants.get? grant.id).isSome then none
      else grant.reissue.toOption.bind fun g => (w.db.saveEvidenceGrant g).toOption) = some db'
    rw [hid, hnew, sealGrant_reissue hseal]
    show (w.db.saveEvidenceGrant grant).toOption = some db'
    rw [hsave]
    rfl
  refine ⟨grant, ?_⟩
  show (if grant.submissionId ∈ w.submissionIds then none
    else (w.db.housekeep (.issueEvidenceGrant grant)).map _) = _
  rw [hsubmission, if_neg hsub, hkeep]
  rfl

/-- the policy command is a step of the system -/
theorem issueAgentPolicyDocumentUploadGrant_step {T : AgentPolicyDocumentUploadGrantTokens Key Nonce}
    {command : IssueAgentPolicyDocumentUploadGrant} {uploadId : AgentPolicyDocumentUploadGrantId}
    {issued : IssuedAgentPolicyDocumentUploadGrant}
    (h : issueAgentPolicyDocumentUploadGrantFor ttl T w.db command uploadId issuedAt sealedAt nonce
      = (.ok issued, db')) (hnew : w.db.policyGrants.get? uploadId = none) :
    ∃ grant, uploadStep maxDocumentBytes w (.housekeeping (.issuePolicyGrant grant))
      = some { w with db := db' } := by
  obtain ⟨token, grant, hseal, hsave, -⟩ := issueAgentPolicyDocumentUploadGrant_ok h
  obtain ⟨-, -, hgrant⟩ := sealGrant_ok hseal
  have hid : grant.id = uploadId := by rw [hgrant]; rfl
  have hkeep : w.db.housekeep (.issuePolicyGrant grant) = some db' := by
    show (if (w.db.policyGrants.get? grant.id).isSome then none
      else grant.reissue.toOption.bind fun g => (w.db.savePolicyGrant g).toOption) = some db'
    rw [hid, hnew, sealGrant_reissue hseal]
    show (w.db.savePolicyGrant grant).toOption = some db'
    rw [hsave]
    rfl
  refine ⟨grant, ?_⟩
  show (w.db.housekeep (.issuePolicyGrant grant)).map _ = _
  rw [hkeep]
  rfl

/-- what a grant table keeps of a row, a read of it finds -/
theorem getGrant_later {K : UploadTarget} {grants grants' : Table (UploadGrant.id (K := K))}
    (hk : KeepsTerms grants grants') (hvalid : ∀ g ∈ grants'.rows, g.valid = true)
    {g : UploadGrant K} (hg : g ∈ grants.rows) (inconsistent : String) :
    ∃ g', DocumentDb.getGrant grants' inconsistent g.id g.workspaceId = .ok (some g') ∧
      SameTerms g g' := by
  obtain ⟨g', hg', hsame⟩ := hk.terms g hg
  refine ⟨g', ?_, hsame⟩
  have hws : g'.workspaceId = g.workspaceId := by rw [hsame]
  rw [← hsame.id, ← hws]
  exact DocumentDb.getGrant_of_mem inconsistent hg' (hvalid g' hg')

/-- **In every later state the evidence grant is read with the terms that were answered.** -/
theorem agentEvidence_reloaded {T : AgentEvidenceUploadGrantTokens Key Nonce}
    {command : IssueAgentEvidenceUploadGrant} {uploadId : AgentEvidenceUploadGrantId}
    {submissionId : EvidenceSubmissionId} {issued : IssuedAgentEvidenceUploadGrant}
    (hrun : run (uploadStep maxDocumentBytes) .empty es = some w)
    (h : issueAgentEvidenceUploadGrantFor ttl T w.db command uploadId submissionId issuedAt sealedAt nonce
      = (.ok issued, db'))
    (hnew : w.db.evidenceGrants.get? uploadId = none) (hsub : submissionId ∉ w.submissionIds)
    (hlater : run (uploadStep maxDocumentBytes)
      { w with db := db', submissionIds := submissionId :: w.submissionIds } es' = some w') :
    ∃ g, w'.db.getEvidenceGrant issued.grant.id issued.grant.workspaceId = .ok (some g) ∧
      SameTerms issued.grant g := by
  obtain ⟨step, hstep⟩ : ∃ grant, uploadStep maxDocumentBytes w
      (.housekeeping (.issueEvidenceGrant grant)) = some _ :=
    issueAgentEvidenceUploadGrant_step h hnew hsub
  obtain ⟨token, grant, -, hsave, rfl⟩ := issueAgentEvidenceUploadGrant_ok h
  have hi := (uploadInv_run hrun).move (uploadStep_move hstep)
  have hi' : UploadInv w' :=
    run_inv UploadInv (fun _ _ _ hi hstep => hi.move (uploadStep_move hstep)) hi hlater
  refine getGrant_later (grantsKept_run hi hlater).evidence hi'.evidence.valid ?_ _
  show grant.toRow ∈ db'.evidenceGrants.rows
  rw [(DocumentDb.saveEvidenceGrant_ok hsave).1]
  exact Table.mem_upsert.mpr (.inl rfl)

/-- **In every later state the policy grant is read with the terms that were answered.** -/
theorem agentPolicy_reloaded {T : AgentPolicyDocumentUploadGrantTokens Key Nonce}
    {command : IssueAgentPolicyDocumentUploadGrant} {uploadId : AgentPolicyDocumentUploadGrantId}
    {issued : IssuedAgentPolicyDocumentUploadGrant}
    (hrun : run (uploadStep maxDocumentBytes) .empty es = some w)
    (h : issueAgentPolicyDocumentUploadGrantFor ttl T w.db command uploadId issuedAt sealedAt nonce
      = (.ok issued, db'))
    (hnew : w.db.policyGrants.get? uploadId = none)
    (hlater : run (uploadStep maxDocumentBytes) { w with db := db' } es' = some w') :
    ∃ g, w'.db.getPolicyGrant issued.grant.id issued.grant.workspaceId = .ok (some g) ∧
      SameTerms issued.grant g := by
  obtain ⟨step, hstep⟩ : ∃ grant, uploadStep maxDocumentBytes w
      (.housekeeping (.issuePolicyGrant grant)) = some _ :=
    issueAgentPolicyDocumentUploadGrant_step h hnew
  obtain ⟨token, grant, -, hsave, rfl⟩ := issueAgentPolicyDocumentUploadGrant_ok h
  have hi := (uploadInv_run hrun).move (uploadStep_move hstep)
  have hi' : UploadInv w' :=
    run_inv UploadInv (fun _ _ _ hi hstep => hi.move (uploadStep_move hstep)) hi hlater
  refine getGrant_later (grantsKept_run hi hlater).policy hi'.policy.valid ?_ _
  show grant.toRow ∈ db'.policyGrants.rows
  rw [(DocumentDb.savePolicyGrant_ok hsave).1]
  exact Table.mem_upsert.mpr (.inl rfl)

end

/-! ## Human grants for a policy -/

/-- the same grant, but for its redemption -/
def HumanUploadGrant.SameTerms {K : HumanUploadTarget} (g g' : HumanUploadGrant K) : Prop :=
  g' = { g with redeemedAt := g'.redeemedAt }

theorem HumanUploadGrant.SameTerms.authority {K : HumanUploadTarget} {g g' : HumanUploadGrant K}
    (h : g.SameTerms g') : g'.authority = g.authority := by
  rw [h]
  rfl

/-- no grant is lost, and none changes but in its redemption -/
def HumanGrantsKept {K : HumanUploadTarget} (grants grants' : HumanUploadGrants K) : Prop :=
  ∀ g ∈ grants.rows, ∃ g' ∈ grants'.rows, g.SameTerms g'

namespace HumanGrantsKept
variable {K : HumanUploadTarget} {grants grants' grants'' : HumanUploadGrants K}

theorem refl (grants : HumanUploadGrants K) : HumanGrantsKept grants grants := by
  intro g hg
  exact ⟨g, hg, rfl⟩

theorem trans (h : HumanGrantsKept grants grants') (h' : HumanGrantsKept grants' grants'') :
    HumanGrantsKept grants grants'' := by
  intro g hg
  obtain ⟨g', hg', hsame⟩ := h g hg
  obtain ⟨g'', hg'', hsame'⟩ := h' g' hg'
  refine ⟨g'', hg'', ?_⟩
  unfold HumanUploadGrant.SameTerms at *
  rw [hsame', hsame]

theorem issueOn {terms : GrantTerms K} (h : Proofplane.issueOn grants terms = some grants') :
    HumanGrantsKept grants grants' := by
  rcases issueOn_cases h with rfl | ⟨row, -, rfl, hnew⟩
  · exact refl _
  · intro g hg
    exact ⟨g, Table.mem_upsert.mpr (.inr ⟨hg, Table.get?_eq_none_iff.mp hnew g hg⟩), rfl⟩

theorem redeemCase {authority : HumanUploadAuthority K} {now : Int}
    {answer : Except HumanUploadGrantHandlerError (RedeemedUploadGrant K)}
    (h : RedeemCase grants authority now answer grants') : HumanGrantsKept grants grants' := by
  cases h with
  | refused e => exact refl _
  | redeemed r hr hredeemable hstored =>
    intro g hg
    by_cases hid : g.id = r.id
    · have heq : g = r := grants.eq_of_key hg hr hid
      refine ⟨r.redeemedRow now, Table.mem_upsert.mpr (.inl rfl), ?_⟩
      rw [heq]
      rfl
    · exact ⟨g, Table.mem_upsert.mpr (.inr ⟨hg, hid⟩), rfl⟩

end HumanGrantsKept

theorem redemptionStep_keeps {w w' : RedemptionWorld} {e : RedemptionEvent} (hi : RedemptionInv w)
    (h : redemptionStep w e = some w') :
    HumanGrantsKept w.db.policyDocumentUploadGrants w'.db.policyDocumentUploadGrants := by
  cases e with
  | issueEvidence terms =>
    obtain ⟨grants, -, rfl⟩ := Option.map_eq_some_iff.mp h
    exact .refl _
  | issuePolicy terms =>
    obtain ⟨grants, hissue, rfl⟩ := Option.map_eq_some_iff.mp h
    exact .issueOn hissue
  | redeemEvidence authority now =>
    cases h
    obtain ⟨grants, hdb, -⟩ := redeemEvidence_case (hi.1.own authority.id) now
    show HumanGrantsKept _ (w.db.redeemEvidenceDocumentUploadGrant authority now).2.policyDocumentUploadGrants
    rw [hdb]
    exact .refl _
  | redeemPolicy authority now =>
    cases h
    obtain ⟨grants, hdb, hcase⟩ := redeemPolicy_case (hi.2.own authority.id) now
    show HumanGrantsKept _ (w.db.redeemPolicyDocumentUploadGrant authority now).2.policyDocumentUploadGrants
    rw [hdb]
    exact .redeemCase hcase
  | others documents =>
    cases h
    exact .refl _

/-- **No run of redemptions loses a grant for a policy or changes its terms.** -/
theorem redemption_keeps {es : List RedemptionEvent} {w w' : RedemptionWorld} (hi : RedemptionInv w)
    (h : run redemptionStep w es = some w') :
    HumanGrantsKept w.db.policyDocumentUploadGrants w'.db.policyDocumentUploadGrants :=
  run_rel RedemptionInv
    (fun w w' => HumanGrantsKept w.db.policyDocumentUploadGrants w'.db.policyDocumentUploadGrants)
    redemptionStep_inv (fun _ => .refl _) (fun _ _ _ h h' => h.trans h')
    (fun _ _ _ hi hstep => redemptionStep_keeps hi hstep) hi h

section
variable {Key Nonce : Type} {S : PolicyUploadLinks Key Nonce} {documents : DocumentDb}
  {es es' : List RedemptionEvent} {w w' : RedemptionWorld} {db' : RedemptionDb}
  {command : IssuePolicyDocumentUploadGrant} {grantId : PolicyDocumentUploadGrantId}
  {ttl issuedAt sealedAt : Int} {nonce : Nonce} {issued : IssuedPolicyDocumentUploadGrant}
  {row : PolicyDocumentUploadGrant}

/-- **In every later state the grant of a link is read with the terms that were stored.** -/
theorem policyLink_reloaded (hrun : run redemptionStep (.start documents) es = some w)
    (h : S.issuePolicyDocumentUploadGrantFor ttl w.db command grantId issuedAt sealedAt nonce
      = (.ok issued, db'))
    (hnew : w.db.policyDocumentUploadGrants.get? grantId = none)
    (hrow : db'.policyDocumentUploadGrants.get? grantId = some row)
    (hlater : run redemptionStep { w with db := db' } es' = some w') :
    ∃ g, HumanUploadGrant.find w'.db.policyDocumentUploadGrants row.id row.workspaceId
      = .ok (some g) ∧ row.SameTerms g := by
  have hstart : RedemptionInv (.start documents) := ⟨.empty, .empty⟩
  obtain ⟨hevidence, hpolicy⟩ := run_inv RedemptionInv redemptionStep_inv hstart hrun
  obtain ⟨token, -, -, -, hdb, hstored⟩ := PolicyUploadLinks.issuePolicyDocumentUploadGrant_ok h
  have hi : RedemptionInv { w with db := db' } := by
    rw [hdb]
    exact ⟨hevidence, hpolicy.issued hstored hnew⟩
  have hi' : RedemptionInv w' := run_inv RedemptionInv redemptionStep_inv hi hlater
  obtain ⟨g, hg, hsame⟩ := redemption_keeps hi hlater row (Table.get?_mem hrow)
  have hid : g.id = row.id := by rw [hsame]
  have hws : g.workspaceId = row.workspaceId := by rw [hsame]
  refine ⟨g, ?_, hsame⟩
  rw [← hid, ← hws]
  exact HumanUploadGrant.find_stored hg (hi'.2.stored g hg)

/-- what the command behind a link can answer, with the row of the grant and the instant of the sealing -/
def PolicyUploadLinks.Issues (S : PolicyUploadLinks Key Nonce) (issued : IssuedPolicyDocumentUploadGrant)
    (row : PolicyDocumentUploadGrant) (sealedAt : Int) : Prop :=
  ∃ ttl db command grantId issuedAt nonce db',
    S.issuePolicyDocumentUploadGrantFor ttl db command grantId issuedAt sealedAt nonce
      = (.ok issued, db') ∧ db'.policyDocumentUploadGrants.get? grantId = some row

/-- the law of the links for policies -/
structure LinkRoundTrips (S : PolicyUploadLinks Key Nonce) : Prop where
  accepted : ∀ issued row sealedAt, S.Issues issued row sealedAt → ∀ now, floorSec sealedAt ≤ now →
    now < issued.expiresAt →
      ∃ authority, S.resolvePolicyDocumentUploadGrantAuthority issued.url.token now = some authority ∧
        ∀ g, row.SameTerms g → (HumanUploadGrant.matchesAuthority authority).exec g = (.ok (), g)
  foreign : ∀ issued row sealedAt other otherRow otherSealedAt, S.Issues issued row sealedAt →
    S.Issues other otherRow otherSealedAt → otherRow.id ≠ row.id → ∀ now authority,
      S.resolvePolicyDocumentUploadGrantAuthority other.url.token now = some authority →
        ∀ g, row.SameTerms g →
          (HumanUploadGrant.matchesAuthority authority).exec g = (.error .authorityMismatch, g)

theorem PolicyUploadLinks.roundTrips (hT : S.tokens.layer.Faithful) : LinkRoundTrips S where
  accepted issued row sealedAt hi now hfrom hto := by
    obtain ⟨ttl, db, command, grantId, issuedAt, nonce, db', h, hrow⟩ := hi
    obtain ⟨token, hencrypt, htoken, hexp, rfl, -⟩ := issuePolicyDocumentUploadGrant_ok h
    have hrow' : row = (newGrant command grantId issuedAt token.expiresAt).toRow :=
      Option.some.inj (hrow.symm.trans (Table.get?_upsert_self _ _))
    refine ⟨(newGrant command grantId issuedAt token.expiresAt).authority, ?_, ?_⟩
    · rw [htoken]
      exact resolve_policy_sealed hT hencrypt hfrom (hexp ▸ hto)
    · intro g hg
      have hauthority : g.authority = (newGrant command grantId issuedAt token.expiresAt).authority := by
        rw [hg.authority, hrow', newGrant_authority_toRow hencrypt]
      rw [HumanUploadGrant.matchesAuthority_exec,
        if_pos ((HumanUploadGrant.matchesAuthority_iff g _).mpr hauthority)]
  foreign issued row sealedAt other otherRow otherSealedAt hi ho hne now authority hv g hg := by
    obtain ⟨ttl, db, command, grantId, issuedAt, nonce, db', h, hrow⟩ := ho
    obtain ⟨token, hencrypt, htoken, -, rfl, -⟩ := issuePolicyDocumentUploadGrant_ok h
    have hrow' : otherRow = (newGrant command grantId issuedAt token.expiresAt).toRow :=
      Option.some.inj (hrow.symm.trans (Table.get?_upsert_self _ _))
    rw [htoken] at hv
    have hauthority := resolve_policy_sealed_only hT hencrypt hv
    have hid : authority.id = otherRow.id := by
      rw [hauthority, hrow']
      rfl
    have hgid : g.id = row.id := by rw [hg]
    rw [HumanUploadGrant.matchesAuthority_exec, if_neg]
    intro hm
    exact hne (hid.symm.trans (hm.1.symm.trans hgid))

end

/-! ## The three kinds -/

section
variable {Key Nonce : Type}

/-- what the evidence command can answer, with the instant of the sealing -/
def IssuesAgentEvidence (T : AgentEvidenceUploadGrantTokens Key Nonce)
    (issued : IssuedAgentEvidenceUploadGrant) (sealedAt : Int) : Prop :=
  ∃ ttl db command uploadId submissionId issuedAt nonce db',
    issueAgentEvidenceUploadGrantFor ttl T db command uploadId submissionId issuedAt sealedAt nonce
      = (.ok issued, db')

/-- what the policy command can answer, with the instant of the sealing -/
def IssuesAgentPolicy (T : AgentPolicyDocumentUploadGrantTokens Key Nonce)
    (issued : IssuedAgentPolicyDocumentUploadGrant) (sealedAt : Int) : Prop :=
  ∃ ttl db command uploadId issuedAt nonce db',
    issueAgentPolicyDocumentUploadGrantFor ttl T db command uploadId issuedAt sealedAt nonce
      = (.ok issued, db')

end

/-! ## Three grants of five minutes, issued on New Year's Day -/

/-- tokens under one key, where one payload can be sealed and no other -/
def newYearTokens {Claims : Type} [DecidableEq Claims] (implicitAssertion : String) (claims : Claims) :
    PasetoTokens implicitAssertion Claims Unit Unit where
  layer := TokenLayer.only Unit Unit "token"
    ⟨"https://api.proofplane.example/", "proofplane-upload-grant", 4, 6, 1767225600, 1767225600,
      1767225900, claims⟩ ⟨"k1"⟩ implicitAssertion
  issuer := "https://api.proofplane.example/"
  audience := "proofplane-upload-grant"
  keys := .single "k1" ()
  issuer_ne := sampleIssuer_ne
  audience_ne := by decide
  keyId := sampleKey_not_blank

theorem newYearTokens_faithful {Claims : Type} [DecidableEq Claims] (implicitAssertion : String)
    (claims : Claims) : (newYearTokens implicitAssertion claims).layer.Faithful :=
  TokenLayer.only_faithful _ _ _ _ _ _

def newYearEvidenceTokens : AgentEvidenceUploadGrantTokens Unit Unit :=
  newYearTokens _ (agentEvidenceUploadGrantClaims.new 6 2 ⟨⟨3⟩, ⟨7⟩⟩ 4 5)

def newYearPolicyTokens : AgentPolicyDocumentUploadGrantTokens Unit Unit :=
  newYearTokens _ (agentPolicyDocumentUploadGrantClaims.new 6 2 ⟨3⟩ 4 5)

def newYearPolicyLinks : PolicyUploadLinks Unit Unit where
  tokens := newYearTokens _ (policyDocumentUploadGrantClaims.new 6 2 ⟨3⟩ 4 5)
  publicApiBaseUrl := "https://api.proofplane.example/"
  join base path := some (base ++ path)

/-- an upload of one file for the first quarter of 2026 -/
def newYearAgentUpload : IssueAgentEvidenceUploadGrant where
  connection := ⟨⟨4⟩, ⟨5⟩, ⟨2⟩, ⟨8⟩⟩
  evidenceId := ⟨3⟩
  coverage := ⟨1767225600000000000, 1774915200000000000⟩
  declaration := ⟨"report.pdf", "application/pdf", 3, none⟩

end Proofplane
