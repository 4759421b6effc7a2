import Proofplane.Redemption.Commands

/-!
# Links for evidence uploads

A link carries its window as two RFC 3339 texts with all of their digits, the database keeps whole
microseconds of it, and a redemption compares the two for equality.  The expiry is cut to whole seconds
before it goes either way, so it survives.

* `Survives`                    what both a text and a column give back;
* `issueEvidenceDocumentUploadGrant_ok`   what an issuance seals and stores;
* `resolve_issued`              **a link resolves to what its texts are read as**;
* `redeem_issued_iff`           what was stored is redeemed by its own authority only;
* `evidence_upload_link_roundtrip`   **a link works if and only if its window survives**;
* `evidence_upload_link_lost`   a window that begins a tenth of a microsecond past midnight.
-/

namespace Proofplane
open Base

/-- the reading comes back from its text and from a `TIMESTAMPTZ` column: a year of four digits, in whole
microseconds and no leap second -/
def Survives (t : ClockInstant) : Prop := t.FourDigitYear ∧ t.nano % 1000 = 0 ∧ ¬ t.LeapSecond

instance (t : ClockInstant) : Decidable (Survives t) := inferInstanceAs (Decidable (_ ∧ _ ∧ _))

def ClockWindow.Survives (c : ClockWindow) : Prop :=
  Proofplane.Survives c.validFrom ∧ Proofplane.Survives c.validUntil

instance (c : ClockWindow) : Decidable c.Survives := inferInstanceAs (Decidable (_ ∧ _))

/-- **Only what survives is read from its text as its column has it.** -/
theorem survives_iff {W : InstantText} (hW : W.Faithful) (t : ClockInstant) :
    W.parseFromRfc3339 (W.toRfc3339 t) = some t.pgTimestamp ↔ Survives t := by
  unfold Survives
  by_cases hyear : t.FourDigitYear
  · rw [hW.reads t hyear, Option.some.injEq, eq_comm, ClockInstant.pgTimestamp_eq_iff]
    exact ⟨fun h => ⟨hyear, h⟩, And.right⟩
  · rw [hW.refuses t hyear]
    exact ⟨fun h => (by cases h), fun h => absurd h.1 hyear⟩

/-- an hour before the year 10000 at an offset of an hour, and the end of a leap second -/
example : ¬ Survives ⟨253402304399, 0, by decide⟩ ∧ ¬ Survives ⟨1483228799, 1999999000, by decide⟩ := by decide

theorem ClockWindow.Survives.toRow {c : ClockWindow} (h : c.Survives) : c.toRow = c := by
  unfold ClockWindow.toRow
  rw [ClockInstant.pgTimestamp_eq_iff.mpr h.1.2, ClockInstant.pgTimestamp_eq_iff.mpr h.2.2]

namespace UploadLinks
variable {Key Nonce : Type} {S : UploadLinks Key Nonce} {db db' : RedemptionDb}
  {command : IssueEvidenceDocumentUploadGrant} {issuedAt sealedAt : Int}
  {grantId : DocumentUploadGrantId} {nonce : Nonce} {issued : IssuedEvidenceDocumentUploadGrant}

/-- the claims that an issuance seals -/
def sealedClaims (W : InstantText) (command : IssueEvidenceDocumentUploadGrant)
    (grantId : DocumentUploadGrantId) : EvidenceDocumentUploadGrantClaims :=
  .new W grantId.uuid command.connection.workspaceId.uuid command.evidenceId.uuid
    command.coverage.validFrom command.coverage.validUntil command.connection.userId.uuid
    command.connection.connectionId.uuid

/-- the grant that an issuance creates -/
def newGrant (command : IssueEvidenceDocumentUploadGrant) (grantId : DocumentUploadGrantId)
    (issuedAt expiresAt : Int) : EvidenceDocumentUploadGrant where
  id := grantId
  workspaceId := command.connection.workspaceId
  target := (⟨command.evidenceId, command.coverage⟩ : EvidenceDocumentTarget)
  issuedByUserId := command.connection.userId
  issuedViaAgentConnectionId := command.connection.connectionId
  issuedAt := issuedAt
  expiresAt := expiresAt
  redeemedAt := none

/-- the link is resolved at `verifiedAt` and redeemed at `now` -/
def LinkRedeems (S : UploadLinks Key Nonce) (db : RedemptionDb) (link : UploadLink)
    (verifiedAt now : Int) : Prop :=
  ∃ authority, S.resolveEvidenceDocumentUploadGrantAuthority link.token verifiedAt = some authority ∧
    ∃ answer, (db.redeemEvidenceDocumentUploadGrant authority now).1 = .ok answer

/-! ## Issuing -/

/-- **What an issuance seals and what it stores.** -/
theorem issueEvidenceDocumentUploadGrant_ok
    (h : S.issueEvidenceDocumentUploadGrant db command issuedAt sealedAt grantId nonce
      = (.ok issued, db')) :
    ∃ token, S.tokens.encrypt ⟨command.connection.userId.uuid, grantId.uuid, issuedAt + grantTtl⟩
        (sealedClaims S.text command grantId) nonce sealedAt = .ok token ∧
      issued.url.token = token.token ∧ issued.expiresAt = token.expiresAt ∧
      db'.documentUploadGrants
        = db.documentUploadGrants.upsert (newGrant command grantId issuedAt token.expiresAt).toRow ∧
      (newGrant command grantId issuedAt token.expiresAt).toRow.Stored := by
  unfold issueEvidenceDocumentUploadGrant at h
  split at h
  · cases h
  · split at h
    · cases h
    · cases h
    · cases h
    · next grant db'' hwork =>
      cases h
      unfold issueWork at hwork
      split at hwork
      · cases hwork
      · dsimp only at hwork
        split at hwork
        · cases hwork
        · next token hencrypt =>
          split at hwork
          · cases hwork
          · next g hissue =>
            split at hwork
            · cases hwork
            · split at hwork
              · cases hwork
              · next g' grants hsave =>
                cases hwork
                obtain ⟨-, rfl⟩ := HumanUploadGrant.issue_ok hissue
                obtain ⟨rfl, hstored⟩ := HumanUploadGrant.saveIssued_ok hsave
                exact ⟨token, hencrypt, rfl, rfl, rfl, hstored⟩

/-! ## Resolving -/

/-- what is read of the two texts -/
def readWindow (W : InstantText) (c : ClockWindow) : Option ClockWindow := do
  let validFrom ← W.parseFromRfc3339 (W.toRfc3339 c.validFrom)
  let validUntil ← W.parseFromRfc3339 (W.toRfc3339 c.validUntil)
  ClockWindow.new validFrom validUntil

/-- the authority of a link with this window -/
def linkAuthority (command : IssueEvidenceDocumentUploadGrant) (grantId : DocumentUploadGrantId)
    (expiresAt : Int) (coverage : ClockWindow) : EvidenceDocumentUploadGrantAuthority where
  id := grantId
  workspaceId := command.connection.workspaceId
  target := (⟨command.evidenceId, coverage⟩ : EvidenceDocumentTarget)
  issuedByUserId := command.connection.userId
  issuedViaAgentConnectionId := command.connection.connectionId
  expiresAt := expiresAt

/-- the claims of an issuance pass every check but for the texts of the window -/
theorem tryFrom_sealed (W : InstantText) (keyId : String) (expiresAt : Int) :
    VerifiedEvidenceDocumentUploadGrantClaims.tryFrom W
        ⟨command.connection.userId.uuid, grantId.uuid, keyId, expiresAt,
          sealedClaims W command grantId⟩
      = (W.parseFromRfc3339 (W.toRfc3339 command.coverage.validFrom)).bind fun validFrom =>
        (W.parseFromRfc3339 (W.toRfc3339 command.coverage.validUntil)).bind fun validUntil =>
          some ⟨grantId.uuid, command.connection.workspaceId.uuid, command.evidenceId.uuid, validFrom,
            validUntil, command.connection.userId.uuid, command.connection.connectionId.uuid, expiresAt⟩ := by
  unfold VerifiedEvidenceDocumentUploadGrantClaims.tryFrom sealedClaims
    EvidenceDocumentUploadGrantClaims.new
  simp [Uuid.parseStr_text]

/-- **A link resolves to the authority of its grant, with the window that its texts are read as.** -/
theorem resolve_issued (hT : S.tokens.layer.Faithful) {token : IssuedPasetoToken}
    (hencrypt : S.tokens.encrypt
      ⟨command.connection.userId.uuid, grantId.uuid, issuedAt + grantTtl⟩
      (sealedClaims S.text command grantId) nonce sealedAt = .ok token) {verifiedAt : Int}
    (hsealed : sealedAt ≤ verifiedAt) (hexpires : verifiedAt < token.expiresAt) :
    S.resolveEvidenceDocumentUploadGrantAuthority token.token verifiedAt
      = (readWindow S.text command.coverage).map (linkAuthority command grantId token.expiresAt) := by
  have hissued : floorSec sealedAt ≤ verifiedAt := le_trans (floorSec_le sealedAt) hsealed
  unfold resolveEvidenceDocumentUploadGrantAuthority readWindow
  rw [PasetoTokens.decrypt_encrypt hT hencrypt hissued hexpires]
  dsimp only
  rw [tryFrom_sealed]
  cases S.text.parseFromRfc3339 (S.text.toRfc3339 command.coverage.validFrom) with
  | none => rfl
  | some validFrom =>
    cases S.text.parseFromRfc3339 (S.text.toRfc3339 command.coverage.validUntil) with
    | none => rfl
    | some validUntil =>
      show (ClockWindow.new validFrom validUntil).bind _ = (ClockWindow.new validFrom validUntil).map _
      cases ClockWindow.new validFrom validUntil with
      | none => rfl
      | some coverage => rfl

/-! ## Redeeming -/

/-- the stored grant is that of a link if their windows are the same -/
theorem authority_stored_iff {g : EvidenceDocumentUploadGrant} {expiresAt : Int}
    (hg : g = newGrant command grantId issuedAt expiresAt) (hexpires : pgTimestamp expiresAt = expiresAt)
    (coverage : ClockWindow) :
    g.toRow.authority = linkAuthority command grantId expiresAt coverage ↔
      command.coverage.toRow = coverage := by
  subst hg
  constructor
  · intro h
    exact congrArg EvidenceDocumentTarget.coverage (congrArg HumanUploadAuthority.target h)
  · intro h
    have htarget : (⟨command.evidenceId, command.coverage.toRow⟩ : EvidenceDocumentTarget)
        = ⟨command.evidenceId, coverage⟩ := by rw [h]
    exact HumanUploadAuthority.ext rfl rfl htarget rfl rfl hexpires

/-- **The stored grant of an issuance is redeemed by its own authority and by no other.** -/
theorem redeem_issued_iff {later : RedemptionDb} {g : EvidenceDocumentUploadGrant} {expiresAt now : Int}
    (hg : g = newGrant command grantId issuedAt expiresAt) (hstored : g.toRow.Stored)
    (hrow : later.documentUploadGrants.get? grantId = some g.toRow)
    (hexpires : pgTimestamp expiresAt = expiresAt) (h2000 : pgEpoch ≤ issuedAt)
    (hfrom : issuedAt ≤ now) (huntil : now < expiresAt)
    {authority : EvidenceDocumentUploadGrantAuthority} (hid : authority.id = grantId) :
    (∃ answer, (later.redeemEvidenceDocumentUploadGrant authority now).1 = .ok answer) ↔
      g.toRow.authority = authority := by
  obtain ⟨hmem, -⟩ := Table.get?_eq_some_iff.mp hrow
  have hgid : g.toRow.id = grantId := congrArg HumanUploadGrant.id hg
  constructor
  · rintro ⟨answer, hanswer⟩
    have hown : ∀ x, later.documentUploadGrants.get? authority.id = some x → x.toRow = x := by
      intro x hx
      rw [hid, hrow] at hx
      cases hx
      exact hstored.toRow
    obtain ⟨grants, -, hcase⟩ := redeemEvidence_case hown now
    rw [hanswer] at hcase
    cases hcase with
    | redeemed x hx hredeemable hxstored =>
      obtain ⟨hauthority, -, -, -⟩ := hredeemable
      have hxid : x.id = g.toRow.id :=
        (congrArg HumanUploadAuthority.id hauthority).trans (hid.trans hgid.symm)
      rw [later.documentUploadGrants.eq_of_key hx hmem hxid] at hauthority
      exact hauthority
  · intro hauthority
    have hredeemable : g.toRow.Redeemable authority now := by
      refine ⟨hauthority, ?_, ?_, ?_⟩
      · rw [hg]
        rfl
      · rw [hg]
        show pgTimestamp issuedAt ≤ now
        rw [pgTimestamp_of_ge h2000]
        omega
      · rw [hg]
        show now < pgTimestamp expiresAt
        rw [hexpires]
        exact huntil
    have hunit := HumanUploadGrant.redeemUnit_redeems hmem hstored hredeemable (by omega)
    refine ⟨g.toRow.redeemedAnswer now, ?_⟩
    unfold RedemptionDb.redeemEvidenceDocumentUploadGrant
    rw [hunit]
    rfl

/-! ## A link from its issuance to its redemption -/

/-- a window is read as its columns have it if and only if it survives -/
theorem readWindow_stored_iff {W : InstantText} (hW : W.Faithful) {c : ClockWindow}
    (hc : ClockWindow.new c.validFrom c.validUntil = some c) :
    readWindow W c = some c.toRow ↔ c.Survives := by
  constructor
  · intro h
    obtain ⟨validFrom, hfrom, h⟩ := Option.bind_eq_some_iff.mp h
    obtain ⟨validUntil, huntil, h⟩ := Option.bind_eq_some_iff.mp h
    obtain ⟨hsame, -⟩ := ClockWindow.new_some h
    obtain ⟨rfl, rfl⟩ := ClockWindow.mk.inj hsame
    exact ⟨(survives_iff hW c.validFrom).mp hfrom, (survives_iff hW c.validUntil).mp huntil⟩
  · intro h
    have hfrom := (survives_iff hW c.validFrom).mpr h.1
    have huntil := (survives_iff hW c.validUntil).mpr h.2
    rw [ClockInstant.pgTimestamp_eq_iff.mpr h.1.2] at hfrom
    rw [ClockInstant.pgTimestamp_eq_iff.mpr h.2.2] at huntil
    unfold readWindow
    rw [hfrom, huntil, h.toRow]
    exact hc

/-- **A link works if and only if its window survives its texts and its columns.**  Whenever a link has
been issued from 2000 on, and at any instants from then until it expires, in any database that still holds
its grant as it was stored: it resolves to an authority that redeems the grant if and only if both ends of
the window are whole microseconds of a year of four digits, outside of the leap seconds. -/
theorem evidence_upload_link_roundtrip (S : UploadLinks Key Nonce) (hT : S.tokens.layer.Faithful)
    (hW : S.text.Faithful) (db db' later : RedemptionDb) (command : IssueEvidenceDocumentUploadGrant)
    (validFrom validUntil : ClockInstant)
    (hwindow : ClockWindow.new validFrom validUntil = some command.coverage)
    (issuedAt sealedAt : Int) (h2000 : pgEpoch ≤ issuedAt) (grantId : DocumentUploadGrantId)
    (nonce : Nonce) (issued : IssuedEvidenceDocumentUploadGrant)
    (hissue : S.issueEvidenceDocumentUploadGrant db command issuedAt sealedAt grantId nonce
      = (.ok issued, db'))
    (hlater : later.documentUploadGrants.get? grantId = db'.documentUploadGrants.get? grantId)
    (verifiedAt now : Int) (hsealed : sealedAt ≤ verifiedAt) (hverified : verifiedAt < issued.expiresAt)
    (hissued : issuedAt ≤ now) (hexpires : now < issued.expiresAt) :
    S.LinkRedeems later issued.url verifiedAt now ↔ command.coverage.Survives := by
  obtain ⟨token, hencrypt, htoken, hexp, hgrants, hstored⟩ :=
    issueEvidenceDocumentUploadGrant_ok hissue
  rw [hexp] at hverified hexpires
  have hmicros : pgTimestamp token.expiresAt = token.expiresAt := by
    obtain ⟨-, -, hfloor, -⟩ := PasetoTokens.encrypt_ok hencrypt
    rw [hfloor]
    exact (wholeSec_floorSec _).pgTimestamp_eq
  have hrow : later.documentUploadGrants.get? grantId
      = some (newGrant command grantId issuedAt token.expiresAt).toRow := by
    rw [hlater, hgrants]
    exact Table.get?_upsert_self _ _
  have hresolve := resolve_issued hT hencrypt hsealed hverified
  rw [← readWindow_stored_iff hW (ClockWindow.new_some hwindow).2]
  unfold LinkRedeems
  rw [htoken, hresolve]
  constructor
  · rintro ⟨authority, hauthority, hanswer⟩
    obtain ⟨coverage, hread, rfl⟩ := Option.map_eq_some_iff.mp hauthority
    have hown := (redeem_issued_iff rfl hstored hrow hmicros h2000 hissued hexpires rfl).mp hanswer
    rw [hread, (authority_stored_iff rfl hmicros coverage).mp hown]
  · intro hread
    refine ⟨_, Option.map_eq_some_iff.mpr ⟨_, hread, rfl⟩, ?_⟩
    refine (redeem_issued_iff rfl hstored hrow hmicros h2000 hissued hexpires rfl).mpr ?_
    exact (authority_stored_iff rfl hmicros _).mpr rfl

/-! ## A window that begins a tenth of a microsecond past midnight -/

/-- an upload for the first quarter of 2026, whose window begins some nanoseconds late -/
def newYearUpload (fraction : Int) : IssueEvidenceDocumentUploadGrant where
  connection := ⟨⟨4⟩, ⟨5⟩, ⟨2⟩, ⟨8⟩⟩
  evidenceId := ⟨3⟩
  coverage := ⟨.ofNanos (1767225600000000000 + fraction), .ofNanos 1774915200000000000⟩

/-- a server with one key, which can seal the link of that upload and no other -/
def newYearLinks (fraction : Int) : UploadLinks Unit Unit where
  text := rfc3339
  tokens :=
    { layer := TokenLayer.only Unit Unit "token"
        ⟨"https://api.proofplane.example/", "proofplane-document-upload-grant", 4, 6, 1767225600,
          1767225600, 1767225900, sealedClaims rfc3339 (newYearUpload fraction) ⟨6⟩⟩ ⟨"k1"⟩
        uploadGrantImplicitAssertion
      issuer := "https://api.proofplane.example/"
      audience := "proofplane-document-upload-grant"
      keys := .single "k1" ()
      issuer_ne := sampleIssuer_ne
      audience_ne := by decide
      keyId := sampleKey_not_blank }
  publicApiBaseUrl := "https://api.proofplane.example/"
  join base path := some (base ++ path)

/-- one evidence item, and no grants -/
def newYearEvidence : RedemptionDb where
  toDocumentDb := { DocumentDb.empty with evidence := ⟨[⟨⟨3⟩, ⟨2⟩⟩], by simp⟩ }
  documentUploadGrants := .empty
  policyDocumentUploadGrants := .empty

/-- **A link that is dead from the start**: it resolves to an authority whose window begins at
00:00:00.0000001, and the stored grant, whose window begins at midnight, is not redeemed by it. -/
theorem evidence_upload_link_lost :
    ClockWindow.new (.ofNanos 1767225600000000100) (.ofNanos 1774915200000000000)
      = some (newYearUpload 100).coverage ∧
    ∃ issued db', (newYearLinks 100).issueEvidenceDocumentUploadGrant newYearEvidence
        (newYearUpload 100) 1767225600000000000 1767225600000000000 ⟨6⟩ () = (.ok issued, db') ∧
      1767225660000000000 < issued.expiresAt ∧
      ∃ authority, (newYearLinks 100).resolveEvidenceDocumentUploadGrantAuthority issued.url.token
          1767225660000000000 = some authority ∧
        (db'.redeemEvidenceDocumentUploadGrant authority 1767225660000000000).1
          = .error .unavailable ∧
        ¬ (newYearLinks 100).LinkRedeems db' issued.url 1767225660000000000
          1767225660000000000 := by
  refine ⟨rfl, _, _, rfl, by decide, _, rfl, rfl, ?_⟩
  rintro ⟨authority, hauthority, answer, hanswer⟩
  cases hauthority
  cases hanswer

/-- with a window that begins a microsecond past midnight the link works -/
theorem evidence_upload_link_roundtrip_newYear :
    ∃ issued db', (newYearLinks 1000).issueEvidenceDocumentUploadGrant newYearEvidence
        (newYearUpload 1000) 1767225600000000000 1767225600000000000 ⟨6⟩ () = (.ok issued, db') ∧
      (newYearLinks 1000).LinkRedeems db' issued.url 1767225660000000000 1767225660000000000 := by
  have hfaithful : (newYearLinks 1000).tokens.layer.Faithful := TokenLayer.only_faithful _ _ _ _ _ _
  refine ⟨_, _, rfl, ?_⟩
  exact (evidence_upload_link_roundtrip (newYearLinks 1000) hfaithful rfc3339_faithful newYearEvidence _ _
    (newYearUpload 1000) (.ofNanos 1767225600000001000) (.ofNanos 1774915200000000000) rfl
    1767225600000000000 1767225600000000000 (by decide) ⟨6⟩ () _ rfl rfl 1767225660000000000
    1767225660000000000 (by decide) (by decide) (by decide) (by decide)).mpr (by decide)

end UploadLinks

end Proofplane
