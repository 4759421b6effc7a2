import Proofplane.Base.Run
import Proofplane.Invitation.Commands

/-!
# Invitation links over the life of an invitation

One invitation is created and then resent, queued and marked as delivered or failed in any order,
each time loaded from the database and saved back.  Its link carries the expiry in whole seconds,
the database keeps microseconds, and both the preview and the acceptance compare the two for
equality.

* `DeliveryOp`, `deliver`      the operations, between a load and a save;
* `deliver_cases`              what one of them can do to the row;
* `RowInv`                     what every row of a run satisfies;
* `LinkWorks`, `LinkUnavailable`   the two answers a link can get;
* `invitation_link_roundtrip`  **in a run whose resends set expiries of whole seconds, the current
                               link works and every older one is unavailable**;
* `invitation_link_fraction`   one resend half a second past a full second, and the link of the new
                               generation is dead from the start.

`create` cuts the fraction off the expiry; `resend` stores it as it is passed.
-/

namespace Proofplane
open Base

/-- an operation on a stored invitation, with the instant it is made at -/
inductive DeliveryOp
  | resend (expectedGeneration sentAt expiresAt : Int)
  | queueDelivery (generation queuedAt : Int)
  | recordDeliverySuccess (generation deliveredAt : Int)
  | recordDeliveryFailure (generation : Int) (classification : WorkspaceInvitationDeliveryFailure)
      (failedAt : Int)
  deriving DecidableEq, Repr

namespace DeliveryOp

def apply (op : DeliveryOp) (i : WorkspaceInvitation) :
    Except WorkspaceInvitationError WorkspaceInvitation :=
  match op with
  | .resend expected sentAt expiresAt => i.resend expected sentAt expiresAt
  | .queueDelivery generation queuedAt => i.queueDelivery generation queuedAt
  | .recordDeliverySuccess generation deliveredAt =>
    .ok (i.recordDeliverySuccess generation deliveredAt).1
  | .recordDeliveryFailure generation classification failedAt =>
    .ok (i.recordDeliveryFailure generation classification failedAt).1

/-- the instant of the operation -/
def instant : DeliveryOp → Int
  | .resend _ sentAt _ => sentAt
  | .queueDelivery _ queuedAt => queuedAt
  | .recordDeliverySuccess _ deliveredAt => deliveredAt
  | .recordDeliveryFailure _ _ failedAt => failedAt

end DeliveryOp

/-- load, operate, save; an operation or a save that fails leaves the row as it was -/
def deliver (row : WorkspaceInvitation) (op : DeliveryOp) : Option WorkspaceInvitation :=
  match row.load with
  | .error _ => some row
  | .ok i =>
    match op.apply i with
    | .error _ => some row
    | .ok j =>
      match j.save with
      | .error _ => some row
      | .ok row' => some row'

/-- a resend that takes place sets an expiry that is a whole second once it is stored -/
def ExpiryInSeconds (row : WorkspaceInvitation) : DeliveryOp → Prop
  | .resend expected sentAt expiresAt =>
    (∃ j, row.resend expected sentAt expiresAt = .ok j) → WholeSec (pgTimestamp expiresAt)
  | _ => True

/-! ## What an operation can do -/

/-- the fields that no delivery operation touches -/
structure SameInvitation (i j : WorkspaceInvitation) : Prop where
  id : j.id = i.id
  workspaceId : j.workspaceId = i.workspaceId
  invitedEmail : j.invitedEmail = i.invitedEmail
  role : j.role = i.role
  acceptedAt : j.acceptedAt = i.acceptedAt
  revokedAt : j.revokedAt = i.revokedAt
  acceptingUserId : j.acceptingUserId = i.acceptingUserId

theorem SameInvitation.refl (i : WorkspaceInvitation) : SameInvitation i i :=
  ⟨rfl, rfl, rfl, rfl, rfl, rfl, rfl⟩

/-- the generation and the expiry change together, in a resend, or not at all -/
def Advance (op : DeliveryOp) (i j : WorkspaceInvitation) : Prop :=
  (j.generation = i.generation ∧ j.expiresAt = i.expiresAt) ∨
  ∃ expected sentAt expiresAt, op = .resend expected sentAt expiresAt ∧
    i.resend expected sentAt expiresAt = .ok j ∧ j.generation = i.generation + 1 ∧
    j.expiresAt = expiresAt

theorem recordDeliverySuccess_cases (i : WorkspaceInvitation) (generation deliveredAt : Int) :
    (i.recordDeliverySuccess generation deliveredAt).1 = i ∨
    generation = i.generation ∧ (i.recordDeliverySuccess generation deliveredAt).1
      = { i with
          deliveredGeneration := some generation
          deliveredAt := some deliveredAt
          lastDeliveryFailure := none
          deliveryFailedAt := none } := by
  unfold WorkspaceInvitation.recordDeliverySuccess
  split
  · exact .inl rfl
  · next h =>
    simp only [not_or, not_not] at h
    exact .inr ⟨h.1, rfl⟩

theorem recordDeliveryFailure_cases (i : WorkspaceInvitation) (generation : Int)
    (classification : WorkspaceInvitationDeliveryFailure) (failedAt : Int) :
    (i.recordDeliveryFailure generation classification failedAt).1 = i ∨
    (i.recordDeliveryFailure generation classification failedAt).1
      = { i with
          lastDeliveryFailure := some classification
          deliveryFailedAt := some failedAt } := by
  unfold WorkspaceInvitation.recordDeliveryFailure
  split
  · exact .inl rfl
  · exact .inr rfl

theorem apply_same {op : DeliveryOp} {i j : WorkspaceInvitation} (h : op.apply i = .ok j) :
    SameInvitation i j ∧ Advance op i j := by
  cases op with
  | resend expected sentAt expiresAt =>
    obtain ⟨-, -, -, -, rfl⟩ := WorkspaceInvitation.resend_ok h
    exact ⟨⟨rfl, rfl, rfl, rfl, rfl, rfl, rfl⟩, .inr ⟨expected, sentAt, expiresAt, rfl, h, rfl, rfl⟩⟩
  | queueDelivery generation queuedAt =>
    obtain ⟨-, -, rfl⟩ := WorkspaceInvitation.queueDelivery_ok h
    exact ⟨⟨rfl, rfl, rfl, rfl, rfl, rfl, rfl⟩, .inl ⟨rfl, rfl⟩⟩
  | recordDeliverySuccess generation deliveredAt =>
    cases h
    rcases recordDeliverySuccess_cases i generation deliveredAt with e | ⟨-, e⟩
    · rw [e]
      exact ⟨.refl i, .inl ⟨rfl, rfl⟩⟩
    · rw [e]
      exact ⟨⟨rfl, rfl, rfl, rfl, rfl, rfl, rfl⟩, .inl ⟨rfl, rfl⟩⟩
  | recordDeliveryFailure generation classification failedAt =>
    cases h
    rcases recordDeliveryFailure_cases i generation classification failedAt with e | e
    · rw [e]
      exact ⟨.refl i, .inl ⟨rfl, rfl⟩⟩
    · rw [e]
      exact ⟨⟨rfl, rfl, rfl, rfl, rfl, rfl, rfl⟩, .inl ⟨rfl, rfl⟩⟩

/-- the row as it was, or the saved result of the operation -/
theorem deliver_cases {row row' : WorkspaceInvitation} {op : DeliveryOp}
    (h : deliver row op = some row') :
    row' = row ∨ ∃ j, op.apply row = .ok j ∧ row' = j.toRow ∧
      WorkspaceInvitation.rowChecks j.toRow = true := by
  unfold deliver at h
  split at h
  · cases h
    exact .inl rfl
  · next i hload =>
    obtain ⟨rfl, -⟩ := WorkspaceInvitation.load_ok hload
    split at h
    · cases h
      exact .inl rfl
    · next j happly =>
      split at h
      · cases h
        exact .inl rfl
      · next saved hsave =>
        cases h
        obtain ⟨hrow, hchecks⟩ := WorkspaceInvitation.save_ok hsave
        exact .inr ⟨j, happly, hrow, hchecks⟩

/-! ## The invariant of a run -/

/-- what every stored row of an invitation that is still open satisfies -/
structure RowInv (id : WorkspaceInvitationId) (row : WorkspaceInvitation) : Prop where
  id : row.id = id
  valid : row.Valid
  acceptedAt : row.acceptedAt = none
  revokedAt : row.revokedAt = none

theorem rowChecks_lt {r : WorkspaceInvitation} (h : WorkspaceInvitation.rowChecks r = true) :
    r.createdAt < r.expiresAt ∧ 0 < r.generation ∧ r.deliveryValid = true := by
  unfold WorkspaceInvitation.rowChecks at h
  simp only [Bool.and_eq_true, decide_eq_true_eq] at h
  obtain ⟨⟨⟨⟨⟨-, hgen⟩, hlt⟩, -⟩, -⟩, hdel⟩ := h
  exact ⟨hlt, hgen, hdel⟩

/-- a saved row is consistent, since the table checks what an operation may break -/
theorem toRow_valid {id : WorkspaceInvitationId} {i j : WorkspaceInvitation} (hi : RowInv id i)
    (hsame : SameInvitation i j) (hc : WorkspaceInvitation.rowChecks j.toRow = true) :
    RowInv id j.toRow := by
  obtain ⟨hlt, hgen, hdel⟩ := rowChecks_lt hc
  obtain ⟨hrole, -, hmail, -, hterm, -⟩ := hi.valid
  have hacc : j.acceptedAt = none := hsame.acceptedAt.trans hi.acceptedAt
  have hrev : j.revokedAt = none := hsame.revokedAt.trans hi.revokedAt
  have huser : j.acceptingUserId = none := by
    rw [hsame.acceptingUserId]
    unfold WorkspaceInvitation.terminalValid at hterm
    rw [hi.acceptedAt, hi.revokedAt] at hterm
    cases hu : i.acceptingUserId with
    | none => rfl
    | some u =>
      rw [hu] at hterm
      cases hterm
  refine ⟨hsame.id.trans hi.id, ⟨hsame.role.trans hrole, hgen, ?_, hlt, ?_, hdel⟩, ?_, ?_⟩
  · show isBlank j.invitedEmail = false
    rw [hsame.invitedEmail]
    exact hmail
  · unfold WorkspaceInvitation.terminalValid WorkspaceInvitation.toRow
    rw [hacc, hrev, huser]
    rfl
  · show j.acceptedAt.map pgTimestamp = none
    rw [hacc]
    rfl
  · show j.revokedAt.map pgTimestamp = none
    rw [hrev]
    rfl

theorem deliver_inv {id : WorkspaceInvitationId} (row : WorkspaceInvitation) (op : DeliveryOp)
    (row' : WorkspaceInvitation) (hinv : RowInv id row) (h : deliver row op = some row') :
    RowInv id row' := by
  rcases deliver_cases h with rfl | ⟨j, happly, rfl, hchecks⟩
  · exact hinv
  · exact toRow_valid hinv (apply_same happly).1 hchecks

/-- an expiry of whole seconds stays one, unless a resend brings in another -/
theorem deliver_wholeSec (row : WorkspaceInvitation) (op : DeliveryOp) (row' : WorkspaceInvitation)
    (hw : WholeSec row.expiresAt) (hP : ExpiryInSeconds row op) (h : deliver row op = some row') :
    WholeSec row'.expiresAt := by
  rcases deliver_cases h with rfl | ⟨j, happly, rfl, -⟩
  · exact hw
  · show WholeSec (pgTimestamp j.expiresAt)
    rcases (apply_same happly).2 with ⟨-, he⟩ | ⟨expected, sentAt, expiresAt, rfl, hres, -, he⟩
    · rw [he, hw.pgTimestamp_eq]
      exact hw
    · rw [he]
      exact hP ⟨j, hres⟩

theorem create_row {id : WorkspaceInvitationId} {workspaceId : WorkspaceId} {inviter : UserId}
    {email : String} {createdAt expiresAt : Int} {i row : WorkspaceInvitation}
    (hcreate : WorkspaceInvitation.create id workspaceId inviter email createdAt expiresAt = .ok i)
    (hsave : i.save = .ok row) : RowInv id row ∧ WholeSec row.expiresAt := by
  obtain ⟨rfl, hvalid⟩ := WorkspaceInvitation.rehydrate_ok hcreate
  obtain ⟨rfl, hchecks⟩ := WorkspaceInvitation.save_ok hsave
  refine ⟨toRow_valid ⟨rfl, hvalid, rfl, rfl⟩ (.refl _) hchecks, ?_⟩
  show WholeSec (pgTimestamp (floorSec expiresAt))
  rw [(wholeSec_floorSec expiresAt).pgTimestamp_eq]
  exact wholeSec_floorSec expiresAt

/-! ## What a link answers -/

section
variable {Key Nonce Token : Type*}

/-- the link issued at `t` for the stored invitation verifies at `now` to its id, generation and
expiry, and neither the preview nor the acceptance by any user reports it unavailable -/
def LinkWorks (A : WorkspaceInvitationAuthority Key Nonce Token) (isValid : String → Bool)
    (row : WorkspaceInvitation) (t now : Int) : Prop :=
  (∀ nonce, A.issueAt row.authoritySource nonce t ≠ .error .unavailable) ∧
  ∀ nonce link, A.issueAt row.authoritySource nonce t = .ok link →
    A.verifyAt link.token now = .ok ⟨row.id, row.generation, floorSec t, row.expiresAt⟩ ∧
    ∀ db : InvitationDb, db.invitations.get? row.id = some row →
      ∀ w, db.workspaces.get? row.workspaceId = some w →
        previewWorkspaceInvitation A db now ⟨link.token, now⟩
          = .ok ⟨w.name, row.invitedEmail, row.role, row.expiresAt⟩ ∧
        ∀ userId verifiedEmail,
          (acceptWorkspaceInvitation A isValid db now ⟨link.token, userId, verifiedEmail, now⟩).1
            ≠ .error .unavailable

/-- both the preview and the acceptance report the token unavailable, at every instant; the email
of the accepting user is a verified one, so it normalises -/
def LinkUnavailable (A : WorkspaceInvitationAuthority Key Nonce Token) (isValid : String → Bool)
    (row : WorkspaceInvitation) (token : Token) : Prop :=
  ∀ db : InvitationDb, db.invitations.get? row.id = some row → ∀ clock now,
    previewWorkspaceInvitation A db clock ⟨token, now⟩ = .error .unavailable ∧
    ∀ userId verifiedEmail, normalizeEmail isValid verifiedEmail ≠ none →
      (acceptWorkspaceInvitation A isValid db clock ⟨token, userId, verifiedEmail, now⟩).1
        = .error .unavailable

variable {A : WorkspaceInvitationAuthority Key Nonce Token}

/-- a link works while the stored expiry is a whole second -/
theorem linkWorks_of_wholeSec (hP : A.layer.Faithful) (isValid : String → Bool)
    {id : WorkspaceInvitationId} {row : WorkspaceInvitation} (hinv : RowInv id row)
    (hw : WholeSec row.expiresAt) {t now : Int} (ht : t ≤ now)
    (hnow : now + seconds 1 ≤ row.expiresAt) : LinkWorks A isValid row t now := by
  have hone : seconds 1 = 1000000000 := rfl
  have hpending : row.statusAt now = .pending :=
    (row.statusAt_eq_pending_iff now).mpr ⟨hinv.acceptedAt, hinv.revokedAt, by omega⟩
  refine ⟨fun nonce => ?_, ?_⟩
  · apply WorkspaceInvitationAuthority.issueAt_ne_unavailable
    show t < row.expiresAt
    omega
  intro nonce link hlink
  have hverify : A.verifyAt link.token now
      = .ok ⟨row.id, row.generation, floorSec t, row.expiresAt⟩ := by
    have hexp : floorSec row.expiresAt = row.expiresAt := hw
    have hiat := floorSec_le t
    have hgen := hinv.valid.2.1
    rw [WorkspaceInvitationAuthority.verifyAt_issueAt hP hlink now, if_neg]
    · show Except.ok _ = _
      rw [show row.authoritySource.expiresAt = row.expiresAt from rfl, hexp]
      rfl
    · show ¬ (row.generation ≤ 0 ∨ now < floorSec t ∨ floorSec row.expiresAt ≤ now ∨
        floorSec row.expiresAt ≤ floorSec t)
      rw [hexp]
      omega
  refine ⟨hverify, fun db hrow w hws => ⟨?_, fun userId verifiedEmail => ?_⟩⟩
  · rw [previewWorkspaceInvitation_eq hverify hrow hws, if_pos ⟨rfl, rfl, hpending⟩]
  · have hws' : db.workspaces.get? row.workspaceId ≠ none := by
      rw [hws]
      exact Option.some_ne_none w
    unfold acceptWorkspaceInvitation
    dsimp only
    rw [hverify]
    dsimp only
    split
    · exact fun hc => by cases hc
    · split
      · exact fun hc => by cases hc
      · next outcome db' hacc =>
        exact AcceptOutcome.answer_ne_unavailable
          (acceptInvitation_ne_unavailable hrow hinv.valid rfl rfl hpending hws' hacc)

/-- a token whose generation or expiry is not that of the row is unavailable -/
theorem linkUnavailable_of_ne (hP : A.layer.Faithful) (isValid : String → Bool)
    {id : WorkspaceInvitationId} {row : WorkspaceInvitation} (hinv : RowInv id row)
    {source : WorkspaceInvitationAuthoritySource} (hid : source.invitationId = row.id)
    (hne : row.generation ≠ source.generation ∨ row.expiresAt ≠ floorSec source.expiresAt)
    {nonce : Nonce} {t : Int} {link : IssuedWorkspaceInvitationLink Token}
    (hlink : A.issueAt source nonce t = .ok link) : LinkUnavailable A isValid row link.token := by
  intro db hrow clock now
  cases hverify : A.verifyAt link.token clock with
  | error e =>
    refine ⟨?_, fun userId verifiedEmail _ => ?_⟩
    · unfold previewWorkspaceInvitation
      rw [hverify]
    · unfold acceptWorkspaceInvitation
      rw [hverify]
  | ok claims =>
    have hclaims := WorkspaceInvitationAuthority.verifyAt_issueAt_ok hP hlink hverify
    have hrow' : db.invitations.get? claims.invitationId = some row := by
      rw [hclaims]
      show db.invitations.get? source.invitationId = some row
      rw [hid]
      exact hrow
    have hne' : row.generation ≠ claims.generation ∨ row.expiresAt ≠ claims.expiresAt := by
      rw [hclaims]
      exact hne
    refine ⟨?_, fun userId verifiedEmail hmail => ?_⟩
    · cases hws : db.workspaces.get? row.workspaceId with
      | none =>
        unfold previewWorkspaceInvitation InvitationDb.invitationPreviewSource
        rw [hverify]
        dsimp only
        rw [hrow', Option.bind_some, hws]
        rfl
      | some w =>
        rw [previewWorkspaceInvitation_eq hverify hrow' hws, if_neg]
        rintro ⟨h1, h2, -⟩
        rcases hne' with h | h
        · exact h h1
        · exact h h2
    · unfold acceptWorkspaceInvitation
      dsimp only
      rw [hverify]
      dsimp only
      cases hm : normalizeEmail isValid verifiedEmail with
      | none => exact absurd hm hmail
      | some email =>
        dsimp only
        rw [acceptInvitation_of_ne email userId now hrow' hinv.valid hne']
        rfl

/-- **Links round-trip in every run whose resends set expiries of whole seconds.**  After any such
run the link of the current generation, issued at any `t ≤ now` with at least a second left,
verifies to what is stored and is not reported unavailable; and a token issued for an earlier
generation of the run is reported unavailable by both. -/
theorem invitation_link_roundtrip (A : WorkspaceInvitationAuthority Key Nonce Token)
    (hP : A.layer.Faithful) (isValid : String → Bool)
    (id : WorkspaceInvitationId) (workspaceId : WorkspaceId) (inviter : UserId) (email : String)
    (createdAt expiresAt : Int) (i row0 : WorkspaceInvitation)
    (hcreate : WorkspaceInvitation.create id workspaceId inviter email createdAt expiresAt = .ok i)
    (hsave : i.save = .ok row0) (ops : List DeliveryOp)
    (hops : Along deliver ExpiryInSeconds row0 ops) (row : WorkspaceInvitation)
    (hrun : run deliver row0 ops = some row) :
    (∀ t now, t ≤ now → now + seconds 1 ≤ row.expiresAt → LinkWorks A isValid row t now) ∧
    (∀ earlier later old, ops = earlier ++ later → run deliver row0 earlier = some old →
      old.generation < row.generation → ∀ nonce t link,
        A.issueAt old.authoritySource nonce t = .ok link →
        LinkUnavailable A isValid row link.token) := by
  obtain ⟨hinv0, hw0⟩ := create_row hcreate hsave
  have hinv : RowInv id row := run_inv (RowInv id) deliver_inv hinv0 hrun
  have hw : WholeSec row.expiresAt :=
    run_inv_along (fun r => WholeSec r.expiresAt) deliver_wholeSec hw0 hops hrun
  refine ⟨fun t now ht hnow => linkWorks_of_wholeSec hP isValid hinv hw ht hnow, ?_⟩
  intro earlier later old hsplit hold hlt nonce t link hlink
  have hinvOld : RowInv id old := run_inv (RowInv id) deliver_inv hinv0 hold
  refine linkUnavailable_of_ne hP isValid hinv ?_ (.inl ?_) hlink
  · exact hinvOld.id.trans hinv.id.symm
  · show row.generation ≠ old.generation
    omega

end

/-! ## A resend half a second past the full second -/

/-- an authority with one key, over tokens that are not sealed -/
def plainAuthority : WorkspaceInvitationAuthority Unit Unit
    (InvitationClaims × InvitationFooter × String) where
  layer := TokenLayer.plain Unit Unit InvitationClaims InvitationFooter
  landingPortalBaseUrl := "https://proofplane.example"
  keys := .single "k1" ()

/-- an invitation created on 2026-01-01 at midnight, as it is stored -/
def newYearRow : WorkspaceInvitation where
  id := ⟨1⟩
  workspaceId := ⟨2⟩
  inviterUserId := ⟨3⟩
  invitedEmail := "admin@example.com"
  role := .admin
  generation := 1
  createdAt := 1767225600000000000
  expiresAt := 1767830400000000000
  acceptedAt := none
  revokedAt := none
  acceptingUserId := none
  queuedGeneration := none
  queuedAt := none
  deliveredGeneration := none
  deliveredAt := none
  lastDeliveryFailure := none
  deliveryFailedAt := none

/-- the day after, resent half a second past midnight with the lifetime of seven days -/
def newYearResent : WorkspaceInvitation :=
  { newYearRow with
    generation := 2
    expiresAt := 1767916800500000000
    queuedGeneration := some 2
    queuedAt := some 1767312000500000000 }

/-- the database that holds one invitation and its workspace -/
def oneInvitation (row : WorkspaceInvitation) : InvitationDb where
  workspaces := ⟨[⟨row.workspaceId, none, "Acme", 1767139200000000000⟩], by simp⟩
  memberships := ⟨[⟨row.inviterUserId, row.workspaceId, .owner, 1767139200000000000⟩], by simp⟩
  invitations := ⟨[row], by simp⟩

theorem newYear_create : WorkspaceInvitation.create ⟨1⟩ ⟨2⟩ ⟨3⟩ "admin@example.com"
    1767225600000000000 (1767225600000000000 + days 7) = .ok newYearRow ∧
    newYearRow.save = .ok newYearRow := ⟨rfl, rfl⟩

/-- **The link of the second generation is dead from the start**: it verifies, but to an expiry
half a second before the stored one, so both handlers report it unavailable a minute later. -/
theorem invitation_link_fraction :
    WorkspaceInvitation.create ⟨1⟩ ⟨2⟩ ⟨3⟩ "admin@example.com" 1767225600000000000
      (1767225600000000000 + days 7) = .ok newYearRow ∧
    newYearRow.save = .ok newYearRow ∧
    run deliver newYearRow [.resend 1 1767312000500000000 (1767312000500000000 + days 7)]
      = some newYearResent ∧
    1767312060000000000 + seconds 1 ≤ newYearResent.expiresAt ∧
    ∃ link, plainAuthority.issueAt newYearResent.authoritySource () 1767312001000000000 = .ok link ∧
      plainAuthority.verifyAt link.token 1767312060000000000
        = .ok ⟨⟨1⟩, 2, 1767312001000000000, 1767916800000000000⟩ ∧
      previewWorkspaceInvitation plainAuthority (oneInvitation newYearResent) 1767312060000000000
        ⟨link.token, 1767312060000000000⟩ = .error .unavailable ∧
      (acceptWorkspaceInvitation plainAuthority (fun _ => true) (oneInvitation newYearResent)
        1767312060000000000 ⟨link.token, ⟨4⟩, "admin@example.com", 1767312060000000000⟩).1
        = .error .unavailable ∧
      ¬ LinkWorks plainAuthority (fun _ => true) newYearResent 1767312001000000000
        1767312060000000000 := by
  refine ⟨newYear_create.1, newYear_create.2, rfl, by decide, _, rfl, rfl, rfl, rfl, ?_⟩
  intro hworks
  obtain ⟨hverify, -⟩ := hworks.2 () _ rfl
  cases hverify

/-- the same invitation, resent on a full second: its new link works and its first one is dead -/
theorem invitation_link_roundtrip_newYear :
    (∀ t now, t ≤ now → now + seconds 1 ≤ 1767916800000000000 →
      LinkWorks plainAuthority (fun _ => true)
        { newYearResent with
          expiresAt := 1767916800000000000
          queuedAt := some 1767312000000000000 } t now) ∧
    (∀ nonce t link, plainAuthority.issueAt newYearRow.authoritySource nonce t = .ok link →
      LinkUnavailable plainAuthority (fun _ => true)
        { newYearResent with
          expiresAt := 1767916800000000000
          queuedAt := some 1767312000000000000 } link.token) := by
  have h := invitation_link_roundtrip plainAuthority (TokenLayer.plain_faithful _ _ _ _)
    (fun _ => true) ⟨1⟩ ⟨2⟩ ⟨3⟩ "admin@example.com" 1767225600000000000
    (1767225600000000000 + days 7) newYearRow newYearRow newYear_create.1 newYear_create.2
    [.resend 1 1767312000000000000 (1767312000000000000 + days 7)]
    ⟨fun _ => by decide, fun _ _ => trivial⟩ _ rfl
  exact ⟨h.1, h.2 [] _ newYearRow rfl rfl (by decide)⟩

end Proofplane
