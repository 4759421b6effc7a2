import Proofplane.Auditor.Store
import Proofplane.Authentication.Email
import Proofplane.Domain.WorkspaceInvitation

/-!
# Addresses from the edge to the tables

An address is normalised once, where it comes in.  Grants and sessions look at it again, and so do their
tables, which compare it with its lower case.

* `AddressGrammar`, `LowersText`   what is relied on of the email library and of the database;
* `EmailAgrees`        an address that every later reader takes as it is;
* `validNormalizedEmail_normalized`, `stored_normalized`   what the two readers ask of the text that came in;
* `EmailAgrees.taken`  such an address becomes a grant, a session or an invitation, and is read back;
* `normalized_email_agrees_iff`   **the readers agree exactly on the texts with one `@` and nothing beyond
                       ASCII that the database would write in lower case**.
-/

namespace Proofplane
open Base

/-- the grammar of the email library: an address has a text before an `@` and one after it -/
def AddressGrammar (isValid : String → Bool) : Prop :=
  ∀ value, isValid value = true →
    ∃ user domain, value.toList = user ++ '@' :: domain ∧ user ≠ [] ∧ domain ≠ []

/-- `lower` of the database, which leaves a text alone if it leaves its characters alone -/
structure LowersText (lower : String → String) : Prop where
  lower_eq_self : ∀ text, lower text = text ↔
    ∀ c ∈ text.toList, lower (String.singleton c) = String.singleton c
  lower_ascii : ∀ c : Char, c.toNat < 128 → lower (String.singleton c) = String.singleton (asciiLower c)

/-- `lower(trim(·))` -/
def lowerTrim (lower : String → String) (text : String) : String := lower (trimSpaces text)

/-- the readers of an address take it as it is -/
structure EmailAgrees (isValid : String → Bool) (lower : String → String) (email : String) : Prop where
  valid : validNormalizedEmail email = true
  stable : normalizeEmail isValid email = some email
  stored : email = lowerTrim lower email

/-! ## The text that came in -/

theorem normalizeEmail_some {isValid : String → Bool} {value email : String}
    (h : normalizeEmail isValid value = some email) :
    email = toAsciiLowercase (trim value) ∧ isValid email = true := by
  unfold normalizeEmail at h
  dsimp only at h
  by_cases hvalid : isValid (toAsciiLowercase (trim value)) = true
  · rw [if_pos hvalid] at h
    obtain rfl := Option.some.inj h
    exact ⟨rfl, hvalid⟩
  · rw [if_neg hvalid] at h
    cases h

theorem trim_normalized (value : String) :
    trim (toAsciiLowercase (trim value)) = toAsciiLowercase (trim value) := by
  rw [trim_toAsciiLowercase, trim_trim]

theorem normalizeEmail_stable {isValid : String → Bool} {value email : String}
    (h : normalizeEmail isValid value = some email) : normalizeEmail isValid email = some email := by
  obtain ⟨rfl, hvalid⟩ := normalizeEmail_some h
  unfold normalizeEmail
  dsimp only
  rw [trim_normalized, toAsciiLowercase_idem]
  exact if_pos hvalid

/-- trimming and folding leave every `@` where it is -/
theorem count_at_normalized (value : String) :
    (toAsciiLowercase (trim value)).toList.count '@' = value.toList.count '@' := by
  have hspace : ∀ l : List Char, (∀ c ∈ l, isWhitespace c = true) → l.count '@' = 0 := by
    intro l hl
    refine List.count_eq_zero.mpr fun hmem => ?_
    exact absurd (hl '@' hmem) (by decide)
  have hfold : ∀ l : List Char, (l.map asciiLower).count '@' = l.count '@' := by
    intro l
    have hat : (· == '@') ∘ asciiLower = (· == '@') := by
      funext c
      exact Bool.eq_iff_iff.mpr (by simp [asciiLower_eq_at])
    rw [List.count_eq_countP, List.countP_map, hat, List.count_eq_countP]
  obtain ⟨a, b, hparts, ha, hb⟩ := trim_parts value
  unfold toAsciiLowercase
  rw [String.toList_ofList, hfold, hparts, List.count_append, List.count_append, hspace a ha, hspace b hb,
    Nat.zero_add, Nat.add_zero]

/-! ## The two readers -/

/-- where the grammar allows an address, it is the number of its `@`s that counts -/
theorem validNormalizedEmail_iff_count {email : String} {user domain : List Char}
    (hparts : email.toList = user ++ '@' :: domain) (huser : user ≠ []) (hdomain : domain ≠ [])
    (htrim : trim email = email) (hlower : ∀ c ∈ email.toList, c.isUpper = false) :
    validNormalizedEmail email = true ↔ email.toList.count '@' = 1 := by
  have hcount : email.toList.count '@' = user.count '@' + (domain.count '@' + 1) := by
    rw [hparts, List.count_append, List.count_cons_self]
  by_cases hfirst : '@' ∈ user
  · -- the split is inside the quoted part, and another `@` is left behind it
    have hpos := List.count_pos_iff.mpr hfirst
    refine iff_of_false ?_ (by omega)
    obtain ⟨front, back, rfl, hfront⟩ := List.eq_append_cons_of_mem hfirst
    have hsplit : email.toList.dropWhile (· ≠ '@') = '@' :: (back ++ '@' :: domain) := by
      rw [hparts, List.append_assoc, List.dropWhile_append_of_pos]
      · rfl
      · intro c hc
        exact decide_eq_true fun heq => hfront (heq ▸ hc)
    intro hvalid
    unfold validNormalizedEmail at hvalid
    rw [hsplit] at hvalid
    simp at hvalid
  · have hsplit : email.toList.dropWhile (· ≠ '@') = '@' :: domain := by
      rw [hparts, List.dropWhile_append_of_pos]
      · rfl
      · intro c hc
        exact decide_eq_true fun heq => hfirst (heq ▸ hc)
    have htake : email.toList.takeWhile (· ≠ '@') = user := by
      rw [hparts, List.takeWhile_append_of_pos]
      · simp
      · intro c hc
        exact decide_eq_true fun heq => hfirst (heq ▸ hc)
    have hall : (email.toList.all fun c => !c.isUpper) = true := by
      refine List.all_eq_true.mpr fun c hc => ?_
      rw [hlower c hc]
      rfl
    have hzero : user.count '@' = 0 := List.count_eq_zero.mpr hfirst
    unfold validNormalizedEmail
    rw [hsplit, htake, hall, htrim]
    dsimp only
    have hmem : domain.contains '@' = false ↔ domain.count '@' = 0 := by
      rw [List.count_eq_zero, List.contains_eq_mem, decide_eq_false_iff_not]
    have hone : email.toList.count '@' = 1 ↔ domain.count '@' = 0 := by omega
    rw [hone, ← hmem]
    simp [huser, hdomain]

section
variable {isValid : String → Bool} {lower : String → String} {value email : String}

theorem validNormalizedEmail_normalized (hgrammar : AddressGrammar isValid)
    (h : normalizeEmail isValid value = some email) :
    validNormalizedEmail email = true ↔ value.toList.count '@' = 1 := by
  obtain ⟨rfl, hvalid⟩ := normalizeEmail_some h
  obtain ⟨user, domain, hparts, huser, hdomain⟩ := hgrammar _ hvalid
  rw [validNormalizedEmail_iff_count hparts huser hdomain (trim_normalized value), count_at_normalized]
  intro c hc
  unfold toAsciiLowercase at hc
  rw [String.toList_ofList] at hc
  obtain ⟨d, -, rfl⟩ := List.mem_map.mp hc
  exact isUpper_asciiLower d

theorem stored_normalized (hlower : LowersText lower) (h : normalizeEmail isValid value = some email) :
    email = lowerTrim lower email ↔
      ∀ c ∈ (trim value).toList, 128 ≤ c.toNat → lower (String.singleton c) = String.singleton c := by
  obtain ⟨rfl, -⟩ := normalizeEmail_some h
  unfold lowerTrim
  rw [trimSpaces_of_trim (trim_normalized value), eq_comm, hlower.lower_eq_self]
  unfold toAsciiLowercase
  rw [String.toList_ofList, List.forall_mem_map]
  refine forall₂_congr fun c _ => ?_
  by_cases hascii : c.toNat < 128
  · -- an ASCII letter has been folded already
    rw [hlower.lower_ascii _ (asciiLower_lt hascii), asciiLower_idem]
    exact iff_of_true rfl fun hge => absurd hascii (Nat.not_lt.mpr hge)
  · have hge := Nat.le_of_not_lt hascii
    rw [asciiLower_of_le hge]
    exact ⟨fun hkeep _ => hkeep, fun hkeep => hkeep hge⟩

theorem emailAgrees_iff (hgrammar : AddressGrammar isValid) (hlower : LowersText lower)
    (h : normalizeEmail isValid value = some email) :
    EmailAgrees isValid lower email ↔ value.toList.count '@' = 1 ∧
      ∀ c ∈ (trim value).toList, 128 ≤ c.toNat → lower (String.singleton c) = String.singleton c := by
  rw [← validNormalizedEmail_normalized hgrammar h, ← stored_normalized hlower h]
  exact ⟨fun hagrees => ⟨hagrees.valid, hagrees.stored⟩,
    fun hparts => ⟨hparts.1, normalizeEmail_stable h, hparts.2⟩⟩

end

/-! ## What an address is for -/

/-- grants, sessions and invitations are made for the address, stored and read back -/
structure EmailTaken (lower : String → String) (email : String) : Prop where
  grant : ∀ id workspaceId digest userId connectionId createdAt expiresAt period,
    pgTimestamp createdAt < pgTimestamp expiresAt →
    ∃ g, AuditorAccessGrant.issue id workspaceId email digest userId connectionId createdAt expiresAt period
        = .ok g ∧
      g.toRow.rowChecks (lowerTrim lower) = true ∧ AuditorAccessGrant.rehydrate g.toRow = .ok g.toRow
  session : ∀ id grantId workspaceId digest subject createdAt expiresAt period,
    pgTimestamp createdAt < pgTimestamp expiresAt → isBlank subject = false →
    ∃ s, AuditorSession.create id grantId workspaceId email digest subject expiresAt period createdAt = .ok s ∧
      s.toRow.rowChecks (lowerTrim lower) = true ∧
      ∀ g, AuditorSession.rehydrate (s.toRow.withGrant g) = .ok (s.toRow.withGrant g)
  invitation : ∀ id workspaceId inviterUserId createdAt expiresAt, floorSec createdAt < floorSec expiresAt →
    ∃ i, WorkspaceInvitation.create id workspaceId inviterUserId email createdAt expiresAt = .ok i ∧
      i.invitedEmail = lowerTrim lower i.invitedEmail ∧ WorkspaceInvitation.rehydrate i = .ok i

theorem lt_of_stored_lt {a b : Int} (h : pgTimestamp a < pgTimestamp b) : a < b := by
  by_contra hle
  exact absurd (pgTimestamp_mono (not_lt.mp hle)) (not_le.mpr h)

theorem hasText_of_isBlank {s : String} (h : isBlank s = false) : hasText s = true := by
  unfold isBlank at h
  obtain ⟨c, hc, hws⟩ := List.all_eq_false.mp h
  refine List.any_eq_true.mpr ⟨c, hc, decide_eq_true ?_⟩
  rintro rfl
  exact hws (by decide)

theorem validNormalizedEmail_parts {email : String} (h : validNormalizedEmail email = true) :
    ∃ c user domain, email.toList = c :: user ++ '@' :: domain ∧ c ≠ '@' ∧ trim email = email := by
  have hjoin := (List.takeWhile_append_dropWhile (p := (· ≠ '@')) (l := email.toList)).symm
  unfold validNormalizedEmail at h
  cases hsplit : email.toList.dropWhile (· ≠ '@') with
  | nil =>
    rw [hsplit] at h
    cases h
  | cons d domain =>
    rw [hsplit] at h hjoin
    simp only [Bool.and_eq_true, beq_iff_eq] at h
    obtain ⟨⟨⟨⟨huser, -⟩, -⟩, htrim⟩, -⟩ := h
    have hat : d = '@' := by
      have hhead := List.head?_dropWhile_not (· ≠ '@') email.toList
      rw [hsplit] at hhead
      simpa using hhead
    cases htake : email.toList.takeWhile (· ≠ '@') with
    | nil =>
      rw [htake] at huser
      cases huser
    | cons c user =>
      have hc : c ∈ email.toList.takeWhile (· ≠ '@') := by
        rw [htake]
        exact List.mem_cons_self
      rw [htake, hat] at hjoin
      exact ⟨c, user, domain, hjoin, of_decide_eq_true (List.all_eq_true.mp List.all_takeWhile c hc),
        htrim.symm⟩

theorem isBlank_of_valid {email : String} (h : validNormalizedEmail email = true) : isBlank email = false := by
  obtain ⟨c, user, domain, hparts, -, -⟩ := validNormalizedEmail_parts h
  refine List.all_eq_false.mpr ⟨'@', ?_, by decide⟩
  rw [hparts]
  exact List.mem_append_right _ List.mem_cons_self

theorem startsBeforeAt_of_valid {email : String} (h : validNormalizedEmail email = true) :
    startsBeforeAt email = true := by
  obtain ⟨c, user, domain, hparts, hc, -⟩ := validNormalizedEmail_parts h
  unfold startsBeforeAt
  rw [hparts]
  simp [hc]

/-- an address on which the readers agree can be used, and comes back from the tables -/
theorem EmailAgrees.taken {isValid : String → Bool} {lower : String → String} {email : String}
    (h : EmailAgrees isValid lower email) : EmailTaken lower email := by
  have hstored : (email == lowerTrim lower email) = true := beq_iff_eq.mpr h.stored
  have hnotInvalid : ¬ validNormalizedEmail email = false := by
    rw [h.valid]
    decide
  constructor
  · intro id workspaceId digest userId connectionId createdAt expiresAt period htime
    have hissued : ¬ (expiresAt ≤ createdAt ∨ validNormalizedEmail email = false) :=
      not_or.mpr ⟨not_le.mpr (lt_of_stored_lt htime), hnotInvalid⟩
    have hreissued : ¬ (pgTimestamp expiresAt ≤ pgTimestamp createdAt ∨ validNormalizedEmail email = false) :=
      not_or.mpr ⟨not_le.mpr htime, hnotInvalid⟩
    refine ⟨_, if_neg hissued, ?_, ?_⟩
    · unfold AuditorAccessGrant.rowChecks AuditorAccessGrant.toRow
      dsimp only
      rw [hstored, startsBeforeAt_of_valid h.valid, decide_eq_true htime]
      rfl
    · unfold AuditorAccessGrant.rehydrate AuditorAccessGrant.issue AuditorAccessGrant.toRow
      dsimp only
      rw [if_neg hreissued]
      rfl
  · intro id grantId workspaceId digest subject createdAt expiresAt period htime hsubject
    have hsubject' : ¬ isBlank subject = true := by
      rw [hsubject]
      decide
    have hcreated : ¬ (expiresAt ≤ createdAt ∨ isBlank subject = true ∨ validNormalizedEmail email = false) :=
      not_or.mpr ⟨not_le.mpr (lt_of_stored_lt htime), not_or.mpr ⟨hsubject', hnotInvalid⟩⟩
    have hrecreated : ¬ (pgTimestamp expiresAt ≤ pgTimestamp createdAt ∨ isBlank subject = true ∨
        validNormalizedEmail email = false) :=
      not_or.mpr ⟨not_le.mpr htime, not_or.mpr ⟨hsubject', hnotInvalid⟩⟩
    refine ⟨_, if_neg hcreated, ?_, ?_⟩
    · unfold AuditorSessionRow.rowChecks AuditorSession.toRow
      dsimp only
      rw [hstored, hasText_of_isBlank hsubject, decide_eq_true htime]
      rfl
    · intro g
      unfold AuditorSession.rehydrate AuditorSession.create AuditorSession.toRow
        AuditorSessionRow.withGrant
      dsimp only
      rw [if_neg hrecreated]
      dsimp only
      rw [if_neg]
      simp
  · intro id workspaceId inviterUserId createdAt expiresAt htime
    have hcreated : ∀ i : WorkspaceInvitation, i.Valid → WorkspaceInvitation.rehydrate i = .ok i := by
      intro i hi
      rw [WorkspaceInvitation.rehydrate_eq, if_pos hi]
    have hvalid : WorkspaceInvitation.Valid
        { id, workspaceId, inviterUserId, invitedEmail := email, role := .admin, generation := 1
          createdAt := floorSec createdAt, expiresAt := floorSec expiresAt, acceptedAt := none
          revokedAt := none, acceptingUserId := none, queuedGeneration := none, queuedAt := none
          deliveredGeneration := none, deliveredAt := none, lastDeliveryFailure := none
          deliveryFailedAt := none } :=
      ⟨rfl, Int.one_pos, isBlank_of_valid h.valid, htime, rfl, rfl⟩
    exact ⟨_, hcreated _ hvalid, h.stored, hcreated _ hvalid⟩

/-- **For every text that is normalised: all readers of the address agree on it exactly when the text has
one `@` and no character beyond ASCII that the database would write in lower case; and then it becomes a
grant, a session or an invitation.** -/
theorem normalized_email_agrees_iff {isValid : String → Bool} {lower : String → String} {value email : String}
    (hgrammar : AddressGrammar isValid) (hlower : LowersText lower)
    (h : normalizeEmail isValid value = some email) :
    (EmailAgrees isValid lower email ↔ value.toList.count '@' = 1 ∧
      ∀ c ∈ (trim value).toList, 128 ≤ c.toNat → lower (String.singleton c) = String.singleton c) ∧
    (EmailAgrees isValid lower email → EmailTaken lower email) :=
  ⟨emailAgrees_iff hgrammar hlower h, EmailAgrees.taken⟩

/-! ## Two addresses -/

/-- something before the last `@` and something after it -/
def sampleIsValid (value : String) : Bool :=
  match value.toList.reverse.dropWhile (· ≠ '@') with
  | [] => false
  | _ :: user => !user.isEmpty && value.toList.reverse.head? != some '@'

theorem sampleIsValid_grammar : AddressGrammar sampleIsValid := by
  intro value h
  have hjoin := (List.takeWhile_append_dropWhile (p := (· ≠ '@')) (l := value.toList.reverse)).symm
  unfold sampleIsValid at h
  cases hsplit : value.toList.reverse.dropWhile (· ≠ '@') with
  | nil =>
    rw [hsplit] at h
    cases h
  | cons c user =>
    have hat : c = '@' := by
      have hhead := List.head?_dropWhile_not (· ≠ '@') value.toList.reverse
      rw [hsplit] at hhead
      simpa using hhead
    rw [hsplit, hat] at hjoin
    have hparts := congrArg List.reverse hjoin
    rw [List.reverse_reverse, List.reverse_append, List.reverse_cons, List.append_assoc,
      List.singleton_append] at hparts
    rw [hsplit, hjoin] at h
    simp only [Bool.and_eq_true] at h
    refine ⟨_, _, hparts, ?_, ?_⟩
    · intro hnil
      obtain rfl := List.reverse_eq_nil_iff.mp hnil
      exact absurd h.1 (by decide)
    · intro hnil
      rw [List.reverse_eq_nil_iff.mp hnil, List.nil_append] at h
      exact absurd h.2 (by simp)

def sampleLowerChar (c : Char) : Char := if c = 'É' then 'é' else asciiLower c

def sampleLower (text : String) : String := String.ofList (text.toList.map sampleLowerChar)

theorem sampleLower_lowers : LowersText sampleLower where
  lower_eq_self text := by
    have hone : ∀ c, sampleLower (String.singleton c) = String.singleton c ↔ sampleLowerChar c = c := by
      intro c
      unfold sampleLower
      rw [← String.toList_inj, String.toList_ofList]
      simp
    simp only [hone]
    unfold sampleLower
    rw [← String.toList_inj, String.toList_ofList]
    constructor
    · intro h c hc
      have hmap : text.toList.map sampleLowerChar = text.toList.map id := by rw [h, List.map_id]
      exact List.map_inj_left.mp hmap c hc
    · intro h
      conv_rhs => rw [← List.map_id text.toList]
      exact List.map_inj_left.mpr h
  lower_ascii c hc := by
    have hne : ¬ c = 'É' := by
      rintro rfl
      exact absurd hc (by decide)
    unfold sampleLower sampleLowerChar
    rw [← String.toList_inj, String.toList_ofList]
    simp [hne]

theorem normalized_email_agrees_iff_auditor :
    EmailTaken sampleLower "auditor@example.com" := by
  have hnormal : normalizeEmail sampleIsValid " Auditor@Example.com " = some "auditor@example.com" := by
    decide
  have h := normalized_email_agrees_iff sampleIsValid_grammar sampleLower_lowers hnormal
  have hascii : ((trim " Auditor@Example.com ").toList.all fun c => decide (c.toNat < 128)) = true := by
    decide
  refine h.2 (h.1.mpr ⟨by decide, ?_⟩)
  intro c hc hge
  have hlt : c.toNat < 128 := of_decide_eq_true (List.all_eq_true.mp hascii c hc)
  omega

/-- an address with a quoted `@` is normalised and then refused, and so is one with an accented capital -/
theorem normalized_emails_refused :
    (normalizeEmail sampleIsValid "\"a@b\"@example.com" = some "\"a@b\"@example.com" ∧
      validNormalizedEmail "\"a@b\"@example.com" = false) ∧
    normalizeEmail sampleIsValid "É@example.com" = some "É@example.com" ∧
      "É@example.com" ≠ lowerTrim sampleLower "É@example.com" :=
  ⟨⟨by decide, by decide⟩, by decide, by decide⟩

end Proofplane
