import Proofplane.Authentication.Paseto
import Proofplane.Domain.Permission

/-!
# Access tokens of the MCP resource

A token names the connection that it was issued for, and its scopes.

* `parseScope`               the scopes of a request or a token, `parseScope_eq_some_iff` **when a text
                             is a scope, and which permissions it lists**;
* `verifyAccessToken`        what a bearer token says;
* `verifyAccessToken_encrypt`   **until it expires, a token says what was sealed in it**.
-/

namespace Proofplane
open Base

structure McpOAuthClaims where
  auth0Subject : String
  clientId : String
  connectionId : Uuid
  workspaceId : Uuid
  resource : String
  scopes : List String
  deriving DecidableEq, Repr

structure VerifiedMcpClaims where
  subject : String
  clientId : String
  scopes : List WorkspacePermission
  connectionId : Option AgentConnectionId
  workspaceId : Option WorkspaceId
  deriving DecidableEq, Repr

inductive VerifyError
  | invalidToken | invalidScopes
  deriving DecidableEq, Repr

/-- encryptor and decryptor of access tokens -/
abbrev McpOAuthTokens (Key Nonce : Type) :=
  PasetoTokens mcpOAuthImplicitAssertion McpOAuthClaims Key Nonce

/-! ## Scopes -/

/-- every one of the texts as a permission -/
def parsePermissions : List String → Option (List WorkspacePermission)
  | [] => some []
  | v :: vs => (WorkspacePermission.fromStr v).bind fun p => (parsePermissions vs).map (p :: ·)

theorem parsePermissions_cons (v : String) (vs : List String) :
    parsePermissions (v :: vs)
      = (WorkspacePermission.fromStr v).bind fun p => (parsePermissions vs).map (p :: ·) := rfl

def parseScope (scope : String) : Option (List WorkspacePermission) :=
  let values := splitAsciiWhitespace scope
  if values = [] then none else (parsePermissions values).bind canonicalPermissions

theorem parsePermissions_asStr (ps : List WorkspacePermission) :
    parsePermissions (ps.map WorkspacePermission.asStr) = some ps := by
  induction ps with
  | nil => rfl
  | cons p ps ih =>
    rw [List.map_cons, parsePermissions_cons, WorkspacePermission.fromStr_asStr, ih]
    rfl

theorem parsePermissions_eq_some_iff {values : List String} {ps : List WorkspacePermission} :
    parsePermissions values = some ps ↔ values = ps.map WorkspacePermission.asStr := by
  constructor
  · intro h
    induction values generalizing ps with
    | nil =>
      cases h
      rfl
    | cons v values ih =>
      rw [parsePermissions_cons] at h
      obtain ⟨p, hp, hrest⟩ := Option.bind_eq_some_iff.mp h
      obtain ⟨qs, hqs, rfl⟩ := Option.map_eq_some_iff.mp hrest
      rw [List.map_cons, ← ih hqs, WorkspacePermission.fromStr_eq_some_iff.mp hp]
  · rintro rfl
    exact parsePermissions_asStr ps

theorem exists_parsePermissions_iff {values : List String} :
    (∃ ps, parsePermissions values = some ps) ↔
      ∀ v ∈ values, ∃ p, WorkspacePermission.fromStr v = some p := by
  induction values with
  | nil => exact iff_of_true ⟨[], rfl⟩ fun v hv => absurd hv List.not_mem_nil
  | cons v values ih =>
    rw [List.forall_mem_cons, ← ih, parsePermissions_cons]
    constructor
    · rintro ⟨ps, h⟩
      obtain ⟨p, hp, hrest⟩ := Option.bind_eq_some_iff.mp h
      obtain ⟨qs, hqs, -⟩ := Option.map_eq_some_iff.mp hrest
      exact ⟨⟨p, hp⟩, qs, hqs⟩
    · rintro ⟨⟨p, hp⟩, qs, hqs⟩
      exact ⟨p :: qs, by rw [hp, hqs]; rfl⟩

theorem isWord_asStr (p : WorkspacePermission) : isWord p.asStr = true := by
  cases p with
  | readEvidence => decide
  | writeEvidence => decide
  | readEvidenceSubmissions => decide
  | writeEvidenceSubmissions => decide
  | readControls => decide
  | writeControls => decide
  | manageAuditorAccess => decide

/-- **A canonical list survives its text.** -/
theorem parseScope_joinSpaces {ps : List WorkspacePermission} (hne : ps ≠ [])
    (h : canonicalPermissions ps = some ps) :
    parseScope (joinSpaces (ps.map WorkspacePermission.asStr)) = some ps := by
  have hwords : ∀ w ∈ ps.map WorkspacePermission.asStr, isWord w = true := by
    intro w hw
    obtain ⟨p, -, rfl⟩ := List.mem_map.mp hw
    exact isWord_asStr p
  unfold parseScope
  rw [splitAsciiWhitespace_joinSpaces hwords]
  dsimp only
  rw [if_neg (by simpa using hne), parsePermissions_asStr]
  exact h

/-- parsed scopes are canonical -/
theorem canonical_of_parseScope {scope : String} {ps : List WorkspacePermission}
    (h : parseScope scope = some ps) : canonicalPermissions ps = some ps := by
  unfold parseScope at h
  dsimp only at h
  split at h
  · cases h
  · obtain ⟨values, -, hcanonical⟩ := Option.bind_eq_some_iff.mp h
    exact canonicalPermissions_idem hcanonical

/-- **A scope is the names of a canonical list, in any order**; the list is what it is parsed to. -/
theorem parseScope_eq_some_iff {scope : String} {ps : List WorkspacePermission} :
    parseScope scope = some ps ↔ splitAsciiWhitespace scope ≠ [] ∧ CanonicalPermissions ps ∧
      (ps.map WorkspacePermission.asStr).Perm (splitAsciiWhitespace scope) := by
  unfold parseScope
  dsimp only
  split
  · next hempty => simp [hempty]
  · next hne =>
    rw [Option.bind_eq_some_iff]
    constructor
    · rintro ⟨values, hvalues, hps⟩
      obtain ⟨hcanonical, hperm⟩ := canonicalPermissions_eq_some_iff.mp hps
      refine ⟨hne, hcanonical, ?_⟩
      rw [parsePermissions_eq_some_iff.mp hvalues]
      exact hperm.map _
    · rintro ⟨-, hcanonical, hperm⟩
      -- every word is a name, as the names of the list are all the words
      have hnames : ∀ w ∈ splitAsciiWhitespace scope, ∃ p, WorkspacePermission.fromStr w = some p := by
        intro w hw
        obtain ⟨p, -, rfl⟩ := List.mem_map.mp (hperm.mem_iff.mpr hw)
        exact ⟨p, WorkspacePermission.fromStr_asStr p⟩
      obtain ⟨values, hvalues⟩ := exists_parsePermissions_iff.mpr hnames
      refine ⟨values, hvalues, canonicalPermissions_eq_some_iff.mpr ⟨hcanonical, ?_⟩⟩
      rw [parsePermissions_eq_some_iff.mp hvalues] at hperm
      exact (List.map_perm_map_iff WorkspacePermission.asStr_injective).mp hperm

theorem exists_parseScope_iff {scope : String} :
    (∃ ps, parseScope scope = some ps) ↔ splitAsciiWhitespace scope ≠ [] ∧
      (∀ w ∈ splitAsciiWhitespace scope, ∃ p, WorkspacePermission.fromStr w = some p) ∧
      (splitAsciiWhitespace scope).Nodup := by
  constructor
  · rintro ⟨ps, h⟩
    obtain ⟨hne, hcanonical, hperm⟩ := parseScope_eq_some_iff.mp h
    refine ⟨hne, ?_, hperm.nodup_iff.mp (hcanonical.nodup.map WorkspacePermission.asStr_injective)⟩
    intro w hw
    obtain ⟨p, -, rfl⟩ := List.mem_map.mp (hperm.mem_iff.mpr hw)
    exact ⟨p, WorkspacePermission.fromStr_asStr p⟩
  · rintro ⟨hne, hnames, hnodup⟩
    obtain ⟨values, hvalues⟩ := exists_parsePermissions_iff.mpr hnames
    have hwords := parsePermissions_eq_some_iff.mp hvalues
    rw [hwords] at hnodup
    obtain ⟨ps, hps⟩ := exists_canonicalPermissionList_iff.mpr hnodup.of_map
    obtain ⟨hcanonical, hperm⟩ := canonicalPermissionList_eq_ok_iff.mp hps
    refine ⟨ps, parseScope_eq_some_iff.mpr ⟨hne, hcanonical, ?_⟩⟩
    rw [hwords]
    exact hperm.map _

/-! ## Tokens -/

namespace McpOAuthTokens
variable {Key Nonce : Type}

def verifyAccessToken (T : McpOAuthTokens Key Nonce) (token : String) (now : Int) :
    Except VerifyError VerifiedMcpClaims :=
  match T.decrypt token now with
  | .error _ => .error .invalidToken
  | .ok verified =>
    match parseScope (joinSpaces verified.claims.scopes) with
    | none => .error .invalidScopes
    | some scopes =>
      .ok ⟨verified.claims.auth0Subject, verified.claims.clientId, scopes,
        some ⟨verified.claims.connectionId⟩, some ⟨verified.claims.workspaceId⟩⟩

variable {T : McpOAuthTokens Key Nonce} {registered : RegisteredClaims} {claims : McpOAuthClaims}
  {nonce : Nonce} {issuedAt now : Int} {issued : IssuedPasetoToken}

/-- **Until it expires a token says what was sealed in it.** -/
theorem verifyAccessToken_encrypt (hT : T.layer.Faithful)
    (h : T.encrypt registered claims nonce issuedAt = .ok issued) {ps : List WorkspacePermission}
    (hps : ps ≠ []) (hcanonical : canonicalPermissions ps = some ps)
    (hscopes : claims.scopes = ps.map WorkspacePermission.asStr)
    (hissued : floorSec issuedAt ≤ now) (hnow : now < issued.expiresAt) :
    T.verifyAccessToken issued.token now
      = .ok ⟨claims.auth0Subject, claims.clientId, ps, some ⟨claims.connectionId⟩,
        some ⟨claims.workspaceId⟩⟩ := by
  unfold verifyAccessToken
  rw [PasetoTokens.decrypt_encrypt hT h hissued hnow]
  dsimp only
  rw [hscopes, parseScope_joinSpaces hps hcanonical]

end McpOAuthTokens

end Proofplane
