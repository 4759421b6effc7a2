import Proofplane.Base.Base64
import Proofplane.Base.Canonical
import Proofplane.Base.JsonText
import Proofplane.Base.Segments
import Mathlib.Data.String.Basic
import Mathlib.Logic.Function.Basic

/-!
# Signed client registration

A client that registers is not stored: its id is a text that carries its name and redirects, in one
form, and a MAC over them.

* `normalizeRedirectUri`   a loopback redirect without its port, `normalizeRedirectUri_idem`;
* `ClientRegistrar`        the keys, with the active one among them;
* `register`, `encode`     the id of a client, `encode_inj`;
* `decode_eq_ok_iff`       what a text has to be to name a client;
* `resolveSigned`          **an id resolves to what was registered, the same client has one id and
                           another client another, and no text resolves whose MAC is not that of a held
                           key over the rest of it**.
-/

namespace Proofplane
namespace ClientRegistration
open Base

inductive ClientRegistrationError
  | malformed | unknownKey | invalidSignature
  deriving DecidableEq, Repr

structure RegisterClientPayload where
  clientName : String
  redirectUris : List String
  deriving DecidableEq, Repr

structure RegisteredClient where
  clientId : String
  clientName : String
  redirectUris : List String
  deriving DecidableEq, Repr

inductive ClientIdResolution
  | verified (client : RegisteredClient)
  | invalid (error : ClientRegistrationError)
  | unrecognized
  deriving DecidableEq, Repr

structure CanonicalMeta where
  clientName : String
  redirectUris : List String
  deriving DecidableEq, Repr

/-! ## The libraries -/

/-- the bytes of a text and of `serde_json`, base64 for URLs, the two digests, and parsed URLs -/
structure Libraries (Url : Type) where
  sha256 : List UInt8 → List UInt8
  hmacSha256 : List UInt8 → List UInt8 → List UInt8
  base64Encode : List UInt8 → String
  base64Decode : String → Option (List UInt8)
  toVec : CanonicalMeta → List UInt8
  fromSlice : List UInt8 → Option CanonicalMeta
  parse : String → Option Url
  scheme : Url → String
  hostStr : Url → Option String
  setPort : Url → Option UInt16 → Url
  toText : Url → String

/-- base64 and JSON read what they wrote, a URL parses to itself, and its port is a part of its own -/
structure Libraries.Faithful {Url : Type} (L : Libraries Url) : Prop where
  decode_encode : ∀ bytes, L.base64Decode (L.base64Encode bytes) = some bytes
  dot_notMem : ∀ bytes, '.' ∉ (L.base64Encode bytes).toList
  fromSlice_toVec : ∀ m, L.fromSlice (L.toVec m) = some m
  parse_toText : ∀ url, L.parse (L.toText url) = some url
  scheme_setPort : ∀ url port, L.scheme (L.setPort url port) = L.scheme url
  hostStr_setPort : ∀ url port, L.hostStr (L.setPort url port) = L.hostStr url
  setPort_setPort : ∀ url port port', L.setPort (L.setPort url port) port' = L.setPort url port'

variable {Url : Type} (L : Libraries Url)

/-! ## Redirects -/

def isLoopbackHttp (url : Url) : Bool :=
  decide (L.scheme url = "http") && (L.hostStr url).any fun host =>
    decide (host = "127.0.0.1") || decide (host = "localhost") || decide (host = "::1") ||
      decide (host = "[::1]")

/-- without the port where it is a loopback redirect, else as it is -/
def normalizeRedirectUri (uri : String) : String :=
  match L.parse uri with
  | none => uri
  | some url => if isLoopbackHttp L url then L.toText (L.setPort url none) else uri

/-! ## The registrar -/

structure PasetoMcpOAuthKey where
  id : String
  secret : String

structure PasetoMcpOAuthConfig where
  activeKeyId : String
  keys : List PasetoMcpOAuthKey

def keyDerivationLabel : String := "proofplane:client-registration:v1:"

def deriveKey (secret : String) : List UInt8 := L.sha256 (asBytes keyDerivationLabel ++ asBytes secret)

/-- keys by their ids, and the id of the one that signs -/
structure ClientRegistrar where
  keys : String → Option (List UInt8)
  activeKid : String
  active : (keys activeKid).isSome

/-- `none` where the active key is not among the keys -/
def ClientRegistrar.fromMcpOAuthConfig (config : PasetoMcpOAuthConfig) : Option ClientRegistrar :=
  let keys := config.keys.foldl (fun (keys : String → Option (List UInt8)) key =>
    Function.update keys key.id (some (deriveKey L key.secret))) fun _ => none
  if h : (keys config.activeKeyId).isSome then some ⟨keys, config.activeKeyId, h⟩ else none

def ClientRegistrar.activeKey (R : ClientRegistrar) : List UInt8 := (R.keys R.activeKid).get R.active

def sign (key : List UInt8) (signingInput : String) : String :=
  L.base64Encode (L.hmacSha256 key (asBytes signingInput))

def verify (key : List UInt8) (signingInput : String) (tag : List UInt8) : Bool :=
  decide (L.hmacSha256 key (asBytes signingInput) = tag)

variable (R : ClientRegistrar)

def encode (m : CanonicalMeta) : String :=
  let kidB64 := L.base64Encode (asBytes R.activeKid)
  let metaB64 := L.base64Encode (L.toVec m)
  let signingInput := "ppcli.v1" ++ "." ++ kidB64 ++ "." ++ metaB64
  signingInput ++ "." ++ sign L R.activeKey signingInput

/-- the id of a client whose redirects have been validated, and what it says -/
def register (payload : RegisterClientPayload) : RegisteredClient :=
  let redirectUris := sortDedup (payload.redirectUris.map (normalizeRedirectUri L))
  let m : CanonicalMeta := ⟨payload.clientName, redirectUris⟩
  ⟨encode L R m, m.clientName, m.redirectUris⟩

/-- a value that has to be there -/
def okOr {α : Type} (error : ClientRegistrationError) : Option α → Except ClientRegistrationError α
  | none => .error error
  | some a => .ok a

def decode (clientId : String) : Except ClientRegistrationError RegisteredClient :=
  match segments '.' clientId with
  | [p₀, p₁, kidB64, metaB64, tagB64] =>
    if p₀ ≠ "ppcli" ∨ p₁ ≠ "v1" then .error .malformed
    else do
      let kidBytes ← okOr .malformed (L.base64Decode kidB64)
      let kid ← okOr .malformed (fromUtf8 kidBytes)
      let key ← okOr .unknownKey (R.keys kid)
      let tag ← okOr .malformed (L.base64Decode tagB64)
      let signingInput := p₀ ++ "." ++ p₁ ++ "." ++ kidB64 ++ "." ++ metaB64
      if !verify L key signingInput tag then .error .invalidSignature
      else
        let metaJson ← okOr .malformed (L.base64Decode metaB64)
        let m ← okOr .malformed (L.fromSlice metaJson)
        .ok ⟨clientId, m.clientName, m.redirectUris⟩
  | _ => .error .malformed

def resolveSigned (clientId : String) : ClientIdResolution :=
  if !"ppcli.".toList.isPrefixOf clientId.toList then .unrecognized
  else
    match decode L R clientId with
    | .ok client => .verified client
    | .error error => .invalid error

/-! ## Redirects in one form -/

section
variable {L} (hL : L.Faithful)
include hL

theorem isLoopbackHttp_setPort (url : Url) (port : Option UInt16) :
    isLoopbackHttp L (L.setPort url port) = isLoopbackHttp L url := by
  unfold isLoopbackHttp
  rw [hL.scheme_setPort, hL.hostStr_setPort]

omit hL in
theorem normalizeRedirectUri_loopback {uri : String} {url : Url} (hparse : L.parse uri = some url)
    (hloopback : isLoopbackHttp L url = true) :
    normalizeRedirectUri L uri = L.toText (L.setPort url none) := by
  unfold normalizeRedirectUri
  rw [hparse]
  exact if_pos hloopback

theorem normalizeRedirectUri_setPort {uri uri' : String} {url : Url} {port : Option UInt16}
    (hparse : L.parse uri = some url) (hloopback : isLoopbackHttp L url = true)
    (hparse' : L.parse uri' = some (L.setPort url port)) :
    normalizeRedirectUri L uri' = normalizeRedirectUri L uri := by
  have hloopback' : isLoopbackHttp L (L.setPort url port) = true := by
    rw [isLoopbackHttp_setPort hL, hloopback]
  rw [normalizeRedirectUri_loopback hparse hloopback, normalizeRedirectUri_loopback hparse' hloopback',
    hL.setPort_setPort]

theorem normalizeRedirectUri_idem (uri : String) :
    normalizeRedirectUri L (normalizeRedirectUri L uri) = normalizeRedirectUri L uri := by
  cases hparse : L.parse uri with
  | none =>
    have hself : normalizeRedirectUri L uri = uri := by
      unfold normalizeRedirectUri
      rw [hparse]
    rw [hself, hself]
  | some url =>
    by_cases hloopback : isLoopbackHttp L url = true
    · have hself := normalizeRedirectUri_loopback hparse hloopback
      have hback : L.parse (normalizeRedirectUri L uri) = some (L.setPort url none) := by
        rw [hself, hL.parse_toText]
      exact normalizeRedirectUri_setPort hL hparse hloopback hback
    · have hself : normalizeRedirectUri L uri = uri := by
        unfold normalizeRedirectUri
        rw [hparse]
        exact if_neg hloopback
      rw [hself, hself]

end

/-! ## Ids -/

theorem okOr_bind_eq_ok {α β : Type} {error : ClientRegistrationError} {o : Option α}
    {f : α → Except ClientRegistrationError β} {b : β} :
    (okOr error o >>= f) = .ok b ↔ ∃ a, o = some a ∧ f a = .ok b := by
  cases o with
  | none => simp [okOr, bind, Except.bind]
  | some a => simp [okOr, bind, Except.bind]

/-- what the MAC is over -/
theorem signingInput_eq (kidB64 metaB64 : String) :
    "ppcli.v1" ++ "." ++ kidB64 ++ "." ++ metaB64 =
      "ppcli" ++ "." ++ "v1" ++ "." ++ kidB64 ++ "." ++ metaB64 := by
  have hstart : ("ppcli.v1" : String) = "ppcli" ++ "." ++ "v1" := by decide
  rw [hstart]

/-- what a text has to be to name a client -/
theorem decode_eq_ok_iff {clientId : String} {client : RegisteredClient} :
    decode L R clientId = .ok client ↔ ∃ kidB64 metaB64 tagB64 kidBytes kid key metaJson m,
      segments '.' clientId = ["ppcli", "v1", kidB64, metaB64, tagB64] ∧
      L.base64Decode kidB64 = some kidBytes ∧ fromUtf8 kidBytes = some kid ∧ R.keys kid = some key ∧
      L.base64Decode tagB64 = some (L.hmacSha256 key
        (asBytes ("ppcli" ++ "." ++ "v1" ++ "." ++ kidB64 ++ "." ++ metaB64))) ∧
      L.base64Decode metaB64 = some metaJson ∧ L.fromSlice metaJson = some m ∧
      client = ⟨clientId, m.clientName, m.redirectUris⟩ := by
  constructor
  · intro h
    unfold decode at h
    split at h
    · next p₀ p₁ kidB64 metaB64 tagB64 hsegments =>
      by_cases hstart : p₀ ≠ "ppcli" ∨ p₁ ≠ "v1"
      · rw [if_pos hstart] at h
        cases h
      · rw [if_neg hstart] at h
        obtain ⟨hp₀, hp₁⟩ := not_or.mp hstart
        obtain rfl := not_not.mp hp₀
        obtain rfl := not_not.mp hp₁
        obtain ⟨kidBytes, hkidBytes, h⟩ := okOr_bind_eq_ok.mp h
        obtain ⟨kid, hkid, h⟩ := okOr_bind_eq_ok.mp h
        obtain ⟨key, hkey, h⟩ := okOr_bind_eq_ok.mp h
        obtain ⟨tag, htag, h⟩ := okOr_bind_eq_ok.mp h
        dsimp only at h
        split at h
        · cases h
        · next hverify =>
          obtain ⟨metaJson, hmetaJson, h⟩ := okOr_bind_eq_ok.mp h
          obtain ⟨m, hm, h⟩ := okOr_bind_eq_ok.mp h
          have hmac : L.hmacSha256 key
              (asBytes ("ppcli" ++ "." ++ "v1" ++ "." ++ kidB64 ++ "." ++ metaB64)) = tag := by
            unfold verify at hverify
            simpa using hverify
          refine ⟨kidB64, metaB64, tagB64, kidBytes, kid, key, metaJson, m, hsegments, hkidBytes, hkid,
            hkey, ?_, hmetaJson, hm, ?_⟩
          · rw [hmac, htag]
          · exact (Except.ok.inj h).symm
    · cases h
  · rintro ⟨kidB64, metaB64, tagB64, kidBytes, kid, key, metaJson, m, hsegments, hkidBytes, hkid, hkey,
      htag, hmetaJson, hm, rfl⟩
    unfold decode
    rw [hsegments]
    dsimp only
    rw [if_neg (by simp), okOr_bind_eq_ok]
    refine ⟨kidBytes, hkidBytes, okOr_bind_eq_ok.mpr ⟨kid, hkid, okOr_bind_eq_ok.mpr ⟨key, hkey,
      okOr_bind_eq_ok.mpr ⟨_, htag, ?_⟩⟩⟩⟩
    rw [if_neg (by simp [verify])]
    exact okOr_bind_eq_ok.mpr ⟨metaJson, hmetaJson, okOr_bind_eq_ok.mpr ⟨m, hm, rfl⟩⟩

theorem ClientRegistrar.keys_activeKid : R.keys R.activeKid = some R.activeKey :=
  (Option.some_get R.active).symm

theorem encode_eq (m : CanonicalMeta) :
    encode L R m = joinSegments '.' ["ppcli", "v1", L.base64Encode (asBytes R.activeKid),
      L.base64Encode (L.toVec m), sign L R.activeKey ("ppcli" ++ "." ++ "v1" ++ "." ++
        L.base64Encode (asBytes R.activeKid) ++ "." ++ L.base64Encode (L.toVec m))] := by
  have hdot : String.ofList ['.'] = "." := rfl
  unfold encode
  dsimp only
  rw [signingInput_eq]
  simp only [joinSegments_cons, joinSegments_singleton, hdot, String.append_assoc]

theorem startsWith_iff {l l' : List Char} : l.isPrefixOf l' = true ↔ l <+: l' := List.isPrefixOf_iff_prefix

theorem startsWith_encode (m : CanonicalMeta) :
    "ppcli.".toList.isPrefixOf (encode L R m).toList = true := by
  rw [startsWith_iff]
  have hstart : ("ppcli.v1" : String) = "ppcli." ++ "v1" := by decide
  unfold encode
  dsimp only
  rw [hstart]
  simp only [String.toList_append, List.append_assoc]
  exact List.prefix_append _ _

section
variable {L} (hL : L.Faithful)
include hL

theorem segments_encode (m : CanonicalMeta) :
    segments '.' (encode L R m) = ["ppcli", "v1", L.base64Encode (asBytes R.activeKid),
      L.base64Encode (L.toVec m), sign L R.activeKey ("ppcli" ++ "." ++ "v1" ++ "." ++
        L.base64Encode (asBytes R.activeKid) ++ "." ++ L.base64Encode (L.toVec m))] := by
  rw [encode_eq]
  apply segments_joinSegments (List.cons_ne_nil _ _)
  simp only [List.mem_cons, List.not_mem_nil, or_false, forall_eq_or_imp, forall_eq]
  exact ⟨by decide, by decide, hL.dot_notMem _, hL.dot_notMem _, hL.dot_notMem _⟩

theorem decode_encode (m : CanonicalMeta) :
    decode L R (encode L R m) = .ok ⟨encode L R m, m.clientName, m.redirectUris⟩ :=
  (decode_eq_ok_iff L R).mpr ⟨_, _, _, _, R.activeKid, R.activeKey, _, m, segments_encode R hL m,
    hL.decode_encode _, fromUtf8_asBytes _, R.keys_activeKid, hL.decode_encode _, hL.decode_encode _,
    hL.fromSlice_toVec m, rfl⟩

theorem encode_inj {m m' : CanonicalMeta} (h : encode L R m = encode L R m') : m = m' := by
  have hsegments := segments_encode R hL m
  rw [h, segments_encode R hL m'] at hsegments
  have hmeta : L.base64Encode (L.toVec m') = L.base64Encode (L.toVec m) := by
    simp only [List.cons.injEq] at hsegments
    exact hsegments.2.2.2.1
  have hbytes : some (L.toVec m') = some (L.toVec m) := by
    rw [← hL.decode_encode, hmeta, hL.decode_encode]
  have hread : some m' = some m := by
    rw [← hL.fromSlice_toVec m', Option.some.inj hbytes, hL.fromSlice_toVec]
  exact (Option.some.inj hread).symm

end

/-! ## Registration and resolution -/

/-- every key of a registrar is derived from the secret of a configured key with its id -/
theorem ClientRegistrar.keys_fromMcpOAuthConfig {config : PasetoMcpOAuthConfig} {R : ClientRegistrar}
    (h : fromMcpOAuthConfig L config = some R) {kid : String} {key : List UInt8}
    (hkey : R.keys kid = some key) : ∃ k ∈ config.keys, k.id = kid ∧ key = deriveKey L k.secret := by
  unfold fromMcpOAuthConfig at h
  dsimp only at h
  split at h
  · obtain rfl := Option.some.inj h
    have hfold : ∀ (l : List PasetoMcpOAuthKey) (keys : String → Option (List UInt8)),
        l.foldl (fun (keys : String → Option (List UInt8)) key =>
          Function.update keys key.id (some (deriveKey L key.secret))) keys kid = some key →
        keys kid = some key ∨ ∃ k ∈ l, k.id = kid ∧ key = deriveKey L k.secret := by
      intro l
      induction l with
      | nil => exact fun _ h => .inl h
      | cons k l ih =>
        intro keys h
        rw [List.foldl_cons] at h
        rcases ih _ h with hk | ⟨k', hmem, hk'⟩
        · by_cases hid : kid = k.id
          · rw [hid, Function.update_self] at hk
            exact .inr ⟨k, List.mem_cons_self, hid.symm, (Option.some.inj hk).symm⟩
          · rw [Function.update_of_ne hid] at hk
            exact .inl hk
        · exact .inr ⟨k', List.mem_cons_of_mem _ hmem, hk'⟩
    exact (hfold config.keys _ hkey).resolve_left (by simp)
  · cases h

theorem resolveSigned_verified_iff {clientId : String} {client : RegisteredClient} :
    resolveSigned L R clientId = .verified client ↔
      "ppcli.".toList <+: clientId.toList ∧ decode L R clientId = .ok client := by
  rw [← startsWith_iff]
  unfold resolveSigned
  by_cases hstart : "ppcli.".toList.isPrefixOf clientId.toList = true
  · rw [hstart]
    cases decode L R clientId with
    | ok c => simp
    | error e => simp
  · rw [Bool.not_eq_true] at hstart
    rw [hstart]
    simp

/-- the id says the name and the redirects in their one form, and nothing else -/
theorem register_clientId_iff {L : Libraries Url} (hL : L.Faithful) {p q : RegisterClientPayload} :
    (register L R p).clientId = (register L R q).clientId ↔
      p.clientName = q.clientName ∧ ∀ uri,
        uri ∈ p.redirectUris.map (normalizeRedirectUri L) ↔
          uri ∈ q.redirectUris.map (normalizeRedirectUri L) := by
  constructor
  · intro h
    have hmeta := encode_inj R hL h
    obtain ⟨hname, huris⟩ := CanonicalMeta.mk.inj hmeta
    exact ⟨hname, sortDedup_eq_iff.mp huris⟩
  · rintro ⟨hname, huris⟩
    show encode L R ⟨p.clientName, _⟩ = encode L R ⟨q.clientName, _⟩
    rw [hname, sortDedup_eq_iff.mpr huris]

/-- what is registered is in its one form already -/
theorem normalize_register {L : Libraries Url} (hL : L.Faithful) (p : RegisterClientPayload) :
    (register L R p).redirectUris.map (normalizeRedirectUri L) = (register L R p).redirectUris := by
  refine (List.map_congr_left ?_).trans (List.map_id _)
  intro uri huri
  obtain ⟨uri', -, rfl⟩ := List.mem_map.mp (mem_sortDedup.mp huri)
  exact normalizeRedirectUri_idem hL uri'

/-- the ids of clients: what they resolve to, when two of them are the same, what resolves at all -/
theorem signed_client_registration {L : Libraries Url} (hL : L.Faithful) (R : ClientRegistrar) :
    (∀ p, resolveSigned L R (register L R p).clientId
          = .verified ⟨(register L R p).clientId, p.clientName, (register L R p).redirectUris⟩ ∧
        (register L R p).redirectUris.Pairwise (· < ·) ∧ (register L R p).redirectUris.Nodup ∧
        ∀ uri, uri ∈ (register L R p).redirectUris ↔
          uri ∈ p.redirectUris.map (normalizeRedirectUri L)) ∧
    (∀ name uris uris', (∀ uri, uri ∈ uris ↔ uri ∈ uris') →
      (register L R ⟨name, uris⟩).clientId = (register L R ⟨name, uris'⟩).clientId) ∧
    (∀ name before after uri uri' url port, L.parse uri = some url → isLoopbackHttp L url = true →
      L.parse uri' = some (L.setPort url port) →
      (register L R ⟨name, before ++ uri' :: after⟩).clientId
        = (register L R ⟨name, before ++ uri :: after⟩).clientId) ∧
    (∀ p q, (register L R p).clientId = (register L R q).clientId → p.clientName = q.clientName ∧
      ∀ uri, uri ∈ p.redirectUris.map (normalizeRedirectUri L) ↔
        uri ∈ q.redirectUris.map (normalizeRedirectUri L)) ∧
    (∀ p, (register L R ⟨(register L R p).clientName, (register L R p).redirectUris⟩).clientId
      = (register L R p).clientId) ∧
    (∀ s client, resolveSigned L R s = .verified client →
      ∃ kidB64 metaB64 tagB64 kidBytes kid key,
        segments '.' s = ["ppcli", "v1", kidB64, metaB64, tagB64] ∧
        L.base64Decode kidB64 = some kidBytes ∧ fromUtf8 kidBytes = some kid ∧ R.keys kid = some key ∧
        L.base64Decode tagB64 = some (L.hmacSha256 key
          (asBytes (joinSegments '.' ["ppcli", "v1", kidB64, metaB64])))) ∧
    (∀ s, ¬ "ppcli.".toList <+: s.toList → resolveSigned L R s = .unrecognized) := by
  refine ⟨?_, ?_, ?_, ?_, ?_, ?_, ?_⟩
  · intro p
    refine ⟨?_, sortDedup_pairwise _, sortDedup_nodup _, fun uri => mem_sortDedup⟩
    rw [resolveSigned_verified_iff]
    exact ⟨startsWith_iff.mp (startsWith_encode L R _), decode_encode R hL _⟩
  · intro name uris uris' h
    refine (register_clientId_iff R hL).mpr ⟨rfl, ?_⟩
    intro uri
    simp only [List.mem_map, h]
  · intro name before after uri uri' url port hparse hloopback hparse'
    have hnormal := normalizeRedirectUri_setPort hL hparse hloopback hparse'
    refine (register_clientId_iff R hL).mpr ⟨rfl, ?_⟩
    intro u
    simp only [List.map_append, List.map_cons, hnormal]
  · intro p q h
    exact (register_clientId_iff R hL).mp h
  · intro p
    refine (register_clientId_iff R hL).mpr ⟨rfl, ?_⟩
    intro uri
    show uri ∈ (register L R p).redirectUris.map _ ↔ _
    rw [normalize_register R hL]
    exact mem_sortDedup
  · intro s client h
    have hdecode := ((resolveSigned_verified_iff L R).mp h).2
    obtain ⟨kidB64, metaB64, tagB64, kidBytes, kid, key, metaJson, m, hsegments, hkidBytes, hkid, hkey,
      htag, -⟩ := (decode_eq_ok_iff L R).mp hdecode
    refine ⟨kidB64, metaB64, tagB64, kidBytes, kid, key, hsegments, hkidBytes, hkid, hkey, ?_⟩
    have hdot : String.ofList ['.'] = "." := rfl
    rw [htag]
    simp only [joinSegments_cons, joinSegments_singleton, hdot, String.append_assoc]
  · intro s h
    rw [← startsWith_iff, Bool.not_eq_true] at h
    unfold resolveSigned
    rw [h]
    rfl

/-! ## A command-line client -/

/-- the parsed loopback redirects of the example -/
inductive LoopbackUrl
  | plain | on1455 | on1456
  deriving DecidableEq

def LoopbackUrl.text : LoopbackUrl → String
  | .plain => "http://localhost/callback"
  | .on1455 => "http://localhost:1455/callback"
  | .on1456 => "http://localhost:1456/callback"

def metaText (m : CanonicalMeta) : List Char :=
  "\x7b\"client_name\":".toList ++ JsonText.quote m.clientName.toList ++
    (",\"redirect_uris\":[".toList ++ (JsonText.quoteAll (m.redirectUris.map String.toList) ++ ['\x7d']))

theorem metaText_inj : Function.Injective metaText := by
  intro m m' h
  unfold metaText at h
  rw [List.append_assoc, List.append_assoc] at h
  obtain ⟨hname, hrest⟩ := JsonText.quote_append_inj (List.append_cancel_left h)
  have huris := JsonText.quoteAll_inj (List.append_cancel_right (List.append_cancel_left hrest))
  have hinj : Function.Injective String.toList := fun _ _ h => String.toList_inj.mp h
  obtain ⟨name, uris⟩ := m
  obtain ⟨name', uris'⟩ := m'
  rw [CanonicalMeta.mk.injEq]
  exact ⟨hinj hname, hinj.list_map huris⟩

def metaBytes (m : CanonicalMeta) : List UInt8 := asBytes (String.ofList (metaText m))

theorem metaBytes_inj : Function.Injective metaBytes := by
  intro m m' h
  have hread := fromUtf8_asBytes (String.ofList (metaText m))
  unfold metaBytes at h
  rw [h, fromUtf8_asBytes, Option.some.injEq, String.ofList_inj] at hread
  exact (metaText_inj hread).symm

/-- the MAC of the id of the example under a key of 32 ones -/
def codexTag : List UInt8 :=
  [231, 45, 22, 85, 56, 238, 92, 111, 245, 54, 23, 201, 53, 138, 114, 156, 105, 24, 92, 251, 232, 213,
    51, 168, 223, 244, 240, 38, 19, 158, 91, 46]

/-- libraries that know the three redirects and this MAC -/
noncomputable def codexLibraries : Libraries LoopbackUrl where
  sha256 _ := List.replicate 32 1
  hmacSha256 _ _ := codexTag
  base64Encode := Base64.encode
  base64Decode := Base64.decode
  toVec := metaBytes
  fromSlice := Function.partialInv metaBytes
  parse s :=
    if s = LoopbackUrl.plain.text then some .plain
    else if s = LoopbackUrl.on1455.text then some .on1455
    else if s = LoopbackUrl.on1456.text then some .on1456
    else none
  scheme _ := "http"
  hostStr _ := some "localhost"
  setPort _ port := if port = some 1455 then .on1455 else if port = some 1456 then .on1456 else .plain
  toText := LoopbackUrl.text

theorem codexLibraries_faithful : codexLibraries.Faithful := by
  unfold codexLibraries
  refine ⟨?_, ?_, ?_, ?_, ?_, ?_, ?_⟩ <;> dsimp only
  · exact Base64.decode_encode
  · exact Base64.dot_notMem_encode
  · exact Function.partialInv_left metaBytes_inj
  · intro url
    cases url with
    | plain => exact if_pos rfl
    | on1455 => exact (if_neg (by decide)).trans (if_pos rfl)
    | on1456 => exact (if_neg (by decide)).trans ((if_neg (by decide)).trans (if_pos rfl))
  · exact fun _ _ => rfl
  · exact fun _ _ => rfl
  · exact fun _ _ _ => rfl

def codexRegistrar : ClientRegistrar where
  keys kid := if kid = "k1" then some (List.replicate 32 1) else none
  activeKid := "k1"
  active := rfl

def codexClientId : String :=
  "ppcli.v1.azE." ++
    "eyJjbGllbnRfbmFtZSI6IkNvZGV4IENMSSIsInJlZGlyZWN0X3VyaXMiOlsiaHR0cDovL2xvY2FsaG9zdC9jYWxsYmFjayJdfQ." ++
    "5y0WVTjuXG_1NhfJNYpynGkYXPvo1TOo3_TwJhOeWy4"

theorem register_codex : register codexLibraries codexRegistrar
    ⟨"Codex CLI", ["http://localhost:1455/callback"]⟩
      = ⟨codexClientId, "Codex CLI", ["http://localhost/callback"]⟩ := by
  decide +kernel

theorem signed_client_registration_codex :
    resolveSigned codexLibraries codexRegistrar codexClientId
      = .verified ⟨codexClientId, "Codex CLI", ["http://localhost/callback"]⟩ ∧
    (register codexLibraries codexRegistrar
      ⟨"Codex CLI", ["http://localhost:1456/callback"]⟩).clientId = codexClientId := by
  obtain ⟨hresolve, -, hport, -⟩ := signed_client_registration codexLibraries_faithful codexRegistrar
  have hresolved := (hresolve ⟨"Codex CLI", ["http://localhost:1455/callback"]⟩).1
  have hsame := hport "Codex CLI" [] [] "http://localhost:1455/callback" "http://localhost:1456/callback"
    .on1455 (some 1456) rfl rfl rfl
  rw [register_codex] at hresolved
  refine ⟨hresolved, hsame.trans ?_⟩
  show (register codexLibraries codexRegistrar
    ⟨"Codex CLI", ["http://localhost:1455/callback"]⟩).clientId = codexClientId
  rw [register_codex]

end ClientRegistration
end Proofplane
