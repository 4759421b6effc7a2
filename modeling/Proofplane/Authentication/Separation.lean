import Proofplane.Authentication.Payload
import Mathlib.Logic.Equiv.Nat

/-!
# One encryptor and one decryptor for each purpose

The pairs differ in their implicit assertion and in nothing else, so they are one definition over the
purpose.  The purposes may share their keys, their issuer and their audience: what keeps a token to its
purpose is the assertion, which the encryption binds.

* `PasetoEncryptor`, `PasetoDecryptor`   the two sides of a purpose;
* `decrypt_encrypt`      a token opens to what it was issued for;
* `decrypt_other`        **and under no other purpose**;
* `paseto_purposes`      the payload law and the separation.
-/

namespace Proofplane
open Base

structure PasetoEncryptor (purpose : TokenPurpose) (Key : Type) where
  issuer : String
  audience : String
  keyId : String
  secretKey : Key

structure PasetoDecryptor (purpose : TokenPurpose) (Key : Type) where
  issuer : String
  audience : String
  keys : String → Option Key

abbrev DownloadGrantEncryptor := PasetoEncryptor .downloadGrant
abbrev DownloadGrantDecryptor := PasetoDecryptor .downloadGrant
abbrev UploadGrantEncryptor := PasetoEncryptor .uploadGrant
abbrev UploadGrantDecryptor := PasetoDecryptor .uploadGrant
abbrev AgentEvidenceUploadGrantEncryptor := PasetoEncryptor .agentEvidenceUploadGrant
abbrev AgentEvidenceUploadGrantDecryptor := PasetoDecryptor .agentEvidenceUploadGrant
abbrev AgentPolicyDocumentUploadGrantEncryptor := PasetoEncryptor .agentPolicyDocumentUploadGrant
abbrev AgentPolicyDocumentUploadGrantDecryptor := PasetoDecryptor .agentPolicyDocumentUploadGrant
abbrev UploadSessionEncryptor := PasetoEncryptor .uploadSession
abbrev UploadSessionDecryptor := PasetoDecryptor .uploadSession
abbrev PolicyUploadGrantEncryptor := PasetoEncryptor .policyUploadGrant
abbrev PolicyUploadGrantDecryptor := PasetoDecryptor .policyUploadGrant
abbrev PolicyUploadSessionEncryptor := PasetoEncryptor .policyUploadSession
abbrev PolicyUploadSessionDecryptor := PasetoDecryptor .policyUploadSession
abbrev McpOAuthEncryptor := PasetoEncryptor .mcpOAuth
abbrev McpOAuthDecryptor := PasetoDecryptor .mcpOAuth

/-! ## The footer -/

def TokenFooter.toJson (footer : TokenFooter) : Json := .obj [("kid", .str footer.kid)]

/-- a structure is read from an object, which may have other keys, and from a sequence -/
def TokenFooter.fromJson : Json → Option TokenFooter
  | .obj fields =>
    match fields.filter fun f => decide (f.1 = "kid") with
    | [(_, .str kid)] => some ⟨kid⟩
    | _ => none
  | .arr [.str kid] => some ⟨kid⟩
  | _ => none

theorem TokenFooter.fromJson_toJson (footer : TokenFooter) : fromJson footer.toJson = some footer := rfl

section
variable (W : TokenText)

def footer (keyId : String) : String := W.render (TokenFooter.toJson ⟨keyId⟩)

def parseFooter (footer : String) : Except PasetoError TokenFooter := do
  let footer ← orVerify ((W.parse footer).bind TokenFooter.fromJson)
  if isBlank footer.kid then .error .verify else .ok footer

/-! ## The two sides -/

variable {purpose : TokenPurpose} {Key Nonce Claims : Type}
  (L : TokenLayer Key Nonce String String String) (C : CustomClaims Claims)

/-- the configuration has been validated: it has the active key, and no id twice -/
def PasetoEncryptor.fromConfig (issuer audience : String) (config : Keyring Key) :
    PasetoEncryptor purpose Key :=
  ⟨issuer, audience, config.activeKeyId, config.activeKey⟩

def PasetoDecryptor.fromConfig (issuer audience : String) (config : Keyring Key) :
    PasetoDecryptor purpose Key :=
  ⟨issuer, audience, config.get?⟩

def PasetoEncryptor.encrypt (E : PasetoEncryptor purpose Key) (registered : RegisteredClaims)
    (customClaims : Claims) (nonce : Nonce) (now : Int) : Except PasetoError IssuedPasetoToken := do
  let payload ← payloadAt W C E.issuer E.audience registered customClaims now
  match L.encrypt E.secretKey nonce payload (footer W E.keyId) purpose.implicitAssertion with
  | none => .error .issue
  | some token =>
    let expiresAt ← normalizeDatetime W registered.expiresAt
    .ok ⟨token, registered.tokenId, E.keyId, expiresAt⟩

def PasetoDecryptor.decrypt (D : PasetoDecryptor purpose Key) (token : String) (now : Int) :
    Except PasetoError (VerifiedPasetoToken Claims) := do
  let untrusted ← orVerify (L.untrustedFooter token)
  let footer ← parseFooter W untrusted
  let key ← orVerify (D.keys footer.kid)
  let trusted ← orVerify (L.decrypt key token purpose.implicitAssertion)
  verifiedPayload W C trusted footer.kid D.issuer D.audience now

end

section
variable {W : TokenText} {purpose other : TokenPurpose} {Key Nonce Claims : Type}
  {L : TokenLayer Key Nonce String String String} {C : CustomClaims Claims}
  {registered : RegisteredClaims} {claims : Claims} {nonce : Nonce} {issuedAt : Int}
  {issued : IssuedPasetoToken}

theorem error_bind {ε α β : Type} (e : ε) (f : α → Except ε β) : (Except.error e >>= f) = .error e := rfl

/-- what is issued: the sealed payload, and the expiry that its text denotes -/
theorem PasetoEncryptor.encrypt_ok {E : PasetoEncryptor purpose Key}
    (h : E.encrypt W L C registered claims nonce issuedAt = .ok issued) :
    ∃ payload, payloadAt W C E.issuer E.audience registered claims issuedAt = .ok payload ∧
      L.encrypt E.secretKey nonce payload (footer W E.keyId) purpose.implicitAssertion
        = some issued.token ∧
      normalizeDatetime W registered.expiresAt = .ok issued.expiresAt := by
  unfold encrypt at h
  cases hpayload : payloadAt W C E.issuer E.audience registered claims issuedAt with
  | error e =>
    rw [hpayload, error_bind] at h
    cases h
  | ok payload =>
    rw [hpayload, ok_bind] at h
    split at h
    · cases h
    · next token htoken =>
      cases hexpires : normalizeDatetime W registered.expiresAt with
      | error e =>
        rw [hexpires, error_bind] at h
        cases h
      | ok expiresAt =>
        rw [hexpires, ok_bind] at h
        cases h
        exact ⟨payload, rfl, htoken, rfl⟩

theorem PasetoEncryptor.encrypt_eq {E : PasetoEncryptor purpose Key} {payload token : String}
    {expiresAt : Int}
    (hpayload : payloadAt W C E.issuer E.audience registered claims issuedAt = .ok payload)
    (hsealed : L.encrypt E.secretKey nonce payload (footer W E.keyId) purpose.implicitAssertion
      = some token)
    (hexpires : normalizeDatetime W registered.expiresAt = .ok expiresAt) :
    E.encrypt W L C registered claims nonce issuedAt
      = .ok ⟨token, registered.tokenId, E.keyId, expiresAt⟩ := by
  unfold encrypt
  rw [hpayload, ok_bind, hsealed, hexpires]
  rfl

theorem PasetoDecryptor.decrypt_eq {D : PasetoDecryptor purpose Key} {token untrusted : String}
    {footer : TokenFooter} (huntrusted : L.untrustedFooter token = some untrusted)
    (hfooter : parseFooter W untrusted = .ok footer) {key : Key} (hkey : D.keys footer.kid = some key)
    {payload : String} (hopen : L.decrypt key token purpose.implicitAssertion = some payload)
    (now : Int) :
    D.decrypt W L C token now = verifiedPayload W C payload footer.kid D.issuer D.audience now := by
  unfold decrypt
  rw [huntrusted]
  show parseFooter W untrusted >>= _ = _
  rw [hfooter, ok_bind, hkey]
  show orVerify (L.decrypt key token purpose.implicitAssertion) >>= _ = _
  rw [hopen]
  rfl

theorem orVerify_bind {α β : Type} {o : Option α} {f : α → Except PasetoError β}
    (h : ∀ a, o = some a → f a = .error .verify) : (orVerify o >>= f) = .error .verify := by
  cases o with
  | none => rfl
  | some a => exact h a rfl

/-- a token is refused where it does not open -/
theorem PasetoDecryptor.decrypt_error {D : PasetoDecryptor purpose Key} {token : String}
    (h : ∀ key payload, L.decrypt key token purpose.implicitAssertion ≠ some payload) (now : Int) :
    D.decrypt W L C token now = .error .verify := by
  unfold decrypt
  apply orVerify_bind
  intro untrusted _
  unfold parseFooter
  rw [bind_assoc]
  apply orVerify_bind
  intro footer _
  by_cases hblank : isBlank footer.kid = true
  · rw [if_pos hblank]
    rfl
  · rw [if_neg hblank, ok_bind]
    apply orVerify_bind
    intro key _
    apply orVerify_bind
    intro payload hopen
    exact absurd hopen (h key payload)

/-- **A token of one purpose opens under no other**, whatever keys and configuration the two share. -/
theorem PasetoDecryptor.decrypt_other {Claims' : Type} {C' : CustomClaims Claims'} (hL : L.Bound)
    (hne : purpose ≠ other) {E : PasetoEncryptor purpose Key}
    (h : E.encrypt W L C registered claims nonce issuedAt = .ok issued)
    (D : PasetoDecryptor other Key) (now : Int) :
    D.decrypt W L C' issued.token now = .error .verify := by
  obtain ⟨payload, -, hsealed, -⟩ := PasetoEncryptor.encrypt_ok h
  apply decrypt_error
  intro key payload' hopen
  obtain ⟨-, -, hassertion⟩ := hL.opened hsealed hopen
  exact hne (TokenPurpose.implicitAssertion_injective hassertion).symm

/-- the law of one configuration: until it expires, a token opens to what it was issued for -/
theorem PasetoDecryptor.decrypt_encrypt (hL : L.Faithful) (hW : W.Faithful) {issuer audience : String}
    (hiss : issuer ≠ "") (haud : audience ≠ "") {config : Keyring Key}
    (hkid : isBlank config.activeKeyId = false)
    (hissued : FourDigitYear issuedAt) (hexpires : FourDigitYear registered.expiresAt)
    (hC : C.ReadsBack claims)
    (hfooter : W.ReadsBack (TokenFooter.toJson ⟨config.activeKeyId⟩))
    (hread : ∀ fields, C.toValue claims = some (.obj fields) →
      W.ReadsBack (.obj (payloadFields W issuer audience registered issuedAt fields)))
    (h : (PasetoEncryptor.fromConfig issuer audience config : PasetoEncryptor purpose Key).encrypt W L C
      registered claims nonce issuedAt = .ok issued)
    {now : Int} (hfrom : floorSec issuedAt ≤ now) (hto : now < issued.expiresAt) :
    (fromConfig issuer audience config : PasetoDecryptor purpose Key).decrypt W L C issued.token now
      = .ok ⟨registered.subject, registered.tokenId, config.activeKeyId, issued.expiresAt, claims⟩ := by
  obtain ⟨payload, hpayload, hsealed, hexp⟩ := PasetoEncryptor.encrypt_ok h
  have hlt : issuedAt < registered.expiresAt := by
    by_contra hge
    rw [payloadAt, if_pos (not_lt.mp hge)] at hpayload
    cases hpayload
  obtain ⟨fields, hvalue, hnew, rfl⟩ := (payloadAt_ok_iff hlt).mp hpayload
  rw [normalizeDatetime_eq hW hexpires] at hexp
  have hexp' : floorSec registered.expiresAt = issued.expiresAt := Except.ok.inj hexp
  have hparse : parseFooter W (footer W config.activeKeyId) = .ok ⟨config.activeKeyId⟩ := by
    have hread' : W.parse (footer W config.activeKeyId) = some _ := hfooter
    unfold parseFooter
    rw [hread']
    show (if isBlank config.activeKeyId then _ else _) = _
    rw [hkid]
    rfl
  rw [decrypt_eq (hL.footer hsealed) hparse config.get?_active (hL.payload hsealed)]
  show verifiedPayload W C (W.render (.obj (payloadFields W issuer audience registered issuedAt fields)))
    config.activeKeyId issuer audience now = _
  rw [verifiedPayload_payload hW hiss haud hissued hexpires hnew (hread fields hvalue)]
  have hnow : floorSec issuedAt ≤ now ∧ now < floorSec registered.expiresAt := ⟨hfrom, hexp' ▸ hto⟩
  rw [if_neg (by simp), if_pos hnow, hC _ hvalue, hexp']
  rfl

/-- **The payload law and the separation of the purposes.**  For a non-empty issuer and audience and
instants of the years 0 to 9999, a payload is written exactly for an object of custom claims without a
registered name; it is accepted in the whole seconds from its issue to its expiry and then gives back what
was written and the expiry that the issuer was told; another issuer or audience refuses it.  A token that
was sealed for one purpose is refused by the decryptors of all others. -/
theorem paseto_purposes (W : TokenText) (hW : W.Faithful)
    (L : TokenLayer Key Nonce String String String) (hL : L.Bound) (C : CustomClaims Claims)
    (issuer audience : String) (hiss : issuer ≠ "") (haud : audience ≠ "")
    (registered : RegisteredClaims) (claims : Claims) (hC : C.ReadsBack claims) (issuedAt : Int)
    (hlt : issuedAt < registered.expiresAt)
    (hissued : FourDigitYear issuedAt) (hexpires : FourDigitYear registered.expiresAt)
    (hread : ∀ fields, C.toValue claims = some (.obj fields) →
      W.ReadsBack (.obj (payloadFields W issuer audience registered issuedAt fields))) :
    ((∃ e, payloadAt W C issuer audience registered claims issuedAt = .error e) ↔
      ¬ ∃ fields, C.toValue claims = some (.obj fields) ∧
        ∀ claim ∈ registeredClaims, Json.lookup fields claim = none) ∧
    (∀ payload, payloadAt W C issuer audience registered claims issuedAt = .ok payload →
      (∀ keyId now, (∃ v, verifiedPayload W C payload keyId issuer audience now = .ok v) ↔
        floorSec issuedAt ≤ now ∧ now < floorSec registered.expiresAt) ∧
      (∀ keyId now v, verifiedPayload W C payload keyId issuer audience now = .ok v →
        v.subject = registered.subject ∧ v.tokenId = registered.tokenId ∧ v.claims = claims ∧
          normalizeDatetime W registered.expiresAt = .ok v.expiresAt) ∧
      ∀ issuer' audience', issuer' ≠ issuer ∨ audience' ≠ audience → ∀ keyId now,
        verifiedPayload W C payload keyId issuer' audience' now = .error .verify) ∧
    ∀ (purpose : TokenPurpose) (E : PasetoEncryptor purpose Key) (nonce : Nonce) (now : Int)
      (issued : IssuedPasetoToken), E.encrypt W L C registered claims nonce now = .ok issued →
      normalizeDatetime W registered.expiresAt = .ok issued.expiresAt ∧
        ∀ (other : TokenPurpose), purpose ≠ other → ∀ (D : PasetoDecryptor other Key)
          {Claims' : Type} (C' : CustomClaims Claims') (later : Int),
          D.decrypt W L C' issued.token later = .error .verify := by
  refine ⟨?_, ?_, ?_⟩
  · constructor
    · intro ⟨e, he⟩ ⟨fields, hvalue, hnew⟩
      rw [(payloadAt_ok_iff hlt).mpr ⟨fields, hvalue, hnew, rfl⟩] at he
      cases he
    · intro hno
      refine ⟨.issue, payloadAt_error fun payload hok => hno ?_⟩
      obtain ⟨fields, hvalue, hnew, -⟩ := (payloadAt_ok_iff hlt).mp hok
      exact ⟨fields, hvalue, hnew⟩
  · intro payload hpayload
    obtain ⟨fields, hvalue, hnew, rfl⟩ := (payloadAt_ok_iff hlt).mp hpayload
    have heq := @verifiedPayload_payload W Claims C issuer audience registered issuedAt _ hW hiss haud
      hissued hexpires fields hnew (hread fields hvalue)
    refine ⟨?_, ?_, ?_⟩
    · intro keyId now
      rw [heq, if_neg (by simp), hC _ hvalue]
      by_cases hnow : floorSec issuedAt ≤ now ∧ now < floorSec registered.expiresAt
      · rw [if_pos hnow]
        exact ⟨fun _ => hnow, fun _ => ⟨_, rfl⟩⟩
      · rw [if_neg hnow]
        constructor
        · intro ⟨v, hv⟩
          cases hv
        · intro h
          exact absurd h hnow
    · intro keyId now v hv
      rw [heq, if_neg (by simp), hC _ hvalue] at hv
      by_cases hnow : floorSec issuedAt ≤ now ∧ now < floorSec registered.expiresAt
      · rw [if_pos hnow] at hv
        cases hv
        exact ⟨rfl, rfl, rfl, normalizeDatetime_eq hW hexpires⟩
      · rw [if_neg hnow] at hv
        cases hv
    · intro issuer' audience' hne keyId now
      rw [heq]
      exact if_pos (hne.imp Ne.symm Ne.symm)
  · intro purpose E nonce now issued hissue
    obtain ⟨-, -, -, hexp⟩ := PasetoEncryptor.encrypt_ok hissue
    refine ⟨hexp, ?_⟩
    intro other hne D Claims' C' later
    exact PasetoDecryptor.decrypt_other hL hne hissue D later

end

/-! ## A download grant -/

/-- custom claims that are JSON values -/
def jsonClaims : CustomClaims Json := ⟨some, some⟩

theorem jsonClaims_readsBack {value : Json} : jsonClaims.ReadsBack value := by
  intro v hv
  exact hv.symm

/-- 2026-01-01T00:00:00.25Z, and five and a half minutes later -/
def downloadIssuedAt : Int := 1767225600250000000
def downloadClaims : RegisteredClaims := ⟨1, 2, 1767225930250000000⟩

def downloadPayload : Json :=
  .obj [("aud", .str "proofplane-document-download"), ("exp", .str "2026-01-01T00:05:30Z"),
    ("iat", .str "2026-01-01T00:00:00Z"), ("iss", .str "https://api.proofplane.test/"),
    ("jti", .ofUuid 2), ("nbf", .str "2026-01-01T00:00:00Z"), ("permission", .str "read"),
    ("sub", .ofUuid 1)]

def downloadPayloadText : String :=
  "\x7b\"aud\":\"proofplane-document-download\",\"exp\":\"2026-01-01T00:05:30Z\"," ++
    "\"iat\":\"2026-01-01T00:00:00Z\",\"iss\":\"https://api.proofplane.test/\"," ++
    "\"jti\":\"00000000-0000-0000-0000-000000000002\",\"nbf\":\"2026-01-01T00:00:00Z\"," ++
    "\"permission\":\"read\",\"sub\":\"00000000-0000-0000-0000-000000000001\"\x7d"

/-- libraries that know this payload and its two instants; other instants they write in unary -/
def downloadText : TokenText where
  render _ := downloadPayloadText
  parse s := if s = downloadPayloadText then some downloadPayload else none
  toRfc3339Secs t :=
    if unixSec t = 1767225600 then "2026-01-01T00:00:00Z"
    else if unixSec t = 1767225930 then "2026-01-01T00:05:30Z"
    else String.ofList (List.replicate (Equiv.intEquivNat (unixSec t) + 1) 'x')
  parseFromRfc3339 s :=
    if s = "2026-01-01T00:00:00Z" then some (ofUnixSec 1767225600)
    else if s = "2026-01-01T00:05:30Z" then some (ofUnixSec 1767225930)
    else some (ofUnixSec (Equiv.intEquivNat.symm (s.length - 1)))

theorem downloadText_faithful : downloadText.Faithful where
  parseFromRfc3339 t _ := by
    show downloadText.parseFromRfc3339 (downloadText.toRfc3339Secs t) = some (ofUnixSec (unixSec t))
    unfold downloadText
    dsimp only
    by_cases hfirst : unixSec t = 1767225600
    · rw [if_pos hfirst, if_pos rfl, hfirst]
    · rw [if_neg hfirst]
      by_cases hlast : unixSec t = 1767225930
      · rw [if_pos hlast, if_neg (by decide), if_pos rfl, hlast]
      · have hne : ∀ s : String, s.toList.head? = some '2' →
            String.ofList (List.replicate (Equiv.intEquivNat (unixSec t) + 1) 'x') ≠ s := by
          intro s hs heq
          rw [← heq, String.toList_ofList, List.replicate_succ] at hs
          have hchar : 'x' = '2' := Option.some.inj hs
          exact absurd hchar (by decide)
        rw [if_neg hlast, if_neg (hne "2026-01-01T00:00:00Z" (by decide)),
          if_neg (hne "2026-01-01T00:05:30Z" (by decide))]
        simp
  toRfc3339Secs_ne t := by
    unfold downloadText
    dsimp only
    by_cases hfirst : unixSec t = 1767225600
    · rw [if_pos hfirst]
      decide
    · rw [if_neg hfirst]
      by_cases hlast : unixSec t = 1767225930
      · rw [if_pos hlast]
        decide
      · rw [if_neg hlast]
        intro hempty
        have := congrArg String.toList hempty
        simp at this

theorem downloadText_readsBack : downloadText.ReadsBack downloadPayload := by
  simp only [TokenText.ReadsBack, downloadText, if_true]

theorem insertAll_downloadFields (iss aud sub jti iat nbf exp permission : Json) :
    Json.insertAll [("permission", permission)] [("iss", iss), ("aud", aud), ("sub", sub), ("jti", jti),
        ("iat", iat), ("nbf", nbf), ("exp", exp)] =
      [("aud", aud), ("exp", exp), ("iat", iat), ("iss", iss), ("jti", jti), ("nbf", nbf),
        ("permission", permission), ("sub", sub)] := by
  simp [Json.insertAll, Json.insert_nil, Json.insert_cons, List.cons_lt_cons_iff]

theorem downloadPayload_eq :
    .obj (payloadFields downloadText "https://api.proofplane.test/" "proofplane-document-download"
      downloadClaims downloadIssuedAt [("permission", .str "read")]) = downloadPayload := by
  have hiat : formatDatetime downloadText downloadIssuedAt = "2026-01-01T00:00:00Z" := rfl
  have hexp : formatDatetime downloadText downloadClaims.expiresAt = "2026-01-01T00:05:30Z" := rfl
  unfold payloadFields registeredFields downloadPayload
  rw [hiat, hexp, insertAll_downloadFields]
  rfl

def downloadToken : String := "v4.local.c2VhbGVk.eyJraWQiOiJrMSJ9"

/-- the encryption of this one token -/
def downloadLayer : TokenLayer Unit Unit String String String :=
  .only Unit Unit downloadToken downloadPayloadText (footer downloadText "k1") downloadImplicitAssertion

def downloadEncryptor : DownloadGrantEncryptor Unit :=
  ⟨"https://api.proofplane.test/", "proofplane-document-download", "k1", ()⟩

theorem paseto_purposes_download :
    (∃ v, verifiedPayload downloadText jsonClaims downloadPayloadText "k1"
      "https://api.proofplane.test/" "proofplane-document-download" 1767225900000000000 = .ok v) ∧
    ∀ (D : UploadGrantDecryptor Unit) (now : Int),
      D.decrypt downloadText downloadLayer jsonClaims downloadToken now = .error .verify := by
  have hwrite : payloadAt downloadText jsonClaims "https://api.proofplane.test/"
      "proofplane-document-download" downloadClaims (.obj [("permission", .str "read")])
      downloadIssuedAt = .ok downloadPayloadText :=
    (payloadAt_ok_iff (by decide)).mpr
      ⟨[("permission", .str "read")], rfl, by simp [registeredClaims, Json.lookup], rfl⟩
  have hissue : downloadEncryptor.encrypt downloadText downloadLayer jsonClaims downloadClaims
      (.obj [("permission", .str "read")]) () downloadIssuedAt
      = .ok ⟨downloadToken, 2, "k1", floorSec downloadClaims.expiresAt⟩ :=
    PasetoEncryptor.encrypt_eq hwrite (TokenLayer.only_encrypt () () _ _ _ _)
      (normalizeDatetime_eq downloadText_faithful ⟨by decide, by decide⟩)
  obtain ⟨-, hread, hother⟩ := paseto_purposes downloadText downloadText_faithful downloadLayer
    (TokenLayer.only_bound _ _ _ _ _) jsonClaims "https://api.proofplane.test/"
    "proofplane-document-download" (by decide) (by decide) downloadClaims
    (.obj [("permission", .str "read")]) jsonClaims_readsBack downloadIssuedAt (by decide)
    ⟨by decide, by decide⟩ ⟨by decide, by decide⟩
    (by
      intro fields hfields
      cases hfields
      rw [downloadPayload_eq]
      exact downloadText_readsBack)
  refine ⟨((hread _ hwrite).1 "k1" _).mpr ⟨by decide, by decide⟩, ?_⟩
  intro D now
  exact (hother .downloadGrant downloadEncryptor () downloadIssuedAt _ hissue).2 .uploadGrant (by decide) D
    jsonClaims now

end Proofplane
