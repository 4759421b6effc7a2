import Proofplane.Authentication.Paseto
import Proofplane.Base.JsonMap

/-!
# The text of a payload

The registered claims are added to the custom ones and the object is written as JSON, its instants as
RFC 3339 texts in whole seconds.  The reader takes the registered claims out again and reads the custom
ones from what is left.

* `TokenText`, `CustomClaims`    the libraries that write and read the texts, as parameters;
* `payloadAt`, `verifiedPayload`   the two sides;
* `payloadAt_ok_iff`             what can be written;
* `verifiedPayload_payload`      **what the reader makes of a payload that was written**.
-/

namespace Proofplane
open Base

/-- JSON and RFC 3339 text, as the libraries write and read it -/
structure TokenText where
  render : Json → String
  parse : String → Option Json
  /-- an instant in whole seconds, with a `Z` -/
  toRfc3339Secs : Int → String
  parseFromRfc3339 : String → Option Int

/-- the custom claims of one type, as JSON values -/
structure CustomClaims (Claims : Type) where
  toValue : Claims → Option Json
  fromValue : Json → Option Claims

/-- the instants of the years 0 to 9999 -/
def FourDigitYear (t : Int) : Prop :=
  ofUnixSec (-62167219200) ≤ t ∧ t < ofUnixSec 253402300800

/-- the text of an instant of these years gives it back without its fraction of a second -/
structure TokenText.Faithful (W : TokenText) : Prop where
  parseFromRfc3339 : ∀ t, FourDigitYear t → W.parseFromRfc3339 (W.toRfc3339Secs t) = some (floorSec t)
  toRfc3339Secs_ne : ∀ t, W.toRfc3339Secs t ≠ ""

/-- the text of a value is read back as that value -/
def TokenText.ReadsBack (W : TokenText) (value : Json) : Prop := W.parse (W.render value) = some value

/-- custom claims are read back from the value that they were written as -/
def CustomClaims.ReadsBack {Claims : Type} (C : CustomClaims Claims) (claims : Claims) : Prop :=
  ∀ value, C.toValue claims = some value → C.fromValue value = some claims

/-- what went wrong is not told -/
def orVerify {α : Type} : Option α → Except PasetoError α
  | some a => .ok a
  | none => .error .verify

def registeredClaims : List String := ["iss", "aud", "sub", "jti", "iat", "nbf", "exp"]

section
variable (W : TokenText)

def formatDatetime (value : Int) : String := W.toRfc3339Secs value

def normalizeDatetime (value : Int) : Except PasetoError Int :=
  match W.parseFromRfc3339 (formatDatetime W value) with
  | some value => .ok value
  | none => .error .issue

/-! ## Writing -/

/-- the registered claims, in the order in which they are set -/
def registeredFields (issuer audience : String) (registered : RegisteredClaims) (issuedAt : Int) :
    List (String × Json) :=
  [("iss", .str issuer), ("aud", .str audience), ("sub", .ofUuid registered.subject),
    ("jti", .ofUuid registered.tokenId), ("iat", .str (formatDatetime W issuedAt)),
    ("nbf", .str (formatDatetime W issuedAt)), ("exp", .str (formatDatetime W registered.expiresAt))]

/-- the object of the payload -/
def payloadFields (issuer audience : String) (registered : RegisteredClaims) (issuedAt : Int)
    (fields : List (String × Json)) : List (String × Json) :=
  Json.insertAll fields (registeredFields W issuer audience registered issuedAt)

variable {Claims : Type} (C : CustomClaims Claims)

def payloadAt (issuer audience : String) (registered : RegisteredClaims) (customClaims : Claims)
    (issuedAt : Int) : Except PasetoError String :=
  if registered.expiresAt ≤ issuedAt then .error .issue
  else
    match C.toValue customClaims with
    | some (.obj claims) =>
      if registeredClaims.any (Json.containsKey claims) then .error .issue
      else .ok (W.render (.obj (payloadFields W issuer audience registered issuedAt claims)))
    | _ => .error .issue

/-! ## Reading -/

def stringClaim (claims : List (String × Json)) (claim : String) : Except PasetoError String :=
  orVerify (((Json.lookup claims claim).bind Json.asStr?).filter fun value => decide (value ≠ ""))

def uuidClaim (claims : List (String × Json)) (claim : String) : Except PasetoError Uuid := do
  orVerify (Uuid.parseStr (← stringClaim claims claim))

def datetimeClaim (claims : List (String × Json)) (claim : String) : Except PasetoError Int := do
  orVerify (W.parseFromRfc3339 (← stringClaim claims claim))

/-- the text of an object -/
def readObject (payload : String) : Except PasetoError (List (String × Json)) :=
  match W.parse payload with
  | some (.obj claims) => .ok claims
  | _ => .error .verify

def verifiedPayload (payload keyId issuer audience : String) (now : Int) :
    Except PasetoError (VerifiedPasetoToken Claims) := do
  let claims ← readObject W payload
  let iss ← stringClaim claims "iss"
  let aud ← stringClaim claims "aud"
  if iss ≠ issuer ∨ aud ≠ audience then .error .verify
  else
    let subject ← uuidClaim claims "sub"
    let tokenId ← uuidClaim claims "jti"
    let issuedAt ← datetimeClaim W claims "iat"
    let notBefore ← datetimeClaim W claims "nbf"
    let expiresAt ← datetimeClaim W claims "exp"
    if now < issuedAt ∨ now < notBefore ∨ expiresAt ≤ now ∨ expiresAt ≤ issuedAt then .error .verify
    else
      let custom ← orVerify (C.fromValue (.obj (Json.removeAll claims registeredClaims)))
      .ok ⟨subject, tokenId, keyId, expiresAt, custom⟩

end

/-! ## What is written -/

section
variable {W : TokenText} {Claims : Type} {C : CustomClaims Claims} {issuer audience : String}
  {registered : RegisteredClaims} {claims : Claims} {issuedAt : Int} {payload : String}

theorem normalizeDatetime_eq (hW : W.Faithful) {t : Int} (ht : FourDigitYear t) :
    normalizeDatetime W t = .ok (floorSec t) := by
  unfold normalizeDatetime formatDatetime
  rw [hW.parseFromRfc3339 t ht]

/-- a payload is written for an object of custom claims without a registered name, and for nothing else -/
theorem payloadAt_ok_iff (hlt : issuedAt < registered.expiresAt) :
    payloadAt W C issuer audience registered claims issuedAt = .ok payload ↔
      ∃ fields, C.toValue claims = some (.obj fields) ∧
        (∀ claim ∈ registeredClaims, Json.lookup fields claim = none) ∧
        payload = W.render (.obj (payloadFields W issuer audience registered issuedAt fields)) := by
  have hnew : ∀ fields : List (String × Json),
      registeredClaims.any (Json.containsKey fields) = false ↔
        ∀ claim ∈ registeredClaims, Json.lookup fields claim = none := by
    intro fields
    rw [List.any_eq_false]
    simp only [Json.containsKey, Bool.not_eq_true, Option.isSome_eq_false_iff, Option.isNone_iff_eq_none]
  have hexp : ¬ registered.expiresAt ≤ issuedAt := not_le.mpr hlt
  unfold payloadAt
  rw [if_neg hexp]
  constructor
  · intro h
    split at h
    · next fields hvalue =>
      by_cases hany : registeredClaims.any (Json.containsKey fields) = true
      · rw [if_pos hany] at h
        cases h
      · rw [if_neg hany] at h
        cases h
        exact ⟨fields, hvalue, (hnew fields).mp (Bool.eq_false_iff.mpr hany), rfl⟩
    · cases h
  · intro ⟨fields, hvalue, hlookup, hpayload⟩
    rw [hvalue, hpayload]
    dsimp only
    rw [(hnew fields).mpr hlookup]
    rfl

/-- it fails in no other way -/
theorem payloadAt_error (h : ∀ payload, payloadAt W C issuer audience registered claims issuedAt ≠ .ok payload) :
    payloadAt W C issuer audience registered claims issuedAt = .error .issue := by
  unfold payloadAt at h ⊢
  by_cases hexp : registered.expiresAt ≤ issuedAt
  · exact if_pos hexp
  · rw [if_neg hexp] at h ⊢
    split at h
    · next fields hvalue =>
      by_cases hany : registeredClaims.any (Json.containsKey fields) = true
      · exact if_pos hany
      · rw [if_neg hany] at h
        exact absurd rfl (h _)
    · rfl

/-! ## What is read -/

theorem ok_bind {ε α β : Type} (a : α) (f : α → Except ε β) : (Except.ok a >>= f) = f a := rfl

theorem stringClaim_eq {fields : List (String × Json)} {claim value : String}
    (h : Json.lookup fields claim = some (.str value)) (hne : value ≠ "") :
    stringClaim fields claim = .ok value := by
  unfold stringClaim
  rw [h]
  have hkept : (some value).filter (fun value => decide (value ≠ "")) = some value :=
    Option.filter_eq_some_iff.mpr ⟨rfl, decide_eq_true hne⟩
  show orVerify ((some value).filter _) = .ok value
  rw [hkept]
  rfl

theorem uuidClaim_eq {fields : List (String × Json)} {claim : String} {id : Uuid}
    (h : Json.lookup fields claim = some (.ofUuid id)) : uuidClaim fields claim = .ok id := by
  have hne : id.text ≠ "" := by
    intro hempty
    have := Uuid.isBlank_text id
    rw [hempty] at this
    exact absurd this (by decide)
  unfold uuidClaim
  rw [stringClaim_eq h hne, ok_bind, Uuid.parseStr_text]
  rfl

theorem datetimeClaim_eq (hW : W.Faithful) {fields : List (String × Json)} {claim : String} {t : Int}
    (ht : FourDigitYear t) (h : Json.lookup fields claim = some (.str (formatDatetime W t))) :
    datetimeClaim W fields claim = .ok (floorSec t) := by
  unfold datetimeClaim
  rw [stringClaim_eq h (hW.toRfc3339Secs_ne t), ok_bind, formatDatetime, hW.parseFromRfc3339 t ht]
  rfl

/-- the registered claims are the last that were set -/
theorem lookup_payloadFields {fields : List (String × Json)} {claim : String} {value : Json}
    (h : (claim, value) ∈ registeredFields W issuer audience registered issuedAt) :
    Json.lookup (payloadFields W issuer audience registered issuedAt fields) claim = some value := by
  simp only [registeredFields, List.mem_cons, Prod.mk.injEq, List.not_mem_nil, or_false] at h
  unfold payloadFields registeredFields Json.insertAll
  simp only [List.foldl_cons, List.foldl_nil, Json.lookup_insert]
  obtain ⟨rfl, rfl⟩ | ⟨rfl, rfl⟩ | ⟨rfl, rfl⟩ | ⟨rfl, rfl⟩ | ⟨rfl, rfl⟩ | ⟨rfl, rfl⟩ | ⟨rfl, rfl⟩ := h <;>
    simp

/-- **What the reader makes of a payload that was written**: it compares the issuer and the audience, then
the clock with the two whole seconds, and reads the custom claims from the object that they were. -/
theorem verifiedPayload_payload (hW : W.Faithful) (hiss : issuer ≠ "") (haud : audience ≠ "")
    (hissued : FourDigitYear issuedAt) (hexpires : FourDigitYear registered.expiresAt)
    {fields : List (String × Json)} (hnew : ∀ claim ∈ registeredClaims, Json.lookup fields claim = none)
    (hread : W.parse payload
      = some (.obj (payloadFields W issuer audience registered issuedAt fields)))
    (keyId issuer' audience' : String) (now : Int) :
    verifiedPayload W C payload keyId issuer' audience' now
      = if issuer ≠ issuer' ∨ audience ≠ audience' then .error .verify
        else if floorSec issuedAt ≤ now ∧ now < floorSec registered.expiresAt then
          (orVerify (C.fromValue (.obj fields))).map fun custom =>
            ⟨registered.subject, registered.tokenId, keyId, floorSec registered.expiresAt, custom⟩
        else .error .verify := by
  have hobj : readObject W payload
      = .ok (payloadFields W issuer audience registered issuedAt fields) := by
    unfold readObject
    rw [hread]
  have hstrip : Json.removeAll (payloadFields W issuer audience registered issuedAt fields)
      registeredClaims = fields := by
    apply Json.removeAll_insertAll _ hnew
    intro f hf
    simp only [registeredFields, List.mem_cons, List.not_mem_nil, or_false] at hf
    obtain rfl | rfl | rfl | rfl | rfl | rfl | rfl := hf <;> simp [registeredClaims]
  generalize hm : payloadFields W issuer audience registered issuedAt fields = m at hobj hstrip
  have hlookup : ∀ f ∈ registeredFields W issuer audience registered issuedAt,
      Json.lookup m f.1 = some f.2 := by
    intro f hf
    rw [← hm]
    exact lookup_payloadFields hf
  simp only [registeredFields, List.forall_mem_cons] at hlookup
  obtain ⟨hlIss, hlAud, hlSub, hlJti, hlIat, hlNbf, hlExp, -⟩ := hlookup
  unfold verifiedPayload
  simp only [hobj, ok_bind, stringClaim_eq hlIss hiss, stringClaim_eq hlAud haud, uuidClaim_eq hlSub,
    uuidClaim_eq hlJti, datetimeClaim_eq hW hissued hlIat, datetimeClaim_eq hW hissued hlNbf,
    datetimeClaim_eq hW hexpires hlExp, hstrip]
  by_cases hothers : issuer ≠ issuer' ∨ audience ≠ audience'
  · rw [if_pos hothers, if_pos hothers]
  · rw [if_neg hothers, if_neg hothers]
    by_cases hnow : floorSec issuedAt ≤ now ∧ now < floorSec registered.expiresAt
    · rw [if_pos hnow, if_neg (by omega)]
      cases C.fromValue (.obj fields) <;> rfl
    · rw [if_neg hnow, if_pos (by omega)]

end

end Proofplane
