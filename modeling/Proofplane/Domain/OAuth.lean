import Proofplane.Domain.AgentConnection

/-!
# OAuth authorization flows

One flow from the client's request through the user's login and consent to the exchange of its code.
Secrets are kept as digests.

* `request`            a new flow, `RequestValid` what it checks;
* `rehydrate`          a flow from its rows, `Valid` what it checks;
* `attachSubject`, `cancel`, `approveAndIssueCode`, `consumeCode`   the transitions;
* `SameIntent`         what no transition changes;
* `Evolves`            what a flow may become: **a code that was exchanged stays as it was**;
* `Transition`         what one unit of work makes of it.
-/

namespace Proofplane
open Base

structure OAuthAuthorizationFlowCode where
  codeDigest : Sha256Digest
  agentConnectionId : AgentConnectionId
  workspaceId : WorkspaceId
  expiresAt : Int
  consumedAt : Option Int
  createdAt : Int
  deriving DecidableEq, Repr

structure OAuthAuthorizationFlow where
  id : OAuthAuthorizationRequestId
  clientId : String
  clientName : String
  redirectUri : String
  codeChallenge : String
  state : String
  resource : String
  scopes : List WorkspacePermission
  csrfDigest : Sha256Digest
  auth0Subject : Option String
  userId : Option UserId
  expiresAt : Int
  createdAt : Int
  consumedAt : Option Int
  authorizationCode : Option OAuthAuthorizationFlowCode
  deriving DecidableEq, Repr

inductive OAuthAuthorizationFlowError
  | unavailable | invalidCreation | invalidRehydration
  deriving DecidableEq, Repr

/-- an instant in a half-open interval, if it is set -/
def withinIfSet (createdAt expiresAt : Int) (at? : Option Int) : Bool :=
  at?.all fun t => decide (createdAt ≤ t) && decide (t < expiresAt)

/-- what `OAuthAuthorizationFlowCode::rehydrate` checks -/
def OAuthAuthorizationFlowCode.valid (code : OAuthAuthorizationFlowCode) : Bool :=
  decide (code.createdAt < code.expiresAt) &&
    withinIfSet code.createdAt code.expiresAt code.consumedAt

/-- the same code; once it is consumed it stays as it is -/
structure OAuthAuthorizationFlowCode.Evolves (c c' : OAuthAuthorizationFlowCode) : Prop where
  codeDigest : c'.codeDigest = c.codeDigest
  agentConnectionId : c'.agentConnectionId = c.agentConnectionId
  workspaceId : c'.workspaceId = c.workspaceId
  expiresAt : c'.expiresAt = c.expiresAt
  createdAt : c'.createdAt = c.createdAt
  consumed : c.consumedAt.isSome = true → c'.consumedAt = c.consumedAt

theorem OAuthAuthorizationFlowCode.Evolves.refl (c : OAuthAuthorizationFlowCode) : c.Evolves c :=
  ⟨rfl, rfl, rfl, rfl, rfl, fun _ => rfl⟩

theorem OAuthAuthorizationFlowCode.Evolves.trans {c c' c'' : OAuthAuthorizationFlowCode}
    (h : c.Evolves c') (h' : c'.Evolves c'') : c.Evolves c'' where
  codeDigest := h'.codeDigest.trans h.codeDigest
  agentConnectionId := h'.agentConnectionId.trans h.agentConnectionId
  workspaceId := h'.workspaceId.trans h.workspaceId
  expiresAt := h'.expiresAt.trans h.expiresAt
  createdAt := h'.createdAt.trans h.createdAt
  consumed hs := (h'.consumed (by rw [h.consumed hs]; exact hs)).trans (h.consumed hs)

namespace OAuthAuthorizationFlow

/-- what `request` checks -/
def RequestValid (f : OAuthAuthorizationFlow) : Prop :=
  f.createdAt < f.expiresAt ∧ f.clientId ≠ "" ∧ f.redirectUri ≠ "" ∧ f.codeChallenge ≠ "" ∧
    f.resource ≠ "" ∧ f.scopes ≠ []

instance (f : OAuthAuthorizationFlow) : Decidable f.RequestValid :=
  inferInstanceAs (Decidable (_ ∧ _ ∧ _ ∧ _ ∧ _ ∧ _))

def request (id : OAuthAuthorizationRequestId)
    (clientId clientName redirectUri codeChallenge state resource : String)
    (scopes : List WorkspacePermission) (csrfDigest : Sha256Digest) (createdAt expiresAt : Int) :
    Except OAuthAuthorizationFlowError OAuthAuthorizationFlow :=
  let f : OAuthAuthorizationFlow :=
    { id, clientId, clientName, redirectUri, codeChallenge, state, resource, scopes, csrfDigest
      auth0Subject := none
      userId := none
      expiresAt, createdAt
      consumedAt := none
      authorizationCode := none }
  if f.RequestValid then .ok f else .error .invalidCreation

/-- what `rehydrate` checks of the rows, the code's own check first -/
structure Valid (f : OAuthAuthorizationFlow) : Prop where
  code : f.authorizationCode.all OAuthAuthorizationFlowCode.valid = true
  request : f.RequestValid
  subject : f.auth0Subject.isSome = f.userId.isSome
  consumedAt : withinIfSet f.createdAt f.expiresAt f.consumedAt = true
  issued : f.authorizationCode.isSome = true → f.consumedAt.isSome = true

theorem valid_iff (f : OAuthAuthorizationFlow) :
    f.Valid ↔ f.authorizationCode.all OAuthAuthorizationFlowCode.valid = true ∧ f.RequestValid ∧
      f.auth0Subject.isSome = f.userId.isSome ∧
      withinIfSet f.createdAt f.expiresAt f.consumedAt = true ∧
      (f.authorizationCode.isSome = true → f.consumedAt.isSome = true) := by
  constructor
  · rintro ⟨h1, h2, h3, h4, h5⟩
    exact ⟨h1, h2, h3, h4, h5⟩
  · rintro ⟨h1, h2, h3, h4, h5⟩
    exact ⟨h1, h2, h3, h4, h5⟩

instance (f : OAuthAuthorizationFlow) : Decidable f.Valid := decidable_of_iff' _ f.valid_iff

/-- the flow of its rows -/
def rehydrate (f : OAuthAuthorizationFlow) :
    Except OAuthAuthorizationFlowError OAuthAuthorizationFlow :=
  if f.Valid then .ok f else .error .invalidRehydration

theorem rehydrate_eq {f : OAuthAuthorizationFlow} (h : f.Valid) : f.rehydrate = .ok f := if_pos h

theorem rehydrate_ok {f f' : OAuthAuthorizationFlow} (h : f.rehydrate = .ok f') :
    f' = f ∧ f.Valid := by
  unfold rehydrate at h
  split at h
  · next hvalid =>
    cases h
    exact ⟨rfl, hvalid⟩
  · cases h

/-! ## Transitions -/

def availableAt (f : OAuthAuthorizationFlow) (now : Int) : Bool :=
  f.consumedAt.isNone && decide (f.createdAt ≤ now) && decide (now < f.expiresAt)

def attachSubject (f : OAuthAuthorizationFlow) (auth0Subject : String) (userId : UserId) (now : Int) :
    Except OAuthAuthorizationFlowError OAuthAuthorizationFlow :=
  if f.availableAt now = false ∨ f.auth0Subject.isSome = true ∨ auth0Subject = "" then
    .error .unavailable
  else .ok { f with auth0Subject := some auth0Subject, userId := some userId }

def cancel (f : OAuthAuthorizationFlow) (now : Int) :
    Except OAuthAuthorizationFlowError OAuthAuthorizationFlow :=
  if f.availableAt now = false ∨ f.auth0Subject.isNone = true ∨ f.userId.isNone = true then
    .error .unavailable
  else .ok { f with consumedAt := some now }

def approveAndIssueCode (f : OAuthAuthorizationFlow) (codeDigest : Sha256Digest)
    (agentConnectionId : AgentConnectionId) (workspaceId : WorkspaceId) (now codeExpiresAt : Int) :
    Except OAuthAuthorizationFlowError OAuthAuthorizationFlow :=
  if f.availableAt now = false ∨ f.auth0Subject.isNone = true ∨ f.userId.isNone = true ∨
      codeExpiresAt ≤ now then
    .error .unavailable
  else
    .ok { f with
      consumedAt := some now
      authorizationCode := some
        { codeDigest, agentConnectionId, workspaceId
          expiresAt := codeExpiresAt
          consumedAt := none
          createdAt := now } }

def consumeCode (f : OAuthAuthorizationFlow) (clientId redirectUri : String) (now : Int) :
    Except OAuthAuthorizationFlowError OAuthAuthorizationFlow :=
  match f.authorizationCode with
  | none => .error .unavailable
  | some code =>
    if f.clientId ≠ clientId ∨ f.redirectUri ≠ redirectUri ∨ code.consumedAt.isSome = true ∨
        now < code.createdAt ∨ code.expiresAt ≤ now then
      .error .unavailable
    else .ok { f with authorizationCode := some { code with consumedAt := some now } }

/-! ## What transitions keep -/

/-- the same request of the same client -/
structure SameIntent (f f' : OAuthAuthorizationFlow) : Prop where
  id : f'.id = f.id
  clientId : f'.clientId = f.clientId
  clientName : f'.clientName = f.clientName
  redirectUri : f'.redirectUri = f.redirectUri
  codeChallenge : f'.codeChallenge = f.codeChallenge
  state : f'.state = f.state
  resource : f'.resource = f.resource
  scopes : f'.scopes = f.scopes
  csrfDigest : f'.csrfDigest = f.csrfDigest
  expiresAt : f'.expiresAt = f.expiresAt
  createdAt : f'.createdAt = f.createdAt

theorem SameIntent.refl (f : OAuthAuthorizationFlow) : SameIntent f f :=
  ⟨rfl, rfl, rfl, rfl, rfl, rfl, rfl, rfl, rfl, rfl, rfl⟩

theorem SameIntent.trans {f f' f'' : OAuthAuthorizationFlow} (h : SameIntent f f')
    (h' : SameIntent f' f'') : SameIntent f f'' where
  id := h'.id.trans h.id
  clientId := h'.clientId.trans h.clientId
  clientName := h'.clientName.trans h.clientName
  redirectUri := h'.redirectUri.trans h.redirectUri
  codeChallenge := h'.codeChallenge.trans h.codeChallenge
  state := h'.state.trans h.state
  resource := h'.resource.trans h.resource
  scopes := h'.scopes.trans h.scopes
  csrfDigest := h'.csrfDigest.trans h.csrfDigest
  expiresAt := h'.expiresAt.trans h.expiresAt
  createdAt := h'.createdAt.trans h.createdAt

theorem SameIntent.symm {f f' : OAuthAuthorizationFlow} (h : SameIntent f f') : SameIntent f' f where
  id := h.id.symm
  clientId := h.clientId.symm
  clientName := h.clientName.symm
  redirectUri := h.redirectUri.symm
  codeChallenge := h.codeChallenge.symm
  state := h.state.symm
  resource := h.resource.symm
  scopes := h.scopes.symm
  csrfDigest := h.csrfDigest.symm
  expiresAt := h.expiresAt.symm
  createdAt := h.createdAt.symm

/-- a flow and what may become of it: what is set stays -/
structure Evolves (f f' : OAuthAuthorizationFlow) : Prop extends SameIntent f f' where
  subject : f.auth0Subject.isSome = true → f'.auth0Subject = f.auth0Subject ∧ f'.userId = f.userId
  consumed : f.consumedAt.isSome = true → f'.consumedAt = f.consumedAt
  code : ∀ code, f.authorizationCode = some code →
    ∃ code', f'.authorizationCode = some code' ∧ code.Evolves code'

theorem Evolves.refl (f : OAuthAuthorizationFlow) : Evolves f f :=
  ⟨.refl f, fun _ => ⟨rfl, rfl⟩, fun _ => rfl, fun code h => ⟨code, h, .refl code⟩⟩

theorem Evolves.trans {f f' f'' : OAuthAuthorizationFlow} (h : Evolves f f') (h' : Evolves f' f'') :
    Evolves f f'' where
  toSameIntent := h.toSameIntent.trans h'.toSameIntent
  subject hs := by
    obtain ⟨hsubject, huser⟩ := h.subject hs
    obtain ⟨hsubject', huser'⟩ := h'.subject (by rw [hsubject]; exact hs)
    exact ⟨hsubject'.trans hsubject, huser'.trans huser⟩
  consumed hs := (h'.consumed (by rw [h.consumed hs]; exact hs)).trans (h.consumed hs)
  code code hcode := by
    obtain ⟨code', hcode', he⟩ := h.code code hcode
    obtain ⟨code'', hcode'', he'⟩ := h'.code code' hcode'
    exact ⟨code'', hcode'', he.trans he'⟩

/-- what becomes of a flow in one unit of work at an instant -/
inductive Transition (now : Int) (f : OAuthAuthorizationFlow) : OAuthAuthorizationFlow → Prop
  | attached (auth0Subject : String) (userId : UserId) (havailable : f.availableAt now = true)
      (hnone : f.auth0Subject = none) :
      Transition now f { f with auth0Subject := some auth0Subject, userId := some userId }
  | cancelled (havailable : f.availableAt now = true) (hsubject : f.auth0Subject.isSome = true)
      (huser : f.userId.isSome = true) : Transition now f { f with consumedAt := some now }
  | approved (code : OAuthAuthorizationFlowCode) (havailable : f.availableAt now = true)
      (hsubject : f.auth0Subject.isSome = true) (huser : f.userId.isSome = true)
      (hcreated : code.createdAt = now) (hunused : code.consumedAt = none) :
      Transition now f { f with consumedAt := some now, authorizationCode := some code }
  | exchanged (code : OAuthAuthorizationFlowCode) (hcode : f.authorizationCode = some code)
      (hunused : code.consumedAt = none) (hfrom : code.createdAt ≤ now) (hto : now < code.expiresAt) :
      Transition now f { f with authorizationCode := some { code with consumedAt := some now } }

theorem available_iff (f : OAuthAuthorizationFlow) (now : Int) :
    f.availableAt now = true ↔ f.consumedAt = none ∧ f.createdAt ≤ now ∧ now < f.expiresAt := by
  unfold availableAt
  simp only [Bool.and_eq_true, Option.isNone_iff_eq_none, decide_eq_true_eq, and_assoc]

/-- a flow that is available has no code yet -/
theorem Valid.code_eq_none {now : Int} {f : OAuthAuthorizationFlow} (h : f.Valid)
    (havailable : f.availableAt now = true) : f.authorizationCode = none := by
  obtain ⟨hconsumed, -, -⟩ := (f.available_iff now).mp havailable
  by_contra hsome
  have hissued := h.issued (Option.isSome_iff_ne_none.mpr hsome)
  rw [hconsumed] at hissued
  cases hissued

theorem Transition.evolves {now : Int} {f f' : OAuthAuthorizationFlow} (h : Transition now f f')
    (hvalid : f.Valid) : Evolves f f' := by
  have hunconsumed : f.availableAt now = true → f.consumedAt.isSome = true → False := by
    intro havailable hsome
    obtain ⟨hconsumed, -, -⟩ := (f.available_iff now).mp havailable
    rw [hconsumed] at hsome
    cases hsome
  cases h with
  | attached auth0Subject userId havailable hnone =>
    refine ⟨⟨rfl, rfl, rfl, rfl, rfl, rfl, rfl, rfl, rfl, rfl, rfl⟩, ?_, fun _ => rfl,
      fun code hcode => ⟨code, hcode, .refl code⟩⟩
    intro hsome
    rw [hnone] at hsome
    cases hsome
  | cancelled havailable hsubject huser =>
    exact ⟨⟨rfl, rfl, rfl, rfl, rfl, rfl, rfl, rfl, rfl, rfl, rfl⟩, fun _ => ⟨rfl, rfl⟩,
      fun hsome => (hunconsumed havailable hsome).elim, fun code hcode => ⟨code, hcode, .refl code⟩⟩
  | approved code havailable hsubject huser hcreated hunused =>
    refine ⟨⟨rfl, rfl, rfl, rfl, rfl, rfl, rfl, rfl, rfl, rfl, rfl⟩, fun _ => ⟨rfl, rfl⟩,
      fun hsome => (hunconsumed havailable hsome).elim, ?_⟩
    intro old hold
    rw [hvalid.code_eq_none havailable] at hold
    cases hold
  | exchanged code hcode hunused hfrom hto =>
    refine ⟨⟨rfl, rfl, rfl, rfl, rfl, rfl, rfl, rfl, rfl, rfl, rfl⟩, fun _ => ⟨rfl, rfl⟩,
      fun _ => rfl, ?_⟩
    intro old hold
    rw [hcode] at hold
    cases hold
    refine ⟨_, rfl, rfl, rfl, rfl, rfl, rfl, ?_⟩
    intro hsome
    rw [hunused] at hsome
    cases hsome

end OAuthAuthorizationFlow

end Proofplane
