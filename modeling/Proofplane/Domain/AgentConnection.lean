import Proofplane.Base.Text
import Proofplane.Base.Time
import Proofplane.Domain.Permission

/-!
# Agent connections

What a user has granted to a client: a workspace, a resource and a list of permissions.  A connection
starts pending with a one-shot continuation, is authorized when that is consumed, becomes active with
its first use and may be revoked at any time.

* `request`          a new connection, `RequestValid` what it checks;
* `rehydrate`        a connection from its row, `Valid` what it checks;
* `consumeContinuation`, `activate`, `useAt`, `revoke`   the transitions;
* `SameGrant`        what no transition changes;
* `Evolves`          what a connection may become: **a revoked one stays revoked**;
* `Transition`       what one unit of work makes of it.
-/

namespace Proofplane
open Base

inductive AgentConnectionStatus
  | pending | authorized | active | revoked
  deriving DecidableEq, Repr

/-- how far a connection has come; it never goes back -/
def AgentConnectionStatus.rank : AgentConnectionStatus → Nat
  | .pending => 0
  | .authorized => 1
  | .active => 2
  | .revoked => 3

/-- the one-shot continuation of a connection -/
structure AgentAuthorizationTransaction where
  id : AgentConnectionAuthorizationId
  continuationDigest : Sha256Digest
  nonceDigest : Sha256Digest
  consumedAt : Option Int
  deriving DecidableEq, Repr

structure AgentConnection where
  id : AgentConnectionId
  userId : UserId
  workspaceId : WorkspaceId
  auth0Subject : String
  auth0ClientId : String
  clientDisplayName : String
  resource : String
  status : AgentConnectionStatus
  permissions : List WorkspacePermission
  pendingExpiresAt : Int
  activatedAt : Option Int
  lastUsedAt : Option Int
  revokedAt : Option Int
  createdAt : Int
  authorization : AgentAuthorizationTransaction
  deriving DecidableEq, Repr

inductive AgentConnectionLifecycleError
  | invalidRequest | invalidRehydration | invalidTransition
  deriving DecidableEq, Repr

inductive AgentConnectionConsumption
  | authorized | unavailable
  deriving DecidableEq, Repr

inductive AgentConnectionActivation
  | activated | alreadyActive | unavailable
  deriving DecidableEq, Repr

inductive AgentConnectionUse
  | used | unavailable
  deriving DecidableEq, Repr

inductive AgentConnectionRevocation
  | revoked | alreadyRevoked
  deriving DecidableEq, Repr

namespace AgentConnection

/-- what `request` checks -/
def RequestValid (c : AgentConnection) : Prop :=
  c.createdAt < c.pendingExpiresAt ∧ c.permissions ≠ [] ∧ isBlank c.auth0Subject = false ∧
    isBlank c.auth0ClientId = false ∧ isBlank c.clientDisplayName = false ∧
    isBlank c.resource = false

instance (c : AgentConnection) : Decidable c.RequestValid :=
  inferInstanceAs (Decidable (_ ∧ _ ∧ _ ∧ _ ∧ _ ∧ _))

def request (id : AgentConnectionId) (transactionId : AgentConnectionAuthorizationId)
    (userId : UserId) (workspaceId : WorkspaceId)
    (auth0Subject auth0ClientId clientDisplayName resource : String)
    (permissions : List WorkspacePermission) (pendingExpiresAt : Int)
    (continuationDigest nonceDigest : Sha256Digest) (createdAt : Int) :
    Except AgentConnectionLifecycleError AgentConnection :=
  let c : AgentConnection :=
    { id, userId, workspaceId, auth0Subject, auth0ClientId, clientDisplayName, resource
      status := .pending
      permissions, pendingExpiresAt
      activatedAt := none
      lastUsedAt := none
      revokedAt := none
      createdAt
      authorization := ⟨transactionId, continuationDigest, nonceDigest, none⟩ }
  if c.RequestValid then .ok c else .error .invalidRequest

/-- which instants go with a status -/
def statusValid (c : AgentConnection) : Bool :=
  match c.status with
  | .pending => c.activatedAt.isNone && c.revokedAt.isNone && c.authorization.consumedAt.isNone
  | .authorized => c.activatedAt.isNone && c.revokedAt.isNone && c.authorization.consumedAt.isSome
  | .active => c.activatedAt.isSome && c.revokedAt.isNone && c.authorization.consumedAt.isSome
  | .revoked => c.revokedAt.isSome

/-- an instant that is not before another, if it is set -/
def notBefore (createdAt : Int) (at? : Option Int) : Bool := at?.all fun t => decide (createdAt ≤ t)

/-- what `rehydrate` checks of a row -/
structure Valid (c : AgentConnection) : Prop where
  request : c.RequestValid
  status : c.statusValid = true
  activatedAt : notBefore c.createdAt c.activatedAt = true
  lastUsedAt : notBefore c.createdAt c.lastUsedAt = true
  revokedAt : notBefore c.createdAt c.revokedAt = true
  consumedAt : notBefore c.createdAt c.authorization.consumedAt = true

theorem valid_iff (c : AgentConnection) :
    c.Valid ↔ c.RequestValid ∧ c.statusValid = true ∧ notBefore c.createdAt c.activatedAt = true ∧
      notBefore c.createdAt c.lastUsedAt = true ∧ notBefore c.createdAt c.revokedAt = true ∧
      notBefore c.createdAt c.authorization.consumedAt = true := by
  constructor
  · rintro ⟨h1, h2, h3, h4, h5, h6⟩
    exact ⟨h1, h2, h3, h4, h5, h6⟩
  · rintro ⟨h1, h2, h3, h4, h5, h6⟩
    exact ⟨h1, h2, h3, h4, h5, h6⟩

instance (c : AgentConnection) : Decidable c.Valid := decidable_of_iff' _ c.valid_iff

/-- the connection of a row -/
def rehydrate (c : AgentConnection) : Except AgentConnectionLifecycleError AgentConnection :=
  if c.Valid then .ok c else .error .invalidRehydration

theorem rehydrate_eq {c : AgentConnection} (h : c.Valid) : c.rehydrate = .ok c := if_pos h

theorem rehydrate_ok {c c' : AgentConnection} (h : c.rehydrate = .ok c') :
    c' = c ∧ c.Valid := by
  unfold rehydrate at h
  split at h
  · next hvalid =>
    cases h
    exact ⟨rfl, hvalid⟩
  · cases h

/-! ## Transitions -/

def consumeContinuation (c : AgentConnection) (continuation nonce : Sha256Digest) (now : Int) :
    AgentConnectionConsumption × AgentConnection :=
  if c.status ≠ .pending ∨ c.pendingExpiresAt ≤ now ∨
      c.authorization.continuationDigest ≠ continuation ∨ c.authorization.nonceDigest ≠ nonce then
    (.unavailable, c)
  else
    (.authorized, { c with
      status := .authorized
      authorization := { c.authorization with consumedAt := some now } })

def activate (c : AgentConnection) (now : Int) : AgentConnectionActivation × AgentConnection :=
  match c.status with
  | .active => (.alreadyActive, c)
  | .authorized =>
    if now < c.pendingExpiresAt then
      (.activated, { c with status := .active, activatedAt := some now })
    else (.unavailable, c)
  | _ => (.unavailable, c)

def useAt (c : AgentConnection) (now : Int) : AgentConnectionUse × AgentConnection :=
  if c.status ≠ .active then (.unavailable, c) else (.used, { c with lastUsedAt := some now })

def revoke (c : AgentConnection) (now : Int) :
    Except AgentConnectionLifecycleError (AgentConnectionRevocation × AgentConnection) :=
  if c.status = .revoked then .ok (.alreadyRevoked, c)
  else if now < c.createdAt then .error .invalidTransition
  else .ok (.revoked, { c with status := .revoked, revokedAt := some now })

/-! ## What transitions keep -/

/-- the same grant to the same client, whatever has become of it -/
structure SameGrant (c c' : AgentConnection) : Prop where
  id : c'.id = c.id
  userId : c'.userId = c.userId
  workspaceId : c'.workspaceId = c.workspaceId
  auth0Subject : c'.auth0Subject = c.auth0Subject
  auth0ClientId : c'.auth0ClientId = c.auth0ClientId
  resource : c'.resource = c.resource
  permissions : c'.permissions = c.permissions
  pendingExpiresAt : c'.pendingExpiresAt = c.pendingExpiresAt
  createdAt : c'.createdAt = c.createdAt
  transaction : c'.authorization.id = c.authorization.id
  continuationDigest : c'.authorization.continuationDigest = c.authorization.continuationDigest
  nonceDigest : c'.authorization.nonceDigest = c.authorization.nonceDigest

theorem SameGrant.refl (c : AgentConnection) : SameGrant c c :=
  ⟨rfl, rfl, rfl, rfl, rfl, rfl, rfl, rfl, rfl, rfl, rfl, rfl⟩

theorem SameGrant.trans {c c' c'' : AgentConnection} (h : SameGrant c c') (h' : SameGrant c' c'') :
    SameGrant c c'' where
  id := h'.id.trans h.id
  userId := h'.userId.trans h.userId
  workspaceId := h'.workspaceId.trans h.workspaceId
  auth0Subject := h'.auth0Subject.trans h.auth0Subject
  auth0ClientId := h'.auth0ClientId.trans h.auth0ClientId
  resource := h'.resource.trans h.resource
  permissions := h'.permissions.trans h.permissions
  pendingExpiresAt := h'.pendingExpiresAt.trans h.pendingExpiresAt
  createdAt := h'.createdAt.trans h.createdAt
  transaction := h'.transaction.trans h.transaction
  continuationDigest := h'.continuationDigest.trans h.continuationDigest
  nonceDigest := h'.nonceDigest.trans h.nonceDigest

/-- a connection and what may become of it -/
structure Evolves (c c' : AgentConnection) : Prop extends SameGrant c c' where
  rank : c.status.rank ≤ c'.status.rank

theorem Evolves.refl (c : AgentConnection) : Evolves c c := ⟨.refl c, Nat.le_refl _⟩

theorem Evolves.trans {c c' c'' : AgentConnection} (h : Evolves c c') (h' : Evolves c' c'') :
    Evolves c c'' :=
  ⟨h.toSameGrant.trans h'.toSameGrant, Nat.le_trans h.rank h'.rank⟩

/-- **A revoked connection stays revoked.** -/
theorem Evolves.revoked {c c' : AgentConnection} (h : Evolves c c') (hr : c.status = .revoked) :
    c'.status = .revoked := by
  have hrank := h.rank
  rw [hr] at hrank
  cases hs : c'.status with
  | revoked => rfl
  | pending =>
    rw [hs] at hrank
    exact absurd hrank (by decide)
  | authorized =>
    rw [hs] at hrank
    exact absurd hrank (by decide)
  | active =>
    rw [hs] at hrank
    exact absurd hrank (by decide)

/-! ## What becomes of a connection in one unit of work -/

inductive Transition (c : AgentConnection) : AgentConnection → Prop
  | consumed (now : Int) (hstatus : c.status = .pending) (hnow : now < c.pendingExpiresAt) :
      Transition c { c with
        status := .authorized
        authorization := { c.authorization with consumedAt := some now } }
  | activated (now : Int) (lastUsedAt : Option Int) (hstatus : c.status = .authorized)
      (hnow : now < c.pendingExpiresAt) :
      Transition c { c with status := .active, activatedAt := some now, lastUsedAt }
  | used (now : Int) (hstatus : c.status = .active) : Transition c { c with lastUsedAt := some now }
  | revoked (now : Int) (hstatus : c.status ≠ .revoked) :
      Transition c { c with status := .revoked, revokedAt := some now }

theorem Transition.evolves {c c' : AgentConnection} (h : Transition c c') : Evolves c c' := by
  cases h with
  | consumed now hstatus hnow =>
    refine ⟨⟨rfl, rfl, rfl, rfl, rfl, rfl, rfl, rfl, rfl, rfl, rfl, rfl⟩, ?_⟩
    show c.status.rank ≤ AgentConnectionStatus.authorized.rank
    rw [hstatus]
    decide
  | activated now lastUsedAt hstatus hnow =>
    refine ⟨⟨rfl, rfl, rfl, rfl, rfl, rfl, rfl, rfl, rfl, rfl, rfl, rfl⟩, ?_⟩
    show c.status.rank ≤ AgentConnectionStatus.active.rank
    rw [hstatus]
    decide
  | used now hstatus =>
    exact ⟨⟨rfl, rfl, rfl, rfl, rfl, rfl, rfl, rfl, rfl, rfl, rfl, rfl⟩, Nat.le_refl _⟩
  | revoked now hstatus =>
    refine ⟨⟨rfl, rfl, rfl, rfl, rfl, rfl, rfl, rfl, rfl, rfl, rfl, rfl⟩, ?_⟩
    show c.status.rank ≤ AgentConnectionStatus.revoked.rank
    cases c.status <;> decide

theorem Transition.clientDisplayName {c c' : AgentConnection} (h : Transition c c') :
    c'.clientDisplayName = c.clientDisplayName := by
  cases h <;> rfl

/-- the consumption of the continuation goes with the status -/
def consumptionValid (c : AgentConnection) : Bool :=
  match c.status with
  | .pending => c.authorization.consumedAt.isNone
  | .authorized => c.authorization.consumedAt.isSome
  | .active => c.authorization.consumedAt.isSome
  | .revoked => true

theorem consumptionValid_of_statusValid {c : AgentConnection} (h : c.statusValid = true) :
    c.consumptionValid = true := by
  unfold statusValid at h
  unfold consumptionValid
  cases hs : c.status with
  | pending =>
    rw [hs] at h
    exact (Bool.and_eq_true_iff.mp h).2
  | authorized =>
    rw [hs] at h
    exact (Bool.and_eq_true_iff.mp h).2
  | active =>
    rw [hs] at h
    exact (Bool.and_eq_true_iff.mp h).2
  | revoked => rfl

theorem Transition.consumptionValid {c c' : AgentConnection} (h : Transition c c')
    (hc : c.consumptionValid = true) : c'.consumptionValid = true := by
  unfold AgentConnection.consumptionValid at hc ⊢
  cases h with
  | consumed now hstatus hnow => rfl
  | activated now lastUsedAt hstatus hnow =>
    rw [hstatus] at hc
    exact hc
  | used now hstatus => exact hc
  | revoked now hstatus => rfl

end AgentConnection

end Proofplane
