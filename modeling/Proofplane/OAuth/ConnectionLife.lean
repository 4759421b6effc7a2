import Proofplane.Base.Log
import Proofplane.Base.Mutation
import Proofplane.Base.Run
import Proofplane.OAuth.Connections

/-!
# The life of one agent connection

Every request loads the connection, calls one method and saves what it left; between two calls the
connection is its row.  Three checks look at it, each written for itself: the guards of the methods,
`rehydrate`, and the constraints of the table.

* `AgentConnectionMethod`      the four methods, in the order of their statements;
* `AgentConnectionOp`, `performOnConnection`   a call of one of them, its answer and what it leaves behind;
* `ConnectionCall`             **all that a call can do**;
* `connectionStep`             a call, the save and the load, with the answers so far;
* `ConnectionRule`             which answers may come after which;
* `agent_connection_lifecycle`   **every connection of every run passes all three checks**.
-/

namespace Proofplane
open Base Mutation

namespace AgentConnectionMethod

def consumeContinuation (continuation nonce : Sha256Digest) (now : Int) :
    Mutation AgentConnectionLifecycleError AgentConnection AgentConnectionConsumption := do
  let c ← get
  if c.status ≠ .pending ∨ c.pendingExpiresAt ≤ now ∨
      c.authorization.continuationDigest ≠ continuation ∨ c.authorization.nonceDigest ≠ nonce then
    return .unavailable
  else
    modify fun c => { c with status := .authorized }
    modify fun c => { c with authorization := { c.authorization with consumedAt := some now } }
    return .authorized

def activate (now : Int) :
    Mutation AgentConnectionLifecycleError AgentConnection AgentConnectionActivation := do
  let c ← get
  match c.status with
  | .active => return .alreadyActive
  | .authorized =>
    if now < c.pendingExpiresAt then
      modify fun c => { c with status := .active }
      modify fun c => { c with activatedAt := some now }
      return .activated
    else return .unavailable
  | _ => return .unavailable

def useAt (now : Int) :
    Mutation AgentConnectionLifecycleError AgentConnection AgentConnectionUse := do
  if (← get).status ≠ .active then
    return .unavailable
  else
    modify fun c => { c with lastUsedAt := some now }
    return .used

def revoke (now : Int) :
    Mutation AgentConnectionLifecycleError AgentConnection AgentConnectionRevocation := do
  if (← get).status = .revoked then
    return .alreadyRevoked
  else
    refuse (now < (← get).createdAt) .invalidTransition
    modify fun c => { c with status := .revoked }
    modify fun c => { c with revokedAt := some now }
    return .revoked

section
variable (c : AgentConnection)

theorem consumeContinuation_exec (continuation nonce : Sha256Digest) (now : Int) :
    (consumeContinuation continuation nonce now).exec c
      = (.ok (c.consumeContinuation continuation nonce now).1,
          (c.consumeContinuation continuation nonce now).2) := by
  unfold consumeContinuation AgentConnection.consumeContinuation
  simp only [exec_get_bind]
  split
  · rfl
  · rfl

theorem activate_exec (now : Int) :
    (activate now).exec c = (.ok (c.activate now).1, (c.activate now).2) := by
  unfold activate AgentConnection.activate
  simp only [exec_get_bind]
  cases c.status with
  | pending => rfl
  | authorized =>
    dsimp only
    split
    · rfl
    · rfl
  | active => rfl
  | revoked => rfl

theorem useAt_exec (now : Int) : (useAt now).exec c = (.ok (c.useAt now).1, (c.useAt now).2) := by
  unfold useAt AgentConnection.useAt
  simp only [exec_get_bind]
  split
  · rfl
  · rfl

theorem revoke_exec (now : Int) : (revoke now).exec c = settle c (c.revoke now) := by
  unfold revoke AgentConnection.revoke
  simp only [exec_get_bind]
  split
  · rfl
  · simp only [exec_refuse_bind, exec_get_bind]
    split
    · rfl
    · rfl

end

end AgentConnectionMethod

inductive AgentConnectionOp
  | consumeContinuation (continuation nonce : Sha256Digest) (now : Int)
  | activate (now : Int)
  | useAt (now : Int)
  | revoke (now : Int)
  deriving DecidableEq, Repr

def AgentConnectionOp.now : AgentConnectionOp → Int
  | .consumeContinuation _ _ now => now
  | .activate now => now
  | .useAt now => now
  | .revoke now => now

inductive AgentConnectionAnswer
  | consumption (answer : AgentConnectionConsumption)
  | activation (answer : AgentConnectionActivation)
  | use (answer : AgentConnectionUse)
  | revocation (answer : AgentConnectionRevocation)
  | failed (e : AgentConnectionLifecycleError)
  deriving DecidableEq, Repr

/-- an answer that says that nothing was done -/
def AgentConnectionAnswer.refused : AgentConnectionAnswer → Bool
  | .consumption .unavailable => true
  | .activation .alreadyActive => true
  | .activation .unavailable => true
  | .use .unavailable => true
  | .revocation .alreadyRevoked => true
  | .failed _ => true
  | _ => false

/-- the answer of a method -/
def answered {α : Type*} (wrap : α → AgentConnectionAnswer)
    (r : Except AgentConnectionLifecycleError α × AgentConnection) :
    AgentConnectionAnswer × AgentConnection :=
  match r with
  | (.ok a, c) => (wrap a, c)
  | (.error e, c) => (.failed e, c)

/-- a call: its answer, and the connection afterwards -/
def performOnConnection (c : AgentConnection) :
    AgentConnectionOp → AgentConnectionAnswer × AgentConnection
  | .consumeContinuation continuation nonce now =>
    answered .consumption ((AgentConnectionMethod.consumeContinuation continuation nonce now).exec c)
  | .activate now => answered .activation ((AgentConnectionMethod.activate now).exec c)
  | .useAt now => answered .use ((AgentConnectionMethod.useAt now).exec c)
  | .revoke now => answered .revocation ((AgentConnectionMethod.revoke now).exec c)

/-- a connection at rest, and the calls so far with their answers, the newest first -/
structure ConnectionLife where
  connection : AgentConnection
  log : List (AgentConnectionOp × AgentConnectionAnswer)

/-- a call on the loaded connection, and the save of what it leaves -/
def connectionStep (s : ConnectionLife) (op : AgentConnectionOp) : Option ConnectionLife :=
  let r := performOnConnection s.connection op
  some ⟨r.2.toRow, (op, r.1) :: s.log⟩

/-! ## One call -/

/-- all that a call can do -/
inductive ConnectionCall (c : AgentConnection) :
    AgentConnectionOp → AgentConnectionAnswer → AgentConnection → Prop
  | refused (op : AgentConnectionOp) (answer : AgentConnectionAnswer)
      (hanswer : answer.refused = true) : ConnectionCall c op answer c
  | consumed (now : Int) (hstatus : c.status = .pending) (hnow : now < c.pendingExpiresAt) :
      ConnectionCall c
        (.consumeContinuation c.authorization.continuationDigest c.authorization.nonceDigest now)
        (.consumption .authorized)
        { c with
          status := .authorized
          authorization := { c.authorization with consumedAt := some now } }
  | activated (now : Int) (hstatus : c.status = .authorized) (hnow : now < c.pendingExpiresAt) :
      ConnectionCall c (.activate now) (.activation .activated)
        { c with status := .active, activatedAt := some now }
  | used (now : Int) (hstatus : c.status = .active) :
      ConnectionCall c (.useAt now) (.use .used) { c with lastUsedAt := some now }
  | revoked (now : Int) (hstatus : c.status ≠ .revoked) (hcreated : c.createdAt ≤ now) :
      ConnectionCall c (.revoke now) (.revocation .revoked)
        { c with status := .revoked, revokedAt := some now }

theorem performOnConnection_call (c : AgentConnection) (op : AgentConnectionOp) :
    ConnectionCall c op (performOnConnection c op).1 (performOnConnection c op).2 := by
  cases op with
  | consumeContinuation continuation nonce now =>
    have hexec : performOnConnection c (.consumeContinuation continuation nonce now)
        = (.consumption (c.consumeContinuation continuation nonce now).1,
            (c.consumeContinuation continuation nonce now).2) :=
      congrArg (answered _) (AgentConnectionMethod.consumeContinuation_exec c continuation nonce now)
    rw [hexec]
    unfold AgentConnection.consumeContinuation
    by_cases h : c.status ≠ .pending ∨ c.pendingExpiresAt ≤ now ∨
      c.authorization.continuationDigest ≠ continuation ∨ c.authorization.nonceDigest ≠ nonce
    · rw [if_pos h]
      exact .refused _ _ rfl
    · rw [if_neg h]
      push Not at h
      obtain ⟨hstatus, hnow, rfl, rfl⟩ := h
      exact .consumed now hstatus hnow
  | activate now =>
    have hexec : performOnConnection c (.activate now)
        = (.activation (c.activate now).1, (c.activate now).2) :=
      congrArg (answered _) (AgentConnectionMethod.activate_exec c now)
    rw [hexec]
    unfold AgentConnection.activate
    cases hstatus : c.status with
    | pending => exact .refused _ _ rfl
    | authorized =>
      dsimp only
      by_cases hnow : now < c.pendingExpiresAt
      · rw [if_pos hnow]
        exact .activated now hstatus hnow
      · rw [if_neg hnow]
        exact .refused _ _ rfl
    | active => exact .refused _ _ rfl
    | revoked => exact .refused _ _ rfl
  | useAt now =>
    have hexec : performOnConnection c (.useAt now) = (.use (c.useAt now).1, (c.useAt now).2) :=
      congrArg (answered _) (AgentConnectionMethod.useAt_exec c now)
    rw [hexec]
    unfold AgentConnection.useAt
    by_cases hstatus : c.status ≠ .active
    · rw [if_pos hstatus]
      exact .refused _ _ rfl
    · rw [if_neg hstatus]
      exact .used now (not_not.mp hstatus)
  | revoke now =>
    have hexec : performOnConnection c (.revoke now) = answered .revocation (settle c (c.revoke now)) :=
      congrArg (answered _) (AgentConnectionMethod.revoke_exec c now)
    rw [hexec]
    unfold AgentConnection.revoke
    by_cases hstatus : c.status = .revoked
    · rw [if_pos hstatus]
      exact .refused _ _ rfl
    · rw [if_neg hstatus]
      by_cases hcreated : now < c.createdAt
      · rw [if_pos hcreated]
        exact .refused _ _ rfl
      · rw [if_neg hcreated]
        exact .revoked now hstatus (not_lt.mp hcreated)

section
variable {c c' : AgentConnection} {op : AgentConnectionOp} {answer : AgentConnectionAnswer}

/-- what was refused has changed nothing -/
theorem ConnectionCall.unchanged (h : ConnectionCall c op answer c') (hr : answer.refused = true) :
    c' = c := by
  cases h with
  | refused => rfl
  | consumed => cases hr
  | activated => cases hr
  | used => cases hr
  | revoked => cases hr

/-- a revoked connection refuses every call -/
theorem ConnectionCall.revoked_refused (h : ConnectionCall c op answer c') (hc : c.status = .revoked) :
    answer.refused = true := by
  cases h with
  | refused op answer hanswer => exact hanswer
  | consumed now hstatus =>
    rw [hc] at hstatus
    cases hstatus
  | activated now hstatus =>
    rw [hc] at hstatus
    cases hstatus
  | used now hstatus =>
    rw [hc] at hstatus
    cases hstatus
  | revoked now hstatus => exact absurd hc hstatus

theorem ConnectionCall.evolves (h : ConnectionCall c op answer c') : AgentConnection.Evolves c c' := by
  cases h with
  | refused => exact .refl c
  | consumed now hstatus hnow => exact (AgentConnection.Transition.consumed now hstatus hnow).evolves
  | activated now hstatus hnow =>
    exact (AgentConnection.Transition.activated now c.lastUsedAt hstatus hnow).evolves
  | used now hstatus => exact (AgentConnection.Transition.used now hstatus).evolves
  | revoked now hstatus => exact (AgentConnection.Transition.revoked now hstatus).evolves

theorem ConnectionCall.clientDisplayName (h : ConnectionCall c op answer c') :
    c'.clientDisplayName = c.clientDisplayName := by
  cases h <;> rfl

end

/-! ## The three checks -/

namespace AgentConnection

/-- what `rehydrate` accepts meets the constraints of the table -/
theorem Valid.rowChecks {c : AgentConnection} (h : c.Valid) : c.rowChecks = true := by
  rw [rowChecks_iff]
  refine ⟨?_, h.request.1, h.activatedAt, h.lastUsedAt, h.revokedAt, h.consumedAt⟩
  have hstatus := h.status
  unfold statusValid at hstatus
  unfold lifecycleCheck
  cases hs : c.status with
  | pending =>
    rw [hs] at hstatus
    exact (Bool.and_eq_true_iff.mp hstatus).1
  | authorized =>
    rw [hs] at hstatus
    exact (Bool.and_eq_true_iff.mp hstatus).1
  | active =>
    rw [hs] at hstatus
    exact (Bool.and_eq_true_iff.mp hstatus).1
  | revoked =>
    rw [hs] at hstatus
    exact hstatus

/-- the row of a requested connection is valid, where the two ends of its pending time are stored as
different instants -/
theorem request_toRow_valid {id : AgentConnectionId} {transactionId : AgentConnectionAuthorizationId}
    {userId : UserId} {workspaceId : WorkspaceId}
    {auth0Subject auth0ClientId clientDisplayName resource : String}
    {permissions : List WorkspacePermission} {pendingExpiresAt : Int}
    {continuationDigest nonceDigest : Sha256Digest} {createdAt : Int} {c : AgentConnection}
    (h : request id transactionId userId workspaceId auth0Subject auth0ClientId clientDisplayName
      resource permissions pendingExpiresAt continuationDigest nonceDigest createdAt = .ok c)
    (hpending : pgTimestamp createdAt < pgTimestamp pendingExpiresAt) :
    c.toRow.Valid ∧ c.createdAt = createdAt ∧ c.permissions = permissions := by
  unfold request at h
  dsimp only at h
  split at h
  · next hvalid =>
    cases h
    obtain ⟨-, hpermissions, hsubject, hclient, hname, hresource⟩ := hvalid
    refine ⟨⟨⟨hpending, ?_, hsubject, hclient, hname, hresource⟩, rfl, rfl, rfl, rfl, rfl⟩, rfl, rfl⟩
    obtain ⟨p, hp⟩ := List.exists_mem_of_ne_nil _ hpermissions
    have hmem : p ∈ WorkspacePermission.all.filter fun p => decide (p ∈ permissions) :=
      List.mem_filter.mpr ⟨WorkspacePermission.mem_all p, decide_eq_true hp⟩
    exact List.ne_nil_of_mem hmem
  · cases h

end AgentConnection

section
variable {c c' : AgentConnection} {op : AgentConnectionOp} {answer : AgentConnectionAnswer}

/-- **What a call leaves behind can be loaded again.** -/
theorem ConnectionCall.valid_toRow (h : ConnectionCall c op answer c') (hc : c.Stored) (hvalid : c.Valid)
    (hnow : c.createdAt ≤ pgTimestamp op.now) : c'.toRow.Valid := by
  have hrow : c.toRow.Valid := by
    rw [hc]
    exact hvalid
  have hlater : c.toRow.createdAt ≤ pgTimestamp op.now := by
    rw [hc]
    exact hnow
  have hstatus := hrow.status
  unfold AgentConnection.statusValid at hstatus
  cases h with
  | refused => exact hrow
  | consumed now hpending hbefore =>
    have hs : c.toRow.status = .pending := hpending
    rw [hs] at hstatus
    obtain ⟨hopen, -⟩ := Bool.and_eq_true_iff.mp hstatus
    exact ⟨hrow.request, Bool.and_eq_true_iff.mpr ⟨hopen, rfl⟩, hrow.activatedAt, hrow.lastUsedAt,
      hrow.revokedAt, decide_eq_true hlater⟩
  | activated now hauthorized hbefore =>
    have hs : c.toRow.status = .authorized := hauthorized
    rw [hs] at hstatus
    obtain ⟨hopen, hconsumed⟩ := Bool.and_eq_true_iff.mp hstatus
    obtain ⟨-, hrevoked⟩ := Bool.and_eq_true_iff.mp hopen
    exact ⟨hrow.request,
      Bool.and_eq_true_iff.mpr ⟨Bool.and_eq_true_iff.mpr ⟨rfl, hrevoked⟩, hconsumed⟩,
      decide_eq_true hlater, hrow.lastUsedAt, hrow.revokedAt, hrow.consumedAt⟩
  | used now hactive =>
    exact ⟨hrow.request, hrow.status, hrow.activatedAt, decide_eq_true hlater, hrow.revokedAt,
      hrow.consumedAt⟩
  | revoked now hopen hcreated =>
    exact ⟨hrow.request, rfl, hrow.activatedAt, hrow.lastUsedAt, decide_eq_true hlater,
      hrow.consumedAt⟩

end

/-! ## Every run -/

/-- which answers may come after which -/
structure ConnectionRule (c : AgentConnection) (entry : AgentConnectionOp × AgentConnectionAnswer)
    (older : List (AgentConnectionOp × AgentConnectionAnswer)) : Prop where
  consumed : entry.2 = .consumption .authorized →
    (∃ now, entry.1 = .consumeContinuation c.authorization.continuationDigest
      c.authorization.nonceDigest now ∧ now < c.pendingExpiresAt) ∧
    ∀ e ∈ older, e.2 ≠ .consumption .authorized
  activated : entry.2 = .activation .activated →
    (∃ now, entry.1 = .activate now ∧ now < c.pendingExpiresAt) ∧
    ∃ e ∈ older, e.2 = .consumption .authorized
  terminal : (∃ e ∈ older, e.2 = .revocation .revoked) → entry.2.refused = true

/-- the connection and the answers that made it what it is -/
structure ConnectionLifeInv (start : AgentConnection) (s : ConnectionLife) : Prop where
  valid : s.connection.Valid
  stored : s.connection.Stored
  evolves : AgentConnection.Evolves start s.connection
  clientDisplayName : s.connection.clientDisplayName = start.clientDisplayName
  lawful : Lawful (ConnectionRule start) s.log
  consumed : s.connection.authorization.consumedAt.isSome = true ↔
    ∃ e ∈ s.log, e.2 = .consumption .authorized
  active : s.connection.status = .active → ∃ e ∈ s.log, e.2 = .activation .activated
  revoked : s.connection.status = .revoked ↔ ∃ e ∈ s.log, e.2 = .revocation .revoked

theorem AgentConnection.statusValid_pending {c : AgentConnection} (h : c.statusValid = true)
    (hs : c.status = .pending) : c.authorization.consumedAt.isSome = false := by
  unfold statusValid at h
  rw [hs] at h
  simpa using (Bool.and_eq_true_iff.mp h).2

theorem AgentConnection.statusValid_authorized {c : AgentConnection} (h : c.statusValid = true)
    (hs : c.status = .authorized) : c.authorization.consumedAt.isSome = true := by
  unfold statusValid at h
  rw [hs] at h
  exact (Bool.and_eq_true_iff.mp h).2

section
variable {start : AgentConnection} {s s' : ConnectionLife} {op : AgentConnectionOp}

theorem ConnectionLifeInv.rule (hi : ConnectionLifeInv start s) {answer : AgentConnectionAnswer}
    {c' : AgentConnection} (h : ConnectionCall s.connection op answer c') :
    ConnectionRule start (op, answer) s.log := by
  have hsame := hi.evolves.toSameGrant
  refine ⟨fun hanswer => ?_, fun hanswer => ?_, fun hrevoked => ?_⟩
  · have hanswer : answer = .consumption .authorized := hanswer
    subst hanswer
    cases h with
    | refused _ _ hanswer => cases hanswer
    | consumed now hstatus hnow =>
      refine ⟨⟨now, ?_, ?_⟩, fun e he heq => ?_⟩
      · rw [hsame.continuationDigest, hsame.nonceDigest]
      · rw [← hsame.pendingExpiresAt]
        exact hnow
      · have hsome := hi.consumed.mpr ⟨e, he, heq⟩
        rw [AgentConnection.statusValid_pending hi.valid.status hstatus] at hsome
        cases hsome
  · have hanswer : answer = .activation .activated := hanswer
    subst hanswer
    cases h with
    | refused _ _ hanswer => cases hanswer
    | activated now hstatus hnow =>
      refine ⟨⟨now, rfl, ?_⟩, ?_⟩
      · rw [← hsame.pendingExpiresAt]
        exact hnow
      · exact hi.consumed.mp (AgentConnection.statusValid_authorized hi.valid.status hstatus)
  · exact h.revoked_refused (hi.revoked.mpr hrevoked)

theorem ConnectionLifeInv.step {createdAt : Int} (hstart : start.createdAt = pgTimestamp createdAt)
    (hi : ConnectionLifeInv start s) (hop : createdAt ≤ op.now) (h : connectionStep s op = some s') :
    ConnectionLifeInv start s' := by
  cases h
  have hcall := performOnConnection_call s.connection op
  revert hcall
  generalize performOnConnection s.connection op = p
  intro hcall
  obtain ⟨answer, c'⟩ := p
  have hnow : s.connection.createdAt ≤ pgTimestamp op.now := by
    rw [hi.evolves.createdAt, hstart]
    exact pgTimestamp_mono hop
  refine
    { valid := hcall.valid_toRow hi.stored hi.valid hnow
      stored := AgentConnection.stored_toRow c'
      evolves := hi.evolves.trans (hcall.evolves.toRow hi.stored)
      clientDisplayName := hcall.clientDisplayName.trans hi.clientDisplayName
      lawful := ⟨hi.rule hcall, hi.lawful⟩
      consumed := ?_
      active := ?_
      revoked := ?_ }
  · show (c'.authorization.consumedAt.map pgTimestamp).isSome = true ↔ _
    rw [Option.isSome_map]
    cases hcall with
    | refused op answer hanswer =>
      rw [exists_logged_cons (by rintro rfl; cases hanswer)]
      exact hi.consumed
    | consumed => exact iff_of_true rfl ⟨_, List.mem_cons_self, rfl⟩
    | activated =>
      rw [exists_logged_cons (fun hc => by cases hc)]
      exact hi.consumed
    | used =>
      rw [exists_logged_cons (fun hc => by cases hc)]
      exact hi.consumed
    | revoked =>
      rw [exists_logged_cons (fun hc => by cases hc)]
      exact hi.consumed
  · show c'.status = .active → _
    intro hactive
    cases hcall with
    | refused op answer hanswer =>
      obtain ⟨e, he, heq⟩ := hi.active hactive
      exact ⟨e, List.mem_cons_of_mem _ he, heq⟩
    | consumed => cases hactive
    | activated => exact ⟨_, List.mem_cons_self, rfl⟩
    | used now hstatus =>
      obtain ⟨e, he, heq⟩ := hi.active hstatus
      exact ⟨e, List.mem_cons_of_mem _ he, heq⟩
    | revoked => cases hactive
  · show c'.status = .revoked ↔ _
    cases hcall with
    | refused op answer hanswer =>
      rw [exists_logged_cons (by rintro rfl; cases hanswer)]
      exact hi.revoked
    | consumed now hstatus =>
      rw [exists_logged_cons (fun hc => by cases hc), ← hi.revoked, hstatus]
      exact iff_of_false (fun hc => (by cases hc)) (fun hc => (by cases hc))
    | activated now hstatus =>
      rw [exists_logged_cons (fun hc => by cases hc), ← hi.revoked, hstatus]
      exact iff_of_false (fun hc => (by cases hc)) (fun hc => (by cases hc))
    | used =>
      rw [exists_logged_cons (fun hc => by cases hc)]
      exact hi.revoked
    | revoked => exact iff_of_true rfl ⟨_, List.mem_cons_self, rfl⟩

/-- the row of a new connection, before any call -/
theorem ConnectionLifeInv.requested {c : AgentConnection} (hvalid : c.toRow.Valid)
    (hpending : c.status = .pending) : ConnectionLifeInv c.toRow ⟨c.toRow, []⟩ where
  valid := hvalid
  stored := AgentConnection.stored_toRow c
  evolves := .refl _
  clientDisplayName := rfl
  lawful := trivial
  consumed := by
    rw [AgentConnection.statusValid_pending hvalid.status hpending]
    simp
  active h := by
    have h : c.status = .active := h
    rw [hpending] at h
    cases h
  revoked := by
    show c.status = .revoked ↔ _
    rw [hpending]
    simp

end

/-- **The life of an agent connection.**  Whatever calls are made on a requested connection, in whatever
order, and saved and loaded after each of them: the row passes the constraints of the table and
`rehydrate`, the grant is what it was, the continuation is consumed once and an active connection was
consumed and activated in time, a revoked one stays as it is, and a call that is refused changes nothing. -/
theorem agent_connection_lifecycle (id : AgentConnectionId)
    (transactionId : AgentConnectionAuthorizationId) (userId : UserId) (workspaceId : WorkspaceId)
    (auth0Subject auth0ClientId clientDisplayName resource : String)
    (permissions : List WorkspacePermission) (pendingExpiresAt : Int)
    (continuationDigest nonceDigest : Sha256Digest) (createdAt : Int) (new : AgentConnection)
    (hrequest : AgentConnection.request id transactionId userId workspaceId auth0Subject auth0ClientId
      clientDisplayName resource permissions pendingExpiresAt continuationDigest nonceDigest createdAt
        = .ok new)
    (hcanonical : canonicalPermissions permissions = some permissions)
    (hlifetime : createdAt + 1000 ≤ pendingExpiresAt)
    (hepoch : createdAt ≤ pgEpoch - 1000 ∨ pgEpoch + 1000 ≤ pendingExpiresAt)
    (ops : List AgentConnectionOp) (hops : ∀ op ∈ ops, createdAt ≤ op.now) (s : ConnectionLife)
    (hrun : run connectionStep ⟨new.toRow, []⟩ ops = some s) :
    (s.connection.rehydrate = .ok s.connection ∧ s.connection.rowChecks = true ∧
      s.connection.toRow = s.connection) ∧
    (AgentConnection.SameGrant new.toRow s.connection ∧ s.connection.permissions = permissions ∧
      s.connection.clientDisplayName = clientDisplayName) ∧
    Lawful (ConnectionRule new.toRow) s.log ∧
    (s.connection.authorization.consumedAt.isSome = true ↔
      ∃ e ∈ s.log, e.2 = .consumption .authorized) ∧
    (s.connection.status = .active → ∃ e ∈ s.log, e.2 = .activation .activated) ∧
    (s.connection.status = .revoked ↔ ∃ e ∈ s.log, e.2 = .revocation .revoked) ∧
    ∀ op, ((performOnConnection s.connection op).1.refused = true →
        (performOnConnection s.connection op).2 = s.connection) ∧
      (s.connection.status = .revoked → (performOnConnection s.connection op).2 = s.connection) := by
  obtain ⟨hvalid, hcreated, hpermissions⟩ :=
    AgentConnection.request_toRow_valid hrequest (pgTimestamp_lt hlifetime hepoch)
  have hnew : new.status = .pending ∧ new.clientDisplayName = clientDisplayName := by
    unfold AgentConnection.request at hrequest
    dsimp only at hrequest
    split at hrequest
    · cases hrequest
      exact ⟨rfl, rfl⟩
    · cases hrequest
  have hrow : new.toRow.createdAt = pgTimestamp createdAt := congrArg pgTimestamp hcreated
  have hi : ConnectionLifeInv new.toRow s :=
    run_inv_along (ConnectionLifeInv new.toRow) (fun s op s' hi hop h => hi.step hrow hop h)
      (.requested hvalid hnew.1)
      (Along.of_events hops _)  hrun
  refine ⟨⟨AgentConnection.rehydrate_eq hi.valid, hi.valid.rowChecks, hi.stored⟩,
    ⟨hi.evolves.toSameGrant, ?_, hi.clientDisplayName.trans hnew.2⟩, hi.lawful, hi.consumed, hi.active,
    hi.revoked, fun op => ⟨?_, ?_⟩⟩
  · rw [hi.evolves.permissions]
    show (WorkspacePermission.all.filter fun p => decide (p ∈ new.permissions)) = permissions
    rw [hpermissions]
    have hnodup := canonicalPermissions_nodup hcanonical
    rw [canonicalPermissions_eq, if_pos hnodup] at hcanonical
    exact Option.some.inj hcanonical
  · intro hrefused
    exact (performOnConnection_call s.connection op).unchanged hrefused
  · intro hrevoked
    have hcall := performOnConnection_call s.connection op
    exact hcall.unchanged (hcall.revoked_refused hrevoked)

/-- a connection requested on 2026-01-01 for ten minutes -/
def newYearConnection (pendingExpiresAt createdAt : Int) : AgentConnection where
  id := ⟨1⟩
  userId := ⟨2⟩
  workspaceId := ⟨3⟩
  auth0Subject := "email|user"
  auth0ClientId := "client"
  clientDisplayName := "Client"
  resource := "https://proofplane.example/mcp"
  status := .pending
  permissions := [.readEvidence, .readControls]
  pendingExpiresAt := pendingExpiresAt
  activatedAt := none
  lastUsedAt := none
  revokedAt := none
  createdAt := createdAt
  authorization := ⟨⟨4⟩, ⟨5⟩, ⟨6⟩, none⟩

theorem agent_connection_lifecycle_newYear :
    ∃ s, run connectionStep
        ⟨(newYearConnection (1767225600000000001 + minutes 10) 1767225600000000001).toRow, []⟩
        [.consumeContinuation ⟨5⟩ ⟨6⟩ 1767225601000000001, .activate 1767225602000000001,
          .useAt 1767225602000000001, .revoke 1767225603000000001] = some s ∧
      s.connection.status = .revoked ∧ s.connection.rehydrate = .ok s.connection := by
  have h := agent_connection_lifecycle ⟨1⟩ ⟨4⟩ ⟨2⟩ ⟨3⟩ "email|user" "client" "Client"
    "https://proofplane.example/mcp" [.readEvidence, .readControls]
    (1767225600000000001 + minutes 10) ⟨5⟩ ⟨6⟩ 1767225600000000001 _ rfl rfl (by decide)
    (.inr (by decide))
    [.consumeContinuation ⟨5⟩ ⟨6⟩ 1767225601000000001, .activate 1767225602000000001,
      .useAt 1767225602000000001, .revoke 1767225603000000001] (by decide) _ rfl
  exact ⟨_, rfl, rfl, h.1.1⟩

/-- a microsecond around 2000-01-01 is stored as no time at all -/
theorem agent_connection_straddling :
    AgentConnection.request ⟨1⟩ ⟨4⟩ ⟨2⟩ ⟨3⟩ "email|user" "client" "Client"
        "https://proofplane.example/mcp" [.readEvidence, .readControls] (pgEpoch + 500) ⟨5⟩ ⟨6⟩
        (pgEpoch - 500) = .ok (newYearConnection (pgEpoch + 500) (pgEpoch - 500)) ∧
      canonicalPermissions [.readEvidence, .readControls] = some [.readEvidence, .readControls] ∧
      pgEpoch - 500 + 1000 ≤ pgEpoch + 500 ∧
      (newYearConnection (pgEpoch + 500) (pgEpoch - 500)).toRow.rowChecks = false ∧
      (newYearConnection (pgEpoch + 500) (pgEpoch - 500)).toRow.rehydrate
        = .error .invalidRehydration :=
  ⟨rfl, rfl, by decide, rfl, rfl⟩

end Proofplane
