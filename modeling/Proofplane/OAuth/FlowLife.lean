import Proofplane.Base.Log
import Proofplane.Base.Mutation
import Proofplane.Base.Run
import Proofplane.OAuth.Flows

/-!
# The life of one authorization flow

A flow is consumed once, by the user's refusal or by their consent, and a consent leaves a code that is
consumed once in its turn.  Every request loads the flow, calls one method and saves what it left.

* `AuthorizationFlowMethod`      the four methods, in the order of their statements;
* `AuthorizationFlowOp`, `performOnFlow`   a call of one of them, its answer and what it leaves behind;
* `FlowCall`                     **all that a call can do**;
* `flowStep`                     a call, the save and the load, with the answers so far;
* `FlowRule`                     which successes may come after which;
* `oauth_flow_lifecycle`         **every flow of every run can be loaded again**, and its code with it.

The instants are from 2000-01-01 on: those before are rounded up, and an expiry with them.
-/

namespace Proofplane
open Base Mutation

namespace AuthorizationFlowMethod

def attachSubject (auth0Subject : String) (userId : UserId) (now : Int) :
    Mutation OAuthAuthorizationFlowError OAuthAuthorizationFlow Unit := do
  let f ← get
  refuse (f.availableAt now = false ∨ f.auth0Subject.isSome = true ∨ auth0Subject = "") .unavailable
  modify fun f => { f with auth0Subject := some auth0Subject }
  modify fun f => { f with userId := some userId }
  return ()

def cancel (now : Int) : Mutation OAuthAuthorizationFlowError OAuthAuthorizationFlow Unit := do
  let f ← get
  refuse (f.availableAt now = false ∨ f.auth0Subject.isNone = true ∨ f.userId.isNone = true)
    .unavailable
  modify fun f => { f with consumedAt := some now }
  return ()

def approveAndIssueCode (codeDigest : Sha256Digest) (agentConnectionId : AgentConnectionId)
    (workspaceId : WorkspaceId) (now codeExpiresAt : Int) :
    Mutation OAuthAuthorizationFlowError OAuthAuthorizationFlow Unit := do
  let f ← get
  refuse (f.availableAt now = false ∨ f.auth0Subject.isNone = true ∨ f.userId.isNone = true ∨
    codeExpiresAt ≤ now) .unavailable
  modify fun f => { f with consumedAt := some now }
  modify fun f => { f with
    authorizationCode := some
      { codeDigest, agentConnectionId, workspaceId
        expiresAt := codeExpiresAt
        consumedAt := none
        createdAt := now } }
  return ()

def consumeCode (clientId redirectUri : String) (now : Int) :
    Mutation OAuthAuthorizationFlowError OAuthAuthorizationFlow Unit := do
  let f ← get
  match f.authorizationCode with
  | none => throw .unavailable
  | some code =>
    refuse (f.clientId ≠ clientId ∨ f.redirectUri ≠ redirectUri ∨ code.consumedAt.isSome = true ∨
      now < code.createdAt ∨ code.expiresAt ≤ now) .unavailable
    modify fun f => { f with authorizationCode := some { code with consumedAt := some now } }
    return ()

/-- a method that answers nothing but whether it succeeded -/
def succeeded (r : Except OAuthAuthorizationFlowError OAuthAuthorizationFlow) :
    Except OAuthAuthorizationFlowError (Unit × OAuthAuthorizationFlow) :=
  r.map fun f => ((), f)

section
variable (f : OAuthAuthorizationFlow)

theorem attachSubject_exec (auth0Subject : String) (userId : UserId) (now : Int) :
    (attachSubject auth0Subject userId now).exec f
      = settle f (succeeded (f.attachSubject auth0Subject userId now)) := by
  unfold attachSubject OAuthAuthorizationFlow.attachSubject
  simp only [exec_get_bind, exec_refuse_bind]
  split
  · rfl
  · rfl

theorem cancel_exec (now : Int) : (cancel now).exec f = settle f (succeeded (f.cancel now)) := by
  unfold cancel OAuthAuthorizationFlow.cancel
  simp only [exec_get_bind, exec_refuse_bind]
  split
  · rfl
  · rfl

theorem approveAndIssueCode_exec (codeDigest : Sha256Digest) (agentConnectionId : AgentConnectionId)
    (workspaceId : WorkspaceId) (now codeExpiresAt : Int) :
    (approveAndIssueCode codeDigest agentConnectionId workspaceId now codeExpiresAt).exec f
      = settle f (succeeded
          (f.approveAndIssueCode codeDigest agentConnectionId workspaceId now codeExpiresAt)) := by
  unfold approveAndIssueCode OAuthAuthorizationFlow.approveAndIssueCode
  simp only [exec_get_bind, exec_refuse_bind]
  split
  · rfl
  · rfl

theorem consumeCode_exec (clientId redirectUri : String) (now : Int) :
    (consumeCode clientId redirectUri now).exec f
      = settle f (succeeded (f.consumeCode clientId redirectUri now)) := by
  unfold consumeCode OAuthAuthorizationFlow.consumeCode
  simp only [exec_get_bind]
  cases f.authorizationCode with
  | none => rfl
  | some code =>
    simp only [exec_refuse_bind]
    split
    · rfl
    · rfl

end

end AuthorizationFlowMethod

inductive AuthorizationFlowOp
  | attachSubject (auth0Subject : String) (userId : UserId) (now : Int)
  | cancel (now : Int)
  | approveAndIssueCode (codeDigest : Sha256Digest) (agentConnectionId : AgentConnectionId)
      (workspaceId : WorkspaceId) (now codeExpiresAt : Int)
  | consumeCode (clientId redirectUri : String) (now : Int)
  deriving DecidableEq, Repr

namespace AuthorizationFlowOp

def isAttach : AuthorizationFlowOp → Bool
  | .attachSubject _ _ _ => true
  | _ => false

/-- the two operations that end the part of the user -/
def isConsume : AuthorizationFlowOp → Bool
  | .cancel _ => true
  | .approveAndIssueCode _ _ _ _ _ => true
  | _ => false

def isApprove : AuthorizationFlowOp → Bool
  | .approveAndIssueCode _ _ _ _ _ => true
  | _ => false

def isExchange : AuthorizationFlowOp → Bool
  | .consumeCode _ _ _ => true
  | _ => false

def now : AuthorizationFlowOp → Int
  | .attachSubject _ _ now => now
  | .cancel now => now
  | .approveAndIssueCode _ _ _ now _ => now
  | .consumeCode _ _ now => now

/-- a code that is issued lives for a microsecond at least -/
def LongEnough : AuthorizationFlowOp → Prop
  | .approveAndIssueCode _ _ _ now codeExpiresAt => now < codeExpiresAt → now + 1000 ≤ codeExpiresAt
  | _ => True

end AuthorizationFlowOp

/-- a call: its answer, and the flow afterwards -/
def performOnFlow (f : OAuthAuthorizationFlow) :
    AuthorizationFlowOp → Except OAuthAuthorizationFlowError Unit × OAuthAuthorizationFlow
  | .attachSubject auth0Subject userId now =>
    (AuthorizationFlowMethod.attachSubject auth0Subject userId now).exec f
  | .cancel now => (AuthorizationFlowMethod.cancel now).exec f
  | .approveAndIssueCode codeDigest agentConnectionId workspaceId now codeExpiresAt =>
    (AuthorizationFlowMethod.approveAndIssueCode codeDigest agentConnectionId workspaceId now
      codeExpiresAt).exec f
  | .consumeCode clientId redirectUri now =>
    (AuthorizationFlowMethod.consumeCode clientId redirectUri now).exec f

/-- a flow at rest, and the calls that succeeded so far, the newest first -/
structure FlowLife where
  flow : OAuthAuthorizationFlow
  log : List AuthorizationFlowOp

/-- a call on the loaded flow, and the save of what it leaves -/
def flowStep (s : FlowLife) (op : AuthorizationFlowOp) : Option FlowLife :=
  let r := performOnFlow s.flow op
  some ⟨r.2.toRow,
    match r.1 with
    | .ok () => op :: s.log
    | .error _ => s.log⟩

/-! ## One call -/

/-- all that a call can do -/
inductive FlowCall (f : OAuthAuthorizationFlow) :
    AuthorizationFlowOp → Except OAuthAuthorizationFlowError Unit → OAuthAuthorizationFlow → Prop
  | refused (op : AuthorizationFlowOp) (e : OAuthAuthorizationFlowError) :
      FlowCall f op (.error e) f
  | attached (auth0Subject : String) (userId : UserId) (now : Int) (havailable : f.availableAt now = true)
      (hnone : f.auth0Subject = none) :
      FlowCall f (.attachSubject auth0Subject userId now) (.ok ())
        { f with auth0Subject := some auth0Subject, userId := some userId }
  | cancelled (now : Int) (havailable : f.availableAt now = true)
      (hsubject : f.auth0Subject.isSome = true) (huser : f.userId.isSome = true) :
      FlowCall f (.cancel now) (.ok ()) { f with consumedAt := some now }
  | approved (codeDigest : Sha256Digest) (agentConnectionId : AgentConnectionId)
      (workspaceId : WorkspaceId) (now codeExpiresAt : Int) (havailable : f.availableAt now = true)
      (hsubject : f.auth0Subject.isSome = true) (huser : f.userId.isSome = true)
      (hlater : now < codeExpiresAt) :
      FlowCall f (.approveAndIssueCode codeDigest agentConnectionId workspaceId now codeExpiresAt)
        (.ok ())
        { f with
          consumedAt := some now
          authorizationCode := some
            ⟨codeDigest, agentConnectionId, workspaceId, codeExpiresAt, none, now⟩ }
  | exchanged (code : OAuthAuthorizationFlowCode) (now : Int) (hcode : f.authorizationCode = some code)
      (hunused : code.consumedAt = none) (hfrom : code.createdAt ≤ now) (hto : now < code.expiresAt) :
      FlowCall f (.consumeCode f.clientId f.redirectUri now) (.ok ())
        { f with authorizationCode := some { code with consumedAt := some now } }

theorem performOnFlow_call (f : OAuthAuthorizationFlow) (op : AuthorizationFlowOp) :
    FlowCall f op (performOnFlow f op).1 (performOnFlow f op).2 := by
  cases op with
  | attachSubject auth0Subject userId now =>
    have hexec : performOnFlow f (.attachSubject auth0Subject userId now) = _ :=
      AuthorizationFlowMethod.attachSubject_exec f auth0Subject userId now
    rw [hexec]
    unfold OAuthAuthorizationFlow.attachSubject
    by_cases h : f.availableAt now = false ∨ f.auth0Subject.isSome = true ∨ auth0Subject = ""
    · rw [if_pos h]
      exact .refused _ _
    · rw [if_neg h]
      simp only [not_or, Bool.not_eq_false, Option.not_isSome_iff_eq_none] at h
      exact .attached auth0Subject userId now h.1 h.2.1
  | cancel now =>
    have hexec : performOnFlow f (.cancel now) = _ := AuthorizationFlowMethod.cancel_exec f now
    rw [hexec]
    unfold OAuthAuthorizationFlow.cancel
    by_cases h : f.availableAt now = false ∨ f.auth0Subject.isNone = true ∨ f.userId.isNone = true
    · rw [if_pos h]
      exact .refused _ _
    · rw [if_neg h]
      simp only [not_or, Bool.not_eq_false, Option.isNone_iff_eq_none, ← Option.isSome_iff_ne_none] at h
      exact .cancelled now h.1 h.2.1 h.2.2
  | approveAndIssueCode codeDigest agentConnectionId workspaceId now codeExpiresAt =>
    have hexec : performOnFlow f
        (.approveAndIssueCode codeDigest agentConnectionId workspaceId now codeExpiresAt) = _ :=
      AuthorizationFlowMethod.approveAndIssueCode_exec f codeDigest agentConnectionId workspaceId now
        codeExpiresAt
    rw [hexec]
    unfold OAuthAuthorizationFlow.approveAndIssueCode
    by_cases h : f.availableAt now = false ∨ f.auth0Subject.isNone = true ∨ f.userId.isNone = true ∨
        codeExpiresAt ≤ now
    · rw [if_pos h]
      exact .refused _ _
    · rw [if_neg h]
      simp only [not_or, Bool.not_eq_false, Option.isNone_iff_eq_none, ← Option.isSome_iff_ne_none,
        not_le] at h
      exact .approved codeDigest agentConnectionId workspaceId now codeExpiresAt h.1 h.2.1 h.2.2.1
        h.2.2.2
  | consumeCode clientId redirectUri now =>
    have hexec : performOnFlow f (.consumeCode clientId redirectUri now) = _ :=
      AuthorizationFlowMethod.consumeCode_exec f clientId redirectUri now
    rw [hexec]
    unfold OAuthAuthorizationFlow.consumeCode
    cases hcode : f.authorizationCode with
    | none => exact .refused _ _
    | some code =>
      dsimp only
      by_cases h : f.clientId ≠ clientId ∨ f.redirectUri ≠ redirectUri ∨
          code.consumedAt.isSome = true ∨ now < code.createdAt ∨ code.expiresAt ≤ now
      · rw [if_pos h]
        exact .refused _ _
      · rw [if_neg h]
        simp only [not_or, not_not, ne_eq, Option.not_isSome_iff_eq_none, not_lt, not_le] at h
        obtain ⟨rfl, rfl, hunused, hfrom, hto⟩ := h
        exact .exchanged code now hcode hunused hfrom hto

section
variable {f f' : OAuthAuthorizationFlow} {op : AuthorizationFlowOp}
  {answer : Except OAuthAuthorizationFlowError Unit}

theorem FlowCall.unchanged (h : FlowCall f op answer f') {e : OAuthAuthorizationFlowError}
    (he : answer = .error e) : f' = f := by
  cases h with
  | refused => rfl
  | attached => cases he
  | cancelled => cases he
  | approved => cases he
  | exchanged => cases he

/-- a call that succeeds is one of the transitions, at its own instant -/
theorem FlowCall.transition (h : FlowCall f op answer f') (hok : answer = .ok ()) :
    f.Transition op.now f' := by
  cases h with
  | refused => cases hok
  | attached auth0Subject userId now havailable hnone =>
    exact .attached auth0Subject userId havailable hnone
  | cancelled now havailable hsubject huser => exact .cancelled havailable hsubject huser
  | approved codeDigest agentConnectionId workspaceId now codeExpiresAt havailable hsubject huser =>
    exact .approved _ havailable hsubject huser rfl rfl
  | exchanged code now hcode hunused hfrom hto => exact .exchanged code hcode hunused hfrom hto

/-- what a successful call leaves behind meets the constraints of the tables -/
theorem FlowCall.rowChecks (h : FlowCall f op answer f') (hok : answer = .ok ()) (hf : f.Stored)
    (hvalid : f.Valid) (hnow : pgEpoch ≤ op.now) (hlong : op.LongEnough) : f'.toRow.rowChecks = true := by
  have he := ((h.transition hok).evolves hvalid).toRow hf
  rw [OAuthAuthorizationFlow.rowChecks_iff, he.scopes, he.createdAt, he.expiresAt]
  obtain ⟨hexpires, -, -, -, -, hscopes⟩ := hvalid.request
  refine ⟨hscopes, hexpires, ?_⟩
  have hold : ∀ code, f.authorizationCode = some code → code.createdAt < code.expiresAt := by
    intro code hcode
    have hall := hvalid.code
    rw [hcode] at hall
    unfold Option.all OAuthAuthorizationFlowCode.valid at hall
    exact of_decide_eq_true (Bool.and_eq_true_iff.mp hall).1
  -- the code of the row is one that a call before has issued, but for an approval
  have hrow : ∀ code, f.toRow.authorizationCode = some code → code.createdAt < code.expiresAt := by
    rw [hf]
    exact hold
  cases h with
  | refused => cases hok
  | attached => exact hrow
  | cancelled => exact hrow
  | approved codeDigest agentConnectionId workspaceId now codeExpiresAt havailable hsubject huser
      hlater =>
    intro code hcode
    cases hcode
    have hspan : now + 1000 ≤ codeExpiresAt := hlong hlater
    have hnow : pgEpoch ≤ now := hnow
    have hepoch : pgEpoch + 1000 ≤ codeExpiresAt := by omega
    exact pgTimestamp_lt hspan (.inr hepoch)
  | exchanged code now hcode hunused hfrom hto =>
    intro row hrowcode
    cases hrowcode
    refine hrow code.toRow ?_
    show f.authorizationCode.map OAuthAuthorizationFlowCode.toRow = some code.toRow
    rw [hcode]
    rfl

end

/-! ## Every run -/

/-- which successes may come after which -/
structure FlowRule (f : OAuthAuthorizationFlow) (op : AuthorizationFlowOp)
    (older : List AuthorizationFlowOp) : Prop where
  inTime : op.isAttach = true ∨ op.isConsume = true → f.createdAt ≤ op.now ∧ op.now < f.expiresAt
  attached : op.isAttach = true → ¬ ∃ o ∈ older, o.isAttach = true
  consumed : op.isConsume = true →
    (∃ o ∈ older, o.isAttach = true) ∧ ¬ ∃ o ∈ older, o.isConsume = true
  exchanged : ∀ clientId redirectUri now, op = .consumeCode clientId redirectUri now →
    clientId = f.clientId ∧ redirectUri = f.redirectUri ∧ (¬ ∃ o ∈ older, o.isExchange = true) ∧
    ∃ codeDigest agentConnectionId workspaceId approvedAt codeExpiresAt,
      .approveAndIssueCode codeDigest agentConnectionId workspaceId approvedAt codeExpiresAt ∈ older ∧
      pgTimestamp approvedAt ≤ now ∧ now < pgTimestamp codeExpiresAt

/-- the code of a flow was consumed -/
def CodeConsumed (f : OAuthAuthorizationFlow) : Prop :=
  ∃ code, f.authorizationCode = some code ∧ code.consumedAt.isSome = true

/-- the flow and the successes that made it what it is -/
structure FlowLifeInv (start : OAuthAuthorizationFlow) (s : FlowLife) : Prop where
  valid : s.flow.Valid
  stored : s.flow.Stored
  evolves : OAuthAuthorizationFlow.Evolves start s.flow
  codeEpoch : ∀ code, s.flow.authorizationCode = some code → pgEpoch ≤ code.createdAt
  lawful : Lawful (FlowRule start) s.log
  attached : s.flow.auth0Subject.isSome = true ↔ ∃ op ∈ s.log, op.isAttach = true
  consumed : s.flow.consumedAt.isSome = true ↔ ∃ op ∈ s.log, op.isConsume = true
  approved : s.flow.authorizationCode.isSome = true ↔ ∃ op ∈ s.log, op.isApprove = true
  code : ∀ codeDigest agentConnectionId workspaceId now codeExpiresAt,
    .approveAndIssueCode codeDigest agentConnectionId workspaceId now codeExpiresAt ∈ s.log →
    ∃ consumedAt, s.flow.authorizationCode = some ⟨codeDigest, agentConnectionId, workspaceId,
      pgTimestamp codeExpiresAt, consumedAt, pgTimestamp now⟩
  exchanged : CodeConsumed s.flow ↔ ∃ op ∈ s.log, op.isExchange = true

section
variable {start : OAuthAuthorizationFlow} {s s' : FlowLife} {op : AuthorizationFlowOp}

/-- a flow that has an approval behind it has the code of one -/
theorem FlowLifeInv.approval (hi : FlowLifeInv start s) {code : OAuthAuthorizationFlowCode}
    (hcode : s.flow.authorizationCode = some code) :
    ∃ codeDigest agentConnectionId workspaceId now codeExpiresAt,
      .approveAndIssueCode codeDigest agentConnectionId workspaceId now codeExpiresAt ∈ s.log ∧
      code.createdAt = pgTimestamp now ∧ code.expiresAt = pgTimestamp codeExpiresAt := by
  obtain ⟨op, hop, happrove⟩ := hi.approved.mp (by rw [hcode]; rfl)
  cases op with
  | attachSubject => cases happrove
  | cancel => cases happrove
  | consumeCode => cases happrove
  | approveAndIssueCode codeDigest agentConnectionId workspaceId now codeExpiresAt =>
    obtain ⟨consumedAt, hissued⟩ := hi.code _ _ _ _ _ hop
    rw [hcode] at hissued
    cases hissued
    exact ⟨_, _, _, _, _, hop, rfl, rfl⟩

theorem FlowLifeInv.rule (hi : FlowLifeInv start s) {f' : OAuthAuthorizationFlow}
    (h : FlowCall s.flow op (.ok ()) f') : FlowRule start op s.log := by
  have hcreated := hi.evolves.createdAt
  have hexpires := hi.evolves.expiresAt
  cases h with
  | attached auth0Subject userId now havailable hnone =>
    obtain ⟨-, hfrom, hto⟩ := (s.flow.available_iff now).mp havailable
    refine ⟨fun _ => ⟨hcreated ▸ hfrom, hexpires ▸ hto⟩, fun _ => ?_, fun hc => (by cases hc),
      fun _ _ _ hc => (by cases hc)⟩
    rw [← hi.attached, hnone]
    exact fun hc => (by cases hc)
  | cancelled now havailable hsubject huser =>
    obtain ⟨hunconsumed, hfrom, hto⟩ := (s.flow.available_iff now).mp havailable
    refine ⟨fun _ => ⟨hcreated ▸ hfrom, hexpires ▸ hto⟩, fun hc => (by cases hc),
      fun _ => ⟨hi.attached.mp hsubject, ?_⟩, fun _ _ _ hc => (by cases hc)⟩
    rw [← hi.consumed, hunconsumed]
    exact fun hc => (by cases hc)
  | approved codeDigest agentConnectionId workspaceId now codeExpiresAt havailable hsubject huser =>
    obtain ⟨hunconsumed, hfrom, hto⟩ := (s.flow.available_iff now).mp havailable
    refine ⟨fun _ => ⟨hcreated ▸ hfrom, hexpires ▸ hto⟩, fun hc => (by cases hc),
      fun _ => ⟨hi.attached.mp hsubject, ?_⟩, fun _ _ _ hc => (by cases hc)⟩
    rw [← hi.consumed, hunconsumed]
    exact fun hc => (by cases hc)
  | exchanged code now hcode hunused hfrom hto =>
    refine ⟨fun hc => (by rcases hc with hc | hc <;> cases hc), fun hc => (by cases hc),
      fun hc => (by cases hc), fun clientId redirectUri t heq => ?_⟩
    cases heq
    refine ⟨hi.evolves.clientId, hi.evolves.redirectUri, ?_, ?_⟩
    · rw [← hi.exchanged]
      rintro ⟨other, hother, hused⟩
      rw [hcode] at hother
      cases hother
      rw [hunused] at hused
      cases hused
    · obtain ⟨d, c, w, t, exp, hmem, hc, he⟩ := hi.approval hcode
      exact ⟨d, c, w, t, exp, hmem, hc ▸ hfrom, he ▸ hto⟩

/-- a call that succeeds is at an instant from the creation of the flow, or of its code, on -/
theorem FlowLifeInv.epoch (hi : FlowLifeInv start s) (hstart : pgEpoch ≤ start.createdAt)
    {f' : OAuthAuthorizationFlow} (h : FlowCall s.flow op (.ok ()) f') : pgEpoch ≤ op.now := by
  have hcreated : pgEpoch ≤ s.flow.createdAt := hi.evolves.createdAt.symm ▸ hstart
  have havailable : ∀ now, s.flow.availableAt now = true → pgEpoch ≤ now := fun now h =>
    le_trans hcreated ((s.flow.available_iff now).mp h).2.1
  cases h with
  | attached _ _ now h => exact havailable now h
  | cancelled now h => exact havailable now h
  | approved _ _ _ now _ h => exact havailable now h
  | exchanged code now hcode hunused hfrom => exact le_trans (hi.codeEpoch code hcode) hfrom

/-- **A call that succeeds, saved and loaded.** -/
theorem FlowLifeInv.succeeds (hi : FlowLifeInv start s) (hstart : pgEpoch ≤ start.createdAt)
    (hlong : op.LongEnough) {f' : OAuthAuthorizationFlow} (h : FlowCall s.flow op (.ok ()) f') :
    FlowLifeInv start ⟨f'.toRow, op :: s.log⟩ := by
  have hnow := hi.epoch hstart h
  have htransition := h.transition rfl
  have hvalid := htransition.valid_toRow hnow hi.stored hi.valid
    (h.rowChecks rfl hi.stored hi.valid hnow hlong)
  have hevolves := (htransition.evolves hi.valid).toRow hi.stored
  have hcodeRow : s.flow.authorizationCode.map OAuthAuthorizationFlowCode.toRow
      = s.flow.authorizationCode := congrArg OAuthAuthorizationFlow.authorizationCode hi.stored
  have hbase : Lawful (FlowRule start) (op :: s.log) := ⟨hi.rule h, hi.lawful⟩
  refine
    { valid := hvalid
      stored := OAuthAuthorizationFlow.stored_toRow f'
      evolves := hi.evolves.trans hevolves
      lawful := hbase
      codeEpoch := ?_, attached := ?_, consumed := ?_, approved := ?_, code := ?_, exchanged := ?_ }
  · show ∀ code, f'.authorizationCode.map OAuthAuthorizationFlowCode.toRow = some code → _
    cases h with
    | attached => exact hcodeRow.symm ▸ hi.codeEpoch
    | cancelled => exact hcodeRow.symm ▸ hi.codeEpoch
    | approved codeDigest agentConnectionId workspaceId now codeExpiresAt =>
      intro code hcode
      cases hcode
      exact le_trans (by decide) (pgTimestamp_mono hnow)
    | exchanged code now hcode =>
      intro row hrow
      cases hrow
      show pgEpoch ≤ pgTimestamp code.createdAt
      exact le_trans (by decide) (pgTimestamp_mono (hi.codeEpoch code hcode))
  · show f'.auth0Subject.isSome = true ↔ _
    cases h with
    | attached => exact iff_of_true rfl ⟨_, List.mem_cons_self, rfl⟩
    | cancelled =>
      rw [exists_logged_cons (fun hc => by cases hc)]
      exact hi.attached
    | approved =>
      rw [exists_logged_cons (fun hc => by cases hc)]
      exact hi.attached
    | exchanged =>
      rw [exists_logged_cons (fun hc => by cases hc)]
      exact hi.attached
  · show (f'.consumedAt.map pgTimestamp).isSome = true ↔ _
    rw [Option.isSome_map]
    cases h with
    | attached =>
      rw [exists_logged_cons (fun hc => by cases hc)]
      exact hi.consumed
    | cancelled => exact iff_of_true rfl ⟨_, List.mem_cons_self, rfl⟩
    | approved => exact iff_of_true rfl ⟨_, List.mem_cons_self, rfl⟩
    | exchanged =>
      rw [exists_logged_cons (fun hc => by cases hc)]
      exact hi.consumed
  · show (f'.authorizationCode.map OAuthAuthorizationFlowCode.toRow).isSome = true ↔ _
    rw [Option.isSome_map]
    cases h with
    | attached =>
      rw [exists_logged_cons (fun hc => by cases hc)]
      exact hi.approved
    | cancelled =>
      rw [exists_logged_cons (fun hc => by cases hc)]
      exact hi.approved
    | approved => exact iff_of_true rfl ⟨_, List.mem_cons_self, rfl⟩
    | exchanged code now hcode =>
      rw [exists_logged_cons (fun hc => by cases hc), ← hi.approved, hcode]
      exact iff_of_true rfl rfl
  · intro d c w t exp hmem
    show ∃ consumedAt, f'.authorizationCode.map OAuthAuthorizationFlowCode.toRow = _
    have holder : AuthorizationFlowOp.approveAndIssueCode d c w t exp ∈ s.log →
        ∃ consumedAt, s.flow.authorizationCode
          = some ⟨d, c, w, pgTimestamp exp, consumedAt, pgTimestamp t⟩ := hi.code d c w t exp
    cases h with
    | attached =>
      rcases List.mem_cons.mp hmem with hc | hmem
      · cases hc
      · exact hcodeRow.symm ▸ holder hmem
    | cancelled =>
      rcases List.mem_cons.mp hmem with hc | hmem
      · cases hc
      · exact hcodeRow.symm ▸ holder hmem
    | approved codeDigest agentConnectionId workspaceId now codeExpiresAt havailable =>
      rcases List.mem_cons.mp hmem with hc | hmem
      · cases hc
        exact ⟨none, rfl⟩
      · -- the flow had no code before
        obtain ⟨consumedAt, hcode⟩ := holder hmem
        rw [hi.valid.code_eq_none havailable] at hcode
        cases hcode
    | exchanged code now hcode =>
      rcases List.mem_cons.mp hmem with hc | hmem
      · cases hc
      · obtain ⟨consumedAt, hissued⟩ := holder hmem
        rw [hcode] at hissued
        cases hissued
        refine ⟨some (pgTimestamp now), ?_⟩
        show some (OAuthAuthorizationFlowCode.mk d c w (pgTimestamp (pgTimestamp exp))
          (some (pgTimestamp now)) (pgTimestamp (pgTimestamp t))) = _
        rw [pgTimestamp_idem, pgTimestamp_idem]
  · have hsame : f'.authorizationCode = s.flow.authorizationCode →
        (CodeConsumed f'.toRow ↔ CodeConsumed s.flow) := by
      intro heq
      have hrow : f'.toRow.authorizationCode = s.flow.authorizationCode := by
        show f'.authorizationCode.map OAuthAuthorizationFlowCode.toRow = _
        rw [heq, hcodeRow]
      unfold CodeConsumed
      rw [hrow]
    cases h with
    | attached =>
      rw [exists_logged_cons (fun hc => by cases hc), ← hi.exchanged]
      exact hsame rfl
    | cancelled =>
      rw [exists_logged_cons (fun hc => by cases hc), ← hi.exchanged]
      exact hsame rfl
    | approved codeDigest agentConnectionId workspaceId now codeExpiresAt havailable =>
      rw [exists_logged_cons (fun hc => by cases hc), ← hi.exchanged]
      refine iff_of_false ?_ ?_
      · rintro ⟨code, hcode, hused⟩
        cases hcode
        cases hused
      · rintro ⟨code, hcode, -⟩
        rw [hi.valid.code_eq_none havailable] at hcode
        cases hcode
    | exchanged => exact iff_of_true ⟨_, rfl, rfl⟩ ⟨_, List.mem_cons_self, rfl⟩

theorem FlowLifeInv.step (hstart : pgEpoch ≤ start.createdAt) (hi : FlowLifeInv start s)
    (hlong : op.LongEnough) (h : flowStep s op = some s') : FlowLifeInv start s' := by
  cases h
  have hcall := performOnFlow_call s.flow op
  revert hcall
  generalize performOnFlow s.flow op = p
  intro hcall
  obtain ⟨answer, f'⟩ := p
  cases answer with
  | ok u => exact hi.succeeds hstart hlong hcall
  | error e =>
    have hsame : f' = s.flow := hcall.unchanged rfl
    have hrow : f'.toRow = s.flow := by
      rw [hsame]
      exact hi.stored
    show FlowLifeInv start ⟨f'.toRow, s.log⟩
    rw [hrow]
    exact hi

end

/-- the row of a requested flow, before any call -/
theorem FlowLifeInv.requested {id : OAuthAuthorizationRequestId}
    {clientId clientName redirectUri codeChallenge state resource : String}
    {scopes : List WorkspacePermission} {csrfDigest : Sha256Digest} {createdAt expiresAt : Int}
    {new : OAuthAuthorizationFlow}
    (hrequest : OAuthAuthorizationFlow.request id clientId clientName redirectUri codeChallenge state
      resource scopes csrfDigest createdAt expiresAt = .ok new)
    (hlifetime : pgTimestamp createdAt < pgTimestamp expiresAt) :
    FlowLifeInv new.toRow ⟨new.toRow, []⟩ := by
  unfold OAuthAuthorizationFlow.request at hrequest
  dsimp only at hrequest
  split at hrequest
  · next hvalid =>
    cases hrequest
    obtain ⟨-, hclient, hredirect, hchallenge, hresource, hscopes⟩ := hvalid
    exact
      { valid := ⟨rfl, ⟨hlifetime, hclient, hredirect, hchallenge, hresource, hscopes⟩, rfl, rfl,
          fun hc => (by cases hc)⟩
        stored := OAuthAuthorizationFlow.stored_toRow _
        evolves := .refl _
        codeEpoch := fun code hcode => (by cases hcode)
        lawful := trivial
        attached := iff_of_false (fun hc => (by cases hc)) (fun ⟨_, hc, _⟩ => (by cases hc))
        consumed := iff_of_false (fun hc => (by cases hc)) (fun ⟨_, hc, _⟩ => (by cases hc))
        approved := iff_of_false (fun hc => (by cases hc)) (fun ⟨_, hc, _⟩ => (by cases hc))
        code := fun _ _ _ _ _ hc => (by cases hc)
        exchanged := iff_of_false (fun ⟨_, hc, _⟩ => (by cases hc)) (fun ⟨_, hc, _⟩ => (by cases hc)) }
  · cases hrequest

/-- **The life of an authorization flow.**  Whatever calls are made on a flow requested from 2000-01-01
on, in whatever order, and saved and loaded after each of them: the flow and its code can be loaded again;
the user is attached once, and the flow is consumed once, in its time, by a user who was attached, and
either cancelled or approved; its code is the one of its approval, and is consumed once, in its time and
by the client it was issued to; and a call that fails changes nothing. -/
theorem oauth_flow_lifecycle (id : OAuthAuthorizationRequestId)
    (clientId clientName redirectUri codeChallenge state resource : String)
    (scopes : List WorkspacePermission) (csrfDigest : Sha256Digest) (createdAt expiresAt : Int)
    (new : OAuthAuthorizationFlow)
    (hrequest : OAuthAuthorizationFlow.request id clientId clientName redirectUri codeChallenge state
      resource scopes csrfDigest createdAt expiresAt = .ok new)
    (hepoch : pgEpoch ≤ createdAt) (hlifetime : createdAt + 1000 ≤ expiresAt)
    (ops : List AuthorizationFlowOp) (hops : ∀ op ∈ ops, op.LongEnough) (s : FlowLife)
    (hrun : run flowStep ⟨new.toRow, []⟩ ops = some s) :
    (s.flow.rehydrate = .ok s.flow ∧ s.flow.toRow = s.flow ∧ s.flow.rowChecks = true ∧
      ∀ code, s.flow.authorizationCode = some code → code.valid = true) ∧
    OAuthAuthorizationFlow.Evolves new.toRow s.flow ∧
    Lawful (FlowRule new.toRow) s.log ∧
    s.flow.auth0Subject.isSome = s.flow.userId.isSome ∧
    (s.flow.auth0Subject.isSome = true ↔ ∃ op ∈ s.log, op.isAttach = true) ∧
    (s.flow.consumedAt.isSome = true ↔ ∃ op ∈ s.log, op.isConsume = true) ∧
    withinIfSet s.flow.createdAt s.flow.expiresAt s.flow.consumedAt = true ∧
    (s.flow.authorizationCode.isSome = true ↔ ∃ op ∈ s.log, op.isApprove = true) ∧
    (∀ codeDigest agentConnectionId workspaceId now codeExpiresAt,
      .approveAndIssueCode codeDigest agentConnectionId workspaceId now codeExpiresAt ∈ s.log →
      ∃ consumedAt, s.flow.authorizationCode = some ⟨codeDigest, agentConnectionId, workspaceId,
        pgTimestamp codeExpiresAt, consumedAt, pgTimestamp now⟩) ∧
    (CodeConsumed s.flow ↔ ∃ op ∈ s.log, op.isExchange = true) ∧
    ∀ op e, (performOnFlow s.flow op).1 = .error e → (performOnFlow s.flow op).2 = s.flow := by
  have hnew := FlowLifeInv.requested hrequest (pgTimestamp_lt hlifetime (.inr (by omega)))
  have hcreated : new.createdAt = createdAt := by
    unfold OAuthAuthorizationFlow.request at hrequest
    dsimp only at hrequest
    split at hrequest
    · cases hrequest
      rfl
    · cases hrequest
  have hstart : pgEpoch ≤ new.toRow.createdAt := by
    show pgEpoch ≤ pgTimestamp new.createdAt
    rw [hcreated]
    exact le_trans (by decide) (pgTimestamp_mono hepoch)
  have hi : FlowLifeInv new.toRow s :=
    run_inv_along (FlowLifeInv new.toRow) (fun s op s' hi hop h => hi.step hstart hop h) hnew
      (Along.of_events hops _) hrun
  have hcodes : ∀ code, s.flow.authorizationCode = some code → code.valid = true := by
    intro code hcode
    have hall := hi.valid.code
    rw [hcode] at hall
    exact hall
  have hchecks : s.flow.rowChecks = true := by
    obtain ⟨hexpires, -, -, -, -, hscopes⟩ := hi.valid.request
    rw [OAuthAuthorizationFlow.rowChecks_iff]
    refine ⟨hscopes, hexpires, fun code hcode => ?_⟩
    have hvalid := hcodes code hcode
    unfold OAuthAuthorizationFlowCode.valid at hvalid
    exact of_decide_eq_true (Bool.and_eq_true_iff.mp hvalid).1
  exact ⟨⟨OAuthAuthorizationFlow.rehydrate_eq hi.valid, hi.stored, hchecks, hcodes⟩, hi.evolves,
    hi.lawful, hi.valid.subject, hi.attached, hi.consumed, hi.valid.consumedAt, hi.approved, hi.code,
    hi.exchanged, fun op e he => (performOnFlow_call s.flow op).unchanged he⟩

/-- a flow of ten minutes -/
def newYearFlow (createdAt : Int) : OAuthAuthorizationFlow where
  id := ⟨1⟩
  clientId := "client"
  clientName := "Client"
  redirectUri := "https://client.example/callback"
  codeChallenge := "challenge"
  state := "state"
  resource := "https://proofplane.example/mcp"
  scopes := [.readEvidence]
  csrfDigest := ⟨2⟩
  auth0Subject := none
  userId := none
  expiresAt := createdAt + minutes 10
  createdAt := createdAt
  consumedAt := none
  authorizationCode := none

theorem oauth_flow_lifecycle_newYear :
    ∃ s, run flowStep ⟨(newYearFlow 1767225600000000000).toRow, []⟩
        [.attachSubject "email|user" ⟨3⟩ 1767225601000000000,
          .approveAndIssueCode ⟨4⟩ ⟨5⟩ ⟨6⟩ 1767225602000000001 (1767225602000000001 + minutes 1),
          .cancel 1767225603000000000,
          .consumeCode "client" "https://client.example/callback" 1767225604000000000] = some s ∧
      s.log.length = 3 ∧ s.flow.rehydrate = .ok s.flow := by
  have h := oauth_flow_lifecycle ⟨1⟩ "client" "Client" "https://client.example/callback" "challenge"
    "state" "https://proofplane.example/mcp" [.readEvidence] ⟨2⟩ 1767225600000000000
    (1767225600000000000 + minutes 10) _ rfl (by decide) (by decide)
    [.attachSubject "email|user" ⟨3⟩ 1767225601000000000,
      .approveAndIssueCode ⟨4⟩ ⟨5⟩ ⟨6⟩ 1767225602000000001 (1767225602000000001 + minutes 1),
      .cancel 1767225603000000000,
      .consumeCode "client" "https://client.example/callback" 1767225604000000000]
    (by
      intro op hop
      simp only [List.mem_cons, List.not_mem_nil, or_false] at hop
      rcases hop with rfl | rfl | rfl | rfl
      · exact trivial
      · exact fun _ => by decide
      · exact trivial
      · exact trivial) _ rfl
  exact ⟨_, rfl, rfl, h.1.1⟩

/-- a flow cancelled in the last microsecond before an expiry in 1999 is stored as cancelled at it -/
theorem oauth_flow_rounded_up :
    OAuthAuthorizationFlow.request ⟨1⟩ "client" "Client" "https://client.example/callback" "challenge"
        "state" "https://proofplane.example/mcp" [.readEvidence] ⟨2⟩ (pgEpoch - minutes 20)
        (pgEpoch - minutes 20 + minutes 10) = .ok (newYearFlow (pgEpoch - minutes 20)) ∧
      ∃ s, run flowStep ⟨(newYearFlow (pgEpoch - minutes 20)).toRow, []⟩
          [.attachSubject "email|user" ⟨3⟩ (pgEpoch - minutes 15),
            .cancel (pgEpoch - minutes 10 - 500)] = some s ∧
        s.log.length = 2 ∧ s.flow.rehydrate = .error .invalidRehydration :=
  ⟨rfl, _, rfl, rfl, rfl⟩

end Proofplane
