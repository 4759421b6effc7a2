import Proofplane.OAuth.Flows
import Proofplane.OAuth.Service

/-!
# What a step of the authorization server can do

* `OAuthDbMove`       the change of the tables; `OAuthDbMove.connection`, `OAuthDbMove.flow`   what has
                      become of a row;
* `OAuthMove`         the change of the whole server: a call goes on, or nobody waits for what was done;
* `oauthStep_move`    **every step is one of these**.
-/

namespace Proofplane
open Base

/-! ## The tables -/

/-- all that a step does to the tables at an instant -/
inductive OAuthDbMove (now : Int) (db db' : OAuthDb) : Prop
  | connections (h : ConnectionsMove now db db')
  | flows (h : FlowsMove now db db')
  /-- the rest of the application is at work -/
  | accounts (hconnections : db'.connections = db.connections) (hflows : db'.flows = db.flows)

/-- the tables that a save of a connection leaves alone -/
theorem saveConnection_rest {db db' : OAuthDb} {c : AgentConnection}
    (h : db.saveConnection c = .ok db') :
    db'.flows = db.flows ∧ db'.users = db.users ∧ db'.workspaces = db.workspaces := by
  obtain ⟨rfl, -, -⟩ := OAuthDb.saveConnection_ok h
  exact ⟨rfl, rfl, rfl⟩

/-- the tables that a save of a flow leaves alone -/
theorem saveFlow_rest {db db' : OAuthDb} {f : OAuthAuthorizationFlow} (h : db.saveFlow f = .ok db') :
    db'.connections = db.connections ∧ db'.users = db.users ∧ db'.workspaces = db.workspaces := by
  obtain ⟨rfl, -, -⟩ := OAuthDb.saveFlow_ok h
  exact ⟨rfl, rfl, rfl⟩

section
variable {now : Int} {db db' : OAuthDb}

theorem ConnectionsMove.rest (h : ConnectionsMove now db db') :
    db'.flows = db.flows ∧ db'.users = db.users ∧ db'.workspaces = db.workspaces := by
  cases h with
  | same h =>
    rw [h]
    exact ⟨rfl, rfl, rfl⟩
  | changed c c' hmem h hsave => exact saveConnection_rest hsave
  | created c hnew hrequest hcanonical hstatus hconsumed hnow hsave => exact saveConnection_rest hsave

theorem FlowsMove.rest (h : FlowsMove now db db') :
    db'.connections = db.connections ∧ db'.users = db.users ∧ db'.workspaces = db.workspaces := by
  cases h with
  | same h =>
    rw [h]
    exact ⟨rfl, rfl, rfl⟩
  | changed f f' hmem h hsave => exact saveFlow_rest hsave
  | created f hnew hrequest hcanonical hsubject huser hconsumed hcode hsave => exact saveFlow_rest hsave

namespace OAuthDbMove

theorem refl (now : Int) (db : OAuthDb) : OAuthDbMove now db db := .connections (.same rfl)

theorem connectionsInv (h : OAuthDbMove now db db') (hi : ConnectionsInv now db) :
    ConnectionsInv now db' := by
  cases h with
  | connections h => exact hi.move h
  | flows h => exact hi.congr h.rest.1
  | accounts hconnections hflows => exact hi.congr hconnections

theorem flowsInv (h : OAuthDbMove now db db') (hi : FlowsInv now db) (hepoch : pgEpoch ≤ now) :
    FlowsInv now db' := by
  cases h with
  | connections h => exact hi.congr h.rest.1
  | flows h => exact hi.move hepoch h
  | accounts hconnections hflows => exact hi.congr hflows

/-- every connection goes on -/
theorem connection (h : OAuthDbMove now db db') (hi : ConnectionsInv now db) {c : AgentConnection}
    (hc : c ∈ db.connections.rows) : ∃ c' ∈ db'.connections.rows, c.Evolves c' := by
  cases h with
  | connections h => exact h.forward hi hc
  | flows h =>
    rw [h.rest.1]
    exact ⟨c, hc, .refl c⟩
  | accounts hconnections hflows =>
    rw [hconnections]
    exact ⟨c, hc, .refl c⟩

/-- every flow goes on -/
theorem flow (h : OAuthDbMove now db db') (hi : FlowsInv now db) {f : OAuthAuthorizationFlow}
    (hf : f ∈ db.flows.rows) : ∃ f' ∈ db'.flows.rows, f.Evolves f' := by
  cases h with
  | connections h =>
    rw [h.rest.1]
    exact ⟨f, hf, .refl f⟩
  | flows h => exact h.forward hi hf
  | accounts hconnections hflows =>
    rw [hflows]
    exact ⟨f, hf, .refl f⟩

end OAuthDbMove

theorem authorizeAgentConnection_move {command : AuthorizeAgentConnection} {activatedAt usedAt : Int}
    {answer : Option AgentConnectionContext}
    (h : db.authorizeAgentConnection command activatedAt usedAt = .ok (answer, db')) :
    ConnectionsMove now db db' := by
  rcases authorizeAgentConnection_ok h with ⟨-, rfl⟩ | ⟨c, hmem, c', _, -, -, -, -, hauth, -, hsave, -⟩
  · exact .same rfl
  · exact .changed c c' hmem hauth.transition hsave

/-- no subject is attached and no code is issued -/
def FlowsQuiet (db db' : OAuthDb) : Prop :=
  ∀ f' ∈ db'.flows.rows,
    (∃ f ∈ db.flows.rows, f.id = f'.id ∧ f'.auth0Subject = f.auth0Subject ∧ f'.userId = f.userId ∧
      f'.codeDigest = f.codeDigest) ∨
    f'.auth0Subject = none ∧ f'.codeDigest = none

/-- a change of the tables of which nobody has to be told -/
structure QuietMove (now : Int) (db db' : OAuthDb) : Prop where
  move : OAuthDbMove now db db'
  quiet : FlowsQuiet db db'

theorem flowsQuiet_of_eq (h : db'.flows = db.flows) : FlowsQuiet db db' := by
  intro f hf
  rw [h] at hf
  exact .inl ⟨f, hf, rfl, rfl, rfl, rfl⟩

theorem flowsQuiet_of_save {f f' : OAuthAuthorizationFlow} (hmem : f ∈ db.flows.rows)
    (hsave : db.saveFlow f' = .ok db') (hid : f'.id = f.id)
    (hsubject : f'.auth0Subject = f.auth0Subject) (huser : f'.userId = f.userId)
    (hdigest : f'.codeDigest = f.codeDigest) : FlowsQuiet db db' := by
  obtain ⟨rfl, -, -⟩ := OAuthDb.saveFlow_ok hsave
  intro x hx
  rcases Table.mem_upsert.mp hx with rfl | ⟨hold, -⟩
  · refine .inl ⟨f, hmem, hid.symm, hsubject, huser, ?_⟩
    rw [← hdigest]
    unfold OAuthAuthorizationFlow.codeDigest OAuthAuthorizationFlow.toRow
    cases f'.authorizationCode <;> rfl
  · exact .inl ⟨x, hold, rfl, rfl, rfl, rfl⟩

namespace QuietMove

theorem refl (now : Int) (db : OAuthDb) : QuietMove now db db := ⟨.refl now db, flowsQuiet_of_eq rfl⟩

theorem connections (h : ConnectionsMove now db db') : QuietMove now db db' :=
  ⟨.connections h, flowsQuiet_of_eq h.rest.1⟩

theorem cancel {command : CancelOAuthAuthorization} {f' : OAuthAuthorizationFlow}
    (h : db.cancelOAuthAuthorization command = .ok (f', db')) :
    QuietMove command.cancelledAt db db' := by
  refine ⟨.flows (cancel_move h), ?_⟩
  obtain ⟨f, hmem, -, hchange, hsave⟩ := changeFlow_ok h
  unfold OAuthAuthorizationFlow.cancel at hchange
  split at hchange
  · cases hchange
  · cases hchange
    exact flowsQuiet_of_save hmem hsave rfl rfl rfl rfl

theorem consume {digest : String → Sha256Digest} {command : ConsumeOAuthAuthorizationCode}
    {grant : OAuthAuthorizationCodeGrant}
    (h : db.consumeOAuthAuthorizationCode digest command = .ok (grant, db')) :
    QuietMove command.consumedAt db db' := by
  refine ⟨.flows (consume_move h), ?_⟩
  obtain ⟨f, hmem, code, -, -, he, -, -, -, hsave⟩ := consume_ok h
  refine flowsQuiet_of_save hmem hsave rfl rfl rfl ?_
  unfold OAuthAuthorizationFlow.codeDigest OAuthAuthorizationFlow.exchanged
  rw [he.code_eq]
  rfl

theorem request {digest : String → Sha256Digest} {command : RequestOAuthAuthorization}
    {f : OAuthAuthorizationFlow} (h : db.requestOAuthAuthorization digest command = .ok (f, db')) :
    QuietMove now db db' := by
  refine ⟨.flows (requestOAuthAuthorization_move h), ?_⟩
  rcases requestOAuthAuthorization_ok h with rfl | ⟨-, -, -, hsubject, -, -, hcode, hsave⟩
  · exact flowsQuiet_of_eq rfl
  · obtain ⟨rfl, -, -⟩ := OAuthDb.saveFlow_ok hsave
    intro x hx
    rcases Table.mem_upsert.mp hx with rfl | ⟨hold, -⟩
    · refine .inr ⟨hsubject, ?_⟩
      unfold OAuthAuthorizationFlow.codeDigest OAuthAuthorizationFlow.toRow
      rw [hcode]
      rfl
    · exact .inl ⟨x, hold, rfl, rfl, rfl, rfl⟩

end QuietMove

/-- a unit of work moves the tables if its commit does -/
theorem QuietMove.settle {α ε : Type} {lost : ε} {fault : CommitFault}
    {r : Except ε (α × OAuthDb)} (h : ∀ a db', r = .ok (a, db') → QuietMove now db db') :
    QuietMove now db (Base.settle lost fault db r).2 := by
  cases settle_cases lost fault db r with
  | nothing e hstate hanswer hlanded =>
    rw [hstate]
    exact .refl now db
  | committed a s' hr hstate hanswer hlanded =>
    rw [hstate]
    exact h a s' hr

end

/-! ## The server -/

/-- what a consent asks for -/
def OAuthConsentContext.request (context : OAuthConsentContext) (continuationToken nonce : String) :
    RequestAgentConnection where
  userId := context.userId
  workspaceId := context.workspaceId
  auth0Subject := context.auth0Subject
  auth0ClientId := context.clientId
  clientDisplayName := context.clientName
  resource := context.resource
  permissions := context.scopes
  expiresAt := context.expiresAt
  continuationToken := continuationToken
  nonce := nonce

/-- the exchange that a call is at -/
def OAuthTask.exchange : OAuthTask → Option (TokenPayload × OAuthAuthorizationCodeGrant)
  | .exchanging payload grant => some (payload, grant)
  | .exchanged payload grant _ => some (payload, grant)
  | _ => none

namespace OAuthWorld

/-- the call is new, or it is not at an exchange -/
def NoExchange (w : OAuthWorld) (call : Nat) : Prop :=
  ∀ task, w.task call = some task → task.exchange = none

end OAuthWorld

section
variable {Key Nonce : Type}

/-- all that a step of the server can do, at the instant that it leaves on the clock -/
inductive OAuthMove (S : OAuthServer Key Nonce) (now : Int) (w : OAuthWorld) : OAuthWorld → Prop
  /-- no call waits for it -/
  | background (db : OAuthDb) (h : QuietMove now w.db db) :
      OAuthMove S now w { w with clock := now, db }
  | admitted (db : OAuthDb) (principal : AgentConnectionContext) (h : QuietMove now w.db db) :
      OAuthMove S now w { w with clock := now, db, log := .admitted principal :: w.log }
  /-- a call ends, whatever it has left behind -/
  | ended (call : Nat) (db : OAuthDb) (hcall : w.NoExchange call) (h : QuietMove now w.db db) :
      OAuthMove S now w { w with clock := now, db, calls := w.calls.upsert ⟨call, .finished⟩ }
  | attached (call : Nat) (command : AttachOAuthAuthorizationSubject) (flow : OAuthAuthorizationFlow)
      (db : OAuthDb) (task : OAuthTask) (hcall : w.NoExchange call) (hnow : command.attachedAt = now)
      (h : w.db.attachOAuthAuthorizationSubject S.digest command = .ok (flow, db))
      (htask : task = .finished ∨ task = .reusing flow command.auth0Subject) :
      OAuthMove S now w
        { clock := now, db, calls := w.calls.upsert ⟨call, task⟩
          log := .attached flow.id command.auth0Subject command.userId :: w.log }
  | reused (call : Nat) (flow : OAuthAuthorizationFlow) (auth0Subject : String)
      (found : ReusableAgentConnection) (hcall : w.task call = some (.reusing flow auth0Subject))
      (h : w.db.findReusable auth0Subject flow.clientId flow.resource flow.scopes = .ok (some found)) :
      OAuthMove S now w
        { w with
          clock := now
          calls := w.calls.upsert
            ⟨call, .approving flow.id flow.redirectUri flow.state found.id found.workspaceId⟩ }
  | read (call : Nat) (requestId : OAuthAuthorizationRequestId) (context : OAuthConsentContext)
      (hcall : w.NoExchange call) (h : w.db.consentContext requestId now = some context) :
      OAuthMove S now w
        { w with clock := now, calls := w.calls.upsert ⟨call, .requesting context⟩ }
  | requested (call : Nat) (context : OAuthConsentContext) (connectionId : AgentConnectionId)
      (transactionId : AgentConnectionAuthorizationId) (continuationToken nonce : String)
      (c : AgentConnection) (db : OAuthDb) (hcall : w.task call = some (.requesting context))
      (hnew : w.db.connections.get? connectionId = none)
      (h : w.db.requestAgentConnection S.digest (context.request continuationToken nonce) connectionId
        transactionId now = .ok (c, db)) :
      OAuthMove S now w
        { w with
          clock := now, db
          calls := w.calls.upsert ⟨call, .consuming context continuationToken nonce⟩ }
  | located (call : Nat) (context : OAuthConsentContext) (continuationToken nonce : String)
      (connectionId : AgentConnectionId)
      (hcall : w.task call = some (.consuming context continuationToken nonce)) :
      OAuthMove S now w
        { w with
          clock := now
          calls := w.calls.upsert
            ⟨call, .consumingConnection context continuationToken nonce connectionId⟩ }
  | consumed (call : Nat) (context : OAuthConsentContext) (continuationToken nonce : String)
      (connectionId : AgentConnectionId) (c : AgentConnection) (db : OAuthDb)
      (hcall : w.task call = some (.consumingConnection context continuationToken nonce connectionId))
      (h : w.db.consumeAgentConnectionContinuation connectionId (S.digest continuationToken)
        (S.digest nonce) now = .ok (.approved c, db)) :
      OAuthMove S now w
        { w with
          clock := now, db
          calls := w.calls.upsert
            ⟨call, .approving context.requestId context.redirectUri context.state c.id c.workspaceId⟩ }
  | approved (call : Nat) (command : ApproveOAuthAuthorization) (redirectUri state : String)
      (flow : OAuthAuthorizationFlow) (db : OAuthDb) (redirects : List OAuthRecord)
      (hcall : w.task call = some
        (.approving command.requestId redirectUri state command.agentConnectionId command.workspaceId))
      (hnow : command.approvedAt = now) (hexpires : command.codeExpiresAt = now + authorizationCodeTtl)
      (h : w.db.approveOAuthAuthorization S.digest command = .ok (flow, db))
      (hredirects : redirects = [] ∨ redirects = [.redirected command.requestId command.code]) :
      OAuthMove S now w
        { clock := now, db, calls := w.calls.upsert ⟨call, .finished⟩
          log := redirects ++ .approved flow.id (S.digest command.code) :: w.log }
  /-- the code is consumed; the verifier may not be the right one -/
  | exchanged (call : Nat) (payload : TokenPayload) (grant : OAuthAuthorizationCodeGrant)
      (db : OAuthDb) (task : OAuthTask) (hcall : w.calls.get? call = none)
      (h : w.db.consumeOAuthAuthorizationCode S.digest (OAuthServer.consumeCommand payload now)
        = .ok (grant, db))
      (htask : task = .exchanged payload grant none ∨
        S.verifierMatches payload grant = true ∧ task = .exchanging payload grant) :
      OAuthMove S now w { w with clock := now, db, calls := w.calls.upsert ⟨call, task⟩ }
  | refused (call : Nat) (payload : TokenPayload) (grant : OAuthAuthorizationCodeGrant) (db : OAuthDb)
      (hcall : w.task call = some (.exchanging payload grant)) (h : QuietMove now w.db db) :
      OAuthMove S now w
        { w with clock := now, db, calls := w.calls.upsert ⟨call, .exchanged payload grant none⟩ }
  | issued (call : Nat) (payload : TokenPayload) (grant : OAuthAuthorizationCodeGrant)
      (context : AgentConnectionContext) (instants : IssueInstants) (tokenId : Uuid) (nonce : Nonce)
      (token : IssuedPasetoToken) (db : OAuthDb)
      (hcall : w.task call = some (.exchanging payload grant))
      (hclock : w.clock ≤ instants.activatedAt ∧ instants.activatedAt ≤ instants.usedAt ∧
        instants.issuedAt = now)
      (h : w.db.authorizeAgentConnection (OAuthServer.authorizeCommand grant) instants.activatedAt
        instants.usedAt = .ok (some context, db))
      (htoken : S.tokens.encrypt
        ⟨context.userId.uuid, tokenId, instants.expiresFrom + accessTokenTtl⟩
        (OAuthServer.grantClaims grant context) nonce instants.issuedAt = .ok token) :
      OAuthMove S now w
        { clock := now, db, calls := w.calls.upsert ⟨call, .exchanged payload grant (some token)⟩
          log := .issued payload grant token :: w.log }

/-! ## Every step -/

variable {S : OAuthServer Key Nonce} {w w' : OAuthWorld} {now : Int} {call : Nat}

theorem tick_some (h : w.tick now = some w') : w.clock ≤ now ∧ w' = { w with clock := now } := by
  unfold OAuthWorld.tick at h
  split at h
  · next hle =>
    cases h
    exact ⟨hle, rfl⟩
  · cases h

/-- a step that looks at the clock first -/
theorem ticked_some {f : OAuthWorld → OAuthWorld} (h : (w.tick now).map f = some w') :
    w.clock ≤ now ∧ w' = f { w with clock := now } := by
  obtain ⟨w1, htick, rfl⟩ := Option.map_eq_some_iff.mp h
  obtain ⟨hle, rfl⟩ := tick_some htick
  exact ⟨hle, rfl⟩

theorem noExchange_of_new (h : ¬ (w.calls.get? call).isSome = true) : w.NoExchange call := by
  intro task htask
  obtain ⟨c, hget, -⟩ := Option.map_eq_some_iff.mp htask
  rw [hget] at h
  exact absurd rfl h

theorem noExchange_of_task {task : OAuthTask} (h : w.task call = some task)
    (hnone : task.exchange = none) : w.NoExchange call := by
  intro other hother
  rw [h] at hother
  cases hother
  exact hnone

theorem detached_move {α ε : Type} {lost : ε} {fault : CommitFault} {r : Except ε (α × OAuthDb)}
    (h : ∀ a db, r = .ok (a, db) → QuietMove now w.db db) :
    OAuthMove S now w ({ w with clock := now }.detached lost fault r) :=
  .background _ (QuietMove.settle h)

theorem prepare_move {payload : AuthorizePayload} {client : Option RegisteredClient}
    {requestId : OAuthAuthorizationRequestId} {csrfToken : String} {flow : OAuthAuthorizationFlow}
    {db db' : OAuthDb}
    (h : S.prepareAuthorization db payload client requestId csrfToken now = .ok (flow, db')) :
    QuietMove now db db' := by
  unfold OAuthServer.prepareAuthorization at h
  split at h
  · cases h
  · split at h
    · cases h
    · exact .request (mapError_ok h)

theorem callbackStep_move (command : AttachOAuthAuthorizationSubject) {fault : CommitFault}
    (hcall : w.NoExchange call) (hnow : command.attachedAt = now) :
    OAuthMove S now w (S.callbackStep { w with clock := now } call command fault) := by
  unfold OAuthServer.callbackStep
  dsimp only
  have hs := settle_cases (OAuthAuthorizationCommandError.repository .database) fault w.db
    (w.db.attachOAuthAuthorizationSubject S.digest command)
  cases hs with
  | nothing e hstate hanswer hlanded =>
    rw [hstate, hanswer, hlanded]
    exact .ended call w.db hcall (.refl now w.db)
  | committed flow db hr hstate hanswer hlanded =>
    rw [hstate, hlanded]
    rcases hanswer with hanswer | hanswer
    · rw [hanswer]
      exact .attached call command flow db _ hcall hnow hr (.inr rfl)
    · rw [hanswer]
      exact .attached call command flow db _ hcall hnow hr (.inl rfl)

theorem findReusableStep_move {flow : OAuthAuthorizationFlow} {auth0Subject : String}
    (hcall : w.task call = some (.reusing flow auth0Subject)) :
    OAuthMove S w.clock w (OAuthServer.findReusableStep w call flow auth0Subject) := by
  have hnone := noExchange_of_task hcall rfl
  unfold OAuthServer.findReusableStep
  split
  · exact .ended call w.db hnone (.refl _ w.db)
  · exact .ended call w.db hnone (.refl _ w.db)
  · next found hfound => exact .reused call flow auth0Subject found hcall hfound

theorem requestConnectionStep_move {context : OAuthConsentContext} {connectionId : AgentConnectionId}
    {transactionId : AgentConnectionAuthorizationId} {continuationToken nonce : String}
    {fault : CommitFault} (hcall : w.task call = some (.requesting context))
    (hnew : w.db.connections.get? connectionId = none) :
    OAuthMove S now w (S.requestConnectionStep { w with clock := now } call context connectionId
      transactionId continuationToken nonce fault) := by
  unfold OAuthServer.requestConnectionStep
  dsimp only
  have hs := settle_cases (AgentConnectionCommandError.repository .database) fault w.db
    (w.db.requestAgentConnection S.digest (context.request continuationToken nonce) connectionId
      transactionId now)
  unfold OAuthConsentContext.request at hs
  cases hs with
  | nothing e hstate hanswer hlanded =>
    rw [hstate, hanswer]
    exact .ended call w.db (noExchange_of_task hcall rfl) (.refl now w.db)
  | committed c db hr hstate hanswer hlanded =>
    rw [hstate]
    rcases hanswer with hanswer | hanswer
    · rw [hanswer]
      exact .requested call context connectionId transactionId continuationToken nonce c db hcall hnew hr
    · rw [hanswer]
      exact .ended call db (noExchange_of_task hcall rfl)
        (.connections (requestAgentConnection_move hnew hr))

theorem consumeContinuationStep_move {context : OAuthConsentContext}
    {continuationToken nonce : String} {connectionId : AgentConnectionId} {fault : CommitFault}
    (hcall : w.task call
      = some (.consumingConnection context continuationToken nonce connectionId)) :
    OAuthMove S now w (S.consumeContinuationStep { w with clock := now } call context
      continuationToken nonce connectionId fault) := by
  have hnone := noExchange_of_task hcall rfl
  unfold OAuthServer.consumeContinuationStep
  dsimp only
  have hs := settle_cases (AgentConnectionCommandError.repository .database) fault w.db
    (w.db.consumeAgentConnectionContinuation connectionId (S.digest continuationToken)
      (S.digest nonce) now)
  cases hs with
  | nothing e hstate hanswer hlanded =>
    rw [hstate, hanswer]
    exact .ended call w.db hnone (.refl now w.db)
  | committed outcome db hr hstate hanswer hlanded =>
    rw [hstate]
    rcases hanswer with hanswer | hanswer
    · rw [hanswer]
      cases outcome with
      | approved c =>
        exact .consumed call context continuationToken nonce connectionId c db hcall hr
      | invalid => exact .ended call db hnone (.connections (consumeContinuation_move hr))
    · rw [hanswer]
      exact .ended call db hnone (.connections (consumeContinuation_move hr))

theorem approveStep_move (command : ApproveOAuthAuthorization) {redirectUri state : String}
    {fault : CommitFault}
    (hcall : w.task call = some
      (.approving command.requestId redirectUri state command.agentConnectionId command.workspaceId))
    (hnow : command.approvedAt = now) (hexpires : command.codeExpiresAt = now + authorizationCodeTtl) :
    OAuthMove S now w (S.approveStep { w with clock := now } call command redirectUri fault) := by
  unfold OAuthServer.approveStep
  dsimp only
  have hs := settle_cases (OAuthAuthorizationCommandError.repository .database) fault w.db
    (w.db.approveOAuthAuthorization S.digest command)
  cases hs with
  | nothing e hstate hanswer hlanded =>
    rw [hstate, hanswer, hlanded]
    exact .ended call w.db (noExchange_of_task hcall rfl) (.refl now w.db)
  | committed flow db hr hstate hanswer hlanded =>
    rw [hstate, hlanded]
    rcases hanswer with hanswer | hanswer
    · rw [hanswer]
      dsimp only
      split
      · exact .approved call command redirectUri state flow db [.redirected command.requestId command.code]
          hcall hnow hexpires hr (.inr rfl)
      · exact .approved call command redirectUri state flow db [] hcall hnow hexpires hr (.inl rfl)
    · rw [hanswer]
      exact .approved call command redirectUri state flow db [] hcall hnow hexpires hr (.inl rfl)

theorem exchangeStep_move {payload : TokenPayload} {fault : CommitFault}
    (hcall : w.calls.get? call = none) :
    OAuthMove S now w (S.exchangeStep { w with clock := now } call payload fault) := by
  have hnone : w.NoExchange call := noExchange_of_new (by rw [hcall]; decide)
  unfold OAuthServer.exchangeStep
  dsimp only
  have hs := settle_cases (OAuthAuthorizationCommandError.repository .database) fault w.db
    (w.db.consumeOAuthAuthorizationCode S.digest (OAuthServer.consumeCommand payload now))
  cases hs with
  | nothing e hstate hanswer hlanded =>
    rw [hstate, hanswer]
    exact .ended call w.db hnone (.refl now w.db)
  | committed grant db hr hstate hanswer hlanded =>
    rw [hstate]
    rcases hanswer with hanswer | hanswer
    · rw [hanswer]
      dsimp only
      split
      · exact .exchanged call payload grant db _ hcall hr (.inl rfl)
      · next hverifier =>
        exact .exchanged call payload grant db _ hcall hr (.inr ⟨by simpa using hverifier, rfl⟩)
    · rw [hanswer]
      exact .ended call db hnone (.consume hr)

/-- a token is issued for a connection that was authorized -/
theorem issueTokenForCode_ok {db : OAuthDb} {grant : OAuthAuthorizationCodeGrant}
    {instants : IssueInstants} {tokenId : Uuid} {nonce : Nonce} {fault : CommitFault}
    {token : IssuedPasetoToken}
    (h : (S.issueTokenForCode db grant instants tokenId nonce fault).1 = .ok token) :
    ∃ context, db.authorizeAgentConnection (OAuthServer.authorizeCommand grant) instants.activatedAt
        instants.usedAt
          = .ok (some context, (S.issueTokenForCode db grant instants tokenId nonce fault).2) ∧
      S.tokens.encrypt ⟨context.userId.uuid, tokenId, instants.expiresFrom + accessTokenTtl⟩
        (OAuthServer.grantClaims grant context) nonce instants.issuedAt = .ok token := by
  unfold OAuthServer.issueTokenForCode at h ⊢
  dsimp only at h ⊢
  split at h
  · cases h
  · cases h
  · next context hcontext =>
    obtain ⟨hr, -⟩ := settle_ok hcontext
    exact ⟨context, hr, mapError_ok h⟩

theorem issueTokenForCode_move (S : OAuthServer Key Nonce) (db : OAuthDb)
    (grant : OAuthAuthorizationCodeGrant) (instants : IssueInstants) (tokenId : Uuid) (nonce : Nonce)
    (fault : CommitFault) :
    QuietMove now db (S.issueTokenForCode db grant instants tokenId nonce fault).2 := by
  unfold OAuthServer.issueTokenForCode
  exact QuietMove.settle fun _ _ hr => .connections (authorizeAgentConnection_move hr)

theorem authorizeStep_move {payload : TokenPayload} {grant : OAuthAuthorizationCodeGrant}
    {instants : IssueInstants} {tokenId : Uuid} {nonce : Nonce} {fault : CommitFault}
    (hcall : w.task call = some (.exchanging payload grant))
    (hclock : w.clock ≤ instants.activatedAt ∧ instants.activatedAt ≤ instants.usedAt ∧
      instants.issuedAt = now) :
    OAuthMove S now w
      (S.authorizeStep { w with clock := now } call payload grant instants tokenId nonce fault) := by
  unfold OAuthServer.authorizeStep
  dsimp only
  cases hanswer : (S.issueTokenForCode w.db grant instants tokenId nonce fault).1 with
  | error e =>
    exact .refused call payload grant _ hcall
      (issueTokenForCode_move S w.db grant instants tokenId nonce fault)
  | ok token =>
    obtain ⟨context, hauthorize, htoken⟩ := issueTokenForCode_ok hanswer
    exact .issued call payload grant context instants tokenId nonce token _ hcall hclock hauthorize htoken

theorem authenticateRequest_move {db : OAuthDb} {authorization : Option String}
    {verifiedAt activatedAt usedAt : Int} {fault : CommitFault} :
    QuietMove now db
      (S.authenticateRequest db authorization verifiedAt activatedAt usedAt fault).2 := by
  unfold OAuthServer.authenticateRequest
  split
  · exact .refl now db
  · split
    · exact .refl now db
    · split
      · exact .refl now db
      · exact QuietMove.settle fun _ _ hr => .connections (authorizeAgentConnection_move hr)

theorem requestStep_move {authorization : Option String} {verifiedAt activatedAt usedAt : Int}
    {fault : CommitFault} :
    OAuthMove S now w
      (S.requestStep { w with clock := now } authorization verifiedAt activatedAt usedAt fault) := by
  unfold OAuthServer.requestStep
  dsimp only
  split
  · exact .admitted _ _ authenticateRequest_move
  · exact .background _ authenticateRequest_move

theorem OAuthMove.clock (h : OAuthMove S now w w') : w'.clock = now := by
  cases h <;> rfl

/-- a move at an instant that the clock has not passed -/
theorem OAuthMove.forth (hle : w.clock ≤ now) (h : OAuthMove S now w w') :
    w.clock ≤ w'.clock ∧ OAuthMove S w'.clock w w' := by
  rw [h.clock]
  exact ⟨hle, h⟩

/-- **Every step of the server is a move, and the clock does not go back.** -/
theorem oauthStep_move {e : OAuthEvent Nonce} (h : oauthStep S w e = some w') :
    w.clock ≤ w'.clock ∧ OAuthMove S w'.clock w w' := by
  cases e with
  | prepare payload client requestId csrfToken now fault =>
    obtain ⟨hle, rfl⟩ := ticked_some h
    exact (detached_move fun _ _ hr => prepare_move hr).forth hle
  | callback call csrfToken auth0Subject userId now fault =>
    simp only [oauthStep] at h
    split at h
    · cases h
    · next hnew =>
      obtain ⟨hle, rfl⟩ := ticked_some h
      exact (callbackStep_move ⟨csrfToken, auth0Subject, userId, now⟩ (noExchange_of_new hnew)
        rfl).forth hle
  | findReusable call ok =>
    simp only [oauthStep] at h
    split at h
    · next flow auth0Subject hcall =>
      cases ok with
      | true =>
        cases h
        exact (findReusableStep_move hcall).forth le_rfl
      | false =>
        cases h
        exact OAuthMove.forth le_rfl
          (.ended call w.db (noExchange_of_task hcall rfl) (.refl w.clock w.db))
    · cases h
  | approveConsent call requestId now ok =>
    simp only [oauthStep] at h
    split at h
    · cases h
    · next hnew =>
      have hnone := noExchange_of_new hnew
      obtain ⟨hle, rfl⟩ := ticked_some h
      refine OAuthMove.forth hle ?_
      split
      · exact .ended call w.db hnone (.refl now w.db)
      · next context hcontext =>
        cases ok with
        | true => exact .read call requestId context hnone hcontext
        | false => cases hcontext
  | requestConnection call connectionId transactionId continuationToken nonce now fault =>
    simp only [oauthStep] at h
    split at h
    · next context hcall =>
      split at h
      · cases h
      · next hnew =>
        obtain ⟨hle, rfl⟩ := ticked_some h
        exact (requestConnectionStep_move hcall (by simpa using hnew)).forth hle
    · cases h
  | findContinuation call ok =>
    simp only [oauthStep] at h
    split at h
    · next context continuationToken nonce hcall =>
      split at h
      · cases h
        exact OAuthMove.forth le_rfl
          (.ended call w.db (noExchange_of_task hcall rfl) (.refl w.clock w.db))
      · next connectionId hfound =>
        cases h
        exact OAuthMove.forth le_rfl
          (.located call context continuationToken nonce connectionId hcall)
    · cases h
  | consumeContinuation call now fault =>
    simp only [oauthStep] at h
    split at h
    · next context continuationToken nonce connectionId hcall =>
      obtain ⟨hle, rfl⟩ := ticked_some h
      exact (consumeContinuationStep_move hcall).forth hle
    · cases h
  | approve call code now fault =>
    simp only [oauthStep] at h
    split at h
    · next requestId redirectUri state connectionId workspaceId hcall =>
      obtain ⟨hle, rfl⟩ := ticked_some h
      exact (approveStep_move ⟨requestId, code, connectionId, workspaceId, now,
        now + authorizationCodeTtl⟩ hcall rfl rfl).forth hle
    · cases h
  | cancel requestId now fault =>
    obtain ⟨hle, rfl⟩ := ticked_some h
    refine OAuthMove.forth hle (detached_move ?_)
    intro flow db hr
    exact .cancel hr
  | exchange call payload now fault =>
    simp only [oauthStep] at h
    split at h
    · cases h
    · next hnew =>
      obtain ⟨hle, rfl⟩ := ticked_some h
      exact (exchangeStep_move (by simpa using hnew)).forth hle
  | authorize call instants tokenId nonce fault =>
    simp only [oauthStep] at h
    split at h
    · next payload grant hcall =>
      split at h
      · next hinstants =>
        obtain ⟨hle, rfl⟩ := ticked_some h
        have hclock : w.clock ≤ instants.activatedAt ∧ instants.activatedAt ≤ instants.usedAt ∧
            instants.issuedAt = instants.issuedAt := ⟨hinstants.1, hinstants.2.1, rfl⟩
        have hle' : w.clock ≤ instants.issuedAt :=
          le_trans hinstants.1 (le_trans hinstants.2.1 (le_trans hinstants.2.2 hle))
        exact (authorizeStep_move hcall hclock).forth hle'
      · cases h
    · cases h
  | request authorization verifiedAt activatedAt usedAt fault =>
    simp only [oauthStep] at h
    split at h
    · next hinstants =>
      obtain ⟨hle, rfl⟩ := ticked_some h
      have hle' : w.clock ≤ usedAt := le_trans hinstants.1 (le_trans hinstants.2 hle)
      exact OAuthMove.forth hle' requestStep_move
    · cases h
  | deny connectionId now fault =>
    obtain ⟨hle, rfl⟩ := ticked_some h
    exact (detached_move fun _ _ hr => .connections (denyAgentConnection_move hr)).forth hle
  | activate connectionId now fault =>
    obtain ⟨hle, rfl⟩ := ticked_some h
    exact (detached_move fun _ _ hr => .connections (activateAgentConnection_move hr)).forth hle
  | use connectionId now fault =>
    obtain ⟨hle, rfl⟩ := ticked_some h
    exact (detached_move fun _ _ hr => .connections (useAgentConnection_move hr)).forth hle
  | revoke command now fault =>
    obtain ⟨hle, rfl⟩ := ticked_some h
    exact (detached_move fun _ _ hr => .connections (revokeAgentConnection_move hr)).forth hle
  | accounts users workspaces =>
    cases h
    exact OAuthMove.forth le_rfl (.background _ ⟨.accounts rfl rfl, flowsQuiet_of_eq rfl⟩)

end

end Proofplane
