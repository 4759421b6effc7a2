import Proofplane.OAuth.Moves

/-!
# What the calls of the authorization server know

Between two steps of a call anything may happen to the tables, but a flow keeps what was asked for and a
connection keeps what was granted; so what a call has read stays true enough to go on with.

* `Grants`, `ServedBy`     a connection is what a consent asks for, or what a flow asks for;
* `TaskKnows`            what a call knows at the point where it is; `TaskKnows.mono`   it stays so;
* `OAuthInv`             **the invariant of the server**; `OAuthInv.move`, `oauth_run`.
-/

namespace Proofplane
open Base

/-- the connection gives what the consent asks for -/
structure Grants (context : OAuthConsentContext) (c : AgentConnection) : Prop where
  userId : c.userId = context.userId
  workspaceId : c.workspaceId = context.workspaceId
  auth0Subject : c.auth0Subject = context.auth0Subject
  auth0ClientId : c.auth0ClientId = context.clientId
  resource : c.resource = context.resource
  permissions : c.permissions = context.scopes

/-- the connection gives what the flow asks for, to the one who asked -/
structure ServedBy (f : OAuthAuthorizationFlow) (c : AgentConnection) : Prop where
  auth0Subject : f.auth0Subject = some c.auth0Subject
  auth0ClientId : c.auth0ClientId = f.clientId
  resource : c.resource = f.resource
  permissions : c.permissions = f.scopes

/-- the code of the flow was presented like this and has been consumed -/
structure ExchangedBy (digest : String → Sha256Digest) (payload : TokenPayload)
    (grant : OAuthAuthorizationCodeGrant) (f : OAuthAuthorizationFlow)
    (code : OAuthAuthorizationFlowCode) : Prop where
  code_eq : f.authorizationCode = some code
  digest_eq : code.codeDigest = digest payload.code
  consumed : code.consumedAt.isSome = true
  clientId : f.clientId = payload.clientId
  redirectUri : f.redirectUri = payload.redirectUri
  auth0Subject : f.auth0Subject = some grant.auth0Subject
  userId : f.userId = some grant.userId
  grant_eq : grant = f.grant code grant.auth0Subject grant.userId

section
variable {Key Nonce : Type}

/-- what a call knows at the point where it is -/
def TaskKnows (S : OAuthServer Key Nonce) (db : OAuthDb) : OAuthTask → Prop
  | .reusing flow auth0Subject =>
    ∃ f ∈ db.flows.rows, flow.SameIntent f ∧ f.auth0Subject = some auth0Subject
  | .requesting context => ∃ f ∈ db.flows.rows, OAuthDb.ContextOf f context
  | .consuming context continuationToken nonce =>
    ∃ f ∈ db.flows.rows, OAuthDb.ContextOf f context ∧ ∃ c ∈ db.connections.rows,
      c.authorization.continuationDigest = S.digest continuationToken ∧
      c.authorization.nonceDigest = S.digest nonce ∧ Grants context c
  | .consumingConnection context continuationToken nonce _ =>
    ∃ f ∈ db.flows.rows, OAuthDb.ContextOf f context ∧ ∃ c ∈ db.connections.rows,
      c.authorization.continuationDigest = S.digest continuationToken ∧
      c.authorization.nonceDigest = S.digest nonce ∧ Grants context c
  | .approving requestId redirectUri _ connectionId workspaceId =>
    ∃ f ∈ db.flows.rows, f.id = requestId ∧ f.redirectUri = redirectUri ∧
      ∃ c ∈ db.connections.rows, c.id = connectionId ∧ c.workspaceId = workspaceId ∧ ServedBy f c
  | .exchanging payload grant =>
    S.verifierMatches payload grant = true ∧
      ∃ f ∈ db.flows.rows, ∃ code, ExchangedBy S.digest payload grant f code
  | .exchanged payload grant token =>
    (token.isSome = true → S.verifierMatches payload grant = true) ∧
      ∃ f ∈ db.flows.rows, ∃ code, ExchangedBy S.digest payload grant f code
  | .finished => True

/-- the invariant of the server -/
structure OAuthInv (S : OAuthServer Key Nonce) (w : OAuthWorld) : Prop where
  epoch : pgEpoch ≤ w.clock
  connections : ConnectionsInv w.clock w.db
  flows : FlowsInv w.clock w.db
  tasks : ∀ call ∈ w.calls.rows, TaskKnows S w.db call.task

end

/-! ## What was read stays true -/

section
variable {f f' : OAuthAuthorizationFlow} {c c' : AgentConnection} {context : OAuthConsentContext}

theorem OAuthAuthorizationFlow.Evolves.subject_some (h : f.Evolves f') {auth0Subject : String}
    (hs : f.auth0Subject = some auth0Subject) : f'.auth0Subject = some auth0Subject := by
  rw [(h.subject (by rw [hs]; rfl)).1, hs]

theorem contextOf_evolves (h : OAuthDb.ContextOf f context) (he : f.Evolves f') :
    OAuthDb.ContextOf f' context where
  requestId := h.requestId.trans he.id.symm
  clientName := h.clientName.trans he.clientName.symm
  clientId := h.clientId.trans he.clientId.symm
  redirectUri := h.redirectUri.trans he.redirectUri.symm
  state := h.state.trans he.state.symm
  resource := h.resource.trans he.resource.symm
  scopes := h.scopes.trans he.scopes.symm
  expiresAt := h.expiresAt.trans he.expiresAt.symm
  auth0Subject := he.subject_some h.auth0Subject
  userId := by
    rw [(he.subject (by rw [h.auth0Subject]; rfl)).2]
    exact h.userId

theorem Grants.evolves (h : Grants context c) (he : c.Evolves c') : Grants context c' where
  userId := he.userId.trans h.userId
  workspaceId := he.workspaceId.trans h.workspaceId
  auth0Subject := he.auth0Subject.trans h.auth0Subject
  auth0ClientId := he.auth0ClientId.trans h.auth0ClientId
  resource := he.resource.trans h.resource
  permissions := he.permissions.trans h.permissions

theorem ServedBy.evolves (h : ServedBy f c) (hf : f.Evolves f') (hc : c.Evolves c') : ServedBy f' c' where
  auth0Subject := by
    rw [hf.subject_some h.auth0Subject, hc.auth0Subject]
  auth0ClientId := by
    rw [hc.auth0ClientId, hf.clientId]
    exact h.auth0ClientId
  resource := by
    rw [hc.resource, hf.resource]
    exact h.resource
  permissions := by
    rw [hc.permissions, hf.scopes]
    exact h.permissions

/-- what a consent asks for is what its flow asks for -/
theorem Grants.serves (h : Grants context c) (hf : OAuthDb.ContextOf f context) : ServedBy f c where
  auth0Subject := by
    rw [hf.auth0Subject, h.auth0Subject]
  auth0ClientId := h.auth0ClientId.trans hf.clientId
  resource := h.resource.trans hf.resource
  permissions := h.permissions.trans hf.scopes

theorem ExchangedBy.evolves {digest : String → Sha256Digest} {payload : TokenPayload}
    {grant : OAuthAuthorizationCodeGrant} {code : OAuthAuthorizationFlowCode}
    (h : ExchangedBy digest payload grant f code) (he : f.Evolves f') :
    ∃ code', ExchangedBy digest payload grant f' code' := by
  obtain ⟨code', hcode', hc⟩ := he.code code h.code_eq
  have hsubject := he.subject (by rw [h.auth0Subject]; rfl)
  refine ⟨code', hcode', hc.codeDigest.trans h.digest_eq, ?_, he.clientId.trans h.clientId,
    he.redirectUri.trans h.redirectUri, hsubject.1.trans h.auth0Subject,
    hsubject.2.trans h.userId, ?_⟩
  · rw [hc.consumed h.consumed]
    exact h.consumed
  · refine h.grant_eq.trans ?_
    unfold OAuthAuthorizationFlow.grant
    rw [he.id, he.clientId, he.redirectUri, he.codeChallenge, he.resource, he.scopes,
      hc.agentConnectionId, hc.workspaceId, hc.expiresAt]

end

section
variable {Key Nonce : Type} {S : OAuthServer Key Nonce} {now : Int} {db db' : OAuthDb}

/-- **What a call knows stays so, whatever the others do.** -/
theorem TaskKnows.mono (hc : ∀ c ∈ db.connections.rows, ∃ c' ∈ db'.connections.rows, c.Evolves c')
    (hf : ∀ f ∈ db.flows.rows, ∃ f' ∈ db'.flows.rows, f.Evolves f') {task : OAuthTask}
    (h : TaskKnows S db task) : TaskKnows S db' task := by
  cases task with
  | reusing flow auth0Subject =>
    obtain ⟨f, hmem, hsame, hsubject⟩ := h
    obtain ⟨f', hmem', he⟩ := hf f hmem
    exact ⟨f', hmem', hsame.trans he.toSameIntent, he.subject_some hsubject⟩
  | requesting context =>
    obtain ⟨f, hmem, hreads⟩ := h
    obtain ⟨f', hmem', he⟩ := hf f hmem
    exact ⟨f', hmem', contextOf_evolves hreads he⟩
  | consuming context continuationToken nonce =>
    obtain ⟨f, hmem, hreads, c, hcmem, hcontinuation, hnonce, hgrants⟩ := h
    obtain ⟨f', hmem', he⟩ := hf f hmem
    obtain ⟨c', hcmem', hce⟩ := hc c hcmem
    exact ⟨f', hmem', contextOf_evolves hreads he, c', hcmem',
      hce.continuationDigest.trans hcontinuation, hce.nonceDigest.trans hnonce, hgrants.evolves hce⟩
  | consumingConnection context continuationToken nonce connectionId =>
    obtain ⟨f, hmem, hreads, c, hcmem, hcontinuation, hnonce, hgrants⟩ := h
    obtain ⟨f', hmem', he⟩ := hf f hmem
    obtain ⟨c', hcmem', hce⟩ := hc c hcmem
    exact ⟨f', hmem', contextOf_evolves hreads he, c', hcmem',
      hce.continuationDigest.trans hcontinuation, hce.nonceDigest.trans hnonce, hgrants.evolves hce⟩
  | approving requestId redirectUri state connectionId workspaceId =>
    obtain ⟨f, hmem, hid, hredirect, c, hcmem, hcid, hworkspace, hserves⟩ := h
    obtain ⟨f', hmem', he⟩ := hf f hmem
    obtain ⟨c', hcmem', hce⟩ := hc c hcmem
    exact ⟨f', hmem', he.id.trans hid, he.redirectUri.trans hredirect, c', hcmem',
      hce.id.trans hcid, hce.workspaceId.trans hworkspace, hserves.evolves he hce⟩
  | exchanging payload grant =>
    obtain ⟨hverifier, f, hmem, code, hexchanged⟩ := h
    obtain ⟨f', hmem', he⟩ := hf f hmem
    exact ⟨hverifier, f', hmem', hexchanged.evolves he⟩
  | exchanged payload grant token =>
    obtain ⟨hverifier, f, hmem, code, hexchanged⟩ := h
    obtain ⟨f', hmem', he⟩ := hf f hmem
    exact ⟨hverifier, f', hmem', hexchanged.evolves he⟩
  | finished => exact trivial

/-! ## What a step tells a call -/

theorem attach_knows (hi : FlowsInv now db) {command : AttachOAuthAuthorizationSubject}
    {flow : OAuthAuthorizationFlow}
    (h : db.attachOAuthAuthorizationSubject S.digest command = .ok (flow, db')) :
    TaskKnows S db' (.reusing flow command.auth0Subject) := by
  obtain ⟨f, hmem, havailable, hnone, hflow, hsave⟩ := attach_ok h
  have htransition : f.Transition command.attachedAt flow :=
    hflow ▸ .attached command.auth0Subject command.userId havailable hnone
  have he := htransition.evolves (hi.valid f hmem)
  obtain ⟨rfl, -, -⟩ := OAuthDb.saveFlow_ok hsave
  refine ⟨flow.toRow, Table.mem_upsert.mpr (.inl rfl),
    he.toSameIntent.symm.trans (he.toRow (hi.stored f hmem)).toSameIntent, ?_⟩
  show flow.auth0Subject = some command.auth0Subject
  rw [hflow]

theorem reuse_knows (hi : FlowsInv now db) {flow : OAuthAuthorizationFlow} {auth0Subject : String}
    {found : ReusableAgentConnection} (hk : TaskKnows S db (.reusing flow auth0Subject))
    (h : db.findReusable auth0Subject flow.clientId flow.resource flow.scopes = .ok (some found)) :
    TaskKnows S db (.approving flow.id flow.redirectUri flow.state found.id found.workspaceId) := by
  obtain ⟨f, hmem, hsame, hsubject⟩ := hk
  obtain ⟨c, hcmem, hcanonical, hreusable, rfl⟩ := OAuthDb.findReusable_some h
  unfold OAuthDb.reusable at hreusable
  simp only [Bool.and_eq_true, decide_eq_true_eq] at hreusable
  obtain ⟨⟨⟨⟨-, hcsubject⟩, hclient⟩, hresource⟩, -⟩ := hreusable
  refine ⟨f, hmem, hsame.id, hsame.redirectUri, c, hcmem, rfl, rfl, ?_⟩
  have hscopes := hi.canonical f hmem
  rw [← hsame.scopes, hscopes] at hcanonical
  exact ⟨by rw [hsubject, hcsubject], hclient.trans hsame.clientId.symm,
    hresource.trans hsame.resource.symm, (Option.some.inj hcanonical).symm⟩

theorem request_knows (hi : FlowsInv now db) {context : OAuthConsentContext}
    {continuationToken nonce : String} {connectionId : AgentConnectionId}
    {transactionId : AgentConnectionAuthorizationId} {c : AgentConnection}
    (hk : TaskKnows S db (.requesting context))
    (h : db.requestAgentConnection S.digest (context.request continuationToken nonce) connectionId
      transactionId now = .ok (c, db')) :
    TaskKnows S db' (.consuming context continuationToken nonce) := by
  obtain ⟨f, hmem, hcontext⟩ := hk
  obtain ⟨-, hpermissions, -, huser, hworkspace, hsubject, hclient, hresource, -, -, hauthorization,
    hsave⟩ := requestAgentConnection_ok h
  have hscopes : canonicalPermissions context.scopes = some context.scopes := by
    rw [hcontext.scopes]
    exact hi.canonical f hmem
  have hc : c.permissions = context.scopes := by
    have hrequested : canonicalPermissions context.scopes = some c.permissions := hpermissions
    rw [hscopes] at hrequested
    exact (Option.some.inj hrequested).symm
  obtain ⟨rfl, -, -⟩ := OAuthDb.saveConnection_ok hsave
  refine ⟨f, hmem, hcontext, c.toRow, Table.mem_upsert.mpr (.inl rfl), ?_, ?_, huser, hworkspace,
    hsubject, hclient, hresource, ?_⟩
  · show c.authorization.continuationDigest = _
    rw [hauthorization]
    rfl
  · show c.authorization.nonceDigest = _
    rw [hauthorization]
    rfl
  · rw [permissions_toRow (by rw [hc, hscopes]), hc]

/-- what an approved continuation has found and saved -/
theorem consumeContinuation_approved {id : AgentConnectionId} {continuation nonce : Sha256Digest}
    {c : AgentConnection}
    (h : db.consumeAgentConnectionContinuation id continuation nonce now = .ok (.approved c, db')) :
    ∃ c0 ∈ db.connections.rows, c0.Transition c ∧
      c0.authorization.continuationDigest = continuation ∧
      c0.authorization.nonceDigest = nonce ∧ c.status = .authorized ∧ db.userIsEligible c0 = true ∧
      db.saveConnection c = .ok db' := by
  unfold OAuthDb.consumeAgentConnectionContinuation at h
  rcases withConnection_ok h with ⟨hanswer, -⟩ | ⟨c0, hmem, -, -, hc⟩
  · cases hanswer
  · split at hc
    · cases hc
    · next heligible =>
      split at hc
      · cases hc
      · next c' hconsume =>
        obtain ⟨hanswer, hsave⟩ := savedConnection_ok hc
        cases hanswer
        obtain ⟨htransition, hcontinuation, hnonce⟩ :=
          AgentConnection.consumeContinuation_authorized hconsume
        refine ⟨c0, hmem, htransition, hcontinuation, hnonce, ?_, by simpa using heligible, hsave⟩
        unfold AgentConnection.consumeContinuation at hconsume
        split at hconsume
        · cases hconsume
        · cases hconsume
          rfl

theorem consume_knows (hi : ConnectionsInv now db) {context : OAuthConsentContext}
    {continuationToken nonce : String} {connectionId : AgentConnectionId} {c : AgentConnection}
    (hk : TaskKnows S db (.consumingConnection context continuationToken nonce connectionId))
    (h : db.consumeAgentConnectionContinuation connectionId (S.digest continuationToken)
      (S.digest nonce) now = .ok (.approved c, db')) :
    TaskKnows S db' (.approving context.requestId context.redirectUri context.state c.id
      c.workspaceId) := by
  obtain ⟨f, hmem, hcontext, g, hgmem, hcontinuation, -, hgrants⟩ := hk
  obtain ⟨c0, hcmem, htransition, hcontinuation', -, -, -, hsave⟩ := consumeContinuation_approved h
  -- there is one connection with this continuation
  have hsame : g = c0 := by
    by_contra hne
    have hid : g.id ≠ c0.id := fun hid => hne (db.connections.eq_of_key hgmem hcmem hid)
    have hapart := (hi.apart c0 hcmem g hgmem hid).transaction
    unfold AgentConnection.sharesTransaction at hapart
    rw [hcontinuation', hcontinuation] at hapart
    simp at hapart
  subst hsame
  have he := htransition.evolves.toRow (hi.stored g hgmem)
  have hserves := (hgrants.evolves he).serves hcontext
  have hflows := (saveConnection_rest hsave).1
  obtain ⟨rfl, -, -⟩ := OAuthDb.saveConnection_ok hsave
  exact ⟨f, hmem, hcontext.requestId.symm, hcontext.redirectUri.symm, c.toRow,
    Table.mem_upsert.mpr (.inl rfl), rfl, rfl, hserves⟩

theorem exchange_knows (hi : FlowsInv now db) {payload : TokenPayload}
    {grant : OAuthAuthorizationCodeGrant}
    (h : db.consumeOAuthAuthorizationCode S.digest (OAuthServer.consumeCommand payload now)
      = .ok (grant, db')) :
    ∃ f ∈ db'.flows.rows, ∃ code, ExchangedBy S.digest payload grant f code := by
  obtain ⟨f, hmem, code, auth0Subject, userId, he, hsubject, huser, rfl, hsave⟩ := consume_ok h
  have htransition : f.Transition now (f.exchanged code now) :=
    .exchanged code he.code_eq he.unused he.created he.unexpired
  have hevolves := (htransition.evolves (hi.valid f hmem)).toRow (hi.stored f hmem)
  obtain ⟨code', hcode', hce⟩ := hevolves.code code he.code_eq
  obtain ⟨rfl, -, -⟩ := OAuthDb.saveFlow_ok hsave
  refine ⟨_, Table.mem_upsert.mpr (.inl rfl), code', hcode', hce.codeDigest.trans he.digest_eq, ?_,
    hevolves.clientId.trans he.clientId, hevolves.redirectUri.trans he.redirectUri, hsubject, huser,
    ?_⟩
  · cases hcode'
    rfl
  · unfold OAuthAuthorizationFlow.grant
    rw [hce.agentConnectionId, hce.workspaceId, hce.expiresAt]
    rfl

/-! ## The invariant -/

variable {w w' : OAuthWorld}

/-- the change of the tables by a step -/
theorem OAuthMove.db_move (h : OAuthMove S now w w') : OAuthDbMove now w.db w'.db := by
  cases h with
  | background db h => exact h.move
  | admitted db principal h => exact h.move
  | ended call db hcall h => exact h.move
  | attached call command flow db task hcall hnow h htask =>
    subst hnow
    exact .flows (attach_move h)
  | reused call flow auth0Subject found hcall h => exact .refl now w.db
  | read call requestId context hcall h => exact .refl now w.db
  | requested call context connectionId transactionId continuationToken nonce c db hcall hnew h =>
    exact .connections (requestAgentConnection_move hnew h)
  | located call context continuationToken nonce connectionId hcall => exact .refl now w.db
  | consumed call context continuationToken nonce connectionId c db hcall h =>
    exact .connections (consumeContinuation_move h)
  | approved call command redirectUri state flow db redirects hcall hnow hexpires h hredirects =>
    subst hnow
    exact .flows (approve_move h)
  | exchanged call payload grant db task hcall h htask => exact .flows (consume_move h)
  | refused call payload grant db hcall h => exact h.move
  | issued call payload grant context instants tokenId nonce token db hcall hclock h htoken =>
    exact .connections (authorizeAgentConnection_move h)

theorem OAuthInv.knows (hi : OAuthInv S w) {call : Nat} {task : OAuthTask}
    (h : w.task call = some task) : TaskKnows S w.db task := by
  obtain ⟨c, hget, rfl⟩ := Option.map_eq_some_iff.mp h
  exact hi.tasks c (Table.get?_mem hget)

/-- the invariant after a step, if the call that has gone on is right -/
theorem OAuthInv.upsert (hi : OAuthInv S w) {call : Nat} {task : OAuthTask} {log : List OAuthRecord}
    (hle : w.clock ≤ now) (hm : OAuthDbMove now w.db db) (hk : TaskKnows S db task) :
    OAuthInv S ⟨now, db, w.calls.upsert ⟨call, task⟩, log⟩ := by
  have hconnections := hi.connections.mono hle
  have hflows := hi.flows.mono hle
  have hepoch : pgEpoch ≤ now := le_trans hi.epoch hle
  refine ⟨hepoch, hm.connectionsInv hconnections, hm.flowsInv hflows hepoch, ?_⟩
  intro x hx
  rcases Table.mem_upsert.mp hx with rfl | ⟨hold, -⟩
  · exact hk
  · exact (hi.tasks x hold).mono (fun c hc => hm.connection hconnections hc)
      (fun f hf => hm.flow hflows hf)

theorem OAuthInv.keep (hi : OAuthInv S w) {log : List OAuthRecord} (hle : w.clock ≤ now)
    (hm : OAuthDbMove now w.db db) : OAuthInv S ⟨now, db, w.calls, log⟩ := by
  have hconnections := hi.connections.mono hle
  have hflows := hi.flows.mono hle
  have hepoch : pgEpoch ≤ now := le_trans hi.epoch hle
  refine ⟨hepoch, hm.connectionsInv hconnections, hm.flowsInv hflows hepoch, ?_⟩
  intro x hx
  exact (hi.tasks x hx).mono (fun c hc => hm.connection hconnections hc)
    (fun f hf => hm.flow hflows hf)

/-- what the call of a task knows after the tables have moved -/
theorem OAuthInv.knows_after (hi : OAuthInv S w) (hle : w.clock ≤ now)
    (hm : OAuthDbMove now w.db db) {call : Nat} {task : OAuthTask} (h : w.task call = some task) :
    TaskKnows S db task :=
  (hi.knows h).mono (fun _ hc => hm.connection (hi.connections.mono hle) hc)
    (fun _ hf => hm.flow (hi.flows.mono hle) hf)

/-- **Every move keeps the invariant.** -/
theorem OAuthInv.move (hi : OAuthInv S w) (hle : w.clock ≤ now) (h : OAuthMove S now w w') :
    OAuthInv S w' := by
  have hm := h.db_move
  have hconnections := hi.connections.mono hle
  have hflows := hi.flows.mono hle
  cases h with
  | background db h => exact hi.keep hle hm
  | admitted db principal h => exact hi.keep hle hm
  | ended call db hcall h => exact hi.upsert hle hm trivial
  | attached call command flow db task hcall hnow h htask =>
    refine hi.upsert hle hm ?_
    rcases htask with rfl | rfl
    · exact trivial
    · exact attach_knows hflows h
  | reused call flow auth0Subject found hcall h =>
    exact hi.upsert hle hm (reuse_knows hflows (hi.knows hcall) h)
  | read call requestId context hcall h =>
    obtain ⟨r, hmem, -, hcontext⟩ := OAuthDb.consentContext_some h
    exact hi.upsert hle hm ⟨r, hmem, hcontext⟩
  | requested call context connectionId transactionId continuationToken nonce c db hcall hnew h =>
    exact hi.upsert hle hm (request_knows hflows (hi.knows hcall) h)
  | located call context continuationToken nonce connectionId hcall =>
    have hk : TaskKnows S w.db (.consuming context continuationToken nonce) := hi.knows hcall
    exact hi.upsert hle hm hk
  | consumed call context continuationToken nonce connectionId c db hcall h =>
    exact hi.upsert hle hm (consume_knows hconnections (hi.knows hcall) h)
  | approved call command redirectUri state flow db redirects hcall hnow hexpires h hredirects =>
    exact hi.upsert hle hm trivial
  | exchanged call payload grant db task hcall h htask =>
    refine hi.upsert hle hm ?_
    rcases htask with rfl | ⟨hverifier, rfl⟩
    · exact ⟨fun hsome => (by cases hsome), exchange_knows hflows h⟩
    · exact ⟨hverifier, exchange_knows hflows h⟩
  | refused call payload grant db hcall h =>
    obtain ⟨-, hexchanged⟩ := hi.knows_after hle hm hcall
    exact hi.upsert hle hm ⟨fun hsome => (by cases hsome), hexchanged⟩
  | issued call payload grant context instants tokenId nonce token db hcall hclock h htoken =>
    obtain ⟨hverifier, hexchanged⟩ := hi.knows_after hle hm hcall
    exact hi.upsert hle hm ⟨fun _ => hverifier, hexchanged⟩

theorem oauth_step (hi : OAuthInv S w) {e : OAuthEvent Nonce} (h : oauthStep S w e = some w') :
    OAuthInv S w' := by
  obtain ⟨hle, hm⟩ := oauthStep_move h
  exact hi.move hle hm

theorem oauthInv_empty (S : OAuthServer Key Nonce) : OAuthInv S .empty where
  epoch := le_rfl
  connections :=
    ⟨fun c hc => absurd hc (Table.mem_rows_empty c), fun c hc => absurd hc (Table.mem_rows_empty c),
      fun c hc => absurd hc (Table.mem_rows_empty c), fun c hc => absurd hc (Table.mem_rows_empty c)⟩
  flows :=
    ⟨fun f hf => absurd hf (Table.mem_rows_empty f), fun f hf => absurd hf (Table.mem_rows_empty f),
      fun f hf => absurd hf (Table.mem_rows_empty f), fun f hf => absurd hf (Table.mem_rows_empty f),
      fun f hf => absurd hf (Table.mem_rows_empty f), fun f hf => absurd hf (Table.mem_rows_empty f)⟩
  tasks := fun c hc => absurd hc (Table.mem_rows_empty c)

theorem oauth_run_from {events : List (OAuthEvent Nonce)} (hi : OAuthInv S w)
    (h : run (oauthStep S) w events = some w') : OAuthInv S w' :=
  run_inv (OAuthInv S) (fun _ _ _ hi hs => oauth_step hi hs) hi h

/-- **Every reachable state keeps the invariant.** -/
theorem oauth_run {events : List (OAuthEvent Nonce)} (h : run (oauthStep S) .empty events = some w) :
    OAuthInv S w :=
  oauth_run_from (oauthInv_empty S) h

end

end Proofplane
