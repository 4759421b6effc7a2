import Proofplane.OAuth.Issuance

/-!
# Codes that cannot be exchanged

A code and the connection that it names expire each at its own time.  The search for a connection to use
again looks at no instant, and the approval of a flow at none of the connection; the exchange looks at
both.

* `HandedOut`            a code as it leaves the server, `handedOut_of_move`;
* `exchange_succeeds_iff`   when a code can be exchanged, at one instant;
* `Undisturbed`, `Exchanges`   a code that can be exchanged until it expires, if nothing is taken away;
* `code_exchanges_iff`   **a code is such if and only if its connection does not expire before it**;
* `code_of_expired_connection`   a code that could not be exchanged from the start.
-/

namespace Proofplane
open Base

section
variable {Key Nonce : Type}

/-- a code that has been handed out for a flow, and the connection that it names -/
structure HandedOut (S : OAuthServer Key Nonce) (w : OAuthWorld) (requestId : OAuthAuthorizationRequestId)
    (code : String) (f : OAuthAuthorizationFlow) (issued : OAuthAuthorizationFlowCode)
    (c : AgentConnection) : Prop where
  stored : f ∈ w.db.flows.rows
  id : f.id = requestId
  code_eq : f.authorizationCode = some issued
  digest_eq : issued.codeDigest = S.digest code
  unused : issued.consumedAt = none
  unexpired : w.clock < issued.expiresAt
  connection : c ∈ w.db.connections.rows
  named : c.id = issued.agentConnectionId
  workspaceId : c.workspaceId = issued.workspaceId
  serves : ServedBy f c

/-- the request that presents the code of a flow as it should be -/
def OAuthAuthorizationFlow.presents (f : OAuthAuthorizationFlow) (code verifier : String) : TokenPayload :=
  ⟨f.clientId, f.redirectUri, code, verifier⟩

variable {S : OAuthServer Key Nonce} {now : Int} {w w' : OAuthWorld}
  {requestId : OAuthAuthorizationRequestId} {code : String} {f : OAuthAuthorizationFlow}
  {issued : OAuthAuthorizationFlowCode} {c : AgentConnection}

/-! ## One instant -/

/-- **A code is exchanged at an instant before its expiry if and only if its connection can be used then
and its user is who they were and a member.** -/
theorem exchange_succeeds_iff
    (hseals : ∀ key nonce payload footer assertion, ∃ token,
      S.tokens.layer.encrypt key nonce payload footer assertion = some token)
    (hi : OAuthInv S w) (h : HandedOut S w requestId code f issued c) {verifier : String}
    (hverifier : S.pkceChallenge verifier = f.codeChallenge) {t : Int} (hle : w.clock ≤ t)
    (hexpires : t < issued.expiresAt) (tokenId : Uuid) (nonce : Nonce) :
    (∃ token, (S.issueAccessToken w.db (f.presents code verifier) t tokenId nonce).1 = .ok token) ↔
      w.db.userIsEligible c = true ∧ c.usable t = true := by
  obtain ⟨userId, huser⟩ : ∃ userId, f.userId = some userId := by
    have hsome := (hi.flows.valid f h.stored).subject
    rw [h.serves.auth0Subject] at hsome
    exact Option.isSome_iff_exists.mp hsome.symm
  have hcreated : issued.createdAt ≤ t := by
    have hnow := hi.flows.codes f h.stored issued h.code_eq
    have hfloor : pgTimestamp w.clock ≤ w.clock := by
      rw [pgTimestamp_of_ge hi.epoch]
      omega
    omega
  have hexchangeable : Exchangeable f issued
      (S.digest (OAuthServer.consumeCommand (f.presents code verifier) t).code)
      (OAuthServer.consumeCommand (f.presents code verifier) t) :=
    ⟨h.code_eq, h.digest_eq, rfl, rfl, h.unused, hcreated, hexpires⟩
  have hconsume := consume_eq hi.flows h.stored hexchangeable h.serves.auth0Subject huser
  have hmatch : S.verifierMatches (f.presents code verifier)
      (f.grant issued c.auth0Subject userId) = true := decide_eq_true hverifier
  unfold OAuthServer.issueAccessToken
  rw [hconsume]
  dsimp only
  rw [hmatch, if_neg Bool.false_ne_true.symm]
  generalize hdb : ({ w.db with
      flows := w.db.flows.upsert (f.exchanged issued
        (OAuthServer.consumeCommand (f.presents code verifier) t).consumedAt).toRow } : OAuthDb) = db
  have hconnections : db.connections = w.db.connections := by
    rw [← hdb]
  have heligible : db.userIsEligible c = w.db.userIsEligible c := by
    rw [← hdb]
    rfl
  have hinv : ConnectionsInv w.clock db := hi.connections.congr hconnections
  have hc : c ∈ db.connections.rows := by
    rw [hconnections]
    exact h.connection
  constructor
  · rintro ⟨token, htoken⟩
    obtain ⟨context, hauthorize, -⟩ := issueTokenForCode_ok htoken
    rcases authorizeAgentConnection_ok hauthorize with
      ⟨hnone, -⟩ | ⟨c₀, hc₀, c', expected, hid, -, -, heligible₀, -, husable, -, -⟩
    · cases hnone
    · have hsame : c₀ = c := db.connections.eq_of_key hc₀ hc (hid.trans h.named.symm)
      rw [hsame] at heligible₀ husable
      exact ⟨heligible ▸ heligible₀, husable⟩
  · rintro ⟨helig, husable⟩
    have hcanonical : canonicalPermissions f.scopes = some c.permissions := by
      rw [hi.flows.canonical f h.stored, h.serves.permissions]
    have hmatches : OAuthDb.matchesAuthorization
        (OAuthServer.authorizeCommand (f.grant issued c.auth0Subject userId)) c.permissions c = true :=
      matchesAuthorization_iff.mpr
        ⟨h.workspaceId, rfl, h.serves.auth0ClientId, h.serves.resource, rfl⟩
    obtain ⟨c', -, hauthorize⟩ := authorizeAgentConnection_eq hinv hc h.named hcanonical hmatches
      (heligible.trans helig) husable hle (le_refl t)
    obtain ⟨sealed, hsealed⟩ := hseals S.tokens.keys.activeKey nonce
      ⟨S.tokens.issuer, S.tokens.audience, c.context.userId.uuid, tokenId, unixSec t, unixSec t,
        unixSec (t + accessTokenTtl),
        OAuthServer.grantClaims (f.grant issued c.auth0Subject userId) c.context⟩
      ⟨S.tokens.keys.activeKeyId⟩ mcpOAuthImplicitAssertion
    have hlater : ¬ t + accessTokenTtl ≤ t := by
      have hday : (0 : Int) < accessTokenTtl := by decide
      omega
    refine ⟨⟨sealed, tokenId, S.tokens.keys.activeKeyId, floorSec (t + accessTokenTtl)⟩, ?_⟩
    unfold OAuthServer.issueTokenForCode IssueInstants.once
    rw [hauthorize]
    dsimp only [settle]
    unfold PasetoTokens.encrypt
    dsimp only
    rw [if_neg hlater, hsealed]
    rfl

/-! ## Until its expiry -/

/-- **Every flow goes on to the end of every run.** -/
theorem flow_evolves {events : List (OAuthEvent Nonce)} (hi : OAuthInv S w)
    (h : run (oauthStep S) w events = some w') (hf : f ∈ w.db.flows.rows) :
    ∃ f' ∈ w'.db.flows.rows, f.Evolves f' := by
  refine run_rel (OAuthInv S)
    (fun w w' => ∀ f ∈ w.db.flows.rows, ∃ f' ∈ w'.db.flows.rows, f.Evolves f')
    (fun _ _ _ hi hs => oauth_step hi hs) (fun _ f hf => ⟨f, hf, .refl f⟩) ?_ ?_ hi h f hf
  · intro s t u hst htu f hf
    obtain ⟨f', hf', he⟩ := hst f hf
    obtain ⟨f'', hf'', he'⟩ := htu f' hf'
    exact ⟨f'', hf'', he.trans he'⟩
  · intro s e s' hi hs f hf
    obtain ⟨hle, hm⟩ := oauthStep_move hs
    exact hm.db_move.flow (hi.flows.mono hle) hf

/-- from one state to the other the connection has not been revoked, its user has remained who they were
and as much a member as before, and the code has not been exchanged -/
structure Undisturbed (w w' : OAuthWorld) (f : OAuthAuthorizationFlow) (c : AgentConnection) : Prop where
  revoked : ∀ c' ∈ w'.db.connections.rows, c'.id = c.id → c'.status = .revoked → c.status = .revoked
  user : w'.db.auth0Sub c.userId = w.db.auth0Sub c.userId
  member : w'.db.getMembershipRole c.workspaceId c.userId = w.db.getMembershipRole c.workspaceId c.userId
  unused : ∀ f' ∈ w'.db.flows.rows, f'.id = f.id → ∀ code, f'.authorizationCode = some code →
    code.consumedAt = none

theorem HandedOut.undisturbed (h : HandedOut S w requestId code f issued c) : Undisturbed w w f c where
  revoked := by
    intro c' hc' hid hrevoked
    rw [← w.db.connections.eq_of_key hc' h.connection hid]
    exact hrevoked
  user := rfl
  member := rfl
  unused := by
    intro f' hf' hid code' hcode'
    obtain rfl := w.db.flows.eq_of_key hf' h.stored hid
    obtain rfl := Option.some.inj (h.code_eq.symm.trans hcode')
    exact h.unused

/-- what was handed out is so still, as long as nobody has exchanged it -/
theorem HandedOut.later {events : List (OAuthEvent Nonce)} (hi : OAuthInv S w)
    (h : HandedOut S w requestId code f issued c) (hrun : run (oauthStep S) w events = some w')
    (hu : Undisturbed w w' f c) (hnow : w'.clock < issued.expiresAt) :
    ∃ f' issued' c', HandedOut S w' requestId code f' issued' c' ∧ f.Evolves f' ∧
      issued'.expiresAt = issued.expiresAt ∧ c.Evolves c' := by
  obtain ⟨f', hf', he⟩ := flow_evolves hi hrun h.stored
  obtain ⟨c', hc', hce⟩ := connection_evolves hi hrun h.connection
  obtain ⟨issued', hcode', hie⟩ := he.code issued h.code_eq
  refine ⟨f', issued', c', ⟨hf', he.id.trans h.id, hcode', hie.codeDigest.trans h.digest_eq,
    hu.unused f' hf' he.id issued' hcode', ?_, hc', ?_, ?_, h.serves.evolves he hce⟩, he, hie.expiresAt,
    hce⟩
  · rw [hie.expiresAt]
    exact hnow
  · rw [hce.id, hie.agentConnectionId]
    exact h.named
  · rw [hce.workspaceId, hie.workspaceId]
    exact h.workspaceId

/-- the code can be exchanged at every instant up to its expiry, if nothing is taken away before -/
def Exchanges (S : OAuthServer Key Nonce) (w : OAuthWorld) (f : OAuthAuthorizationFlow)
    (issued : OAuthAuthorizationFlowCode) (c : AgentConnection) (payload : TokenPayload) (tokenId : Uuid)
    (nonce : Nonce) : Prop :=
  ∀ later w' t, run (oauthStep S) w later = some w' → Undisturbed w w' f c → w'.clock ≤ t →
    t < issued.expiresAt →
    ∃ token, (S.issueAccessToken w'.db payload t tokenId nonce).1 = .ok token

/-- the connection outlives the code, and its user may use it -/
def Outlives (db : OAuthDb) (issued : OAuthAuthorizationFlowCode) (c : AgentConnection) : Prop :=
  db.userIsEligible c = true ∧
    (c.status = .active ∨ c.status = .authorized ∧ issued.expiresAt ≤ c.pendingExpiresAt)

/-- a connection that is not revoked can be used as long as it could be -/
theorem usable_of_evolves {c' : AgentConnection} (he : c.Evolves c')
    (hrevoked : c'.status = .revoked → c.status = .revoked) {t : Int}
    (h : c.status = .active ∨ c.status = .authorized ∧ t < c.pendingExpiresAt) : c'.usable t = true := by
  have hrank := he.rank
  rw [usable_iff, he.pendingExpiresAt]
  rcases h with hstatus | ⟨hstatus, ht⟩
  · rw [hstatus] at hrank hrevoked
    cases hs : c'.status with
    | active => exact .inl rfl
    | pending =>
      rw [hs] at hrank
      exact absurd hrank (by decide)
    | authorized =>
      rw [hs] at hrank
      exact absurd hrank (by decide)
    | revoked => exact absurd (hrevoked hs) (by decide)
  · rw [hstatus] at hrank hrevoked
    cases hs : c'.status with
    | active => exact .inl rfl
    | authorized => exact .inr ⟨rfl, ht⟩
    | pending =>
      rw [hs] at hrank
      exact absurd hrank (by decide)
    | revoked => exact absurd (hrevoked hs) (by decide)

/-- **A code that was handed out can be exchanged until its expiry if and only if its connection outlives
it.** -/
theorem exchanges_iff
    (hseals : ∀ key nonce payload footer assertion, ∃ token,
      S.tokens.layer.encrypt key nonce payload footer assertion = some token)
    (hi : OAuthInv S w) (h : HandedOut S w requestId code f issued c) {verifier : String}
    (hverifier : S.pkceChallenge verifier = f.codeChallenge) (tokenId : Uuid) (nonce : Nonce) :
    Exchanges S w f issued c (f.presents code verifier) tokenId nonce ↔ Outlives w.db issued c := by
  constructor
  · intro hexchanges
    -- nothing happens, and the code is presented at once or when the connection expires
    have hat : ∀ t, w.clock ≤ t → t < issued.expiresAt →
        w.db.userIsEligible c = true ∧ c.usable t = true := fun t hle hlt =>
      (exchange_succeeds_iff hseals hi h hverifier hle hlt tokenId nonce).mp
        (hexchanges [] w t rfl h.undisturbed hle hlt)
    obtain ⟨heligible, husable⟩ := hat w.clock le_rfl h.unexpired
    refine ⟨heligible, ?_⟩
    rcases usable_iff.mp husable with hactive | ⟨hauthorized, hnow⟩
    · exact .inl hactive
    · refine .inr ⟨hauthorized, ?_⟩
      by_contra hlt
      have hend := (hat c.pendingExpiresAt (le_of_lt hnow) (not_le.mp hlt)).2
      rcases usable_iff.mp hend with hactive | ⟨-, hself⟩
      · rw [hauthorized] at hactive
        cases hactive
      · exact lt_irrefl _ hself
  · rintro ⟨heligible, hstatus⟩ later w' t hrun hu hle hlt
    have hi' := oauth_run_from hi hrun
    obtain ⟨f', issued', c', h', he, hexpires, hce⟩ := h.later hi hrun hu (lt_of_le_of_lt hle hlt)
    have hpresents : f.presents code verifier = f'.presents code verifier := by
      unfold OAuthAuthorizationFlow.presents
      rw [he.clientId, he.redirectUri]
    rw [hpresents]
    refine (exchange_succeeds_iff hseals hi' h' (hverifier.trans he.codeChallenge.symm) hle
      (hexpires ▸ hlt) tokenId nonce).mpr ⟨?_, ?_⟩
    · obtain ⟨huser, hmember⟩ := userIsEligible_iff.mp heligible
      refine userIsEligible_iff.mpr ⟨?_, ?_⟩
      · rw [hce.userId, hce.auth0Subject, hu.user]
        exact huser
      · rw [hce.workspaceId, hce.userId, hu.member]
        exact hmember
    · refine usable_of_evolves hce (hu.revoked c' h'.connection hce.id) ?_
      rcases hstatus with hactive | ⟨hauthorized, houtlives⟩
      · exact .inl hactive
      · exact .inr ⟨hauthorized, lt_of_lt_of_le hlt houtlives⟩

/-! ## Every code -/

/-- a redirect with a code is returned by an approval, for a connection that gives what the flow asks for -/
theorem handedOut_of_move (hi : OAuthInv S w) (hle : w.clock ≤ now) (hm : OAuthMove S now w w')
    (hlog : w'.log = .redirected requestId code :: .approved requestId (S.digest code) :: w.log) :
    ∃ f issued c, HandedOut S w' requestId code f issued c := by
  have hlength : w'.log.length = w.log.length + 2 := congrArg List.length hlog
  cases hm with
  | approved call command redirectUri state flow db redirects hcall hnow hexpires hr hredirects =>
    rcases hredirects with rfl | rfl
    · cases (List.cons.inj hlog).1
    · cases (List.cons.inj hlog).1
      obtain ⟨f, hf, hid, havailable, hsubject, huser, rfl, hsave⟩ := approve_ok hr
      obtain ⟨f₁, hf₁, hid₁, -, c, hc, hcid, hworkspace, hserves⟩ := hi.knows hcall
      obtain rfl := w.db.flows.eq_of_key hf₁ hf (hid₁.trans hid.symm)
      have he := (OAuthAuthorizationFlow.Transition.approved (command.issued S.digest) havailable hsubject
        huser rfl rfl).evolves (hi.flows.valid f₁ hf₁)
      have hconnections := (saveFlow_rest hsave).1
      obtain ⟨hdb, -, -⟩ := OAuthDb.saveFlow_ok hsave
      have hepoch : pgEpoch ≤ now := le_trans hi.epoch hle
      refine ⟨OAuthAuthorizationFlow.toRow { f₁ with
          consumedAt := some command.approvedAt
          authorizationCode := some (command.issued S.digest) },
        (command.issued S.digest).toRow, c, ?_, hid, rfl, rfl, rfl, ?_, ?_, hcid, hworkspace,
        hserves.evolves (he.toRow (hi.flows.stored f₁ hf₁)) (.refl c)⟩
      · show _ ∈ db.flows.rows
        rw [hdb]
        exact Table.mem_upsert.mpr (.inl rfl)
      · show now < pgTimestamp command.codeExpiresAt
        have httl : authorizationCodeTtl = 300000000000 := by decide
        rw [hexpires, httl, pgTimestamp_of_ge (by omega)]
        omega
      · show c ∈ db.connections.rows
        rw [hconnections]
        exact hc
  | background db hq => exact absurd hlength (by simp)
  | admitted db principal hq => exact absurd hlength (by simp)
  | ended call db hcall hq => exact absurd hlength (by simp)
  | attached call command flow db task hcall hnow hattach htask => exact absurd hlength (by simp)
  | reused call flow auth0Subject found hcall hfound => exact absurd hlength (by simp)
  | read call requestId context hcall hcontext => exact absurd hlength (by simp)
  | requested call context connectionId transactionId continuationToken nonce c db hcall hnew hr =>
    exact absurd hlength (by simp)
  | located call context continuationToken nonce connectionId hcall => exact absurd hlength (by simp)
  | consumed call context continuationToken nonce connectionId c db hcall hr =>
    exact absurd hlength (by simp)
  | exchanged call payload grant db task hcall hr htask => exact absurd hlength (by simp)
  | refused call payload grant db hcall hq => exact absurd hlength (by simp)
  | issued call payload grant context instants tokenId nonce token db hcall hclock hr htoken =>
    exact absurd hlength (by simp)

/-- **When a code that is handed out can be exchanged.**  In every reachable state: a redirect with a code
leaves a flow with the code and the connection that it names, and the code can be exchanged at every
instant up to its expiry, if nothing is taken away before, if and only if at that moment the user of the
connection is who they were and a member, and the connection is active, or authorized and does not expire
before the code. -/
theorem code_exchanges_iff (S : OAuthServer Key Nonce)
    (hseals : ∀ key nonce payload footer assertion, ∃ token,
      S.tokens.layer.encrypt key nonce payload footer assertion = some token)
    {events : List (OAuthEvent Nonce)} {w : OAuthWorld}
    (hrun : run (oauthStep S) .empty events = some w) {e : OAuthEvent Nonce} {w' : OAuthWorld}
    (hstep : oauthStep S w e = some w') {requestId : OAuthAuthorizationRequestId} {code : String}
    (hlog : w'.log = .redirected requestId code :: .approved requestId (S.digest code) :: w.log) :
    ∃ f issued c, HandedOut S w' requestId code f issued c ∧ ∀ verifier,
      S.pkceChallenge verifier = f.codeChallenge → ∀ tokenId nonce,
      (Exchanges S w' f issued c (f.presents code verifier) tokenId nonce ↔
        Outlives w'.db issued c) := by
  have hi := oauth_run hrun
  obtain ⟨hle, hm⟩ := oauthStep_move hstep
  obtain ⟨f, issued, c, h⟩ := handedOut_of_move hi hle hm hlog
  exact ⟨f, issued, c, h, fun verifier hverifier tokenId nonce =>
    exchanges_iff hseals (hi.move hle hm) h hverifier tokenId nonce⟩

end

/-! The consent of the new year as far as its code, on a server that seals every token. -/

def sealingServer : OAuthServer Unit Unit :=
  { newYearServer with
    tokens := { newYearServer.tokens with
      layer := { newYearServer.tokens.layer with encrypt := fun _ _ _ _ _ => some "token" } } }

def newYearApproving : List (OAuthEvent Unit) :=
  newYearAccounts :: newYearLogin 10 "csrf-1" 0 0 ++
    [.approveConsent 1 ⟨10⟩ (newYear 2) true,
      .requestConnection 1 ⟨20⟩ ⟨21⟩ "continuation-1" "nonce-1" (newYear 3) .none,
      .findContinuation 1 true, .consumeContinuation 1 (newYear 3) .none]

def newYearApproval : OAuthEvent Unit := .approve 1 "code-1" (newYear 3) .none

theorem code_exchanges_iff_newYear :
    ∃ w w', run (oauthStep sealingServer) .empty newYearApproving = some w ∧
      oauthStep sealingServer w newYearApproval = some w' ∧
      ∃ f issued c, HandedOut sealingServer w' ⟨10⟩ "code-1" f issued c ∧
        ∀ verifier, sealingServer.pkceChallenge verifier = f.codeChallenge → ∀ tokenId nonce,
        (Exchanges sealingServer w' f issued c (f.presents "code-1" verifier) tokenId nonce ↔
          Outlives w'.db issued c) := by
  have hview : ((run (oauthStep sealingServer) .empty newYearApproving).bind fun w =>
      (oauthStep sealingServer w newYearApproval).map fun w' =>
        decide (w'.log = .redirected ⟨10⟩ "code-1" :: .approved ⟨10⟩ (sealingServer.digest "code-1") :: w.log))
      = some true := by
    decide
  obtain ⟨w, hw, hstep⟩ := Option.bind_eq_some_iff.mp hview
  obtain ⟨w', hw', hlog⟩ := Option.map_eq_some_iff.mp hstep
  exact ⟨w, w', hw, hw', code_exchanges_iff sealingServer (fun _ _ _ _ _ => ⟨"token", rfl⟩) hw hw'
    (of_decide_eq_true hlog)⟩

/-! The same consent, whose code is never exchanged, and the same user eleven minutes later. -/

def reuseApproving : List (OAuthEvent Unit) := newYearConsent ++ newYearLogin 11 "csrf-2" 2 660

def reuseApproval : OAuthEvent Unit := .approve 2 "code-2" (newYear 662) .none

def reusePayload : TokenPayload := ⟨newYearClient, newYearRedirect, "code-2", "challenge"⟩

/-- the exchange is refused -/
def refusedAsInvalid (r : Except OAuthError IssuedPasetoToken) : Bool :=
  match r with
  | .error .invalidGrant => true
  | _ => false

theorem refusedAsInvalid_iff {r : Except OAuthError IssuedPasetoToken} :
    refusedAsInvalid r = true ↔ r = .error .invalidGrant := by
  constructor
  · intro h
    unfold refusedAsInvalid at h
    split at h
    · rfl
    · cases h
  · rintro rfl
    rfl

/-- **A code that could not be exchanged from the start**: the connection of the first consent is still
authorized and has expired, the second login uses it again, and the new code is refused a second after it
is handed out, with five minutes to go. -/
theorem code_of_expired_connection :
    ∃ w w', run (oauthStep newYearServer) .empty reuseApproving = some w ∧
      oauthStep newYearServer w reuseApproval = some w' ∧
      w'.log = .redirected ⟨11⟩ "code-2" :: .approved ⟨11⟩ (newYearServer.digest "code-2") :: w.log ∧
      ∃ f issued c, HandedOut newYearServer w' ⟨11⟩ "code-2" f issued c ∧
        newYearServer.pkceChallenge "challenge" = f.codeChallenge ∧
        f.presents "code-2" "challenge" = reusePayload ∧ newYear 663 < issued.expiresAt ∧
        (newYearServer.issueAccessToken w'.db reusePayload (newYear 663) 30 ()).1 = .error .invalidGrant ∧
        ¬ Exchanges newYearServer w' f issued c reusePayload 30 () := by
  have hview : ((run (oauthStep newYearServer) .empty reuseApproving).bind fun w =>
      (oauthStep newYearServer w reuseApproval).map fun w' =>
        (decide (w'.log = .redirected ⟨11⟩ "code-2" ::
            .approved ⟨11⟩ (newYearServer.digest "code-2") :: w.log),
          refusedAsInvalid (newYearServer.issueAccessToken w'.db reusePayload (newYear 663) 30 ()).1,
          w'.clock, w'.db.flows.rows.all fun f => f.id ≠ ⟨11⟩ ∨
            f.codeChallenge = "challenge" ∧ f.presents "code-2" "challenge" = reusePayload ∧
            f.authorizationCode.map (·.expiresAt) = some (newYear 962)))
      = some (true, true, newYear 662, true) := by
    decide
  obtain ⟨w, hw, hstep⟩ := Option.bind_eq_some_iff.mp hview
  obtain ⟨w', hw', hviews⟩ := Option.map_eq_some_iff.mp hstep
  rw [Prod.mk.injEq, Prod.mk.injEq, Prod.mk.injEq, decide_eq_true_eq] at hviews
  obtain ⟨hlog, hrefused, hclock, hflows⟩ := hviews
  have hi := oauth_run hw
  obtain ⟨hle, hm⟩ := oauthStep_move hw'
  obtain ⟨f, issued, c, h⟩ := handedOut_of_move hi hle hm hlog
  have hflow := of_decide_eq_true (List.all_eq_true.mp hflows f h.stored)
  obtain ⟨hchallenge, hpresents, hexpires⟩ := hflow.resolve_left (not_not.mpr h.id)
  rw [h.code_eq] at hexpires
  have hexpiry : issued.expiresAt = newYear 962 := Option.some.inj hexpires
  have hlt : newYear 663 < issued.expiresAt := by
    rw [hexpiry]
    decide
  have hinvalid := refusedAsInvalid_iff.mp hrefused
  refine ⟨w, w', hw, hw', hlog, f, issued, c, h, hchallenge.symm, hpresents, hlt, hinvalid, ?_⟩
  intro hexchanges
  have hnow : w'.clock ≤ newYear 663 := by
    rw [hclock]
    decide
  obtain ⟨token, htoken⟩ := hexchanges [] w' (newYear 663) rfl h.undisturbed hnow hlt
  rw [hinvalid] at htoken
  cases htoken

end Proofplane
