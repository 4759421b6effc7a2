import Proofplane.OAuth.Invariant

/-!
# Who gets in

Every request of an agent is checked against its token and against the connection that the token names,
in one unit of work.  A revoked connection stays revoked, so nobody gets in by it again.

* `Admissible`            what a request must be to be admitted;
* `admitted_iff`          **a request is admitted if and only if it is such**;
* `admitted_by`           whatever goes wrong, nobody is admitted by a connection that cannot be used;
* `revoked_forever`       a revoked connection is still revoked at the end of every run;
* `mcp_request_authorization`   all of it, for requests and for the exchange of codes.
-/

namespace Proofplane
open Base

section
variable {Key Nonce : Type}

/-- the token names a connection that is what it says, whose user is still who they were and a member of
the workspace, and that can be used -/
structure Named (S : OAuthServer Key Nonce) (db : OAuthDb) (verified : VerifiedPasetoToken McpOAuthClaims)
    (scopes : List WorkspacePermission) (activatedAt : Int) (c : AgentConnection) : Prop where
  stored : c ∈ db.connections.rows
  id : c.id.uuid = verified.claims.connectionId
  workspaceId : c.workspaceId.uuid = verified.claims.workspaceId
  auth0Subject : c.auth0Subject = verified.claims.auth0Subject
  auth0ClientId : c.auth0ClientId = verified.claims.clientId
  permissions : c.permissions = scopes
  resource : c.resource = S.resource
  user : db.auth0Sub c.userId = some verified.claims.auth0Subject
  member : (db.getMembershipRole c.workspaceId c.userId).isSome = true
  usable : c.status = .active ∨ c.status = .authorized ∧ activatedAt < c.pendingExpiresAt

/-- the principal carries what the connection grants -/
structure PrincipalOf (c : AgentConnection) (principal : AgentConnectionContext) : Prop where
  userId : principal.userId = c.userId
  connectionId : principal.connectionId = c.id
  workspaceId : principal.workspaceId = c.workspaceId
  permissions : principal.permissions = .fromIter c.permissions

/-- what a request must be to be admitted as this principal -/
def Admissible (S : OAuthServer Key Nonce) (db : OAuthDb) (authorization : Option String)
    (verifiedAt activatedAt : Int) (principal : AgentConnectionContext) : Prop :=
  ∃ token verified scopes c, bearerToken authorization = some token ∧
    S.tokens.decrypt token verifiedAt = .ok verified ∧ verifiedAt < verified.expiresAt ∧
    parseScope (joinSpaces verified.claims.scopes) = some scopes ∧
    Named S db verified scopes activatedAt c ∧ PrincipalOf c principal

variable {S : OAuthServer Key Nonce} {now : Int} {db : OAuthDb}

/-! ## One connection -/

theorem usable_iff {c : AgentConnection} : c.usable now = true ↔
    c.status = .active ∨ c.status = .authorized ∧ now < c.pendingExpiresAt := by
  unfold AgentConnection.usable
  cases c.status <;> simp

theorem userIsEligible_iff {c : AgentConnection} : db.userIsEligible c = true ↔
    db.auth0Sub c.userId = some c.auth0Subject ∧
      (db.getMembershipRole c.workspaceId c.userId).isSome = true := by
  unfold OAuthDb.userIsEligible
  rw [Bool.and_eq_true, Option.any_eq_true]
  constructor
  · rintro ⟨⟨sub, hsub, heq⟩, hmember⟩
    rw [decide_eq_true_eq] at heq
    exact ⟨by rw [hsub, heq], hmember⟩
  · rintro ⟨hsub, hmember⟩
    exact ⟨⟨_, hsub, decide_eq_true rfl⟩, hmember⟩

theorem matchesAuthorization_iff {command : AuthorizeAgentConnection}
    {expected : List WorkspacePermission} {c : AgentConnection} :
    OAuthDb.matchesAuthorization command expected c = true ↔
      c.workspaceId = command.workspaceId ∧ c.auth0Subject = command.auth0Subject ∧
        c.auth0ClientId = command.auth0ClientId ∧ c.resource = command.resource ∧
        c.permissions = expected := by
  unfold OAuthDb.matchesAuthorization
  simp only [Bool.and_eq_true, decide_eq_true_eq, and_assoc]

theorem context_eq_iff {c : AgentConnection} {principal : AgentConnectionContext} :
    c.context = principal ↔ PrincipalOf c principal := by
  constructor
  · rintro rfl
    exact ⟨rfl, rfl, rfl, rfl⟩
  · rintro ⟨huser, hid, hworkspace, hpermissions⟩
    cases principal
    cases huser
    cases hid
    cases hworkspace
    cases hpermissions
    rfl

/-- the command that verified claims lead to -/
def OAuthServer.claimsCommand (S : OAuthServer Key Nonce)
    (verified : VerifiedPasetoToken McpOAuthClaims) (scopes : List WorkspacePermission) :
    AuthorizeAgentConnection :=
  ⟨⟨verified.claims.connectionId⟩, ⟨verified.claims.workspaceId⟩, verified.claims.auth0Subject,
    verified.claims.clientId, S.resource, scopes⟩

/-- a connection that the token names is one that the command authorizes -/
theorem named_iff {verified : VerifiedPasetoToken McpOAuthClaims} {scopes : List WorkspacePermission}
    {activatedAt : Int} {c : AgentConnection} (hc : c ∈ db.connections.rows) :
    Named S db verified scopes activatedAt c ↔
      c.id = (S.claimsCommand verified scopes).connectionId ∧
        OAuthDb.matchesAuthorization (S.claimsCommand verified scopes) scopes c = true ∧
        db.userIsEligible c = true ∧ c.usable activatedAt = true := by
  rw [matchesAuthorization_iff, userIsEligible_iff, usable_iff]
  constructor
  · rintro ⟨-, hid, hworkspace, hsubject, hclient, hpermissions, hresource, huser, hmember, husable⟩
    exact ⟨Id.ext hid, ⟨Id.ext hworkspace, hsubject, hclient, hresource, hpermissions⟩,
      ⟨by rw [huser, hsubject], hmember⟩, husable⟩
  · rintro ⟨hid, ⟨hworkspace, hsubject, hclient, hresource, hpermissions⟩, ⟨huser, hmember⟩, husable⟩
    refine ⟨hc, congrArg Id.uuid hid, congrArg Id.uuid hworkspace, hsubject, hclient, hpermissions,
      hresource, ?_, hmember, husable⟩
    rw [huser, hsubject]
    rfl

/-! ## One request -/

variable {authorization : Option String} {verifiedAt activatedAt usedAt : Int}
  {principal : AgentConnectionContext}

/-- what an answer to a request rests on -/
theorem authenticateRequest_admitted {fault : CommitFault}
    (h : (S.authenticateRequest db authorization verifiedAt activatedAt usedAt fault).1
      = .admitted principal) :
    ∃ token verified scopes db', bearerToken authorization = some token ∧
      S.tokens.decrypt token verifiedAt = .ok verified ∧
      parseScope (joinSpaces verified.claims.scopes) = some scopes ∧
      db.authorizeAgentConnection (S.claimsCommand verified scopes) activatedAt usedAt
        = .ok (some principal, db') := by
  unfold OAuthServer.authenticateRequest at h
  split at h
  · cases h
  · next token htoken =>
    split at h
    · cases h
    · next claims hclaims =>
      unfold McpOAuthTokens.verifyAccessToken at hclaims
      split at hclaims
      · cases hclaims
      · next verified hverified =>
        split at hclaims
        · cases hclaims
        · next scopes hscopes =>
          cases hclaims
          dsimp only [OAuthServer.requestCommand] at h
          split at h
          · cases h
          · cases h
          · next context hanswer =>
            cases h
            obtain ⟨hr, -⟩ := settle_ok hanswer
            exact ⟨token, verified, scopes, _, htoken, hverified, hscopes, hr⟩

/-- **Whatever goes wrong with the commit, nobody is admitted who is not admissible.** -/
theorem admitted_by {fault : CommitFault}
    (h : (S.authenticateRequest db authorization verifiedAt activatedAt usedAt fault).1
      = .admitted principal) : Admissible S db authorization verifiedAt activatedAt principal := by
  obtain ⟨token, verified, scopes, db', htoken, hverified, hscopes, hauthorized⟩ :=
    authenticateRequest_admitted h
  rcases authorizeAgentConnection_ok hauthorized with
    ⟨hnone, -⟩ | ⟨c, hmem, c', expected, hid, hexpected, hmatches, heligible, -, husable, -, hanswer⟩
  · cases hnone
  · have hcanonical : canonicalPermissions scopes = some scopes := canonical_of_parseScope hscopes
    have hsame : scopes = expected := Option.some.inj (hcanonical.symm.trans hexpected)
    subst hsame
    exact ⟨token, verified, scopes, c, htoken, hverified, PasetoTokens.decrypt_unexpired hverified, hscopes,
      (named_iff hmem).mpr ⟨hid, hmatches, heligible, husable⟩,
      context_eq_iff.mp (Option.some.inj hanswer).symm⟩

/-- **A request is admitted if and only if it is admissible.** -/
theorem admitted_iff (hi : ConnectionsInv now db) (hverified : now ≤ verifiedAt)
    (hactivated : verifiedAt ≤ activatedAt) (hused : activatedAt ≤ usedAt) :
    (S.authenticateRequest db authorization verifiedAt activatedAt usedAt .none).1 = .admitted principal ↔
      Admissible S db authorization verifiedAt activatedAt principal := by
  constructor
  · exact admitted_by
  · rintro ⟨token, verified, scopes, c, htoken, hdecrypt, -, hscopes, hnamed, hprincipal⟩
    obtain ⟨hid, hmatches, heligible, husable⟩ := (named_iff hnamed.stored).mp hnamed
    obtain ⟨c', -, hauthorize⟩ := authorizeAgentConnection_eq hi hnamed.stored hid
      (canonical_of_parseScope hscopes) hmatches heligible husable (le_trans hverified hactivated) hused
    have hclaims : S.tokens.verifyAccessToken token verifiedAt
        = .ok ⟨verified.claims.auth0Subject, verified.claims.clientId, scopes,
          some ⟨verified.claims.connectionId⟩, some ⟨verified.claims.workspaceId⟩⟩ := by
      unfold McpOAuthTokens.verifyAccessToken
      rw [hdecrypt]
      dsimp only
      rw [hscopes]
    unfold OAuthServer.authenticateRequest
    rw [htoken]
    dsimp only
    rw [hclaims]
    dsimp only [OAuthServer.requestCommand]
    unfold OAuthServer.claimsCommand at hauthorize
    rw [hauthorize]
    dsimp only [settle]
    rw [context_eq_iff.mpr hprincipal]

/-- a token that is issued for a code is issued for a connection that can be used, of a member -/
theorem issued_by {grant : OAuthAuthorizationCodeGrant} {instants : IssueInstants} {tokenId : Uuid}
    {nonce : Nonce} {fault : CommitFault} {token : IssuedPasetoToken}
    (h : (S.issueTokenForCode db grant instants tokenId nonce fault).1 = .ok token) :
    ∃ c ∈ db.connections.rows, c.id = grant.agentConnectionId ∧ c.usable instants.activatedAt = true ∧
      (db.getMembershipRole c.workspaceId c.userId).isSome = true := by
  obtain ⟨context, hauthorized, -⟩ := issueTokenForCode_ok h
  rcases authorizeAgentConnection_ok hauthorized with
    ⟨hnone, -⟩ | ⟨c, hmem, c', expected, hid, -, -, heligible, -, husable, -, -⟩
  · cases hnone
  · exact ⟨c, hmem, hid, husable, (userIsEligible_iff.mp heligible).2⟩

/-! ## Revocation -/

variable {w w' : OAuthWorld}

/-- **Every connection goes on to the end of every run.** -/
theorem connection_evolves {events : List (OAuthEvent Nonce)} (hi : OAuthInv S w)
    (h : run (oauthStep S) w events = some w') {c : AgentConnection}
    (hc : c ∈ w.db.connections.rows) : ∃ c' ∈ w'.db.connections.rows, c.Evolves c' := by
  refine run_rel (OAuthInv S)
    (fun w w' => ∀ c ∈ w.db.connections.rows, ∃ c' ∈ w'.db.connections.rows, c.Evolves c')
    (fun _ _ _ hi hs => oauth_step hi hs) (fun _ c hc => ⟨c, hc, .refl c⟩) ?_ ?_ hi h c hc
  · intro s t u hst htu c hc
    obtain ⟨c', hc', he⟩ := hst c hc
    obtain ⟨c'', hc'', he'⟩ := htu c' hc'
    exact ⟨c'', hc'', he.trans he'⟩
  · intro s e s' hi hs c hc
    obtain ⟨hle, hm⟩ := oauthStep_move hs
    exact hm.db_move.connection (hi.connections.mono hle) hc

theorem revoked_forever {events : List (OAuthEvent Nonce)} (hi : OAuthInv S w)
    (h : run (oauthStep S) w events = some w') {c : AgentConnection}
    (hc : c ∈ w.db.connections.rows) (hrevoked : c.status = .revoked) :
    ∀ c' ∈ w'.db.connections.rows, c'.id = c.id → c'.status = .revoked := by
  intro c' hc' hid
  obtain ⟨c'', hc'', he⟩ := connection_evolves hi h hc
  have hsame : c' = c'' := w'.db.connections.eq_of_key hc' hc'' (hid.trans he.id.symm)
  rw [hsame]
  exact he.revoked hrevoked

theorem not_usable_of_revoked {c : AgentConnection} (h : c.status = .revoked) : c.usable now = false := by
  unfold AgentConnection.usable
  rw [h]

/-- the commit of a revocation leaves a revoked connection -/
theorem revoke_commits {command : RevokeAgentConnection} {fault : CommitFault}
    (h : oauthStep S w (.revoke command now fault) = some w')
    (hlanded : landed fault (w.db.revokeAgentConnection command now) = some true) :
    ∃ c ∈ w'.db.connections.rows, c.id = command.connectionId ∧ c.status = .revoked := by
  obtain ⟨-, rfl⟩ := ticked_some h
  show ∃ c ∈ (settle _ fault w.db (w.db.revokeAgentConnection command now)).2.connections.rows, _
  cases settle_cases (AgentConnectionCommandError.repository .database) fault w.db
    (w.db.revokeAgentConnection command now) with
  | nothing e hstate hanswer hnone =>
    rw [hnone] at hlanded
    cases hlanded
  | committed answer db hr hstate hanswer hsome =>
    rw [hsome] at hlanded
    cases hlanded
    rw [hstate]
    rcases revokeAgentConnection_ok hr with ⟨hfalse, -⟩ | ⟨-, c, -, c', hid, htransition, hstatus, hsave⟩
    · cases hfalse
    · obtain ⟨rfl, -, -⟩ := OAuthDb.saveConnection_ok hsave
      exact ⟨c'.toRow, Table.mem_upsert.mpr (.inl rfl), htransition.evolves.id.trans hid, hstatus⟩

end

/-- **Requests of agents.**  In every reachable state: a request is admitted if and only if it is
admissible; whoever is admitted carries what a stored connection of a member grants; a token is issued for
a code only by a stored connection of a member; a revocation that commits leaves a revoked connection; and
by a revoked connection no request is admitted and no code is exchanged, whatever comes after. -/
theorem mcp_request_authorization {Key Nonce : Type} (S : OAuthServer Key Nonce)
    {events : List (OAuthEvent Nonce)} {w : OAuthWorld}
    (hrun : run (oauthStep S) .empty events = some w) :
    (∀ authorization verifiedAt activatedAt usedAt principal, w.clock ≤ verifiedAt →
      verifiedAt ≤ activatedAt → activatedAt ≤ usedAt →
      ((S.authenticateRequest w.db authorization verifiedAt activatedAt usedAt .none).1
          = .admitted principal ↔
        Admissible S w.db authorization verifiedAt activatedAt principal)) ∧
    (∀ authorization verifiedAt activatedAt usedAt fault principal,
      (S.authenticateRequest w.db authorization verifiedAt activatedAt usedAt fault).1
        = .admitted principal →
      ∃ c ∈ w.db.connections.rows, PrincipalOf c principal ∧
        (∀ p, principal.permissions.has p = true ↔ p ∈ c.permissions) ∧
        (w.db.getMembershipRole principal.workspaceId principal.userId).isSome = true) ∧
    (∀ grant instants tokenId nonce fault token,
      (S.issueTokenForCode w.db grant instants tokenId nonce fault).1 = .ok token →
      ∃ c ∈ w.db.connections.rows, c.id = grant.agentConnectionId ∧
        (w.db.getMembershipRole c.workspaceId c.userId).isSome = true) ∧
    (∀ command now fault w', oauthStep S w (.revoke command now fault) = some w' →
      landed fault (w.db.revokeAgentConnection command now) = some true →
      ∃ c ∈ w'.db.connections.rows, c.id = command.connectionId ∧ c.status = .revoked) ∧
    ∀ c ∈ w.db.connections.rows, c.status = .revoked → ∀ later w',
      run (oauthStep S) w later = some w' →
      (∀ authorization verifiedAt activatedAt usedAt fault principal,
        (S.authenticateRequest w'.db authorization verifiedAt activatedAt usedAt fault).1
          = .admitted principal → principal.connectionId ≠ c.id) ∧
      ∀ grant instants tokenId nonce fault token,
        (S.issueTokenForCode w'.db grant instants tokenId nonce fault).1 = .ok token →
        grant.agentConnectionId ≠ c.id := by
  have hi := oauth_run hrun
  refine ⟨?_, ?_, ?_, ?_, ?_⟩
  · intro authorization verifiedAt activatedAt usedAt principal hverified hactivated hused
    exact admitted_iff hi.connections hverified hactivated hused
  · intro authorization verifiedAt activatedAt usedAt fault principal h
    obtain ⟨token, verified, scopes, c, -, -, -, -, hnamed, hprincipal⟩ := admitted_by h
    refine ⟨c, hnamed.stored, hprincipal, ?_, ?_⟩
    · intro p
      rw [hprincipal.permissions]
      exact WorkspacePermissions.has_fromIter c.permissions p
    · rw [hprincipal.workspaceId, hprincipal.userId]
      exact hnamed.member
  · intro grant instants tokenId nonce fault token h
    obtain ⟨c, hmem, hid, -, hmember⟩ := issued_by h
    exact ⟨c, hmem, hid, hmember⟩
  · intro command now fault w' hstep hlanded
    exact revoke_commits hstep hlanded
  · intro c hc hrevoked later w' hlater
    have hstill := revoked_forever hi hlater hc hrevoked
    constructor
    · intro authorization verifiedAt activatedAt usedAt fault principal h hid
      obtain ⟨token, verified, scopes, d, -, -, -, -, hnamed, hprincipal⟩ := admitted_by h
      have hstatus := hstill d hnamed.stored (hprincipal.connectionId.symm.trans hid)
      have husable := usable_iff.mpr hnamed.usable
      rw [not_usable_of_revoked hstatus] at husable
      cases husable
    · intro grant instants tokenId nonce fault token h hid
      obtain ⟨d, hmem, hgrant, husable, -⟩ := issued_by h
      rw [not_usable_of_revoked (hstill d hmem (hgrant.trans hid))] at husable
      cases husable

def newYearRequest (w : OAuthWorld) (second : Int) : McpResponse :=
  (newYearServer.authenticateRequest w.db (some "Bearer token") (newYear second) (newYear second)
    (newYear second) .none).1

def newYearPrincipal : AgentConnectionContext := ⟨⟨4⟩, ⟨20⟩, ⟨1⟩, .fromIter [.readEvidence]⟩

/-- the agent of the new year gets in, and is shut out once its connection is revoked -/
theorem mcp_request_authorization_newYear :
    (∃ w, run (oauthStep newYearServer) .empty newYearConsent = some w ∧
      newYearRequest w 10 = .admitted newYearPrincipal ∧
      Admissible newYearServer w.db (some "Bearer token") (newYear 10) (newYear 10) newYearPrincipal) ∧
    ∃ w, run (oauthStep newYearServer) .empty
        (newYearConsent ++ [.revoke ⟨⟨20⟩, some ⟨4⟩⟩ (newYear 11) .none]) = some w ∧
      newYearRequest w 12 = .unauthorized := by
  have hadmitted : (run (oauthStep newYearServer) .empty newYearConsent).map (fun w =>
      (w.clock, newYearRequest w 10)) = some (newYear 3, .admitted newYearPrincipal) := by
    decide
  have hrefused : (run (oauthStep newYearServer) .empty
      (newYearConsent ++ [.revoke ⟨⟨20⟩, some ⟨4⟩⟩ (newYear 11) .none])).map (fun w =>
      newYearRequest w 12) = some .unauthorized := by
    decide
  obtain ⟨w, hw, hview⟩ := Option.map_eq_some_iff.mp hadmitted
  rw [Prod.mk.injEq] at hview
  refine ⟨⟨w, hw, hview.2, ?_⟩, Option.map_eq_some_iff.mp hrefused⟩
  refine ((mcp_request_authorization newYearServer hw).1 _ _ _ _ _ ?_ le_rfl le_rfl).mp hview.2
  rw [hview.1]
  decide

end Proofplane
