import Proofplane.OAuth.Invariant

/-!
# Consent after consent

A user may have one live connection for a client and a resource, and the table takes every connection for
live that has not been revoked, also one that can no longer be activated.

* `ConsentDraws`             the ids and secrets that `approve_consent` draws, `Fresh` where they are new;
* `AllRevoked`               the user has no connection for this client and resource but revoked ones;
* `requestConnection_eq`     **what becomes of the request of a consent**;
* `reconsent_succeeds_iff`   **a consent gets its connection if and only if all before it are revoked**.
-/

namespace Proofplane
open Base

/-- the ids and secrets of one consent -/
structure ConsentDraws where
  connectionId : AgentConnectionId
  transactionId : AgentConnectionAuthorizationId
  continuationToken : String
  nonce : String

/-- no connection has any of them -/
def ConsentDraws.Fresh (draws : ConsentDraws) (digest : String → Sha256Digest) (db : OAuthDb) : Prop :=
  ∀ c ∈ db.connections.rows, c.id ≠ draws.connectionId ∧ c.authorization.id ≠ draws.transactionId ∧
    c.authorization.continuationDigest ≠ digest draws.continuationToken ∧
    c.authorization.nonceDigest ≠ digest draws.nonce

/-- the user has no connection for this client and resource but revoked ones -/
def AllRevoked (db : OAuthDb) (userId : UserId) (clientId resource : String) : Prop :=
  ∀ c ∈ db.connections.rows, c.userId = userId → c.auth0ClientId = clientId → c.resource = resource →
    c.status = .revoked

/-- the connection can no longer be activated, or its user is no longer a member -/
def OutOfUse (db : OAuthDb) (now : Int) (c : AgentConnection) : Prop :=
  c.status = .revoked ∨
    (c.status = .pending ∨ c.status = .authorized) ∧ c.pendingExpiresAt ≤ now ∨
    db.getMembershipRole c.workspaceId c.userId = none

/-- the user of a consent is still who they were, and a member of the workspace -/
structure ConsentEligible (db : OAuthDb) (context : OAuthConsentContext) : Prop where
  subject : db.auth0Sub context.userId = some context.auth0Subject
  member : (db.getMembershipRole context.workspaceId context.userId).isSome = true

/-- none of the texts that a connection needs is blank -/
structure ConsentTexts (context : OAuthConsentContext) : Prop where
  auth0Subject : isBlank context.auth0Subject = false
  clientId : isBlank context.clientId = false
  clientName : isBlank context.clientName = false
  resource : isBlank context.resource = false

section
variable {Key Nonce : Type} {S : OAuthServer Key Nonce} {w : OAuthWorld} {now : Int}
  {context : OAuthConsentContext} {draws : ConsentDraws}

/-- the `RequestAgentConnection` of a consent -/
def OAuthServer.consentRequest (S : OAuthServer Key Nonce) (db : OAuthDb) (context : OAuthConsentContext)
    (draws : ConsentDraws) (now : Int) :
    Except AgentConnectionCommandError (AgentConnection × OAuthDb) :=
  db.requestAgentConnection S.digest (context.request draws.continuationToken draws.nonce)
    draws.connectionId draws.transactionId now

/-- the connection that a consent asks for -/
def OAuthServer.consented (S : OAuthServer Key Nonce) (context : OAuthConsentContext)
    (draws : ConsentDraws) (now : Int) : AgentConnection where
  id := draws.connectionId
  userId := context.userId
  workspaceId := context.workspaceId
  auth0Subject := context.auth0Subject
  auth0ClientId := context.clientId
  clientDisplayName := context.clientName
  resource := context.resource
  status := .pending
  permissions := context.scopes
  pendingExpiresAt := context.expiresAt
  activatedAt := none
  lastUsedAt := none
  revokedAt := none
  createdAt := now
  authorization := ⟨draws.transactionId, S.digest draws.continuationToken, S.digest draws.nonce, none⟩

/-- **Everything that can become of the request of a consent**: the table decides. -/
theorem requestConnection_eq (hi : OAuthInv S w) {call : Nat}
    (hcall : w.task call = some (.requesting context)) (hunexpired : now < context.expiresAt)
    (heligible : ConsentEligible w.db context) (htexts : ConsentTexts context) :
    S.consentRequest w.db context draws now
      = match w.db.saveConnection (S.consented context draws now) with
        | .error (.conflict .agentConnectionExists) => .error .alreadyExists
        | .error e => .error (.repository e)
        | .ok db => .ok (S.consented context draws now, db) := by
  obtain ⟨f, hmem, hcontext⟩ := hi.knows hcall
  have hscopes : canonicalPermissions context.scopes = some context.scopes := by
    rw [hcontext.scopes]
    exact hi.flows.canonical f hmem
  have hne : context.scopes ≠ [] := by
    rw [hcontext.scopes]
    exact (hi.flows.valid f hmem).request.2.2.2.2.2
  have hrequest : AgentConnection.request draws.connectionId draws.transactionId context.userId
      context.workspaceId context.auth0Subject context.clientId context.clientName context.resource
      context.scopes context.expiresAt (S.digest draws.continuationToken) (S.digest draws.nonce) now
        = .ok (S.consented context draws now) :=
    if_pos ⟨hunexpired, hne, htexts.auth0Subject, htexts.clientId, htexts.clientName, htexts.resource⟩
  have hpermitted : ¬ (context.auth0Subject ≠ (S.consented context draws now).auth0Subject ∨
      (w.db.getMembershipRole (S.consented context draws now).workspaceId
        (S.consented context draws now).userId).isNone = true) := by
    rw [not_or, not_not]
    refine ⟨rfl, ?_⟩
    have hmember := heligible.member
    show ¬ (w.db.getMembershipRole context.workspaceId context.userId).isNone = true
    rw [Option.isNone_iff_eq_none]
    exact Option.isSome_iff_ne_none.mp hmember
  unfold OAuthServer.consentRequest OAuthDb.requestAgentConnection OAuthConsentContext.request
  dsimp only
  rw [hscopes]
  dsimp only
  rw [if_neg hne, hrequest]
  dsimp only
  rw [show w.db.auth0Sub (S.consented context draws now).userId = some context.auth0Subject from
    heligible.subject]
  dsimp only
  refine (if_neg hpermitted).trans ?_
  cases w.db.saveConnection (S.consented context draws now) with
  | ok db => rfl
  | error e =>
    cases e with
    | conflict kind => cases kind <;> rfl
    | database => rfl
    | invalidData => rfl
    | invariantViolation message => rfl

/-- the row of a consented connection is in order -/
theorem consented_rowChecks (hi : OAuthInv S w) {call : Nat}
    (hcall : w.task call = some (.requesting context)) (hle : w.clock ≤ now)
    (hunexpired : now < context.expiresAt) :
    (S.consented context draws now).toRow.rowChecks = true := by
  obtain ⟨f, hmem, hcontext⟩ := hi.knows hcall
  have hexpires : pgTimestamp context.expiresAt = context.expiresAt := by
    rw [hcontext.expiresAt]
    exact (hi.flows.stored f hmem).expiresAt
  have hnow : pgTimestamp now ≤ now := by
    rw [pgTimestamp_of_ge (le_trans hi.epoch hle)]
    omega
  rw [AgentConnection.rowChecks_iff]
  refine ⟨rfl, ?_, rfl, rfl, rfl, rfl⟩
  show pgTimestamp now < pgTimestamp context.expiresAt
  omega

/-- a connection is in the way of a consent if and only if it is one of the user for this client and
resource and is not revoked -/
theorem consented_sameLiveTuple_iff (d : AgentConnection) :
    (S.consented context draws now).toRow.sameLiveTuple d = true ↔
      d.userId = context.userId ∧ d.auth0ClientId = context.clientId ∧ d.resource = context.resource ∧
        d.status ≠ .revoked := by
  have hlive : d.live = true ↔ d.status ≠ .revoked := by
    unfold AgentConnection.live
    cases d.status <;> simp
  unfold AgentConnection.sameLiveTuple
  simp only [Bool.and_eq_true, decide_eq_true_eq, hlive]
  constructor
  · rintro ⟨⟨⟨⟨-, hstatus⟩, huser⟩, hclient⟩, hresource⟩
    exact ⟨huser.symm, hclient.symm, hresource.symm, hstatus⟩
  · rintro ⟨huser, hclient, hresource, hstatus⟩
    exact ⟨⟨⟨⟨rfl, hstatus⟩, huser.symm⟩, hclient.symm⟩, hresource.symm⟩

theorem consented_saved (hi : OAuthInv S w) {call : Nat}
    (hcall : w.task call = some (.requesting context)) (hle : w.clock ≤ now)
    (hunexpired : now < context.expiresAt) (hfresh : draws.Fresh S.digest w.db)
    (hrevoked : AllRevoked w.db context.userId context.clientId context.resource) :
    ∃ db, w.db.saveConnection (S.consented context draws now) = .ok db := by
  obtain ⟨f, hmem, hcontext⟩ := hi.knows hcall
  refine ⟨_, OAuthDb.saveConnection_eq ?_ (consented_rowChecks hi hcall hle hunexpired) ?_⟩
  · show context.scopes.Nodup
    rw [hcontext.scopes]
    exact canonicalPermissions_nodup (hi.flows.canonical f hmem)
  · intro d hd hne
    obtain ⟨-, htransaction, hcontinuation, hnonce⟩ := hfresh d hd
    constructor
    · by_contra hcontra
      rw [Bool.not_eq_false, consented_sameLiveTuple_iff] at hcontra
      obtain ⟨huser, hclient, hresource, hstatus⟩ := hcontra
      exact hstatus (hrevoked d hd huser hclient hresource)
    · show (decide (draws.transactionId = d.authorization.id) ||
        decide (S.digest draws.continuationToken = d.authorization.continuationDigest) ||
        decide (S.digest draws.nonce = d.authorization.nonceDigest)) = false
      rw [decide_eq_false (Ne.symm htransaction), decide_eq_false (Ne.symm hcontinuation),
        decide_eq_false (Ne.symm hnonce)]
      rfl

theorem consented_refused (hi : OAuthInv S w) {call : Nat}
    (hcall : w.task call = some (.requesting context)) (hle : w.clock ≤ now)
    (hunexpired : now < context.expiresAt) (hfresh : draws.Fresh S.digest w.db)
    (hrevoked : ¬ AllRevoked w.db context.userId context.clientId context.resource) :
    w.db.saveConnection (S.consented context draws now) = .error (.conflict .agentConnectionExists) := by
  obtain ⟨f, hmem, hcontext⟩ := hi.knows hcall
  have hnodup : (S.consented context draws now).permissions.Nodup := by
    show context.scopes.Nodup
    rw [hcontext.scopes]
    exact canonicalPermissions_nodup (hi.flows.canonical f hmem)
  have hany : (w.db.connections.rows.any fun d =>
      decide (d.id ≠ (S.consented context draws now).toRow.id) &&
        (S.consented context draws now).toRow.sameLiveTuple d) = true := by
    unfold AllRevoked at hrevoked
    push Not at hrevoked
    obtain ⟨d, hd, huser, hclient, hresource, hstatus⟩ := hrevoked
    refine List.any_eq_true.mpr ⟨d, hd, ?_⟩
    rw [Bool.and_eq_true, decide_eq_true_eq, consented_sameLiveTuple_iff]
    exact ⟨(hfresh d hd).1, huser, hclient, hresource, hstatus⟩
  unfold OAuthDb.saveConnection
  dsimp only
  rw [consented_rowChecks hi hcall hle hunexpired, if_neg (by simp [hnodup]), if_pos hany]

/-- **A consent gets its connection if and only if every connection of the user for the client and the
resource is revoked**; otherwise it is told that there is a live one, be it expired or the user no longer
a member of its workspace. -/
theorem reconsent_succeeds_iff (S : OAuthServer Key Nonce) {events : List (OAuthEvent Nonce)}
    {w : OAuthWorld} (hrun : run (oauthStep S) .empty events = some w) {call : Nat}
    {context : OAuthConsentContext} (hcall : w.task call = some (.requesting context)) {now : Int}
    (hle : w.clock ≤ now) (hunexpired : now < context.expiresAt)
    (heligible : ConsentEligible w.db context) (htexts : ConsentTexts context) {draws : ConsentDraws}
    (hfresh : draws.Fresh S.digest w.db) :
    ((∃ c db, S.consentRequest w.db context draws now = .ok (c, db)) ↔
      AllRevoked w.db context.userId context.clientId context.resource) ∧
    (S.consentRequest w.db context draws now = .error .alreadyExists ↔
      ¬ AllRevoked w.db context.userId context.clientId context.resource) := by
  have hi := oauth_run hrun
  rw [requestConnection_eq hi hcall hunexpired heligible htexts]
  by_cases hrevoked : AllRevoked w.db context.userId context.clientId context.resource
  · obtain ⟨db, hsave⟩ := consented_saved hi hcall hle hunexpired hfresh hrevoked
    rw [hsave]
    exact ⟨iff_of_true ⟨_, _, rfl⟩ hrevoked, iff_of_false (fun h => (by cases h)) (not_not.mpr hrevoked)⟩
  · rw [consented_refused hi hcall hle hunexpired hfresh hrevoked]
    exact ⟨iff_of_false (fun ⟨_, _, h⟩ => (by cases h)) hrevoked, iff_of_true rfl hrevoked⟩

end

/-! A consent that loses its process once its connection is stored, and the same user eleven minutes later. -/

def abandonedConsent : List (OAuthEvent Unit) :=
  newYearAccounts :: newYearLogin 10 "csrf-1" 0 0 ++
    [.approveConsent 1 ⟨10⟩ (newYear 2) true,
      .requestConnection 1 ⟨20⟩ ⟨21⟩ "continuation-1" "nonce-1" (newYear 2) .none]

def secondConsent : List (OAuthEvent Unit) :=
  abandonedConsent ++ newYearLogin 11 "csrf-2" 2 660 ++ [.approveConsent 3 ⟨11⟩ (newYear 662) true]

def secondContext : OAuthConsentContext where
  requestId := ⟨11⟩
  clientName := "Client"
  clientId := newYearClient
  redirectUri := newYearRedirect
  state := "state"
  resource := newYearServer.resource
  scopes := [.readEvidence]
  auth0Subject := "auth0|user"
  userId := ⟨4⟩
  workspaceId := ⟨1⟩
  expiresAt := newYear 1260

def secondDraws : ConsentDraws := ⟨⟨22⟩, ⟨23⟩, "continuation-2", "nonce-2"⟩

/-- the answer is that there is a live connection -/
def refusedAsExisting (r : Except AgentConnectionCommandError (AgentConnection × OAuthDb)) : Bool :=
  match r with
  | .error .alreadyExists => true
  | _ => false

theorem refusedAsExisting_iff {r : Except AgentConnectionCommandError (AgentConnection × OAuthDb)} :
    refusedAsExisting r = true ↔ r = .error .alreadyExists := by
  constructor
  · intro h
    unfold refusedAsExisting at h
    split at h
    · rfl
    · cases h
  · rintro rfl
    rfl

/-- **A consent that is refused for the sake of a connection that nobody can use**: the connection of the
first consent has expired, and the second is told that there is a live one. -/
theorem reconsent_refused :
    ∃ w, run (oauthStep newYearServer) .empty secondConsent = some w ∧
      w.task 3 = some (.requesting secondContext) ∧ w.clock ≤ newYear 662 ∧
      newYear 662 < secondContext.expiresAt ∧ secondContext.scopes ≠ [] ∧
      (∀ c ∈ w.db.connections.rows, OutOfUse w.db (newYear 662) c) ∧
      newYearServer.consentRequest w.db secondContext secondDraws (newYear 662)
        = .error .alreadyExists := by
  have hrun : (run (oauthStep newYearServer) .empty secondConsent).map (fun w =>
      (w.task 3, w.clock, w.db.connections.rows.map fun c => (c.status, c.pendingExpiresAt),
        refusedAsExisting
          (newYearServer.consentRequest w.db secondContext secondDraws (newYear 662))))
      = some (some (.requesting secondContext), newYear 662, [(.pending, newYear 600)], true) := by
    decide
  obtain ⟨w, hw, hview⟩ := Option.map_eq_some_iff.mp hrun
  rw [Prod.mk.injEq, Prod.mk.injEq, Prod.mk.injEq] at hview
  obtain ⟨htask, hclock, hconnections, hrefused⟩ := hview
  refine ⟨w, hw, htask, le_of_eq hclock, by decide, by decide, ?_, refusedAsExisting_iff.mp hrefused⟩
  intro c hc
  have hmem := List.mem_map_of_mem (f := fun c : AgentConnection => (c.status, c.pendingExpiresAt)) hc
  rw [hconnections, List.mem_singleton, Prod.mk.injEq] at hmem
  refine .inr (.inl ⟨.inl hmem.1, ?_⟩)
  rw [hmem.2]
  decide

/-- a first consent that goes through, whose connection the user revokes before the second -/
def revokedConsent : List (OAuthEvent Unit) :=
  newYearConsent ++ [.revoke ⟨⟨20⟩, some ⟨4⟩⟩ (newYear 300) .none] ++ newYearLogin 11 "csrf-2" 2 660 ++
    [.approveConsent 3 ⟨11⟩ (newYear 662) true]

/-- the second consent gets its connection: the first one is revoked -/
theorem reconsent_succeeds_iff_revoked :
    ∃ w, run (oauthStep newYearServer) .empty revokedConsent = some w ∧
      w.task 3 = some (.requesting secondContext) ∧
      (w.db.connections.rows.map fun c => (c.id, c.status)) = [(⟨20⟩, .revoked)] ∧
      ∃ c db, newYearServer.consentRequest w.db secondContext secondDraws (newYear 662) = .ok (c, db) := by
  have hrun : (run (oauthStep newYearServer) .empty revokedConsent).map (fun w =>
      (w.task 3, w.clock, w.db.connections.rows.map fun c => (c.id, c.status)))
      = some (some (.requesting secondContext), newYear 662, [(⟨20⟩, .revoked)]) := by
    decide
  have hrows : (run (oauthStep newYearServer) .empty revokedConsent).map (fun w =>
      (w.db.connections.rows.all fun c => decide (c.id ≠ secondDraws.connectionId) &&
          decide (c.authorization.id ≠ secondDraws.transactionId) &&
          decide (c.authorization.continuationDigest ≠ newYearServer.digest secondDraws.continuationToken) &&
          decide (c.authorization.nonceDigest ≠ newYearServer.digest secondDraws.nonce),
        w.db.auth0Sub ⟨4⟩, (w.db.getMembershipRole ⟨1⟩ ⟨4⟩).isSome))
      = some (true, some "auth0|user", true) := by
    decide
  obtain ⟨w, hw, hview⟩ := Option.map_eq_some_iff.mp hrun
  rw [Prod.mk.injEq, Prod.mk.injEq] at hview
  obtain ⟨htask, hclock, hconnections⟩ := hview
  rw [hw, Option.map_some, Option.some.injEq, Prod.mk.injEq, Prod.mk.injEq] at hrows
  obtain ⟨hnew, hsubject, hmember⟩ := hrows
  refine ⟨w, hw, htask, hconnections, ?_⟩
  refine (reconsent_succeeds_iff newYearServer hw htask (le_of_eq hclock) (by decide)
    ⟨hsubject, hmember⟩ ⟨by decide, by decide, by decide, by decide⟩ ?_).1.mpr ?_
  · intro c hc
    have hnone := List.all_eq_true.mp hnew c hc
    simp only [Bool.and_eq_true, decide_eq_true_eq, and_assoc] at hnone
    exact hnone
  · intro c hc _ _ _
    have hmem := List.mem_map_of_mem (f := fun c : AgentConnection => (c.id, c.status)) hc
    rw [hconnections, List.mem_singleton, Prod.mk.injEq] at hmem
    exact hmem.2

end Proofplane
