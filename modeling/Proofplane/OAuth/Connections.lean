import Proofplane.OAuth.Commands

/-!
# What commands do to connections

* `Stored`                a row as a save has written it;
* `ConnectionsInv`        the rows of the table: valid, and no two of them in each other's way;
* `ConnectionsMove`       all that a command does to the table; `ConnectionsInv.move` keeps the invariant;
* `authorizeAgentConnection_ok`, `authorizeAgentConnection_eq`   **when a connection is authorized**, and
                          what its row is then.
-/

namespace Proofplane
open Base

namespace AgentConnection

/-! ## Rows -/

/-- a row is its own row -/
def Stored (c : AgentConnection) : Prop := c.toRow = c

theorem toRow_id (c : AgentConnection) : c.toRow.id = c.id := rfl

theorem map_pgTimestamp_idem (t : Option Int) :
    (t.map pgTimestamp).map pgTimestamp = t.map pgTimestamp := by
  cases t with
  | none => rfl
  | some t => simp

theorem stored_toRow (c : AgentConnection) : c.toRow.Stored := by
  unfold Stored toRow
  simp only [map_pgTimestamp_idem, pgTimestamp_idem]
  congr 1
  apply List.filter_congr
  intro p hp
  simp [List.mem_filter, hp]

section
variable {c c' : AgentConnection}

theorem Stored.permissions (h : c.Stored) :
    (WorkspacePermission.all.filter fun p => decide (p ∈ c.permissions)) = c.permissions :=
  congrArg AgentConnection.permissions h

theorem Stored.pendingExpiresAt (h : c.Stored) : pgTimestamp c.pendingExpiresAt = c.pendingExpiresAt :=
  congrArg AgentConnection.pendingExpiresAt h

theorem Stored.createdAt (h : c.Stored) : pgTimestamp c.createdAt = c.createdAt :=
  congrArg AgentConnection.createdAt h

/-- stored permissions are a canonical list -/
theorem Stored.canonical (h : c.Stored) : canonicalPermissions c.permissions = some c.permissions := by
  have hnodup : c.permissions.Nodup := by
    rw [← h.permissions]
    exact List.Nodup.filter _ (by decide)
  rw [canonicalPermissions_eq, if_pos hnodup, h.permissions]

theorem Stored.nodup (h : c.Stored) : c.permissions.Nodup := canonicalPermissions_nodup h.canonical

/-- a save keeps what the transition before it kept -/
theorem Evolves.toRow (hc : c.Stored) (h : Evolves c c') : Evolves c c'.toRow where
  id := h.id
  userId := h.userId
  workspaceId := h.workspaceId
  auth0Subject := h.auth0Subject
  auth0ClientId := h.auth0ClientId
  resource := h.resource
  permissions := by
    show (WorkspacePermission.all.filter fun p => decide (p ∈ c'.permissions)) = c.permissions
    rw [h.permissions]
    exact hc.permissions
  pendingExpiresAt := by
    show pgTimestamp c'.pendingExpiresAt = c.pendingExpiresAt
    rw [h.pendingExpiresAt]
    exact hc.pendingExpiresAt
  createdAt := by
    show pgTimestamp c'.createdAt = c.createdAt
    rw [h.createdAt]
    exact hc.createdAt
  transaction := h.transaction
  continuationDigest := h.continuationDigest
  nonceDigest := h.nonceDigest
  rank := h.rank

theorem consumptionValid_toRow (c : AgentConnection) : c.toRow.consumptionValid = c.consumptionValid := by
  unfold consumptionValid toRow
  cases c.status <;> simp

/-- what the constraints of the tables say, and what they do not -/
theorem statusValid_of_checks (h : c.lifecycleCheck = true) (hc : c.consumptionValid = true) :
    c.statusValid = true := by
  unfold lifecycleCheck at h
  unfold consumptionValid at hc
  unfold statusValid
  cases hs : c.status with
  | pending =>
    rw [hs] at h hc
    exact Bool.and_eq_true_iff.mpr ⟨h, hc⟩
  | authorized =>
    rw [hs] at h hc
    exact Bool.and_eq_true_iff.mpr ⟨h, hc⟩
  | active =>
    rw [hs] at h hc
    exact Bool.and_eq_true_iff.mpr ⟨h, hc⟩
  | revoked =>
    rw [hs] at h
    exact h

theorem rowChecks_iff (c : AgentConnection) :
    c.rowChecks = true ↔ c.lifecycleCheck = true ∧ c.createdAt < c.pendingExpiresAt ∧
      notBefore c.createdAt c.activatedAt = true ∧ notBefore c.createdAt c.lastUsedAt = true ∧
      notBefore c.createdAt c.revokedAt = true ∧
      notBefore c.createdAt c.authorization.consumedAt = true := by
  unfold rowChecks
  simp only [Bool.and_eq_true, decide_eq_true_eq, and_assoc]

/-- **A row that the tables accept can be loaded again**, if its texts and its consumption are in order. -/
theorem valid_toRow (hchecks : c.toRow.rowChecks = true) (hc : c.consumptionValid = true)
    (hpermissions : c.toRow.permissions ≠ []) (hsubject : isBlank c.auth0Subject = false)
    (hclient : isBlank c.auth0ClientId = false) (hname : isBlank c.clientDisplayName = false)
    (hresource : isBlank c.resource = false) : c.toRow.Valid := by
  obtain ⟨hlife, hexpires, hactivated, hused, hrevoked, hconsumed⟩ := c.toRow.rowChecks_iff.mp hchecks
  rw [← consumptionValid_toRow] at hc
  exact ⟨⟨hexpires, hpermissions, hsubject, hclient, hname, hresource⟩, statusValid_of_checks hlife hc,
    hactivated, hused, hrevoked, hconsumed⟩

theorem Transition.valid_toRow (h : Transition c c') (hc : c.Stored) (hvalid : c.Valid)
    (hchecks : c'.toRow.rowChecks = true) : c'.toRow.Valid := by
  obtain ⟨-, hpermissions, hsubject, hclient, hname, hresource⟩ := hvalid.request
  have he := h.evolves
  refine AgentConnection.valid_toRow hchecks
    (h.consumptionValid (consumptionValid_of_statusValid hvalid.status)) ?_ ?_ ?_ ?_ ?_
  · rw [(he.toRow hc).permissions]
    exact hpermissions
  · rw [he.auth0Subject]
    exact hsubject
  · rw [he.auth0ClientId]
    exact hclient
  · rw [h.clientDisplayName]
    exact hname
  · rw [he.resource]
    exact hresource

end

end AgentConnection

/-! ## The table -/

/-- two connections that may stand in one table -/
structure Apart (c d : AgentConnection) : Prop where
  liveTuple : c.sameLiveTuple d = false
  transaction : c.sharesTransaction d = false

structure ConnectionsInv (now : Int) (db : OAuthDb) : Prop where
  stored : ∀ c ∈ db.connections.rows, c.Stored
  valid : ∀ c ∈ db.connections.rows, c.Valid
  created : ∀ c ∈ db.connections.rows, c.createdAt ≤ pgTimestamp now
  apart : ∀ c ∈ db.connections.rows, ∀ d ∈ db.connections.rows, d.id ≠ c.id → Apart c d

/-- all that a command does to connections at an instant -/
inductive ConnectionsMove (now : Int) (db db' : OAuthDb) : Prop
  | same (h : db' = db) : ConnectionsMove now db db'
  | changed (c c' : AgentConnection) (hmem : c ∈ db.connections.rows) (h : c.Transition c')
      (hsave : db.saveConnection c' = .ok db') : ConnectionsMove now db db'
  | created (c : AgentConnection) (hnew : db.connections.get? c.id = none) (hrequest : c.RequestValid)
      (hcanonical : canonicalPermissions c.permissions = some c.permissions)
      (hstatus : c.status = .pending) (hconsumed : c.authorization.consumedAt = none)
      (hnow : c.createdAt = now) (hsave : db.saveConnection c = .ok db') : ConnectionsMove now db db'

theorem Apart.symm {c d : AgentConnection} (h : Apart c d) : Apart d c := by
  obtain ⟨h1, h2⟩ := h
  refine ⟨?_, ?_⟩
  · rw [← h1]
    unfold AgentConnection.sameLiveTuple
    rw [Bool.and_comm d.live c.live]
    simp only [eq_comm]
  · rw [← h2]
    unfold AgentConnection.sharesTransaction
    simp only [eq_comm]

/-- a saved row stands apart from all others, and they from it -/
theorem apart_save {now : Int} {db db' : OAuthDb} {c : AgentConnection} (hi : ConnectionsInv now db)
    (hsave : db.saveConnection c = .ok db') :
    ∀ a ∈ db'.connections.rows, ∀ b ∈ db'.connections.rows, b.id ≠ a.id → Apart a b := by
  obtain ⟨rfl, -, hothers⟩ := OAuthDb.saveConnection_ok hsave
  intro a ha b hb hne
  rcases Table.mem_upsert.mp ha with rfl | ⟨ham, hane⟩
  · rcases Table.mem_upsert.mp hb with rfl | ⟨hbm, hbne⟩
    · exact absurd rfl hne
    · obtain ⟨h1, h2⟩ := hothers b hbm hbne
      exact ⟨h1, h2⟩
  · rcases Table.mem_upsert.mp hb with rfl | ⟨hbm, hbne⟩
    · obtain ⟨h1, h2⟩ := hothers a ham hane
      exact Apart.symm ⟨h1, h2⟩
    · exact hi.apart a ham b hbm hne

/-- a new row has the permissions it was requested with -/
theorem permissions_toRow {c : AgentConnection}
    (h : canonicalPermissions c.permissions = some c.permissions) :
    c.toRow.permissions = c.permissions := by
  have hnodup := canonicalPermissions_nodup h
  rw [canonicalPermissions_eq, if_pos hnodup] at h
  exact Option.some.inj h

theorem ConnectionsInv.mono {now now' : Int} {db : OAuthDb} (hi : ConnectionsInv now db)
    (h : now ≤ now') : ConnectionsInv now' db :=
  ⟨hi.stored, hi.valid, fun c hc => le_trans (hi.created c hc) (pgTimestamp_mono h), hi.apart⟩

theorem ConnectionsInv.congr {now : Int} {db db' : OAuthDb} (hi : ConnectionsInv now db)
    (h : db'.connections = db.connections) : ConnectionsInv now db' := by
  refine ⟨?_, ?_, ?_, ?_⟩
  · rw [h]
    exact hi.stored
  · rw [h]
    exact hi.valid
  · rw [h]
    exact hi.created
  · rw [h]
    exact hi.apart

theorem ConnectionsInv.move {now : Int} {db db' : OAuthDb} (hi : ConnectionsInv now db)
    (h : ConnectionsMove now db db') : ConnectionsInv now db' := by
  cases h with
  | same h =>
    rw [h]
    exact hi
  | changed c c' hmem h hsave =>
    have hapart := apart_save hi hsave
    obtain ⟨rfl, hchecks, -⟩ := OAuthDb.saveConnection_ok hsave
    refine ⟨?_, ?_, ?_, hapart⟩
    · intro x hx
      rcases Table.mem_upsert.mp hx with rfl | ⟨hxm, -⟩
      · exact AgentConnection.stored_toRow c'
      · exact hi.stored x hxm
    · intro x hx
      rcases Table.mem_upsert.mp hx with rfl | ⟨hxm, -⟩
      · exact h.valid_toRow (hi.stored c hmem) (hi.valid c hmem) hchecks
      · exact hi.valid x hxm
    · intro x hx
      rcases Table.mem_upsert.mp hx with rfl | ⟨hxm, -⟩
      · rw [(h.evolves.toRow (hi.stored c hmem)).createdAt]
        exact hi.created c hmem
      · exact hi.created x hxm
  | created c hnew hrequest hcanonical hstatus hconsumed hnow hsave =>
    have hapart := apart_save hi hsave
    obtain ⟨rfl, hchecks, -⟩ := OAuthDb.saveConnection_ok hsave
    obtain ⟨-, hpermissions, hsubject, hclient, hname, hresource⟩ := hrequest
    refine ⟨?_, ?_, ?_, hapart⟩
    · intro x hx
      rcases Table.mem_upsert.mp hx with rfl | ⟨hxm, -⟩
      · exact AgentConnection.stored_toRow c
      · exact hi.stored x hxm
    · intro x hx
      rcases Table.mem_upsert.mp hx with rfl | ⟨hxm, -⟩
      · refine AgentConnection.valid_toRow hchecks ?_ ?_ hsubject hclient hname hresource
        · unfold AgentConnection.consumptionValid
          rw [hstatus, hconsumed]
          rfl
        · rw [permissions_toRow hcanonical]
          exact hpermissions
      · exact hi.valid x hxm
    · intro x hx
      rcases Table.mem_upsert.mp hx with rfl | ⟨hxm, -⟩
      · show pgTimestamp c.createdAt ≤ pgTimestamp now
        rw [hnow]
      · exact hi.created x hxm

/-- every connection goes on -/
theorem ConnectionsMove.forward {now : Int} {db db' : OAuthDb} (h : ConnectionsMove now db db')
    (hi : ConnectionsInv now db) {c : AgentConnection} (hc : c ∈ db.connections.rows) :
    ∃ c' ∈ db'.connections.rows, c.Evolves c' := by
  cases h with
  | same h =>
    rw [h]
    exact ⟨c, hc, .refl c⟩
  | changed d d' hmem h hsave =>
    obtain ⟨rfl, -, -⟩ := OAuthDb.saveConnection_ok hsave
    by_cases hid : c.id = d.id
    · have heq : c = d := db.connections.eq_of_key hc hmem hid
      subst heq
      exact ⟨d'.toRow, Table.mem_upsert.mpr (.inl rfl), h.evolves.toRow (hi.stored c hc)⟩
    · refine ⟨c, Table.mem_upsert.mpr (.inr ⟨hc, ?_⟩), .refl c⟩
      show c.id ≠ d'.id
      rw [h.evolves.id]
      exact hid
  | created d hnew hrequest hcanonical hstatus hconsumed hnow hsave =>
    obtain ⟨rfl, -, -⟩ := OAuthDb.saveConnection_ok hsave
    refine ⟨c, Table.mem_upsert.mpr (.inr ⟨hc, ?_⟩), .refl c⟩
    intro hid
    exact Table.get?_eq_none_iff.mp hnew c hc hid

/-! ## The commands -/

section
variable {now : Int} {db db' : OAuthDb} {α : Type} {answer : α}

theorem mapError_ok {ε ε' : Type} {f : ε → ε'} {r : Except ε α} (h : r.mapError f = .ok answer) :
    r = .ok answer := by
  cases r with
  | error e => cases h
  | ok a =>
    cases h
    rfl

theorem withConnection_ok {id : AgentConnectionId} {missing : α}
    {change : AgentConnection → Except RepositoryError (α × OAuthDb)}
    (h : db.withConnection id missing change = .ok (answer, db')) :
    (answer = missing ∧ db' = db) ∨
      ∃ c ∈ db.connections.rows, c.id = id ∧ c.Valid ∧ change c = .ok (answer, db') := by
  unfold OAuthDb.withConnection at h
  split at h
  · cases h
  · cases h
    exact .inl ⟨rfl, rfl⟩
  · next c hget =>
    obtain ⟨hmem, hid, hvalid⟩ := OAuthDb.getConnection_some hget
    exact .inr ⟨c, hmem, hid, hvalid, mapError_ok h⟩

theorem savedConnection_ok {c : AgentConnection} {a : α}
    (h : db.savedConnection c a = .ok (answer, db')) :
    answer = a ∧ db.saveConnection c = .ok db' := by
  unfold OAuthDb.savedConnection at h
  cases hs : db.saveConnection c with
  | error e =>
    rw [hs] at h
    cases h
  | ok db1 =>
    rw [hs] at h
    cases h
    exact ⟨rfl, rfl⟩

end

section
variable {now : Int} {db db' : OAuthDb}

theorem AgentConnection.consumeContinuation_authorized {c c' : AgentConnection}
    {continuation nonce : Sha256Digest}
    (h : c.consumeContinuation continuation nonce now = (.authorized, c')) :
    c.Transition c' ∧ c.authorization.continuationDigest = continuation ∧
      c.authorization.nonceDigest = nonce := by
  unfold AgentConnection.consumeContinuation at h
  split at h
  · cases h
  · next hcond =>
    cases h
    push Not at hcond
    obtain ⟨hstatus, hnow, hcontinuation, hnonce⟩ := hcond
    exact ⟨.consumed now hstatus hnow, hcontinuation, hnonce⟩

theorem AgentConnection.revoke_revoked {c c' : AgentConnection}
    (h : c.revoke now = .ok (.revoked, c')) : c.Transition c' ∧ c'.status = .revoked := by
  unfold AgentConnection.revoke at h
  split at h
  · cases h
  · next hstatus =>
    split at h
    · cases h
    · cases h
      exact ⟨.revoked now hstatus, rfl⟩

theorem AgentConnection.activate_activated {c c' : AgentConnection}
    (h : c.activate now = (.activated, c')) :
    c.status = .authorized ∧ now < c.pendingExpiresAt ∧
      c' = { c with status := .active, activatedAt := some now } := by
  unfold AgentConnection.activate at h
  split at h
  · cases h
  · next hstatus =>
    split at h
    · next hnow =>
      cases h
      exact ⟨hstatus, hnow, rfl⟩
    · cases h
  · cases h

theorem AgentConnection.useAt_used {c c' : AgentConnection} (h : c.useAt now = (.used, c')) :
    c.status = .active ∧ c' = { c with lastUsedAt := some now } := by
  unfold AgentConnection.useAt at h
  split at h
  · cases h
  · next hstatus =>
    rw [not_not] at hstatus
    cases h
    exact ⟨hstatus, rfl⟩

theorem denyAgentConnection_move {id : AgentConnectionId} {answer : Bool}
    (h : db.denyAgentConnection id now = .ok (answer, db')) : ConnectionsMove now db db' := by
  unfold OAuthDb.denyAgentConnection at h
  rcases withConnection_ok h with ⟨-, rfl⟩ | ⟨c, hmem, -, hvalid, hc⟩
  · exact .same rfl
  · split at hc
    · cases hc
      exact .same rfl
    · next hstatus =>
      rw [not_not] at hstatus
      split at hc
      · cases hc
      · next outcome c' hrevoke =>
        obtain ⟨-, hsave⟩ := savedConnection_ok hc
        cases outcome with
        | revoked => exact .changed c c' hmem (AgentConnection.revoke_revoked hrevoke).1 hsave
        | alreadyRevoked =>
          unfold AgentConnection.revoke at hrevoke
          rw [hstatus, if_neg (by decide)] at hrevoke
          split at hrevoke <;> cases hrevoke

theorem consumeContinuation_move {id : AgentConnectionId} {continuation nonce : Sha256Digest}
    {outcome : ConsumeAgentConnectionOutcome}
    (h : db.consumeAgentConnectionContinuation id continuation nonce now = .ok (outcome, db')) :
    ConnectionsMove now db db' := by
  unfold OAuthDb.consumeAgentConnectionContinuation at h
  rcases withConnection_ok h with ⟨-, rfl⟩ | ⟨c, hmem, -, hvalid, hc⟩
  · exact .same rfl
  · split at hc
    · cases hc
      exact .same rfl
    · split at hc
      · cases hc
        exact .same rfl
      · next c' hconsume =>
        obtain ⟨-, hsave⟩ := savedConnection_ok hc
        exact .changed c c' hmem (AgentConnection.consumeContinuation_authorized hconsume).1 hsave

theorem activateAgentConnection_move {id : AgentConnectionId} {outcome : ActivateAgentConnectionOutcome}
    (h : db.activateAgentConnection id now = .ok (outcome, db')) : ConnectionsMove now db db' := by
  unfold OAuthDb.activateAgentConnection at h
  rcases withConnection_ok h with ⟨-, rfl⟩ | ⟨c, hmem, -, hvalid, hc⟩
  · exact .same rfl
  · split at hc
    · cases hc
      exact .same rfl
    · split at hc
      · next c' hactivate =>
        obtain ⟨-, hsave⟩ := savedConnection_ok hc
        obtain ⟨hstatus, hnow, rfl⟩ := AgentConnection.activate_activated hactivate
        exact .changed c _ hmem (.activated now c.lastUsedAt hstatus hnow) hsave
      · cases hc
        exact .same rfl

theorem useAgentConnection_move {id : AgentConnectionId} {answer : Bool}
    (h : db.useAgentConnection id now = .ok (answer, db')) : ConnectionsMove now db db' := by
  unfold OAuthDb.useAgentConnection at h
  rcases withConnection_ok h with ⟨-, rfl⟩ | ⟨c, hmem, -, hvalid, hc⟩
  · exact .same rfl
  · split at hc
    · cases hc
      exact .same rfl
    · next c' huse =>
      obtain ⟨-, hsave⟩ := savedConnection_ok hc
      obtain ⟨hstatus, rfl⟩ := AgentConnection.useAt_used huse
      exact .changed c _ hmem (.used now hstatus) hsave

/-- a revocation that is reported has marked the row -/
theorem revokeAgentConnection_ok {command : RevokeAgentConnection} {answer : Bool}
    (h : db.revokeAgentConnection command now = .ok (answer, db')) :
    (answer = false ∧ db' = db) ∨ answer = true ∧ ∃ c ∈ db.connections.rows, ∃ c',
      c.id = command.connectionId ∧ c.Transition c' ∧ c'.status = .revoked ∧
        db.saveConnection c' = .ok db' := by
  unfold OAuthDb.revokeAgentConnection at h
  rcases withConnection_ok h with ⟨hanswer, hdb⟩ | ⟨c, hmem, hid, hvalid, hc⟩
  · exact .inl ⟨hanswer, hdb⟩
  · split at hc
    · cases hc
      exact .inl ⟨rfl, rfl⟩
    · split at hc
      · cases hc
      · cases hc
        exact .inl ⟨rfl, rfl⟩
      · next c' hrevoke =>
        obtain ⟨hanswer, hsave⟩ := savedConnection_ok hc
        obtain ⟨htransition, hstatus⟩ := AgentConnection.revoke_revoked hrevoke
        exact .inr ⟨hanswer, c, hmem, c', hid, htransition, hstatus, hsave⟩

theorem revokeAgentConnection_move {command : RevokeAgentConnection} {answer : Bool}
    (h : db.revokeAgentConnection command now = .ok (answer, db')) : ConnectionsMove now db db' := by
  rcases revokeAgentConnection_ok h with ⟨-, rfl⟩ | ⟨-, c, hmem, c', -, htransition, -, hsave⟩
  · exact .same rfl
  · exact .changed c c' hmem htransition hsave

/-- what a request for a connection saves -/
theorem requestAgentConnection_ok {digest : String → Sha256Digest} {command : RequestAgentConnection}
    {id : AgentConnectionId} {transactionId : AgentConnectionAuthorizationId} {c : AgentConnection}
    (h : db.requestAgentConnection digest command id transactionId now = .ok (c, db')) :
    c.RequestValid ∧ canonicalPermissions command.permissions = some c.permissions ∧
      c.id = id ∧ c.userId = command.userId ∧ c.workspaceId = command.workspaceId ∧
      c.auth0Subject = command.auth0Subject ∧ c.auth0ClientId = command.auth0ClientId ∧
      c.resource = command.resource ∧ c.status = .pending ∧ c.createdAt = now ∧
      c.authorization = ⟨transactionId, digest command.continuationToken, digest command.nonce, none⟩ ∧
      db.saveConnection c = .ok db' := by
  unfold OAuthDb.requestAgentConnection at h
  split at h
  · cases h
  · next permissions hpermissions =>
    split at h
    · cases h
    · split at h
      · cases h
      · next connection hrequest =>
        unfold AgentConnection.request at hrequest
        dsimp only at hrequest
        split at hrequest
        · next hvalid =>
          cases hrequest
          split at h
          · cases h
          · split at h
            · cases h
            · split at h
              · cases h
              · cases h
              · next hsave =>
                cases h
                exact ⟨hvalid, hpermissions, rfl, rfl, rfl, rfl, rfl, rfl, rfl, rfl, rfl, hsave⟩
        · cases hrequest

theorem requestAgentConnection_move {digest : String → Sha256Digest} {command : RequestAgentConnection}
    {id : AgentConnectionId} {transactionId : AgentConnectionAuthorizationId} {c : AgentConnection}
    (hnew : db.connections.get? id = none)
    (h : db.requestAgentConnection digest command id transactionId now = .ok (c, db')) :
    ConnectionsMove now db db' := by
  obtain ⟨hvalid, hpermissions, hid, -, -, -, -, -, hstatus, hnow, hauthorization, hsave⟩ :=
    requestAgentConnection_ok h
  refine .created c ?_ hvalid (canonicalPermissions_idem hpermissions) hstatus ?_ hnow hsave
  · rw [hid]
    exact hnew
  · rw [hauthorization]

/-! ## Authorization -/

/-- what an authorized connection is saved as -/
inductive Authorizes (activatedAt usedAt : Int) (c : AgentConnection) : AgentConnection → Prop
  | active (hstatus : c.status = .active) :
      Authorizes activatedAt usedAt c { c with lastUsedAt := some usedAt }
  | activated (hstatus : c.status = .authorized) (hnow : activatedAt < c.pendingExpiresAt) :
      Authorizes activatedAt usedAt c
        { c with status := .active, activatedAt := some activatedAt, lastUsedAt := some usedAt }

variable {activatedAt usedAt : Int}

theorem Authorizes.transition {c c' : AgentConnection} (h : Authorizes activatedAt usedAt c c') :
    c.Transition c' := by
  cases h with
  | active hstatus => exact .used usedAt hstatus
  | activated hstatus hnow => exact .activated activatedAt (some usedAt) hstatus hnow

theorem Authorizes.status {c c' : AgentConnection} (h : Authorizes activatedAt usedAt c c') :
    c'.status = .active := by
  cases h with
  | active hstatus => exact hstatus
  | activated hstatus hnow => rfl

/-- the connection can be used: it is active, or authorized and not past its expiry -/
def AgentConnection.usable (c : AgentConnection) (now : Int) : Bool :=
  match c.status with
  | .active => true
  | .authorized => decide (now < c.pendingExpiresAt)
  | _ => false

/-- the principal of a connection -/
def AgentConnection.context (c : AgentConnection) : AgentConnectionContext :=
  ⟨c.userId, c.id, c.workspaceId, .fromIter c.permissions⟩

/-- **Every authorization is of a stored connection that is what the command says, whose user is still
who it was and a member, and that can be used; it is active then.** -/
theorem authorizeAgentConnection_ok {command : AuthorizeAgentConnection}
    {answer : Option AgentConnectionContext}
    (h : db.authorizeAgentConnection command activatedAt usedAt = .ok (answer, db')) :
    (answer = none ∧ db' = db) ∨
      ∃ c ∈ db.connections.rows, ∃ c' expected, c.id = command.connectionId ∧
        canonicalPermissions command.permissions = some expected ∧
        OAuthDb.matchesAuthorization command expected c = true ∧ db.userIsEligible c = true ∧
        Authorizes activatedAt usedAt c c' ∧ c.usable activatedAt = true ∧
        db.saveConnection c' = .ok db' ∧ answer = some c.context := by
  unfold OAuthDb.authorizeAgentConnection at h
  split at h
  · cases h
  · next expected hexpected =>
    rcases withConnection_ok h with ⟨hanswer, hdb⟩ | ⟨c, hmem, hid, hvalid, hc⟩
    · exact .inl ⟨hanswer, hdb⟩
    · split at hc
      · cases hc
        exact .inl ⟨rfl, rfl⟩
      · next hmatches =>
        rw [Bool.not_eq_false] at hmatches
        split at hc
        · cases hc
          exact .inl ⟨rfl, rfl⟩
        · next heligible =>
          rw [Bool.not_eq_false] at heligible
          split at hc
          · cases hc
            exact .inl ⟨rfl, rfl⟩
          · next outcome c1 hne hactivate =>
            split at hc
            · cases hc
              exact .inl ⟨rfl, rfl⟩
            · next c2 huse =>
              obtain ⟨hanswer, hsave⟩ := savedConnection_ok hc
              obtain ⟨hstatus1, rfl⟩ := AgentConnection.useAt_used huse
              right
              cases outcome with
              | activated =>
                obtain ⟨hstatus, hnow, rfl⟩ := AgentConnection.activate_activated hactivate
                refine ⟨c, hmem, _, expected, hid, hexpected, hmatches, heligible,
                  .activated hstatus hnow, ?_, hsave, hanswer⟩
                unfold AgentConnection.usable
                rw [hstatus]
                exact decide_eq_true hnow
              | alreadyActive =>
                unfold AgentConnection.activate at hactivate
                split at hactivate
                · next hstatus =>
                  cases hactivate
                  refine ⟨c, hmem, _, expected, hid, hexpected, hmatches, heligible, .active hstatus,
                    ?_, hsave, hanswer⟩
                  unfold AgentConnection.usable
                  rw [hstatus]
                · split at hactivate <;> cases hactivate
                · cases hactivate
              | unavailable => exact absurd rfl hne

/-- a transition does not bring a connection into the way of another -/
theorem ConnectionsInv.apart_transition (hi : ConnectionsInv now db) {c c' : AgentConnection}
    (hc : c ∈ db.connections.rows) (h : c.Transition c') {d : AgentConnection}
    (hd : d ∈ db.connections.rows) (hne : d.id ≠ c.id) :
    c'.toRow.sameLiveTuple d = false ∧ c'.toRow.sharesTransaction d = false := by
  obtain ⟨hlive, htransaction⟩ := hi.apart c hc d hd hne
  have he := h.evolves
  constructor
  · have hsame : c'.toRow.live = true → c.live = true := by
      unfold AgentConnection.live
      cases h with
      | consumed now hstatus hnow =>
        rw [hstatus]
        exact fun _ => rfl
      | activated now lastUsedAt hstatus hnow =>
        rw [hstatus]
        exact fun _ => rfl
      | used now hstatus =>
        rw [hstatus]
        exact fun _ => rfl
      | revoked now hstatus => exact fun hrevoked => (by cases hrevoked)
    by_contra hcontra
    rw [Bool.not_eq_false] at hcontra
    unfold AgentConnection.sameLiveTuple at hlive hcontra
    have huser : c'.toRow.userId = c.userId := he.userId
    have hclient : c'.toRow.auth0ClientId = c.auth0ClientId := he.auth0ClientId
    have hresource : c'.toRow.resource = c.resource := he.resource
    rw [huser, hclient, hresource] at hcontra
    have hlive' : c'.toRow.live = true := by
      simp only [Bool.and_eq_true] at hcontra
      exact hcontra.1.1.1.1
    rw [hsame hlive'] at hlive
    rw [hlive', hlive] at hcontra
    exact absurd hcontra (by decide)
  · rw [← htransaction]
    unfold AgentConnection.sharesTransaction
    have h1 : c'.toRow.authorization.id = c.authorization.id := he.transaction
    have h2 : c'.toRow.authorization.continuationDigest = c.authorization.continuationDigest :=
      he.continuationDigest
    have h3 : c'.toRow.authorization.nonceDigest = c.authorization.nonceDigest := he.nonceDigest
    rw [h1, h2, h3]

theorem ConnectionsInv.save_eq (hi : ConnectionsInv now db) {c c' : AgentConnection}
    (hc : c ∈ db.connections.rows) (h : c.Transition c') (hchecks : c'.toRow.rowChecks = true) :
    db.saveConnection c' = .ok { db with connections := db.connections.upsert c'.toRow } := by
  refine OAuthDb.saveConnection_eq ?_ hchecks ?_
  · rw [h.evolves.permissions]
    exact (hi.stored c hc).nodup
  · intro d hd hne
    rw [h.evolves.id] at hne
    exact hi.apart_transition hc h hd hne

/-- the row of an authorized connection is in order -/
theorem Authorizes.rowChecks (hi : ConnectionsInv now db) {c c' : AgentConnection}
    (hc : c ∈ db.connections.rows) (h : Authorizes activatedAt usedAt c c') (hnow : now ≤ activatedAt)
    (hle : activatedAt ≤ usedAt) : c'.toRow.rowChecks = true := by
  have hstored := hi.stored c hc
  have hvalid := hi.valid c hc
  have hcreated := hi.created c hc
  have h1 : c.createdAt ≤ pgTimestamp activatedAt := le_trans hcreated (pgTimestamp_mono hnow)
  have h2 : c.createdAt ≤ pgTimestamp usedAt := le_trans h1 (pgTimestamp_mono hle)
  have he := h.transition.evolves.toRow hstored
  have hmap : ∀ t : Option Int, AgentConnection.notBefore c.createdAt t = true →
      AgentConnection.notBefore c.createdAt (t.map pgTimestamp) = true := by
    intro t ht
    cases t with
    | none => rfl
    | some t =>
      refine decide_eq_true ?_
      rw [← hstored.createdAt]
      exact pgTimestamp_mono (of_decide_eq_true ht)
  have hstatus := hvalid.status
  unfold AgentConnection.statusValid at hstatus
  rw [AgentConnection.rowChecks_iff, he.createdAt, he.pendingExpiresAt]
  cases h with
  | active hactive =>
    rw [hactive] at hstatus
    simp only [Bool.and_eq_true, Option.isSome_iff_exists] at hstatus
    obtain ⟨⟨⟨t, hactivated⟩, hrevoked⟩, -⟩ := hstatus
    have hrevoked' : c.revokedAt = none := by simpa using hrevoked
    refine ⟨?_, hvalid.request.1, hmap _ hvalid.activatedAt, decide_eq_true h2,
      hmap _ hvalid.revokedAt, hmap _ hvalid.consumedAt⟩
    unfold AgentConnection.lifecycleCheck AgentConnection.toRow
    simp [hactive, hactivated, hrevoked']
  | activated hauthorized hexpires =>
    rw [hauthorized] at hstatus
    simp only [Bool.and_eq_true] at hstatus
    obtain ⟨⟨-, hrevoked⟩, -⟩ := hstatus
    have hrevoked' : c.revokedAt = none := by simpa using hrevoked
    refine ⟨?_, hvalid.request.1, decide_eq_true h1, decide_eq_true h2,
      hmap _ hvalid.revokedAt, hmap _ hvalid.consumedAt⟩
    unfold AgentConnection.lifecycleCheck AgentConnection.toRow
    simp [hrevoked']

/-- a usable connection is authorized -/
theorem AgentConnection.authorizes_of_usable {c : AgentConnection} (usedAt : Int)
    (h : c.usable activatedAt = true) :
    ∃ c', Authorizes activatedAt usedAt c c' ∧
      ∃ outcome c1, c.activate activatedAt = (outcome, c1) ∧ outcome ≠ .unavailable ∧
        c1.useAt usedAt = (.used, c') := by
  unfold AgentConnection.usable at h
  split at h
  · next hactive =>
    refine ⟨_, .active hactive, .alreadyActive, c, ?_, by decide, ?_⟩
    · unfold AgentConnection.activate
      rw [hactive]
    · unfold AgentConnection.useAt
      rw [if_neg (not_not.mpr hactive)]
  · next hauthorized =>
    have hnow : activatedAt < c.pendingExpiresAt := of_decide_eq_true h
    refine ⟨_, .activated hauthorized hnow, .activated,
      { c with status := .active, activatedAt := some activatedAt }, ?_, by decide, ?_⟩
    · unfold AgentConnection.activate
      rw [hauthorized]
      exact if_pos hnow
    · unfold AgentConnection.useAt
      rw [if_neg (not_not.mpr rfl)]
  · cases h

/-- **A stored connection that is what the command says, whose user is still who it was and a member, and
that can be used, is authorized.** -/
theorem authorizeAgentConnection_eq (hi : ConnectionsInv now db) {command : AuthorizeAgentConnection}
    {c : AgentConnection} (hc : c ∈ db.connections.rows) (hid : c.id = command.connectionId)
    {expected : List WorkspacePermission}
    (hexpected : canonicalPermissions command.permissions = some expected)
    (hmatches : OAuthDb.matchesAuthorization command expected c = true)
    (heligible : db.userIsEligible c = true) (husable : c.usable activatedAt = true)
    (hnow : now ≤ activatedAt) (hle : activatedAt ≤ usedAt) :
    ∃ c', Authorizes activatedAt usedAt c c' ∧
      db.authorizeAgentConnection command activatedAt usedAt
        = .ok (some c.context, { db with connections := db.connections.upsert c'.toRow }) := by
  obtain ⟨c', h, outcome, c1, hactivate, hne, huse⟩ :=
    AgentConnection.authorizes_of_usable usedAt husable
  refine ⟨c', h, ?_⟩
  have hsave := hi.save_eq hc h.transition (h.rowChecks hi hc hnow hle)
  have hcontext : (⟨c'.userId, c'.id, c'.workspaceId, .fromIter c'.permissions⟩ : AgentConnectionContext)
      = c.context := by
    have he := h.transition.evolves
    unfold AgentConnection.context
    rw [he.userId, he.id, he.workspaceId, he.permissions]
  unfold OAuthDb.authorizeAgentConnection
  rw [hexpected]
  dsimp only
  unfold OAuthDb.withConnection
  rw [← hid, OAuthDb.getConnection_eq hc (hi.valid c hc)]
  dsimp only
  rw [hmatches, heligible, hactivate]
  simp only [Bool.true_eq_false, if_false]
  cases outcome with
  | activated =>
    rw [huse]
    dsimp only
    unfold OAuthDb.savedConnection
    rw [hsave, hcontext]
    rfl
  | alreadyActive =>
    rw [huse]
    dsimp only
    unfold OAuthDb.savedConnection
    rw [hsave, hcontext]
    rfl
  | unavailable => exact absurd rfl hne

end

end Proofplane
