import Proofplane.OAuth.Connections

/-!
# What commands do to flows

* `Stored`              a row as a save has written it;
* `FlowsInv`            the rows of the table: valid, and no two of them with one digest;
* `FlowsMove`           all that a command does to the table; `FlowsInv.move` keeps the invariant, and
                        `FlowsMove.forward` tells what has become of a flow;
* `approve_ok`, `consume_ok`, `consume_eq`   **when a code is issued, and when it is exchanged**.
-/

namespace Proofplane
open Base

/-! ## Rows -/

namespace OAuthAuthorizationFlowCode
variable {c c' : OAuthAuthorizationFlowCode}

/-- a save keeps what the transition before it kept -/
theorem Evolves.toRow (hc : c.toRow = c) (h : c.Evolves c') : c.Evolves c'.toRow where
  codeDigest := h.codeDigest
  agentConnectionId := h.agentConnectionId
  workspaceId := h.workspaceId
  expiresAt := by
    show pgTimestamp c'.expiresAt = c.expiresAt
    rw [h.expiresAt]
    exact congrArg OAuthAuthorizationFlowCode.expiresAt hc
  createdAt := by
    show pgTimestamp c'.createdAt = c.createdAt
    rw [h.createdAt]
    exact congrArg OAuthAuthorizationFlowCode.createdAt hc
  consumed hs := by
    show c'.consumedAt.map pgTimestamp = c.consumedAt
    rw [h.consumed hs]
    exact congrArg OAuthAuthorizationFlowCode.consumedAt hc

theorem toRow_toRow (c : OAuthAuthorizationFlowCode) : c.toRow.toRow = c.toRow := by
  unfold toRow
  simp only [AgentConnection.map_pgTimestamp_idem, pgTimestamp_idem]

end OAuthAuthorizationFlowCode

namespace OAuthAuthorizationFlow

/-- a row is its own row -/
def Stored (f : OAuthAuthorizationFlow) : Prop := f.toRow = f

theorem stored_toRow (f : OAuthAuthorizationFlow) : f.toRow.Stored := by
  have hcode : (f.authorizationCode.map OAuthAuthorizationFlowCode.toRow).map
      OAuthAuthorizationFlowCode.toRow = f.authorizationCode.map OAuthAuthorizationFlowCode.toRow := by
    cases f.authorizationCode with
    | none => rfl
    | some code => exact congrArg some code.toRow_toRow
  unfold Stored toRow
  simp only [AgentConnection.map_pgTimestamp_idem, pgTimestamp_idem, hcode]

section
variable {f f' : OAuthAuthorizationFlow}

theorem Stored.expiresAt (h : f.Stored) : pgTimestamp f.expiresAt = f.expiresAt :=
  congrArg OAuthAuthorizationFlow.expiresAt h

theorem Stored.createdAt (h : f.Stored) : pgTimestamp f.createdAt = f.createdAt :=
  congrArg OAuthAuthorizationFlow.createdAt h

theorem Stored.consumedAt (h : f.Stored) : f.consumedAt.map pgTimestamp = f.consumedAt :=
  congrArg OAuthAuthorizationFlow.consumedAt h

theorem Stored.code (h : f.Stored) {code : OAuthAuthorizationFlowCode}
    (hcode : f.authorizationCode = some code) : code.toRow = code := by
  have hmap : f.authorizationCode.map OAuthAuthorizationFlowCode.toRow = f.authorizationCode :=
    congrArg OAuthAuthorizationFlow.authorizationCode h
  rw [hcode] at hmap
  exact Option.some.inj hmap

/-- a save keeps what the transition before it kept -/
theorem Evolves.toRow (hf : f.Stored) (h : Evolves f f') : Evolves f f'.toRow where
  id := h.id
  clientId := h.clientId
  clientName := h.clientName
  redirectUri := h.redirectUri
  codeChallenge := h.codeChallenge
  state := h.state
  resource := h.resource
  scopes := h.scopes
  csrfDigest := h.csrfDigest
  expiresAt := by
    show pgTimestamp f'.expiresAt = f.expiresAt
    rw [h.expiresAt]
    exact hf.expiresAt
  createdAt := by
    show pgTimestamp f'.createdAt = f.createdAt
    rw [h.createdAt]
    exact hf.createdAt
  subject := h.subject
  consumed hs := by
    show f'.consumedAt.map pgTimestamp = f.consumedAt
    rw [h.consumed hs]
    exact hf.consumedAt
  code code hcode := by
    obtain ⟨code', hcode', he⟩ := h.code code hcode
    refine ⟨code'.toRow, ?_, he.toRow (hf.code hcode)⟩
    show f'.authorizationCode.map OAuthAuthorizationFlowCode.toRow = some code'.toRow
    rw [hcode']
    rfl

/-- an instant within two instants that the database keeps stays within them -/
theorem within_pgTimestamp {createdAt expiresAt now : Int} (hepoch : pgEpoch ≤ now)
    (hcreated : pgTimestamp createdAt = createdAt) (hfrom : createdAt ≤ now) (hto : now < expiresAt) :
    withinIfSet createdAt expiresAt (some (pgTimestamp now)) = true := by
  have h1 : createdAt ≤ pgTimestamp now := hcreated ▸ pgTimestamp_mono hfrom
  have h2 : pgTimestamp now ≤ now := by
    rw [pgTimestamp_of_ge hepoch]
    omega
  unfold withinIfSet
  simp only [Option.all_some, Bool.and_eq_true, decide_eq_true_eq]
  omega

theorem rowChecks_iff (f : OAuthAuthorizationFlow) :
    f.rowChecks = true ↔ f.scopes ≠ [] ∧ f.createdAt < f.expiresAt ∧
      ∀ code, f.authorizationCode = some code → code.createdAt < code.expiresAt := by
  unfold rowChecks
  rw [Bool.and_eq_true, Bool.and_eq_true, decide_eq_true_eq, decide_eq_true_eq, and_assoc]
  cases f.authorizationCode with
  | none => simp
  | some code => simp

/-- **A flow that was changed and saved can be loaded again.** -/
theorem Transition.valid_toRow {now : Int} (h : Transition now f f') (hepoch : pgEpoch ≤ now)
    (hf : f.Stored) (hvalid : f.Valid) (hchecks : f'.toRow.rowChecks = true) : f'.toRow.Valid := by
  have he := (h.evolves hvalid).toRow hf
  obtain ⟨-, hexpires, hcodes⟩ := f'.toRow.rowChecks_iff.mp hchecks
  obtain ⟨-, hclient, hredirect, hchallenge, hresource, hscopes⟩ := hvalid.request
  have hrequest : f'.toRow.RequestValid := by
    refine ⟨hexpires, ?_, ?_, ?_, ?_, ?_⟩
    · rw [he.clientId]
      exact hclient
    · rw [he.redirectUri]
      exact hredirect
    · rw [he.codeChallenge]
      exact hchallenge
    · rw [he.resource]
      exact hresource
    · rw [he.scopes]
      exact hscopes
  have hbounds : f'.toRow.createdAt = f.createdAt ∧ f'.toRow.expiresAt = f.expiresAt :=
    ⟨he.createdAt, he.expiresAt⟩
  cases h with
  | attached auth0Subject userId havailable hnone =>
    obtain ⟨hconsumed, -, -⟩ := (f.available_iff now).mp havailable
    have hnocode := hvalid.code_eq_none havailable
    refine ⟨?_, hrequest, rfl, ?_, ?_⟩
    · show (f.authorizationCode.map OAuthAuthorizationFlowCode.toRow).all _ = true
      rw [hnocode]
      rfl
    · show withinIfSet _ _ (f.consumedAt.map pgTimestamp) = true
      rw [hconsumed]
      rfl
    · show (f.authorizationCode.map OAuthAuthorizationFlowCode.toRow).isSome = true → _
      rw [hnocode]
      intro hsome
      cases hsome
  | cancelled havailable hsubject huser =>
    obtain ⟨hconsumed, hfrom, hto⟩ := (f.available_iff now).mp havailable
    have hnocode := hvalid.code_eq_none havailable
    refine ⟨?_, hrequest, ?_, ?_, fun _ => rfl⟩
    · show (f.authorizationCode.map OAuthAuthorizationFlowCode.toRow).all _ = true
      rw [hnocode]
      rfl
    · show f.auth0Subject.isSome = f.userId.isSome
      rw [hsubject, huser]
    · rw [hbounds.1, hbounds.2]
      exact within_pgTimestamp hepoch hf.createdAt hfrom hto
  | approved code havailable hsubject huser hcreated hunused =>
    obtain ⟨hconsumed, hfrom, hto⟩ := (f.available_iff now).mp havailable
    refine ⟨?_, hrequest, ?_, ?_, fun _ => rfl⟩
    · have hlt := hcodes code.toRow rfl
      show code.toRow.valid = true
      unfold OAuthAuthorizationFlowCode.valid
      rw [Bool.and_eq_true, decide_eq_true_eq]
      refine ⟨hlt, ?_⟩
      show withinIfSet _ _ (code.consumedAt.map pgTimestamp) = true
      rw [hunused]
      rfl
    · show f.auth0Subject.isSome = f.userId.isSome
      rw [hsubject, huser]
    · rw [hbounds.1, hbounds.2]
      exact within_pgTimestamp hepoch hf.createdAt hfrom hto
  | exchanged code hcode hunused hfrom hto =>
    have hrow := hf.code hcode
    have hcreatedAt : pgTimestamp code.createdAt = code.createdAt :=
      congrArg OAuthAuthorizationFlowCode.createdAt hrow
    have hexpiresAt : pgTimestamp code.expiresAt = code.expiresAt :=
      congrArg OAuthAuthorizationFlowCode.expiresAt hrow
    have hold := hvalid.code
    rw [hcode] at hold
    refine ⟨?_, hrequest, hvalid.subject, ?_, ?_⟩
    · show OAuthAuthorizationFlowCode.valid _ = true
      unfold OAuthAuthorizationFlowCode.valid
      rw [Bool.and_eq_true, decide_eq_true_eq]
      refine ⟨hcodes _ rfl, ?_⟩
      show withinIfSet (pgTimestamp code.createdAt) (pgTimestamp code.expiresAt)
        (some (pgTimestamp now)) = true
      rw [hcreatedAt, hexpiresAt]
      exact within_pgTimestamp hepoch hcreatedAt hfrom hto
    · rw [hbounds.1, hbounds.2]
      show withinIfSet _ _ (f.consumedAt.map pgTimestamp) = true
      rw [hf.consumedAt]
      exact hvalid.consumedAt
    · intro _
      show (f.consumedAt.map pgTimestamp).isSome = true
      rw [hf.consumedAt]
      exact hvalid.issued (by rw [hcode]; rfl)

end

end OAuthAuthorizationFlow

/-! ## The table -/

structure FlowsInv (now : Int) (db : OAuthDb) : Prop where
  stored : ∀ f ∈ db.flows.rows, f.Stored
  valid : ∀ f ∈ db.flows.rows, f.Valid
  canonical : ∀ f ∈ db.flows.rows, canonicalPermissions f.scopes = some f.scopes
  /-- what is over was begun by a user -/
  subject : ∀ f ∈ db.flows.rows, f.consumedAt.isSome = true → f.auth0Subject.isSome = true
  codes : ∀ f ∈ db.flows.rows, ∀ code, f.authorizationCode = some code →
    code.createdAt ≤ pgTimestamp now
  apart : ∀ f ∈ db.flows.rows, ∀ g ∈ db.flows.rows, g.id ≠ f.id → f.sharesDigest g = false

/-- all that a command does to flows at an instant -/
inductive FlowsMove (now : Int) (db db' : OAuthDb) : Prop
  | same (h : db' = db) : FlowsMove now db db'
  | changed (f f' : OAuthAuthorizationFlow) (hmem : f ∈ db.flows.rows) (h : f.Transition now f')
      (hsave : db.saveFlow f' = .ok db') : FlowsMove now db db'
  | created (f : OAuthAuthorizationFlow) (hnew : db.flows.get? f.id = none) (hrequest : f.RequestValid)
      (hcanonical : canonicalPermissions f.scopes = some f.scopes) (hsubject : f.auth0Subject = none)
      (huser : f.userId = none) (hconsumed : f.consumedAt = none) (hcode : f.authorizationCode = none)
      (hsave : db.saveFlow f = .ok db') : FlowsMove now db db'

theorem sharesDigest_comm (f g : OAuthAuthorizationFlow) : f.sharesDigest g = g.sharesDigest f := by
  unfold OAuthAuthorizationFlow.sharesDigest
  cases hf : f.codeDigest with
  | none =>
    cases hg : g.codeDigest with
    | none => simp only [eq_comm]
    | some e => simp [eq_comm]
  | some d =>
    cases hg : g.codeDigest with
    | none => simp [eq_comm]
    | some e => simp [eq_comm]

/-- a code's digest is that of one flow -/
theorem FlowsInv.eq_of_codeDigest {now : Int} {db : OAuthDb} (hi : FlowsInv now db)
    {f g : OAuthAuthorizationFlow} (hf : f ∈ db.flows.rows) (hg : g ∈ db.flows.rows)
    {digest : Sha256Digest} (hfd : f.codeDigest = some digest) (hgd : g.codeDigest = some digest) :
    g = f := by
  by_contra hne
  have hid : g.id ≠ f.id := fun hid => hne (db.flows.eq_of_key hg hf hid)
  have hapart := hi.apart f hf g hg hid
  unfold OAuthAuthorizationFlow.sharesDigest at hapart
  rw [hfd, hgd] at hapart
  simp at hapart

/-- a saved row shares no digest with the others, nor they with it -/
theorem apart_saveFlow {now : Int} {db db' : OAuthDb} {f : OAuthAuthorizationFlow}
    (hi : FlowsInv now db) (hsave : db.saveFlow f = .ok db') :
    ∀ a ∈ db'.flows.rows, ∀ b ∈ db'.flows.rows, b.id ≠ a.id → a.sharesDigest b = false := by
  obtain ⟨rfl, -, hothers⟩ := OAuthDb.saveFlow_ok hsave
  intro a ha b hb hne
  rcases Table.mem_upsert.mp ha with rfl | ⟨ham, hane⟩
  · rcases Table.mem_upsert.mp hb with rfl | ⟨hbm, hbne⟩
    · exact absurd rfl hne
    · exact hothers b hbm hbne
  · rcases Table.mem_upsert.mp hb with rfl | ⟨hbm, hbne⟩
    · rw [sharesDigest_comm]
      exact hothers a ham hane
    · exact hi.apart a ham b hbm hne

theorem FlowsInv.mono {now now' : Int} {db : OAuthDb} (hi : FlowsInv now db) (h : now ≤ now') :
    FlowsInv now' db :=
  ⟨hi.stored, hi.valid, hi.canonical, hi.subject,
    fun f hf code hcode => le_trans (hi.codes f hf code hcode) (pgTimestamp_mono h), hi.apart⟩

section
variable {now : Int} {db db' : OAuthDb}

/-- a saved row that is in order keeps the table in order -/
theorem FlowsInv.save {f : OAuthAuthorizationFlow} (hi : FlowsInv now db)
    (hsave : db.saveFlow f = .ok db') (hvalid : f.toRow.Valid)
    (hcanonical : canonicalPermissions f.scopes = some f.scopes)
    (hsubject : f.consumedAt.isSome = true → f.auth0Subject.isSome = true)
    (hcodes : ∀ code, f.authorizationCode = some code → pgTimestamp code.createdAt ≤ pgTimestamp now) :
    FlowsInv now db' := by
  have hapart := apart_saveFlow hi hsave
  obtain ⟨rfl, -, -⟩ := OAuthDb.saveFlow_ok hsave
  refine ⟨?_, ?_, ?_, ?_, ?_, hapart⟩
  · intro x hx
    rcases Table.mem_upsert.mp hx with rfl | ⟨hxm, -⟩
    · exact f.stored_toRow
    · exact hi.stored x hxm
  · intro x hx
    rcases Table.mem_upsert.mp hx with rfl | ⟨hxm, -⟩
    · exact hvalid
    · exact hi.valid x hxm
  · intro x hx
    rcases Table.mem_upsert.mp hx with rfl | ⟨hxm, -⟩
    · exact hcanonical
    · exact hi.canonical x hxm
  · intro x hx hconsumed
    rcases Table.mem_upsert.mp hx with rfl | ⟨hxm, -⟩
    · refine hsubject ?_
      rw [← hconsumed]
      show _ = (f.consumedAt.map pgTimestamp).isSome
      cases f.consumedAt <;> rfl
    · exact hi.subject x hxm hconsumed
  · intro x hx code hcode
    rcases Table.mem_upsert.mp hx with rfl | ⟨hxm, -⟩
    · obtain ⟨old, hold, rfl⟩ := Option.map_eq_some_iff.mp hcode
      exact hcodes old hold
    · exact hi.codes x hxm code hcode

theorem FlowsInv.congr (hi : FlowsInv now db) (h : db'.flows = db.flows) : FlowsInv now db' := by
  refine ⟨?_, ?_, ?_, ?_, ?_, ?_⟩
  · rw [h]
    exact hi.stored
  · rw [h]
    exact hi.valid
  · rw [h]
    exact hi.canonical
  · rw [h]
    exact hi.subject
  · rw [h]
    exact hi.codes
  · rw [h]
    exact hi.apart

theorem FlowsInv.move (hi : FlowsInv now db) (hepoch : pgEpoch ≤ now) (h : FlowsMove now db db') :
    FlowsInv now db' := by
  cases h with
  | same h =>
    rw [h]
    exact hi
  | changed f f' hmem h hsave =>
    obtain ⟨-, hchecks, -⟩ := OAuthDb.saveFlow_ok hsave
    have hvalid := hi.valid f hmem
    have he := h.evolves hvalid
    refine hi.save hsave (h.valid_toRow hepoch (hi.stored f hmem) hvalid hchecks) ?_ ?_ ?_
    · rw [he.scopes]
      exact hi.canonical f hmem
    · cases h with
      | attached auth0Subject userId havailable hnone => exact fun _ => rfl
      | cancelled havailable hsubject huser => exact fun _ => hsubject
      | approved code havailable hsubject huser hcreated hunused => exact fun _ => hsubject
      | exchanged code hcode hunused hfrom hto => exact hi.subject f hmem
    · intro code hcode
      have hold : ∀ old, f.authorizationCode = some old →
          pgTimestamp old.createdAt ≤ pgTimestamp now := by
        intro old hold
        have hrow : old.toRow = old := (hi.stored f hmem).code hold
        have hcreated : pgTimestamp old.createdAt = old.createdAt :=
          congrArg OAuthAuthorizationFlowCode.createdAt hrow
        rw [hcreated]
        exact hi.codes f hmem old hold
      cases h with
      | attached auth0Subject userId havailable hnone => exact hold code hcode
      | cancelled havailable hsubject huser => exact hold code hcode
      | approved new havailable hsubject huser hcreated hunused =>
        cases hcode
        rw [hcreated]
      | exchanged old hcode' hunused hfrom hto =>
        cases hcode
        exact hold old hcode'
  | created f hnew hrequest hcanonical hsubject huser hconsumed hcode hsave =>
    obtain ⟨-, hchecks, -⟩ := OAuthDb.saveFlow_ok hsave
    obtain ⟨hscopes, hexpires, -⟩ := f.toRow.rowChecks_iff.mp hchecks
    obtain ⟨-, hrequest'⟩ := hrequest
    refine hi.save hsave ⟨?_, ⟨hexpires, hrequest'⟩, ?_, ?_, ?_⟩ hcanonical ?_ ?_
    · show (f.authorizationCode.map _).all _ = true
      rw [hcode]
      rfl
    · show f.auth0Subject.isSome = f.userId.isSome
      rw [hsubject, huser]
      rfl
    · show withinIfSet _ _ (f.consumedAt.map _) = true
      rw [hconsumed]
      rfl
    · show (f.authorizationCode.map _).isSome = true → _
      rw [hcode]
      intro hsome
      cases hsome
    · rw [hconsumed]
      intro hsome
      cases hsome
    · rw [hcode]
      intro code hsome
      cases hsome

/-- every flow goes on -/
theorem FlowsMove.forward (h : FlowsMove now db db') (hi : FlowsInv now db)
    {f : OAuthAuthorizationFlow} (hf : f ∈ db.flows.rows) : ∃ f' ∈ db'.flows.rows, f.Evolves f' := by
  cases h with
  | same h =>
    rw [h]
    exact ⟨f, hf, .refl f⟩
  | changed g g' hmem h hsave =>
    obtain ⟨rfl, -, -⟩ := OAuthDb.saveFlow_ok hsave
    have he := h.evolves (hi.valid g hmem)
    by_cases hid : f.id = g.id
    · have heq : f = g := db.flows.eq_of_key hf hmem hid
      subst heq
      exact ⟨g'.toRow, Table.mem_upsert.mpr (.inl rfl), he.toRow (hi.stored f hf)⟩
    · refine ⟨f, Table.mem_upsert.mpr (.inr ⟨hf, ?_⟩), .refl f⟩
      show f.id ≠ g'.id
      rw [he.id]
      exact hid
  | created g hnew hrequest hcanonical hsubject huser hconsumed hcode hsave =>
    obtain ⟨rfl, -, -⟩ := OAuthDb.saveFlow_ok hsave
    refine ⟨f, Table.mem_upsert.mpr (.inr ⟨hf, ?_⟩), .refl f⟩
    intro hid
    exact Table.get?_eq_none_iff.mp hnew f hf hid

/-! ## The commands -/

/-- what loading, changing and saving a flow has found -/
theorem changeFlow_ok {id : OAuthAuthorizationRequestId}
    {change : OAuthAuthorizationFlow → Except OAuthAuthorizationFlowError OAuthAuthorizationFlow}
    {f' : OAuthAuthorizationFlow} (h : db.changeFlow id change = .ok (f', db')) :
    ∃ f ∈ db.flows.rows, f.id = id ∧ change f = .ok f' ∧ db.saveFlow f' = .ok db' := by
  unfold OAuthDb.changeFlow at h
  split at h
  · cases h
  · cases h
  · next f hget =>
    obtain ⟨hmem, hid, -⟩ := OAuthDb.getFlow_some hget
    split at h
    · cases h
    · next g hchange =>
      split at h
      · cases h
      · next db1 hsave =>
        cases h
        exact ⟨f, hmem, hid, hchange, hsave⟩

theorem OAuthAuthorizationFlow.attachSubject_ok {f f' : OAuthAuthorizationFlow} {auth0Subject : String}
    {userId : UserId} (h : f.attachSubject auth0Subject userId now = .ok f') :
    f.availableAt now = true ∧ f.auth0Subject = none ∧
      f' = { f with auth0Subject := some auth0Subject, userId := some userId } := by
  unfold OAuthAuthorizationFlow.attachSubject at h
  split at h
  · cases h
  · next hc =>
    cases h
    simp only [not_or, Bool.not_eq_false, Bool.not_eq_true, Option.isSome_eq_false_iff,
      Option.isNone_iff_eq_none] at hc
    exact ⟨hc.1, hc.2.1, rfl⟩

theorem OAuthAuthorizationFlow.cancel_ok {f f' : OAuthAuthorizationFlow} (h : f.cancel now = .ok f') :
    f.Transition now f' := by
  unfold OAuthAuthorizationFlow.cancel at h
  split at h
  · cases h
  · next hc =>
    cases h
    simp only [not_or, Bool.not_eq_false, Option.isNone_iff_eq_none, ← ne_eq,
      ← Option.isSome_iff_ne_none] at hc
    exact .cancelled hc.1 hc.2.1 hc.2.2

/-- the code that an approval issues -/
def ApproveOAuthAuthorization.issued (digest : String → Sha256Digest)
    (command : ApproveOAuthAuthorization) : OAuthAuthorizationFlowCode :=
  ⟨digest command.code, command.agentConnectionId, command.workspaceId, command.codeExpiresAt, none,
    command.approvedAt⟩

/-- what an approval has found, and what it has saved -/
theorem approve_ok {digest : String → Sha256Digest} {command : ApproveOAuthAuthorization}
    {f' : OAuthAuthorizationFlow} (h : db.approveOAuthAuthorization digest command = .ok (f', db')) :
    ∃ f ∈ db.flows.rows, f.id = command.requestId ∧ f.availableAt command.approvedAt = true ∧
      f.auth0Subject.isSome = true ∧ f.userId.isSome = true ∧
      f' = { f with
        consumedAt := some command.approvedAt
        authorizationCode := some (command.issued digest) } ∧
      db.saveFlow f' = .ok db' := by
  obtain ⟨f, hmem, hid, hchange, hsave⟩ := changeFlow_ok h
  refine ⟨f, hmem, hid, ?_⟩
  unfold OAuthAuthorizationFlow.approveAndIssueCode at hchange
  split at hchange
  · cases hchange
  · next hc =>
    cases hchange
    simp only [not_or, Bool.not_eq_false, Option.isNone_iff_eq_none, ← ne_eq,
      ← Option.isSome_iff_ne_none] at hc
    exact ⟨hc.1, hc.2.1, hc.2.2.1, rfl, hsave⟩

theorem approve_move {digest : String → Sha256Digest} {command : ApproveOAuthAuthorization}
    {f' : OAuthAuthorizationFlow} (h : db.approveOAuthAuthorization digest command = .ok (f', db')) :
    FlowsMove command.approvedAt db db' := by
  obtain ⟨f, hmem, -, havailable, hsubject, huser, rfl, hsave⟩ := approve_ok h
  exact .changed f _ hmem (.approved _ havailable hsubject huser rfl rfl) hsave

/-- what the attachment of a subject has found, and what it has saved -/
theorem attach_ok {digest : String → Sha256Digest} {command : AttachOAuthAuthorizationSubject}
    {f' : OAuthAuthorizationFlow}
    (h : db.attachOAuthAuthorizationSubject digest command = .ok (f', db')) :
    ∃ f ∈ db.flows.rows, f.availableAt command.attachedAt = true ∧ f.auth0Subject = none ∧
      f' = { f with auth0Subject := some command.auth0Subject, userId := some command.userId } ∧
      db.saveFlow f' = .ok db' := by
  unfold OAuthDb.attachOAuthAuthorizationSubject at h
  split at h
  · cases h
  · obtain ⟨f, hmem, -, hchange, hsave⟩ := changeFlow_ok h
    obtain ⟨havailable, hnone, hf'⟩ := OAuthAuthorizationFlow.attachSubject_ok hchange
    exact ⟨f, hmem, havailable, hnone, hf', hsave⟩

theorem attach_move {digest : String → Sha256Digest} {command : AttachOAuthAuthorizationSubject}
    {f' : OAuthAuthorizationFlow}
    (h : db.attachOAuthAuthorizationSubject digest command = .ok (f', db')) :
    FlowsMove command.attachedAt db db' := by
  obtain ⟨f, hmem, havailable, hnone, rfl, hsave⟩ := attach_ok h
  exact .changed f _ hmem (.attached command.auth0Subject command.userId havailable hnone) hsave

theorem cancel_move {command : CancelOAuthAuthorization} {f' : OAuthAuthorizationFlow}
    (h : db.cancelOAuthAuthorization command = .ok (f', db')) :
    FlowsMove command.cancelledAt db db' := by
  obtain ⟨f, hmem, -, hchange, hsave⟩ := changeFlow_ok h
  exact .changed f f' hmem (OAuthAuthorizationFlow.cancel_ok hchange) hsave

/-- a request makes a new flow, or finds the one that it has made -/
theorem requestOAuthAuthorization_ok {digest : String → Sha256Digest}
    {command : RequestOAuthAuthorization} {f : OAuthAuthorizationFlow}
    (h : db.requestOAuthAuthorization digest command = .ok (f, db')) :
    db' = db ∨ db.flows.get? f.id = none ∧ f.RequestValid ∧
      canonicalPermissions f.scopes = some f.scopes ∧ f.auth0Subject = none ∧ f.userId = none ∧
      f.consumedAt = none ∧ f.authorizationCode = none ∧ db.saveFlow f = .ok db' := by
  unfold OAuthDb.requestOAuthAuthorization at h
  split at h
  · cases h
  · next scopes hscopes =>
    split at h
    · cases h
    · next flow hflow =>
      unfold OAuthAuthorizationFlow.request at hflow
      dsimp only at hflow
      split at hflow
      · next hrequest =>
        cases hflow
        split at h
        · cases h
        · split at h
          · cases h
            exact .inl rfl
          · cases h
        · next hnone =>
          split at h
          · cases h
          · next db1 hsave =>
            cases h
            refine .inr ⟨?_, hrequest, canonicalPermissions_idem hscopes, rfl, rfl, rfl, rfl, hsave⟩
            unfold OAuthDb.getFlow at hnone
            split at hnone
            · next hget => exact hget
            · split at hnone <;> cases hnone
      · cases hflow

theorem requestOAuthAuthorization_move {digest : String → Sha256Digest}
    {command : RequestOAuthAuthorization} {f : OAuthAuthorizationFlow}
    (h : db.requestOAuthAuthorization digest command = .ok (f, db')) : FlowsMove now db db' := by
  rcases requestOAuthAuthorization_ok h with
    hdb | ⟨hnew, hrequest, hcanonical, hsubject, huser, hconsumed, hcode, hsave⟩
  · exact .same hdb
  · exact .created f hnew hrequest hcanonical hsubject huser hconsumed hcode hsave

/-! ## Exchange -/

/-- the grant of a code -/
def OAuthAuthorizationFlow.grant (f : OAuthAuthorizationFlow) (code : OAuthAuthorizationFlowCode)
    (auth0Subject : String) (userId : UserId) : OAuthAuthorizationCodeGrant :=
  ⟨f.id, code.agentConnectionId, code.workspaceId, f.clientId, f.redirectUri, f.codeChallenge,
    f.resource, f.scopes, auth0Subject, userId, code.expiresAt⟩

/-- what the exchange of a code has found -/
structure Exchangeable (f : OAuthAuthorizationFlow) (code : OAuthAuthorizationFlowCode)
    (codeDigest : Sha256Digest) (command : ConsumeOAuthAuthorizationCode) : Prop where
  code_eq : f.authorizationCode = some code
  digest_eq : code.codeDigest = codeDigest
  clientId : f.clientId = command.clientId
  redirectUri : f.redirectUri = command.redirectUri
  unused : code.consumedAt = none
  created : code.createdAt ≤ command.consumedAt
  unexpired : command.consumedAt < code.expiresAt

/-- the flow after the exchange -/
def OAuthAuthorizationFlow.exchanged (f : OAuthAuthorizationFlow) (code : OAuthAuthorizationFlowCode)
    (now : Int) : OAuthAuthorizationFlow :=
  { f with authorizationCode := some { code with consumedAt := some now } }

/-- **Every exchange is of one flow's code, unused and not expired, by the client it was issued to.** -/
theorem consume_ok {digest : String → Sha256Digest} {command : ConsumeOAuthAuthorizationCode}
    {grant : OAuthAuthorizationCodeGrant}
    (h : db.consumeOAuthAuthorizationCode digest command = .ok (grant, db')) :
    ∃ f ∈ db.flows.rows, ∃ code auth0Subject userId,
      Exchangeable f code (digest command.code) command ∧ f.auth0Subject = some auth0Subject ∧
      f.userId = some userId ∧ grant = f.grant code auth0Subject userId ∧
      db.saveFlow (f.exchanged code command.consumedAt) = .ok db' := by
  unfold OAuthDb.consumeOAuthAuthorizationCode at h
  split at h
  · cases h
  · next id hid =>
    split at h
    · cases h
    · cases h
    · next f hget =>
      obtain ⟨hmem, hfid, -⟩ := OAuthDb.getFlow_some hget
      -- the flow that was loaded is the one that was found
      have hdigest : f.codeDigest = some (digest command.code) := by
        obtain ⟨g, hfind, hgid⟩ := Option.map_eq_some_iff.mp hid
        have hg : g.codeDigest = some (digest command.code) := by
          have := List.find?_some hfind
          exact of_decide_eq_true this
        have hgf : g = f :=
          db.flows.eq_of_key (List.mem_of_find?_eq_some hfind) hmem (hgid.trans hfid.symm)
        rw [← hgf]
        exact hg
      split at h
      · cases h
      · next f' hconsume =>
        unfold OAuthAuthorizationFlow.consumeCode at hconsume
        split at hconsume
        · cases hconsume
        · next code hcode =>
          split at hconsume
          · cases hconsume
          · next hc =>
            cases hconsume
            push Not at hc
            obtain ⟨hclient, hredirect, hunused, hfrom, hto⟩ := hc
            have hcodeDigest : code.codeDigest = digest command.code := by
              unfold OAuthAuthorizationFlow.codeDigest at hdigest
              rw [hcode] at hdigest
              exact Option.some.inj hdigest
            split at h
            · cases h
            · next g hgrant =>
              split at h
              · cases h
              · next db1 hsave =>
                cases h
                unfold OAuthDb.codeGrant at hgrant
                dsimp only at hgrant
                split at hgrant
                · cases hgrant
                · next auth0Subject hsubject =>
                  split at hgrant
                  · cases hgrant
                  · next userId huser =>
                    cases hgrant
                    refine ⟨f, hmem, code, auth0Subject, userId,
                      ⟨hcode, hcodeDigest, hclient, hredirect, ?_, hfrom, hto⟩, hsubject, huser, rfl,
                      hsave⟩
                    simpa using hunused

theorem consume_move {digest : String → Sha256Digest} {command : ConsumeOAuthAuthorizationCode}
    {grant : OAuthAuthorizationCodeGrant}
    (h : db.consumeOAuthAuthorizationCode digest command = .ok (grant, db')) :
    FlowsMove command.consumedAt db db' := by
  obtain ⟨f, hmem, code, -, -, he, -, -, -, hsave⟩ := consume_ok h
  exact .changed f _ hmem (.exchanged code he.code_eq he.unused he.created he.unexpired) hsave

/-- **A code that can be exchanged is.** -/
theorem consume_eq {digest : String → Sha256Digest} {command : ConsumeOAuthAuthorizationCode}
    (hi : FlowsInv now db) {f : OAuthAuthorizationFlow} (hf : f ∈ db.flows.rows)
    {code : OAuthAuthorizationFlowCode} (he : Exchangeable f code (digest command.code) command)
    {auth0Subject : String} {userId : UserId} (hsubject : f.auth0Subject = some auth0Subject)
    (huser : f.userId = some userId) :
    db.consumeOAuthAuthorizationCode digest command
      = .ok (f.grant code auth0Subject userId,
        { db with flows := db.flows.upsert (f.exchanged code command.consumedAt).toRow }) := by
  have hdigest : f.codeDigest = some (digest command.code) := by
    unfold OAuthAuthorizationFlow.codeDigest
    rw [he.code_eq, Option.map_some, he.digest_eq]
  have hresolve : db.resolveIdByCodeDigest (digest command.code) = some f.id := by
    unfold OAuthDb.resolveIdByCodeDigest
    cases hfind : db.flows.rows.find? (fun g => decide (g.codeDigest = some (digest command.code))) with
    | none => exact absurd (decide_eq_true hdigest) (List.find?_eq_none.mp hfind f hf)
    | some g =>
      have hg : g.codeDigest = some (digest command.code) := by
        have := List.find?_some hfind
        exact of_decide_eq_true this
      rw [hi.eq_of_codeDigest hf (List.mem_of_find?_eq_some hfind) hdigest hg]
      rfl
  have hconsume : f.consumeCode command.clientId command.redirectUri command.consumedAt
      = .ok (f.exchanged code command.consumedAt) := by
    unfold OAuthAuthorizationFlow.consumeCode
    rw [he.code_eq]
    dsimp only
    rw [if_neg]
    · rfl
    · have hfrom := he.created
      have hto := he.unexpired
      rw [he.unused, he.clientId, he.redirectUri]
      simp only [ne_eq, not_true_eq_false, Option.isSome_none, Bool.false_eq_true, false_or, not_or]
      omega
  have hgrant : OAuthDb.codeGrant (f.exchanged code command.consumedAt)
      = .ok (f.grant code auth0Subject userId) := by
    have hsubject' : (f.exchanged code command.consumedAt).auth0Subject = some auth0Subject := hsubject
    have huser' : (f.exchanged code command.consumedAt).userId = some userId := huser
    have hcode' : (f.exchanged code command.consumedAt).authorizationCode
        = some { code with consumedAt := some command.consumedAt } := rfl
    unfold OAuthDb.codeGrant
    rw [hcode']
    dsimp only
    rw [hsubject']
    dsimp only
    rw [huser']
    rfl
  have hrow := (hi.stored f hf).code he.code_eq
  have hold := (hi.valid f hf).code
  rw [he.code_eq] at hold
  have hchecks : (f.exchanged code command.consumedAt).toRow.rowChecks = true := by
    rw [OAuthAuthorizationFlow.rowChecks_iff]
    obtain ⟨hlt, -, -, -, -, hscopes⟩ := (hi.valid f hf).request
    refine ⟨hscopes, ?_, ?_⟩
    · show pgTimestamp f.createdAt < pgTimestamp f.expiresAt
      rw [(hi.stored f hf).createdAt, (hi.stored f hf).expiresAt]
      exact hlt
    · intro c hc
      cases hc
      show pgTimestamp code.createdAt < pgTimestamp code.expiresAt
      have h1 : pgTimestamp code.createdAt = code.createdAt :=
        congrArg OAuthAuthorizationFlowCode.createdAt hrow
      have h2 : pgTimestamp code.expiresAt = code.expiresAt :=
        congrArg OAuthAuthorizationFlowCode.expiresAt hrow
      rw [h1, h2]
      exact of_decide_eq_true (Bool.and_eq_true_iff.mp hold).1
  have hothers : ∀ g ∈ db.flows.rows, g.id ≠ (f.exchanged code command.consumedAt).id →
      (f.exchanged code command.consumedAt).toRow.sharesDigest g = false := by
    intro g hg hne
    rw [← hi.apart f hf g hg hne]
    unfold OAuthAuthorizationFlow.sharesDigest OAuthAuthorizationFlow.codeDigest
    rw [he.code_eq]
    rfl
  unfold OAuthDb.consumeOAuthAuthorizationCode
  rw [hresolve]
  dsimp only
  rw [OAuthDb.getFlow_eq hf (hi.valid f hf)]
  dsimp only
  rw [hconsume]
  dsimp only
  rw [hgrant]
  dsimp only
  rw [OAuthDb.saveFlow_eq hchecks hothers]

end

end Proofplane
