import Proofplane.OAuth.Admission

/-!
# What a token was issued for

A token is issued by two steps of a call, the second of which reads no flow.  The history tells what was
done before them: the flow's user was attached and then its code approved, and the code was presented
once.

* `FlowLogged`       what the history tells of a flow, `FlowsLogged.move`;
* `IssuedOnce`       calls that exchange codes are apart, and so are the tokens, `IssuedOnce.move`;
* `CodePresented`    the step at which a code was presented, `presented_before`;
* `IssuedFor`        what a token stands for;
* `oauth_issuance_sound`   **every token was issued for one flow, its user, its client and its code**.
-/

namespace Proofplane
open Base

/-! ## Attachment before approval -/

/-- the user of the flow was attached, and was so before the approval of the code -/
structure FlowLogged (log : List OAuthRecord) (f : OAuthAuthorizationFlow) : Prop where
  attached : ∀ auth0Subject userId, f.auth0Subject = some auth0Subject → f.userId = some userId →
    .attached f.id auth0Subject userId ∈ log
  approved : ∀ digest, f.codeDigest = some digest → ∃ newer older auth0Subject userId,
    log = newer ++ .approved f.id digest :: older ∧ f.auth0Subject = some auth0Subject ∧
      f.userId = some userId ∧ .attached f.id auth0Subject userId ∈ older

def FlowsLogged (log : List OAuthRecord) (db : OAuthDb) : Prop :=
  ∀ f ∈ db.flows.rows, FlowLogged log f

section
variable {log : List OAuthRecord} {f g : OAuthAuthorizationFlow} {db db' : OAuthDb}

theorem FlowLogged.append (h : FlowLogged log f) (newer : List OAuthRecord) :
    FlowLogged (newer ++ log) f where
  attached s u hs hu := List.mem_append_right _ (h.attached s u hs hu)
  approved d hd := by
    obtain ⟨l, older, s, u, rfl, hs, hu, hmem⟩ := h.approved d hd
    exact ⟨newer ++ l, older, s, u, (List.append_assoc newer l _).symm, hs, hu, hmem⟩

theorem FlowLogged.congr (h : FlowLogged log f) (hid : f.id = g.id)
    (hsubject : g.auth0Subject = f.auth0Subject) (huser : g.userId = f.userId)
    (hdigest : g.codeDigest = f.codeDigest) : FlowLogged log g where
  attached s u hs hu := by
    rw [← hid]
    exact h.attached s u (hsubject ▸ hs) (huser ▸ hu)
  approved d hd := by
    obtain ⟨newer, older, s, u, hlog, hs, hu, hmem⟩ := h.approved d (hdigest ▸ hd)
    exact ⟨newer, older, s, u, hid ▸ hlog, hsubject.trans hs, huser.trans hu, hid ▸ hmem⟩

theorem FlowsLogged.append (h : FlowsLogged log db) (newer : List OAuthRecord) :
    FlowsLogged (newer ++ log) db := fun f hf => (h f hf).append newer

theorem FlowsLogged.quiet (h : FlowsLogged log db) (hq : FlowsQuiet db db') : FlowsLogged log db' := by
  intro g hg
  rcases hq g hg with ⟨f, hf, hid, hsubject, huser, hdigest⟩ | ⟨hsubject, hdigest⟩
  · exact (h f hf).congr hid hsubject huser hdigest
  · refine ⟨fun s u hs => ?_, fun d hd => ?_⟩
    · rw [hsubject] at hs
      cases hs
    · rw [hdigest] at hd
      cases hd

/-- a save tells something new of one flow only -/
theorem FlowsLogged.save (h : FlowsLogged log db) (hsave : db.saveFlow f = .ok db')
    (hf : FlowLogged log f.toRow) : FlowsLogged log db' := by
  obtain ⟨rfl, -, -⟩ := OAuthDb.saveFlow_ok hsave
  intro g hg
  rcases Table.mem_upsert.mp hg with rfl | ⟨hold, -⟩
  · exact hf
  · exact h g hold

theorem codeDigest_toRow (f : OAuthAuthorizationFlow) : f.toRow.codeDigest = f.codeDigest := by
  unfold OAuthAuthorizationFlow.codeDigest OAuthAuthorizationFlow.toRow
  cases f.authorizationCode <;> rfl

end

section
variable {Key Nonce : Type} {S : OAuthServer Key Nonce} {now : Int} {w w' : OAuthWorld}

theorem FlowsLogged.attach (hi : FlowsInv now w.db) (h : FlowsLogged w.log w.db)
    {command : AttachOAuthAuthorizationSubject} {flow : OAuthAuthorizationFlow} {db : OAuthDb}
    (hattach : w.db.attachOAuthAuthorizationSubject S.digest command = .ok (flow, db)) :
    FlowsLogged (.attached flow.id command.auth0Subject command.userId :: w.log) db := by
  obtain ⟨f, hmem, havailable, -, rfl, hsave⟩ := attach_ok hattach
  refine (h.append [_]).save hsave ⟨fun s u hs hu => ?_, fun d hd => ?_⟩
  · cases hs
    cases hu
    exact List.mem_cons_self
  · -- an available flow has no code
    rw [codeDigest_toRow] at hd
    have hnone := (hi.valid f hmem).code_eq_none havailable
    have hdigest : f.authorizationCode.map OAuthAuthorizationFlowCode.codeDigest = some d := hd
    rw [hnone] at hdigest
    cases hdigest

theorem FlowsLogged.approve (h : FlowsLogged w.log w.db) {command : ApproveOAuthAuthorization}
    {flow : OAuthAuthorizationFlow} {db : OAuthDb}
    (happrove : w.db.approveOAuthAuthorization S.digest command = .ok (flow, db)) :
    FlowsLogged (.approved flow.id (S.digest command.code) :: w.log) db := by
  obtain ⟨f, hmem, -, -, hsubject, huser, rfl, hsave⟩ := approve_ok happrove
  obtain ⟨s, hs⟩ := Option.isSome_iff_exists.mp hsubject
  obtain ⟨u, hu⟩ := Option.isSome_iff_exists.mp huser
  have hattached := (h f hmem).attached s u hs hu
  refine (h.append [_]).save hsave ⟨fun s' u' hs' hu' => ?_, fun d hd => ?_⟩
  · exact List.mem_cons_of_mem _ ((h f hmem).attached s' u' hs' hu')
  · rw [codeDigest_toRow] at hd
    cases hd
    exact ⟨[], w.log, s, u, rfl, hs, hu, hattached⟩

theorem FlowsLogged.move (hi : FlowsInv now w.db) (h : FlowsLogged w.log w.db)
    (hm : OAuthMove S now w w') : FlowsLogged w'.log w'.db := by
  cases hm with
  | background db hq => exact h.quiet hq.quiet
  | admitted db principal hq => exact (h.quiet hq.quiet).append [_]
  | ended call db hcall hq => exact h.quiet hq.quiet
  | attached call command flow db task hcall hnow hattach htask => exact h.attach hi hattach
  | reused call flow auth0Subject found hcall hfound => exact h
  | read call requestId context hcall hcontext => exact h
  | requested call context connectionId transactionId continuationToken nonce c db hcall hnew hr =>
    exact h.quiet (QuietMove.connections (requestAgentConnection_move hnew hr)).quiet
  | located call context continuationToken nonce connectionId hcall => exact h
  | consumed call context continuationToken nonce connectionId c db hcall hr =>
    exact h.quiet (QuietMove.connections (consumeContinuation_move hr)).quiet
  | approved call command redirectUri state flow db redirects hcall hnow hexpires hr hredirects =>
    exact (h.approve hr).append redirects
  | exchanged call payload grant db task hcall hr htask => exact h.quiet (QuietMove.consume hr).quiet
  | refused call payload grant db hcall hq => exact h.quiet hq.quiet
  | issued call payload grant context instants tokenId nonce token db hcall hclock hr htoken =>
    have hq : QuietMove now w.db db := .connections (authorizeAgentConnection_move hr)
    exact (h.quiet hq.quiet).append [_]

/-! ## One token for a code -/

/-- the digest of the code that a token was issued for -/
def issuedDigest (S : OAuthServer Key Nonce) : OAuthRecord → Option Sha256Digest
  | .issued payload _ _ => some (S.digest payload.code)
  | _ => none

/-- calls that exchange codes exchange different ones, and every token is that of a call that is done -/
structure IssuedOnce (S : OAuthServer Key Nonce) (w : OAuthWorld) : Prop where
  apart : ∀ a ∈ w.calls.rows, ∀ b ∈ w.calls.rows, ∀ x y, a.task.exchange = some x →
    b.task.exchange = some y → S.digest x.1.code = S.digest y.1.code → a = b
  done : ∀ payload grant token, .issued payload grant token ∈ w.log →
    ∃ a ∈ w.calls.rows, a.task = .exchanged payload grant (some token)
  nodup : (w.log.filterMap (issuedDigest S)).Nodup

/-- the row of a call that is at this point -/
theorem call_of_task {call : Nat} {task : OAuthTask} (h : w.task call = some task) :
    (⟨call, task⟩ : OAuthCall) ∈ w.calls.rows := by
  obtain ⟨c, hget, rfl⟩ := Option.map_eq_some_iff.mp h
  obtain rfl := Table.get?_key hget
  exact Table.get?_mem hget

theorem exchange_of_done {a : OAuthCall} {payload : TokenPayload} {grant : OAuthAuthorizationCodeGrant}
    {token : Option IssuedPasetoToken} (h : a.task = .exchanged payload grant token) :
    a.task.exchange = some (payload, grant) := by
  rw [h]
  rfl

/-- a call that exchanges nothing goes on -/
theorem IssuedOnce.goesOn (h : IssuedOnce S w) {call : Nat} {task : OAuthTask}
    (hcall : w.NoExchange call) (htask : task.exchange = none) {db : OAuthDb} {log : List OAuthRecord}
    (hnew : ∀ r ∈ log, issuedDigest S r = none) :
    IssuedOnce S ⟨now, db, w.calls.upsert ⟨call, task⟩, log ++ w.log⟩ where
  apart := by
    intro a ha b hb x y hx hy heq
    rcases Table.mem_upsert.mp ha with rfl | ⟨ha, -⟩
    · rw [htask] at hx
      cases hx
    · rcases Table.mem_upsert.mp hb with rfl | ⟨hb, -⟩
      · rw [htask] at hy
        cases hy
      · exact h.apart a ha b hb x y hx hy heq
  done := by
    intro payload grant token hmem
    rcases List.mem_append.mp hmem with hnew' | hold
    · have := hnew _ hnew'
      cases this
    · obtain ⟨a, ha, htask'⟩ := h.done payload grant token hold
      refine ⟨a, Table.mem_upsert.mpr (.inr ⟨ha, ?_⟩), htask'⟩
      intro hid
      have hnone := hcall a.task (by
        show (w.calls.get? call).map OAuthCall.task = some a.task
        rw [← show a.id = call from hid, Table.get?_of_mem ha]
        rfl)
      rw [exchange_of_done htask'] at hnone
      cases hnone
  nodup := by
    rw [List.filterMap_append, List.filterMap_eq_nil_iff.mpr hnew]
    exact h.nodup

theorem IssuedOnce.keep (h : IssuedOnce S w) {db : OAuthDb} {log : List OAuthRecord}
    (hnew : ∀ r ∈ log, issuedDigest S r = none) : IssuedOnce S ⟨now, db, w.calls, log ++ w.log⟩ where
  apart := h.apart
  done := by
    intro payload grant token hmem
    rcases List.mem_append.mp hmem with hnew' | hold
    · have := hnew _ hnew'
      cases this
    · exact h.done payload grant token hold
  nodup := by
    rw [List.filterMap_append, List.filterMap_eq_nil_iff.mpr hnew]
    exact h.nodup

/-- a code that another call has presented is consumed, so it cannot be presented again -/
theorem IssuedOnce.presents (hi : OAuthInv S w) (hle : w.clock ≤ now) (h : IssuedOnce S w) {call : Nat}
    {payload : TokenPayload} {grant : OAuthAuthorizationCodeGrant} {db : OAuthDb} {task : OAuthTask}
    (hcall : w.calls.get? call = none)
    (hr : w.db.consumeOAuthAuthorizationCode S.digest (OAuthServer.consumeCommand payload now)
      = .ok (grant, db))
    (htask : task.exchange = some (payload, grant)) :
    IssuedOnce S ⟨now, db, w.calls.upsert ⟨call, task⟩, w.log⟩ := by
  obtain ⟨f, hf, code, -, -, he, -, -, -, -⟩ := consume_ok hr
  have hfresh : ∀ b ∈ w.calls.rows, ∀ y, b.task.exchange = some y →
      S.digest payload.code ≠ S.digest y.1.code := by
    intro b hb y hy heq
    have hexchanged : ∃ g ∈ w.db.flows.rows, ∃ code', ExchangedBy S.digest y.1 y.2 g code' := by
      have hk := hi.tasks b hb
      cases hb' : b.task with
      | exchanging p g =>
        rw [hb'] at hk hy
        cases hy
        exact hk.2
      | exchanged p g t =>
        rw [hb'] at hk hy
        cases hy
        exact hk.2
      | _ =>
        rw [hb'] at hy
        cases hy
    obtain ⟨g, hg, code', hx⟩ := hexchanged
    have hfd : f.codeDigest = some (S.digest payload.code) := by
      unfold OAuthAuthorizationFlow.codeDigest
      rw [he.code_eq, Option.map_some, he.digest_eq]
      rfl
    have hgd : g.codeDigest = some (S.digest payload.code) := by
      unfold OAuthAuthorizationFlow.codeDigest
      rw [hx.code_eq, Option.map_some, hx.digest_eq, heq]
    obtain rfl := (hi.flows.mono hle).eq_of_codeDigest hf hg hfd hgd
    have hcode : code' = code := Option.some.inj (hx.code_eq.symm.trans he.code_eq)
    have hconsumed := hx.consumed
    rw [hcode, he.unused] at hconsumed
    cases hconsumed
  refine ⟨?_, ?_, h.nodup⟩
  · intro a ha b hb x y hx hy heq
    rcases Table.mem_upsert.mp ha with rfl | ⟨ha, -⟩
    · rcases Table.mem_upsert.mp hb with rfl | ⟨hb, -⟩
      · rfl
      · have hx' : (payload, grant) = x := Option.some.inj (htask.symm.trans hx)
        subst hx'
        exact absurd heq (hfresh b hb y hy)
    · rcases Table.mem_upsert.mp hb with rfl | ⟨hb, -⟩
      · have hy' : (payload, grant) = y := Option.some.inj (htask.symm.trans hy)
        subst hy'
        exact absurd heq.symm (hfresh a ha x hx)
      · exact h.apart a ha b hb x y hx hy heq
  · intro p g t hmem
    obtain ⟨a, ha, htask'⟩ := h.done p g t hmem
    refine ⟨a, Table.mem_upsert.mpr (.inr ⟨ha, ?_⟩), htask'⟩
    intro hid
    exact Table.get?_eq_none_iff.mp hcall a ha hid

/-- the call that was exchanging a code is done -/
theorem IssuedOnce.finishes (h : IssuedOnce S w) {call : Nat} {payload : TokenPayload}
    {grant : OAuthAuthorizationCodeGrant} (hcall : w.task call = some (.exchanging payload grant))
    (token : Option IssuedPasetoToken) {db : OAuthDb} :
    IssuedOnce S ⟨now, db, w.calls.upsert ⟨call, .exchanged payload grant token⟩,
      (token.map fun t => OAuthRecord.issued payload grant t).toList ++ w.log⟩ := by
  have hrow := call_of_task hcall
  -- the call is the only one at this code
  have honly : ∀ b ∈ w.calls.rows, ∀ y, b.task.exchange = some y →
      S.digest payload.code = S.digest y.1.code → b = ⟨call, .exchanging payload grant⟩ :=
    fun b hb y hy heq => (h.apart _ hrow b hb (payload, grant) y rfl hy heq).symm
  have hkept : ∀ p g t, .issued p g t ∈ w.log →
      (∃ a ∈ (w.calls.upsert ⟨call, .exchanged payload grant token⟩).rows,
        a.task = .exchanged p g (some t)) ∧ S.digest p.code ≠ S.digest payload.code := by
    intro p g t hmem
    obtain ⟨a, ha, htask⟩ := h.done p g t hmem
    have hne : a ≠ ⟨call, .exchanging payload grant⟩ := by
      rintro rfl
      cases htask
    refine ⟨⟨a, Table.mem_upsert.mpr (.inr ⟨ha, ?_⟩), htask⟩, ?_⟩
    · intro hid
      exact hne (w.calls.eq_of_key ha hrow hid)
    · intro heq
      exact hne (honly a ha (p, g) (exchange_of_done htask) heq.symm)
  refine ⟨?_, ?_, ?_⟩
  · intro a ha b hb x y hx hy heq
    rcases Table.mem_upsert.mp ha with rfl | ⟨ha, hane⟩
    · rcases Table.mem_upsert.mp hb with rfl | ⟨hb, hbne⟩
      · rfl
      · cases hx
        rw [honly b hb y hy heq] at hbne
        exact absurd rfl hbne
    · rcases Table.mem_upsert.mp hb with rfl | ⟨hb, hbne⟩
      · cases hy
        rw [honly a ha x hx heq.symm] at hane
        exact absurd rfl hane
      · exact h.apart a ha b hb x y hx hy heq
  · intro p g t hmem
    rcases List.mem_append.mp hmem with hnew | hold
    · cases token with
      | none => cases hnew
      | some token =>
        obtain heq := List.mem_singleton.mp hnew
        cases heq
        exact ⟨_, Table.mem_upsert.mpr (.inl rfl), rfl⟩
    · exact (hkept p g t hold).1
  · cases token with
    | none => exact h.nodup
    | some token =>
      refine List.nodup_cons.mpr ⟨?_, h.nodup⟩
      intro hmem
      obtain ⟨r, hr, hdigest⟩ := List.mem_filterMap.mp hmem
      cases r with
      | issued p g t => exact (hkept p g t hr).2 (Option.some.inj hdigest)
      | _ => cases hdigest

theorem IssuedOnce.move (hi : OAuthInv S w) (hle : w.clock ≤ now) (h : IssuedOnce S w)
    (hm : OAuthMove S now w w') : IssuedOnce S w' := by
  have hquiet : ∀ r ∈ ([] : List OAuthRecord), issuedDigest S r = none := fun r hr => (by cases hr)
  have hone : ∀ r : OAuthRecord, issuedDigest S r = none → ∀ r' ∈ [r], issuedDigest S r' = none := by
    intro r hr r' hr'
    rw [List.mem_singleton.mp hr']
    exact hr
  cases hm with
  | background db hq => exact h.keep hquiet
  | admitted db principal hq => exact h.keep (hone _ rfl)
  | ended call db hcall hq => exact h.goesOn hcall rfl hquiet
  | attached call command flow db task hcall hnow hattach htask =>
    refine h.goesOn hcall ?_ (hone _ rfl)
    rcases htask with rfl | rfl <;> rfl
  | reused call flow auth0Subject found hcall hfound =>
    exact h.goesOn (noExchange_of_task hcall rfl) rfl hquiet
  | read call requestId context hcall hcontext => exact h.goesOn hcall rfl hquiet
  | requested call context connectionId transactionId continuationToken nonce c db hcall hnew hr =>
    exact h.goesOn (noExchange_of_task hcall rfl) rfl hquiet
  | located call context continuationToken nonce connectionId hcall =>
    exact h.goesOn (noExchange_of_task hcall rfl) rfl hquiet
  | consumed call context continuationToken nonce connectionId c db hcall hr =>
    exact h.goesOn (noExchange_of_task hcall rfl) rfl hquiet
  | approved call command redirectUri state flow db redirects hcall hnow hexpires hr hredirects =>
    have hnew : ∀ r ∈ redirects ++ [.approved flow.id (S.digest command.code)],
        issuedDigest S r = none := by
      intro r hmem
      rcases hredirects with rfl | rfl
      · exact hone (.approved flow.id (S.digest command.code)) rfl r hmem
      · rcases List.mem_cons.mp hmem with rfl | hmem
        · rfl
        · exact hone (.approved flow.id (S.digest command.code)) rfl r hmem
    have hgoes : IssuedOnce S ⟨now, db, w.calls.upsert ⟨call, .finished⟩,
        (redirects ++ [.approved flow.id (S.digest command.code)]) ++ w.log⟩ :=
      h.goesOn (noExchange_of_task hcall rfl) rfl hnew
    rwa [List.append_assoc] at hgoes
  | exchanged call payload grant db task hcall hr htask =>
    refine h.presents hi hle hcall hr ?_
    rcases htask with rfl | ⟨-, rfl⟩ <;> rfl
  | refused call payload grant db hcall hq => exact h.finishes hcall none
  | issued call payload grant context instants tokenId nonce token db hcall hclock hr htoken =>
    exact h.finishes hcall (some token)

/-! ## The presentation of a code -/

/-- the code that a call has presented, and the grant that it got for it -/
def OAuthWorld.exchangeOf (w : OAuthWorld) (call : Nat) :
    Option (TokenPayload × OAuthAuthorizationCodeGrant) := (w.task call).bind OAuthTask.exchange

theorem exchangeOf_of_noExchange {call : Nat} (h : w.NoExchange call) : w.exchangeOf call = none := by
  unfold OAuthWorld.exchangeOf
  cases htask : w.task call with
  | none => rfl
  | some task => exact h task htask

theorem exchangeOf_upsert (calls : Table OAuthCall.id) (call c : Nat) (task : OAuthTask) (db : OAuthDb)
    (log : List OAuthRecord) :
    OAuthWorld.exchangeOf ⟨now, db, calls.upsert ⟨c, task⟩, log⟩ call
      = if c = call then task.exchange else OAuthWorld.exchangeOf ⟨now, db, calls, log⟩ call := by
  unfold OAuthWorld.exchangeOf OAuthWorld.task
  by_cases hc : c = call
  · subst hc
    rw [if_pos rfl, show (calls.upsert ⟨c, task⟩).get? c = some ⟨c, task⟩ from
      Table.get?_upsert_self calls ⟨c, task⟩]
    rfl
  · rw [if_neg hc, Table.get?_upsert_of_ne calls hc]

/-- a step in which the flow's code was presented: it was unused and not expired, and of the client and
for the redirect that were presented with it -/
structure CodePresented (S : OAuthServer Key Nonce) (payload : TokenPayload)
    (grant : OAuthAuthorizationCodeGrant) (w w' : OAuthWorld) (f : OAuthAuthorizationFlow)
    (code : OAuthAuthorizationFlowCode) : Prop where
  stored : f ∈ w.db.flows.rows
  exchangeable : Exchangeable f code (S.digest payload.code)
    (OAuthServer.consumeCommand payload w'.clock)
  requestId : grant.requestId = f.id

/-- a call keeps its exchange; it gets one by presenting a code -/
theorem exchangeOf_move (hm : OAuthMove S now w w') (call : Nat) :
    w'.exchangeOf call = w.exchangeOf call ∨ w.exchangeOf call = none ∧ ∃ payload grant f code,
      w'.exchangeOf call = some (payload, grant) ∧ CodePresented S payload grant w w' f code := by
  have hgoes : ∀ (c : Nat) (task : OAuthTask) (db : OAuthDb) (log : List OAuthRecord),
      w.exchangeOf c = task.exchange →
      OAuthWorld.exchangeOf ⟨now, db, w.calls.upsert ⟨c, task⟩, log⟩ call = w.exchangeOf call := by
    intro c task db log heq
    rw [exchangeOf_upsert]
    by_cases hc : c = call
    · rw [if_pos hc, ← heq, hc]
    · exact if_neg hc
  have hnone : ∀ {c : Nat} {task : OAuthTask}, w.task c = some task → task.exchange = none →
      w.exchangeOf c = none := by
    intro c task hcall htask
    exact exchangeOf_of_noExchange (noExchange_of_task hcall htask)
  have hexchanging : ∀ {c : Nat} {payload : TokenPayload} {grant : OAuthAuthorizationCodeGrant},
      w.task c = some (.exchanging payload grant) → w.exchangeOf c = some (payload, grant) := by
    intro c payload grant hcall
    unfold OAuthWorld.exchangeOf
    rw [hcall]
    rfl
  cases hm with
  | background db hq => exact .inl rfl
  | admitted db principal hq => exact .inl rfl
  | ended c db hcall hq => exact .inl (hgoes c _ _ _ (exchangeOf_of_noExchange hcall))
  | attached c command flow db task hcall hnow hattach htask =>
    refine .inl (hgoes c _ _ _ ((exchangeOf_of_noExchange hcall).trans ?_))
    rcases htask with rfl | rfl <;> rfl
  | reused c flow auth0Subject found hcall hfound => exact .inl (hgoes c _ _ _ (hnone hcall rfl))
  | read c requestId context hcall hcontext =>
    exact .inl (hgoes c _ _ _ (exchangeOf_of_noExchange hcall))
  | requested c context connectionId transactionId continuationToken nonce connection db hcall hnew hr =>
    exact .inl (hgoes c _ _ _ (hnone hcall rfl))
  | located c context continuationToken nonce connectionId hcall =>
    exact .inl (hgoes c _ _ _ (hnone hcall rfl))
  | consumed c context continuationToken nonce connectionId connection db hcall hr =>
    exact .inl (hgoes c _ _ _ (hnone hcall rfl))
  | approved c command redirectUri state flow db redirects hcall hnow hexpires hr hredirects =>
    exact .inl (hgoes c _ _ _ (hnone hcall rfl))
  | exchanged c payload grant db task hcall hr htask =>
    have hnew : w.exchangeOf c = none :=
      exchangeOf_of_noExchange (noExchange_of_new (by rw [hcall]; decide))
    by_cases hc : c = call
    · subst hc
      obtain ⟨f, hf, code, auth0Subject, userId, he, -, -, rfl, -⟩ := consume_ok hr
      refine .inr ⟨hnew, payload, f.grant code auth0Subject userId, f, code, ?_, hf, he, rfl⟩
      rw [exchangeOf_upsert, if_pos rfl]
      rcases htask with rfl | ⟨-, rfl⟩ <;> rfl
    · left
      rw [exchangeOf_upsert, if_neg hc]
      rfl
  | refused c payload grant db hcall hq => exact .inl (hgoes c _ _ _ (hexchanging hcall))
  | issued c payload grant context instants tokenId nonce token db hcall hclock hr htoken =>
    exact .inl (hgoes c _ _ _ (hexchanging hcall))

theorem exchangeOf_run {events : List (OAuthEvent Nonce)} {call : Nat}
    {x : TokenPayload × OAuthAuthorizationCodeGrant} (h : run (oauthStep S) w events = some w')
    (hx : w.exchangeOf call = some x) : w'.exchangeOf call = some x := by
  refine run_inv (fun s => s.exchangeOf call = some x) ?_ hx h
  intro s e s' hs hstep
  rcases exchangeOf_move (oauthStep_move hstep).2 call with hsame | ⟨hnone, -⟩
  · exact hsame.trans hs
  · rw [hs] at hnone
    cases hnone

/-- **A call that exchanges a code has presented it in an earlier step.** -/
theorem presented_before {events : List (OAuthEvent Nonce)} {call : Nat} {payload : TokenPayload}
    {grant : OAuthAuthorizationCodeGrant} (h : run (oauthStep S) w events = some w')
    (hnone : w.exchangeOf call = none) (hx : w'.exchangeOf call = some (payload, grant)) :
    ∃ earlier e later u u' f code, events = earlier ++ e :: later ∧
      run (oauthStep S) w earlier = some u ∧ oauthStep S u e = some u' ∧
      u.exchangeOf call = none ∧ u'.exchangeOf call = some (payload, grant) ∧
      CodePresented S payload grant u u' f code := by
  induction events generalizing w with
  | nil =>
    cases h
    rw [hnone] at hx
    cases hx
  | cons e events ih =>
    obtain ⟨w1, hstep, hrest⟩ := run_cons_some h
    rcases exchangeOf_move (oauthStep_move hstep).2 call with
      hsame | ⟨-, payload', grant', f, code, hx', hpresented⟩
    · obtain ⟨earlier, e', later, u, u', f, code, rfl, hearlier, hpresented⟩ :=
        ih hrest (hsame.trans hnone)
      refine ⟨e :: earlier, e', later, u, u', f, code, rfl, ?_, hpresented⟩
      rw [run_cons, hstep]
      exact hearlier
    · -- the call keeps what it has got for the code
      have hsame := exchangeOf_run hrest hx'
      rw [hx] at hsame
      cases hsame
      exact ⟨[], e, events, w, w1, f, code, rfl, rfl, hstep, hnone, hx', hpresented⟩

/-! ## Every token -/

/-- the connection named by the code gives what the flow asks for, and can be used by its user -/
structure UsedFor (db : OAuthDb) (f : OAuthAuthorizationFlow) (code : OAuthAuthorizationFlowCode)
    (subject : String) (c : AgentConnection) : Prop where
  stored : c ∈ db.connections.rows
  id : c.id = code.agentConnectionId
  active : c.status = .active
  workspaceId : c.workspaceId = code.workspaceId
  auth0Subject : c.auth0Subject = subject
  auth0ClientId : c.auth0ClientId = f.clientId
  resource : c.resource = f.resource
  permissions : c.permissions = f.scopes
  canonical : canonicalPermissions f.scopes = some f.scopes
  user : db.auth0Sub c.userId = some subject
  member : (db.getMembershipRole c.workspaceId c.userId).isSome = true

/-- what the token stands for: the one flow with the code, to which the request answers, its user, who was
attached before the approval, and its connection; and the token says so -/
structure IssuedFor (S : OAuthServer Key Nonce) (w : OAuthWorld) (payload : TokenPayload)
    (token : IssuedPasetoToken) (f : OAuthAuthorizationFlow) (code : OAuthAuthorizationFlowCode)
    (auth0Subject : String) : Prop where
  stored : f ∈ w.db.flows.rows
  code_eq : f.authorizationCode = some code
  digest_eq : code.codeDigest = S.digest payload.code
  only : ∀ g ∈ w.db.flows.rows, g.codeDigest = some (S.digest payload.code) → g = f
  clientId : f.clientId = payload.clientId
  redirectUri : f.redirectUri = payload.redirectUri
  challenge : S.pkceChallenge payload.codeVerifier = f.codeChallenge
  subject : f.auth0Subject = some auth0Subject
  consented : ∃ newer older userId, w.log = newer ++ .approved f.id (S.digest payload.code) :: older ∧
    f.userId = some userId ∧ .attached f.id auth0Subject userId ∈ older
  connection : ∃ c, UsedFor w.db f code auth0Subject c
  verified : S.tokens.layer.Faithful → ∀ now, w.clock ≤ now → now < token.expiresAt →
    S.tokens.verifyAccessToken token.token now
      = .ok ⟨auth0Subject, f.clientId, f.scopes, some code.agentConnectionId, some code.workspaceId⟩

/-- what is known of every reachable state -/
structure IssuanceInv (S : OAuthServer Key Nonce) (w : OAuthWorld) : Prop where
  server : OAuthInv S w
  logged : FlowsLogged w.log w.db
  once : IssuedOnce S w

theorem issuanceInv_step (hi : IssuanceInv S w) {e : OAuthEvent Nonce} (h : oauthStep S w e = some w') :
    IssuanceInv S w' := by
  obtain ⟨hle, hm⟩ := oauthStep_move h
  exact ⟨hi.server.move hle hm, hi.logged.move (hi.server.flows.mono hle) hm,
    hi.once.move hi.server hle hm⟩

theorem issuanceInv_run {events : List (OAuthEvent Nonce)}
    (h : run (oauthStep S) .empty events = some w) : IssuanceInv S w := by
  refine run_inv (IssuanceInv S) (fun _ _ _ hi hs => issuanceInv_step hi hs) ?_ h
  refine ⟨oauthInv_empty S, fun f hf => absurd hf (Table.mem_rows_empty f), ?_, ?_, List.nodup_nil⟩
  · exact fun a ha => absurd ha (Table.mem_rows_empty a)
  · exact fun _ _ _ hmem => absurd hmem List.not_mem_nil

/-- the connection that a code was exchanged with, when the unit of work has committed -/
theorem usedFor_of_authorize (hi : OAuthInv S w) (hle : w.clock ≤ now)
    {grant : OAuthAuthorizationCodeGrant} {context : AgentConnectionContext} {activatedAt usedAt : Int}
    {db : OAuthDb}
    (h : w.db.authorizeAgentConnection (OAuthServer.authorizeCommand grant) activatedAt usedAt
      = .ok (some context, db)) {payload : TokenPayload} {f : OAuthAuthorizationFlow}
    {code : OAuthAuthorizationFlowCode} (hx : ExchangedBy S.digest payload grant f code)
    (hcanonical : canonicalPermissions f.scopes = some f.scopes) :
    (∃ c, UsedFor db f code grant.auth0Subject c) ∧ context.connectionId = code.agentConnectionId ∧
      context.workspaceId = code.workspaceId := by
  rcases authorizeAgentConnection_ok h with
    ⟨hnone, -⟩ | ⟨c, hc, c', expected, hid, hexpected, hmatches, heligible, hauthorizes, -, hsave, hcontext⟩
  · cases hnone
  obtain rfl := Option.some.inj hcontext
  have hgrant := hx.grant_eq
  have hscopes : grant.scopes = f.scopes := by
    rw [hgrant]
    rfl
  have hsame : f.scopes = expected := by
    have hexpected' : canonicalPermissions grant.scopes = some expected := hexpected
    rw [hscopes, hcanonical] at hexpected'
    exact Option.some.inj hexpected'
  subst hsame
  obtain ⟨hworkspace, hsubject, hclient, hresource, hpermissions⟩ := matchesAuthorization_iff.mp hmatches
  obtain ⟨huser, hmember⟩ := userIsEligible_iff.mp heligible
  have hworkspace' : c.workspaceId = code.workspaceId := by
    rw [hworkspace]
    show grant.workspaceId = _
    rw [hgrant]
    rfl
  have hid' : c.id = code.agentConnectionId := by
    rw [hid]
    show grant.agentConnectionId = _
    rw [hgrant]
    rfl
  have he := hauthorizes.transition.evolves.toRow ((hi.connections.mono hle).stored c hc)
  obtain ⟨-, husers, hworkspaces⟩ := saveConnection_rest hsave
  obtain ⟨hdb, -, -⟩ := OAuthDb.saveConnection_ok hsave
  refine ⟨⟨c'.toRow, ?_, he.id.trans hid', hauthorizes.status, he.workspaceId.trans hworkspace',
    he.auth0Subject.trans hsubject, ?_, ?_, he.permissions.trans hpermissions, hcanonical, ?_, ?_⟩,
    hid', hworkspace'⟩
  · rw [hdb]
    exact Table.mem_upsert.mpr (.inl rfl)
  · rw [he.auth0ClientId, hclient]
    show grant.clientId = _
    rw [hgrant]
    rfl
  · rw [he.resource, hresource]
    show grant.resource = _
    rw [hgrant]
    rfl
  · unfold OAuthDb.auth0Sub
    rw [husers, he.userId]
    exact huser.trans (congrArg some hsubject)
  · unfold OAuthDb.getMembershipRole
    rw [hworkspaces, he.userId, he.workspaceId]
    exact hmember

/-- **What every token was issued for.** -/
theorem issuedFor_of_move (hi : IssuanceInv S w) (hle : w.clock ≤ now) (hm : OAuthMove S now w w')
    {payload : TokenPayload} {grant : OAuthAuthorizationCodeGrant} {token : IssuedPasetoToken}
    (hlog : w'.log = .issued payload grant token :: w.log) :
    ∃ call f code, w.task call = some (.exchanging payload grant) ∧
      w'.task call = some (.exchanged payload grant (some token)) ∧ grant.requestId = f.id ∧
      IssuedFor S w' payload token f code grant.auth0Subject := by
  have hserver := hi.server.move hle hm
  have hlogged := hi.logged.move (hi.server.flows.mono hle) hm
  have hself : ∀ r : OAuthRecord, w.log ≠ r :: w.log := fun r h => List.cons_ne_self r w.log h.symm
  cases hm with
  | issued call payload' grant' context instants tokenId nonce token' db hcall hclock hr htoken =>
    obtain ⟨hrecord, -⟩ := List.cons.inj hlog
    cases hrecord
    have hk := hserver.tasks _ (Table.mem_upsert.mpr (.inl rfl))
    obtain ⟨hverifier, f, hf, code, hx⟩ := hk
    have hcanonical := hserver.flows.canonical f hf
    obtain ⟨hconnection, hconnectionId, hworkspaceId⟩ :=
      usedFor_of_authorize hi.server hle hr hx hcanonical
    have hgrant := hx.grant_eq
    have hscopes : grant.scopes = f.scopes := by
      rw [hgrant]
      rfl
    have hclient : grant.clientId = f.clientId := by
      rw [hgrant]
      rfl
    have hdigest : f.codeDigest = some (S.digest payload.code) := by
      unfold OAuthAuthorizationFlow.codeDigest
      rw [hx.code_eq, Option.map_some, hx.digest_eq]
    refine ⟨call, f, code, hcall, ?_, ?_, hf, hx.code_eq, hx.digest_eq, ?_, hx.clientId, hx.redirectUri, ?_,
      hx.auth0Subject, ?_, hconnection, ?_⟩
    · have hself' : (w.calls.upsert ⟨call, .exchanged payload grant (some token)⟩).get? call
          = some ⟨call, .exchanged payload grant (some token)⟩ := Table.get?_upsert_self _ _
      unfold OAuthWorld.task
      rw [hself']
      rfl
    · rw [hgrant]
      rfl
    · intro g hg hgd
      exact hserver.flows.eq_of_codeDigest hf hg hdigest hgd
    · have hmatch : S.verifierMatches payload grant = true := hverifier rfl
      unfold OAuthServer.verifierMatches at hmatch
      rw [decide_eq_true_eq] at hmatch
      rw [hmatch, hgrant]
      rfl
    · obtain ⟨newer, older, s, u, hsplit, hs, hu, hmem⟩ := (hlogged f hf).approved _ hdigest
      rw [hx.auth0Subject] at hs
      cases hs
      exact ⟨newer, older, u, hsplit, hu, hmem⟩
    · intro hfaithful t ht hexpires
      have hissued : floorSec instants.issuedAt ≤ t := by
        have hfloor := floorSec_le instants.issuedAt
        have hnow : instants.issuedAt = now := hclock.2.2
        have ht' : now ≤ t := ht
        omega
      have hne : f.scopes ≠ [] := (hserver.flows.valid f hf).request.2.2.2.2.2
      have hv := McpOAuthTokens.verifyAccessToken_encrypt hfaithful htoken hne hcanonical
        (by rw [← hscopes]; rfl) hissued hexpires
      rw [hv, ← hconnectionId, ← hworkspaceId, ← hclient]
      rfl
  | background db hq => exact absurd hlog (hself _)
  | admitted db principal hq => cases (List.cons.inj hlog).1
  | ended call db hcall hq => exact absurd hlog (hself _)
  | attached call command flow db task hcall hnow hattach htask => cases (List.cons.inj hlog).1
  | reused call flow auth0Subject found hcall hfound => exact absurd hlog (hself _)
  | read call requestId context hcall hcontext => exact absurd hlog (hself _)
  | requested call context connectionId transactionId continuationToken nonce c db hcall hnew hr =>
    exact absurd hlog (hself _)
  | located call context continuationToken nonce connectionId hcall => exact absurd hlog (hself _)
  | consumed call context continuationToken nonce connectionId c db hcall hr =>
    exact absurd hlog (hself _)
  | approved call command redirectUri state flow db redirects hcall hnow hexpires hr hredirects =>
    rcases hredirects with rfl | rfl
    · cases (List.cons.inj hlog).1
    · cases (List.cons.inj hlog).1
  | exchanged call payload' grant' db task hcall hr htask => exact absurd hlog (hself _)
  | refused call payload' grant' db hcall hq => exact absurd hlog (hself _)

/-- **Token issuance.**  In every run: no two tokens are issued for one code; and a token that is issued is
issued for the one flow with the code, by the client and for the redirect and the challenge of that flow,
whose user was attached before it was approved, and for the connection that the code names, which is
active then and is what the flow asks for, of a user who still is who they were and a member; until it
expires the token says this and nothing else; and the call presented its code in an earlier step, when it was
neither expired nor exchanged. -/
theorem oauth_issuance_sound (S : OAuthServer Key Nonce) {events : List (OAuthEvent Nonce)}
    {w : OAuthWorld} (hrun : run (oauthStep S) .empty events = some w) :
    (w.log.filterMap (issuedDigest S)).Nodup ∧
    ∀ e w', oauthStep S w e = some w' → ∀ payload grant token,
      w'.log = .issued payload grant token :: w.log →
      ∃ call f code auth0Subject, w.task call = some (.exchanging payload grant) ∧
        w'.task call = some (.exchanged payload grant (some token)) ∧
        IssuedFor S w' payload token f code auth0Subject ∧
        ∃ earlier e₀ later u u' f₀ code₀, events = earlier ++ e₀ :: later ∧
          run (oauthStep S) .empty earlier = some u ∧ oauthStep S u e₀ = some u' ∧
          u.exchangeOf call = none ∧ u'.exchangeOf call = some (payload, grant) ∧
          CodePresented S payload grant u u' f₀ code₀ ∧ f₀.id = f.id := by
  have hi := issuanceInv_run hrun
  refine ⟨hi.once.nodup, ?_⟩
  intro e w' hstep payload grant token hlog
  obtain ⟨hle, hm⟩ := oauthStep_move hstep
  obtain ⟨call, f, code, hcall, hcall', hid, hissued⟩ := issuedFor_of_move hi hle hm hlog
  have hx : w.exchangeOf call = some (payload, grant) := by
    unfold OAuthWorld.exchangeOf
    rw [hcall]
    rfl
  obtain ⟨earlier, e₀, later, u, u', f₀, code₀, hsplit, hearlier, hstep₀, hnone, hpresent, hpresented⟩ :=
    presented_before hrun rfl hx
  exact ⟨call, f, code, grant.auth0Subject, hcall, hcall', hissued, earlier, e₀, later, u, u', f₀, code₀,
    hsplit, hearlier, hstep₀, hnone, hpresent, hpresented, hpresented.requestId.symm.trans hid⟩

end

/-! The consent of the new year, whose code is presented a second later, and a second after that the token. -/

def newYearExchange : List (OAuthEvent Unit) :=
  newYearConsent ++ [.exchange 2 newYearPayload (newYear 4) .none]

def newYearAuthorize : OAuthEvent Unit := .authorize 2 (.once (newYear 5)) 30 () .none

def newYearCodeGrant : OAuthAuthorizationCodeGrant :=
  ⟨⟨10⟩, ⟨20⟩, ⟨1⟩, newYearClient, newYearRedirect, "challenge", newYearServer.resource, [.readEvidence],
    "auth0|user", ⟨4⟩, newYear 303⟩

def newYearToken : IssuedPasetoToken := ⟨"token", 30, "k1", newYear (5 + 86400)⟩

theorem oauth_issuance_sound_newYear :
    ∃ w w', run (oauthStep newYearServer) .empty newYearExchange = some w ∧
      oauthStep newYearServer w newYearAuthorize = some w' ∧
      w'.log = .issued newYearPayload newYearCodeGrant newYearToken :: w.log ∧
      ∃ f code auth0Subject, IssuedFor newYearServer w' newYearPayload newYearToken f code auth0Subject := by
  have hview : ((run (oauthStep newYearServer) .empty newYearExchange).bind fun w =>
      (oauthStep newYearServer w newYearAuthorize).map fun w' =>
        (w'.log.head?, decide (w'.log.tail = w.log)))
      = some (some (.issued newYearPayload newYearCodeGrant newYearToken), true) := by
    decide
  obtain ⟨w, hw, hstep⟩ := Option.bind_eq_some_iff.mp hview
  obtain ⟨w', hw', hlog⟩ := Option.map_eq_some_iff.mp hstep
  rw [Prod.mk.injEq, decide_eq_true_eq] at hlog
  have hissued : w'.log = .issued newYearPayload newYearCodeGrant newYearToken :: w.log := by
    rw [← hlog.2]
    exact List.eq_cons_of_mem_head? hlog.1
  obtain ⟨call, f, code, auth0Subject, -, -, h, -⟩ :=
    (oauth_issuance_sound newYearServer hw).2 _ w' hw' _ _ _ hissued
  exact ⟨w, w', hw, hw', hissued, f, code, auth0Subject, h⟩

end Proofplane
