import Proofplane.Auditor.Portal

/-!
# Who gets into the auditor portal

* `portalRule`, `SessionRule`   what the history says before a claim and before a session;
* `AuditorTask.Justified`    what a call under way has behind it;
* `PortalInv`                both, with the tables that belong to them; one lemma for each way in which a
                             step changes the portal, and `auditorStep_inv` for all of them;
* `auditor_portal_access_control`   **which sessions there are, and when they resolve**.
-/

namespace Proofplane
open Base

/-! ## The history -/

/-- what has come before a session -/
structure SessionRule (P : AuditorPortal) (s : CreatedAuditorSession) (older : List AuditorRecord) :
    Prop where
  claimed : .claimed (some s.call) s.claimed ∈ older
  once : ∀ s', .sessionCreated s' ∈ older → s'.claimed.id ≠ s.claimed.id
  unrevoked : .grantRevoked s.session.grantId ∉ older
  grantId : s.session.grantId = s.claimed.grantId
  verified : P.verified (P.identityExchange s.claimed s.authorizationCode) s.identity = true
  emailVerified : s.identity.emailVerified = true
  email : normalizeEmail P.isValid s.identity.email = some s.session.auditorEmail

/-- what has come before a record -/
def portalRule (P : AuditorPortal) : AuditorRecord → List AuditorRecord → Prop
  | .grantRevoked _, _ => True
  | .sessionRevoked _ _, _ => True
  | .claimed _ c, older => c.consumedAt < c.expiresAt ∧ ∀ call c', .claimed call c' ∈ older → c'.id ≠ c.id
  | .sessionCreated s, older => SessionRule P s older

section
variable {P : AuditorPortal} {log : List AuditorRecord}

/-- a transaction is claimed once -/
theorem claimed_unique (h : Lawful (portalRule P) log) {a b : Option Nat}
    {c d : ClaimedAuditorAuthTransaction} (hc : .claimed a c ∈ log) (hd : .claimed b d ∈ log)
    (hid : c.id = d.id) : a = b ∧ c = d := by
  induction log with
  | nil => cases hc
  | cons r older ih =>
    obtain ⟨hr, holder⟩ := h
    rcases List.mem_cons.mp hc with rfl | hc'
    · rcases List.mem_cons.mp hd with heq | hd'
      · cases heq
        exact ⟨rfl, rfl⟩
      · exact absurd hid.symm (hr.2 b d hd')
    · rcases List.mem_cons.mp hd with rfl | hd'
      · exact absurd hid (hr.2 a c hc')
      · exact ih holder hc' hd'

/-- a claim, and the claims before it -/
theorem claim_first (h : Lawful (portalRule P) log) {call : Option Nat}
    {c : ClaimedAuditorAuthTransaction} (hc : .claimed call c ∈ log) :
    c.consumedAt < c.expiresAt ∧ ∃ between oldest, log = between ++ .claimed call c :: oldest ∧
      ∀ call' c', .claimed call' c' ∈ oldest → c'.id ≠ c.id := by
  obtain ⟨between, oldest, hlog⟩ := List.append_of_mem hc
  obtain ⟨hexpires, hfirst⟩ := h.of_split hlog
  exact ⟨hexpires, between, oldest, hlog, hfirst⟩

end

/-! ## What a call has behind it -/

/-- the call has claimed the transaction, and has made no session of it -/
structure HoldsClaim (log : List AuditorRecord) (call : Nat) (c : ClaimedAuditorAuthTransaction) :
    Prop where
  claimed : .claimed (some call) c ∈ log
  unused : ∀ s, .sessionCreated s ∈ log → s.claimed.id ≠ c.id

def AuditorTask.Justified (P : AuditorPortal) (db : AuditorDb) (log : List AuditorRecord) (call : Nat) :
    AuditorTask → Prop
  | .exchanging c _ => HoldsClaim log call c
  | .resolving c code identity =>
    HoldsClaim log call c ∧ P.verified (P.identityExchange c code) identity = true
  | .creating c code identity grant =>
    HoldsClaim log call c ∧ P.verified (P.identityExchange c code) identity = true ∧
      identity.emailVerified = true ∧
      normalizeEmail P.isValid identity.email = some grant.auditorEmail ∧ grant.id = c.grantId ∧
      ∃ g, db.grants.get? c.grantId = some g ∧ g.auditorEmail = grant.auditorEmail
  | .failed _ => True
  | .completed _ => True

/-- grants stay, and keep what they are -/
def AuditorGrantsKept (db db' : AuditorDb) : Prop :=
  ∀ id g, db.grants.get? id = some g → ∃ g', db'.grants.get? id = some g' ∧ g.SameGrant g'

/-- the session is on a stored grant, which had not expired then -/
def OnGrant (db : AuditorDb) (s : AuditorSession) : Prop :=
  ∃ g, db.grants.get? s.grantId = some g ∧ s.createdAt < g.expiresAt ∧ s.workspaceId = g.workspaceId ∧
    s.auditorEmail = g.auditorEmail

/-- the transaction is stored as claimed -/
def StoredClaim (db : AuditorDb) (c : ClaimedAuditorAuthTransaction) : Prop :=
  ∃ t, db.transactions.get? c.id = some t ∧ t.grantId = c.grantId ∧ t.consumedAt.isSome = true

section
variable {P : AuditorPortal} {db db' : AuditorDb} {log log' : List AuditorRecord}

theorem AuditorGrantsKept.refl (db : AuditorDb) : AuditorGrantsKept db db :=
  fun _ g hg => ⟨g, hg, ⟨rfl, rfl, rfl, rfl, rfl⟩⟩

theorem OnGrant.kept {s : AuditorSession} (h : OnGrant db s) (hkept : AuditorGrantsKept db db') :
    OnGrant db' s := by
  obtain ⟨g, hget, hexpires, hworkspace, hemail⟩ := h
  obtain ⟨g', hget', hsame⟩ := hkept _ g hget
  refine ⟨g', hget', ?_, ?_, ?_⟩
  · rw [hsame.expiresAt]
    exact hexpires
  · rw [hsame.workspaceId]
    exact hworkspace
  · rw [hsame.auditorEmail]
    exact hemail

/-- records that are no sessions leave a claim as it is -/
theorem HoldsClaim.mono {call : Nat} {c : ClaimedAuditorAuthTransaction} (h : HoldsClaim log call c)
    (hlog : ∀ r ∈ log, r ∈ log')
    (hnew : ∀ s, .sessionCreated s ∈ log' → .sessionCreated s ∈ log ∨ s.claimed.id ≠ c.id) :
    HoldsClaim log' call c := by
  refine ⟨hlog _ h.claimed, fun s hs => ?_⟩
  rcases hnew s hs with hs | hne
  · exact h.unused s hs
  · exact hne

theorem AuditorTask.Justified.mono {call : Nat} {task : AuditorTask}
    (h : task.Justified P db log call) (hkept : AuditorGrantsKept db db') (hlog : ∀ r ∈ log, r ∈ log')
    (hnew : ∀ s, .sessionCreated s ∈ log' → .sessionCreated s ∈ log ∨
      ∀ c, HoldsClaim log call c → s.claimed.id ≠ c.id) :
    task.Justified P db' log' call := by
  have hclaim : ∀ c, HoldsClaim log call c → HoldsClaim log' call c := fun c hc =>
    hc.mono hlog fun s hs => (hnew s hs).imp_right fun hne => hne c hc
  cases task with
  | exchanging c code => exact hclaim c h
  | resolving c code identity => exact ⟨hclaim c h.1, h.2⟩
  | creating c code identity grant =>
    obtain ⟨hc, hverified, hflag, hemail, hid, g, hget, hgrant⟩ := h
    obtain ⟨g', hget', hsame⟩ := hkept _ g hget
    exact ⟨hclaim c hc, hverified, hflag, hemail, hid, g', hget', hsame.auditorEmail.trans hgrant⟩
  | failed e => trivial
  | completed r => trivial

end

/-! ## The invariant -/

structure PortalInv (P : AuditorPortal) (w : AuditorWorld) : Prop where
  lawful : Lawful (portalRule P) w.log
  stored : ∀ g ∈ w.db.grants.rows, g.toRow = g
  revoked : ∀ id, .grantRevoked id ∈ w.log ↔
    ∃ g, w.db.grants.get? id = some g ∧ g.revokedAt.isSome = true
  sessionsRevoked : ∀ id digest, .sessionRevoked id digest ∈ w.log ↔
    ∃ s, w.db.sessions.get? id = some s ∧ s.sessionDigest = digest ∧ s.revokedAt.isSome = true
  claims : ∀ call c, .claimed call c ∈ w.log → StoredClaim w.db c
  created : ∀ s, .sessionCreated s ∈ w.log → OnGrant w.db s.session
  sessions : ∀ row ∈ w.db.sessions.rows, ∃ s, .sessionCreated s ∈ w.log ∧
    s.session.toRow.SameSession row
  distinct : w.db.DigestsDistinct
  tasks : ∀ a ∈ w.calls.rows, a.task.Justified P w.db w.log a.id

namespace PortalInv
variable {P : AuditorPortal} {w : AuditorWorld}

theorem empty (P : AuditorPortal) : PortalInv P .empty where
  lawful := trivial
  stored _ hg := absurd hg List.not_mem_nil
  revoked _ := ⟨fun h => absurd h List.not_mem_nil, fun ⟨_, hget, _⟩ => (by cases hget)⟩
  sessionsRevoked _ _ := ⟨fun h => absurd h List.not_mem_nil, fun ⟨_, hget, _⟩ => (by cases hget)⟩
  claims _ _ h := absurd h List.not_mem_nil
  created _ h := absurd h List.not_mem_nil
  sessions _ h := absurd h List.not_mem_nil
  distinct _ h := absurd h List.not_mem_nil
  tasks _ h := absurd h List.not_mem_nil

/-- a call goes on -/
theorem goesOn (h : PortalInv P w) {call : Nat} {task : AuditorTask}
    (hj : task.Justified P w.db w.log call) : PortalInv P (w.goesOn call task) where
  lawful := h.lawful
  stored := h.stored
  revoked := h.revoked
  sessionsRevoked := h.sessionsRevoked
  claims := h.claims
  created := h.created
  sessions := h.sessions
  distinct := h.distinct
  tasks a ha := by
    rcases Table.mem_upsert.mp ha with rfl | ⟨ha, -⟩
    · exact hj
    · exact h.tasks a ha

theorem task_justified (h : PortalInv P w) {call : Nat} {task : AuditorTask}
    (htask : w.task call = some task) : task.Justified P w.db w.log call := by
  obtain ⟨a, ha, rfl⟩ := Option.map_eq_some_iff.mp htask
  have hj := h.tasks a (Table.get?_mem ha)
  rwa [Table.get?_key ha] at hj

/-- no session is of a transaction that is still open -/
theorem open_unused (h : PortalInv P w) {t : AuditorAuthTransaction}
    (hget : w.db.transactions.get? t.id = some t) (hopen : t.consumedAt = none)
    (s : CreatedAuditorSession) (hs : .sessionCreated s ∈ w.log) : s.claimed.id ≠ t.id := by
  intro hid
  obtain ⟨newer, older, hlog⟩ := List.append_of_mem hs
  have hrule : SessionRule P s older := h.lawful.of_split hlog
  have hlogged : .claimed (some s.call) s.claimed ∈ w.log := by
    rw [hlog]
    exact List.mem_append_right _ (List.mem_cons_of_mem _ hrule.claimed)
  obtain ⟨t', hget', -, hconsumed⟩ := h.claims _ _ hlogged
  rw [hid, hget] at hget'
  cases hget'
  rw [hopen] at hconsumed
  cases hconsumed

/-- a record of the history other than the last one -/
theorem mem_older {x r : AuditorRecord} {log : List AuditorRecord} (h : x ≠ r) : x ∈ r :: log ↔ x ∈ log :=
  List.mem_cons.trans (or_iff_right h)

/-! ## Grants -/

/-- a new grant -/
theorem issued (h : PortalInv P w) {row : AuditorAccessGrant}
    (hfresh : w.db.grants.get? row.id = none) (hopen : row.revokedAt = none) (hrow : row.toRow = row) :
    PortalInv P { w with db := { w.db with grants := w.db.grants.upsert row } } := by
  have hget : ∀ {id g}, w.db.grants.get? id = some g →
      (w.db.grants.upsert row).get? id = some g := by
    intro id g hg
    rw [Table.get?_upsert_of_ne]
    · exact hg
    · rintro rfl
      rw [hfresh] at hg
      cases hg
  have hkept : AuditorGrantsKept w.db { w.db with grants := w.db.grants.upsert row } :=
    fun id g hg => ⟨g, hget hg, ⟨rfl, rfl, rfl, rfl, rfl⟩⟩
  refine ⟨h.lawful, fun g hg => ?_, fun id => ?_, h.sessionsRevoked, h.claims,
    fun s hs => (h.created s hs).kept hkept, h.sessions, h.distinct, fun a ha => ?_⟩
  · rcases Table.mem_upsert.mp hg with rfl | ⟨hg, -⟩
    · exact hrow
    · exact h.stored g hg
  · rw [h.revoked id]
    constructor
    · rintro ⟨g, hg, hsome⟩
      exact ⟨g, hget hg, hsome⟩
    · rintro ⟨g, hg, hsome⟩
      rw [Table.get?_upsert] at hg
      split at hg
      · cases hg
        rw [hopen] at hsome
        cases hsome
      · exact ⟨g, hg, hsome⟩
  · exact (h.tasks a ha).mono hkept (fun _ hr => hr) fun _ hs => .inl hs

/-- a grant is revoked from now on -/
theorem revokedNow (h : PortalInv P w) {g : AuditorAccessGrant} {id : AuditorAccessGrantId}
    (hg : w.db.grants.get? id = some g) (now : Int) :
    PortalInv P ({ w with db := { w.db with grants := w.db.grants.upsert (g.revokedRow now) } }.record
      (some (.grantRevoked id))) := by
  have hid : (g.revokedRow now).id = id :=
    show g.id = id from Table.get?_key hg
  have hself : (w.db.grants.upsert (g.revokedRow now)).get? id = some (g.revokedRow now) := by
    rw [Table.get?_upsert, if_pos hid]
  have hother : ∀ j, j ≠ id →
      (w.db.grants.upsert (g.revokedRow now)).get? j = w.db.grants.get? j := by
    intro j hj
    exact Table.get?_upsert_of_ne _ fun heq => hj (heq.symm.trans hid)
  have hkept : AuditorGrantsKept w.db { w.db with grants := w.db.grants.upsert (g.revokedRow now) } := by
    intro j g' hg'
    by_cases hj : j = id
    · subst hj
      rw [hg] at hg'
      cases hg'
      exact ⟨_, hself, AuditorAccessGrant.sameGrant_revokedRow (h.stored g (Table.get?_mem hg)) now⟩
    · exact ⟨g', (hother j hj).trans hg', ⟨rfl, rfl, rfl, rfl, rfl⟩⟩
  refine ⟨⟨trivial, h.lawful⟩, fun x hx => ?_, fun j => ?_,
    fun id digest => (mem_older (by simp)).trans (h.sessionsRevoked id digest),
    fun call c hc => ?_, fun s hs => ?_, fun row hrow => ?_, h.distinct, fun a ha => ?_⟩
  · rcases Table.mem_upsert.mp hx with rfl | ⟨hx, -⟩
    · exact AuditorAccessGrant.toRow_toRow _
    · exact h.stored x hx
  · show AuditorRecord.grantRevoked j ∈ AuditorRecord.grantRevoked id :: w.log ↔
      ∃ x, (w.db.grants.upsert (g.revokedRow now)).get? j = some x ∧ x.revokedAt.isSome = true
    by_cases hj : j = id
    · subst hj
      exact ⟨fun _ => ⟨_, hself, rfl⟩, fun _ => List.mem_cons_self⟩
    · rw [hother j hj, ← h.revoked j, List.mem_cons]
      exact ⟨fun hr => hr.resolve_left fun heq => hj (by cases heq; rfl), .inr⟩
  · exact h.claims call c ((mem_older (by simp)).mp hc)
  · exact (h.created s ((mem_older (by simp)).mp hs)).kept hkept
  · obtain ⟨s, hs, hsame⟩ := h.sessions row hrow
    exact ⟨s, List.mem_cons_of_mem _ hs, hsame⟩
  · exact (h.tasks a ha).mono hkept (fun _ hr => List.mem_cons_of_mem _ hr) fun s hs =>
      .inl ((mem_older (by simp)).mp hs)

/-- a grant is found revoked -/
theorem revokedBefore (h : PortalInv P w) {g : AuditorAccessGrant} {id : AuditorAccessGrantId}
    (hg : w.db.grants.get? id = some g) (hrevoked : g.revokedAt.isSome = true) :
    PortalInv P (w.record (some (.grantRevoked id))) := by
  have hlogged : AuditorRecord.grantRevoked id ∈ w.log := (h.revoked id).mpr ⟨g, hg, hrevoked⟩
  have hold : ∀ {r : AuditorRecord}, r ∈ AuditorRecord.grantRevoked id :: w.log → r ∈ w.log := by
    intro r hr
    rcases List.mem_cons.mp hr with rfl | hr
    · exact hlogged
    · exact hr
  refine ⟨⟨trivial, h.lawful⟩, h.stored, fun j => ?_,
    fun id digest => (mem_older (by simp)).trans (h.sessionsRevoked id digest),
    fun call c hc => h.claims call c (hold hc), fun s hs => h.created s (hold hs), fun row hrow => ?_,
    h.distinct, fun a ha => ?_⟩
  · exact ⟨fun hr => (h.revoked j).mp (hold hr),
      fun hx => List.mem_cons_of_mem _ ((h.revoked j).mpr hx)⟩
  · obtain ⟨s, hs, hsame⟩ := h.sessions row hrow
    exact ⟨s, List.mem_cons_of_mem _ hs, hsame⟩
  · exact (h.tasks a ha).mono (.refl _) (fun _ hr => List.mem_cons_of_mem _ hr) fun s hs =>
      .inl (hold hs)

/-! ## Transactions -/

/-- a new transaction -/
theorem started (h : PortalInv P w) {row : AuditorAuthTransaction}
    (hfresh : w.db.transactions.get? row.id = none) :
    PortalInv P { w with db := { w.db with transactions := w.db.transactions.upsert row } } := by
  refine ⟨h.lawful, h.stored, h.revoked, h.sessionsRevoked, fun call c hc => ?_, h.created, h.sessions,
    h.distinct, fun a ha => (h.tasks a ha).mono (.refl _) (fun _ hr => hr) fun _ hs => .inl hs⟩
  obtain ⟨t, hget, hgrant, hconsumed⟩ := h.claims call c hc
  refine ⟨t, ?_, hgrant, hconsumed⟩
  show (w.db.transactions.upsert row).get? c.id = some t
  rw [Table.get?_upsert_of_ne]
  · exact hget
  · intro heq
    rw [heq, hget] at hfresh
    cases hfresh

/-- a claim -/
theorem claimed (h : PortalInv P w) {t : AuditorAuthTransaction}
    (hget : w.db.transactions.get? t.id = some t) (hopen : t.consumedAt = none) {now : Int}
    (hexpires : now < t.expiresAt) (call : Option Nat) :
    PortalInv P ({ w with db := { w.db with
        transactions := w.db.transactions.upsert (t.claimedRow now) } }.record
      (some (.claimed call (t.claimed now)))) := by
  have hself : (w.db.transactions.upsert (t.claimedRow now)).get? t.id = some (t.claimedRow now) :=
    Table.get?_upsert_self _ _
  -- a claim that was there before is of another transaction
  have hfirst : ∀ call' c', .claimed call' c' ∈ w.log → c'.id ≠ t.id := by
    intro call' c' hc' heq
    obtain ⟨t', hget', -, hconsumed⟩ := h.claims call' c' hc'
    rw [heq, hget] at hget'
    cases hget'
    rw [hopen] at hconsumed
    cases hconsumed
  refine ⟨⟨⟨hexpires, hfirst⟩, h.lawful⟩, h.stored, fun id => ?_,
    fun id digest => (mem_older (by simp)).trans (h.sessionsRevoked id digest),
    fun call' c hc => ?_, fun s hs => ?_, fun row hrow => ?_, h.distinct, fun a ha => ?_⟩
  · exact (mem_older (by simp)).trans (h.revoked id)
  · rcases List.mem_cons.mp hc with heq | hc
    · cases heq
      exact ⟨_, hself, rfl, rfl⟩
    · obtain ⟨t', hget', hgrant, hconsumed⟩ := h.claims call' c hc
      refine ⟨t', ?_, hgrant, hconsumed⟩
      show (w.db.transactions.upsert (t.claimedRow now)).get? c.id = some t'
      rw [Table.get?_upsert_of_ne]
      · exact hget'
      · exact fun heq => hfirst call' c hc heq.symm
  · exact h.created s ((mem_older (by simp)).mp hs)
  · obtain ⟨s, hs, hsame⟩ := h.sessions row hrow
    exact ⟨s, List.mem_cons_of_mem _ hs, hsame⟩
  · exact (h.tasks a ha).mono (.refl _) (fun _ hr => List.mem_cons_of_mem _ hr) fun s hs =>
      .inl ((mem_older (by simp)).mp hs)

/-! ## Sessions -/

/-- **A session is revoked**, and stays what else it is. -/
theorem sessionRevoked (h : PortalInv P w) {row row' : AuditorSessionRow} {id : AuditorSessionId}
    (hget : w.db.sessions.get? id = some row) (hsame : row.SameSession row')
    (hrevoked : row'.revokedAt.isSome = true)
    (hdistinct : ∀ r ∈ w.db.sessions.rows, r.id ≠ row'.id → r.sessionDigest ≠ row'.sessionDigest) :
    PortalInv P ({ w with db := { w.db with sessions := w.db.sessions.upsert row' } }.record
      (some (.sessionRevoked id row.sessionDigest))) := by
  have hid : row'.id = id := hsame.id.trans (Table.get?_key hget)
  have hself : (w.db.sessions.upsert row').get? id = some row' := by
    rw [Table.get?_upsert, if_pos hid]
  have hother : ∀ j, j ≠ id → (w.db.sessions.upsert row').get? j = w.db.sessions.get? j := fun j hj =>
    Table.get?_upsert_of_ne _ fun heq => hj (heq.symm.trans hid)
  refine ⟨⟨trivial, h.lawful⟩, h.stored, fun g => ?_, fun j digest => ?_,
    fun call c hc => h.claims call c ((mem_older (by simp)).mp hc),
    fun s hs => h.created s ((mem_older (by simp)).mp hs),
    fun r hr => ?_, h.distinct.upsert hdistinct,
    fun a ha => (h.tasks a ha).mono (.refl _) (fun _ hr => List.mem_cons_of_mem _ hr) fun _ hs =>
      .inl ((mem_older (by simp)).mp hs)⟩
  · exact (mem_older (by simp)).trans (h.revoked g)
  · show AuditorRecord.sessionRevoked j digest ∈ AuditorRecord.sessionRevoked id row.sessionDigest :: w.log ↔
      ∃ s, (w.db.sessions.upsert row').get? j = some s ∧ s.sessionDigest = digest ∧ s.revokedAt.isSome = true
    by_cases hj : j = id
    · subst hj
      rw [hself]
      constructor
      · intro hr
        refine ⟨row', rfl, ?_, hrevoked⟩
        rcases List.mem_cons.mp hr with heq | hr
        · cases heq
          exact hsame.sessionDigest
        · obtain ⟨s, hs, hdigest, -⟩ := (h.sessionsRevoked j digest).mp hr
          rw [hget] at hs
          cases hs
          exact hsame.sessionDigest.trans hdigest
      · rintro ⟨s, hs, rfl, -⟩
        cases hs
        rw [hsame.sessionDigest]
        exact List.mem_cons_self
    · rw [hother j hj, ← h.sessionsRevoked j digest, List.mem_cons]
      exact ⟨fun hr => hr.resolve_left fun heq => hj (by cases heq; rfl), .inr⟩
  · rcases Table.mem_upsert.mp hr with rfl | ⟨hr, -⟩
    · obtain ⟨s, hs, hs'⟩ := h.sessions row (Table.get?_mem hget)
      exact ⟨s, List.mem_cons_of_mem _ hs, hs'.trans hsame⟩
    · obtain ⟨s, hs, hs'⟩ := h.sessions r hr
      exact ⟨s, List.mem_cons_of_mem _ hs, hs'⟩

/-- **A session is created.**  The call that has created it is through. -/
theorem sessionCreated (h : PortalInv P w) {s : CreatedAuditorSession}
    (hrule : SessionRule P s w.log) (hgrant : OnGrant w.db s.session)
    (hfresh : w.db.sessions.get? s.session.id = none) (hopen : s.session.revokedAt = none)
    (hdistinct : ∀ r ∈ w.db.sessions.rows, r.id ≠ s.session.id →
      r.sessionDigest ≠ s.session.sessionDigest)
    {task : AuditorTask} (htask : ∀ db log, task.Justified P db log s.call) :
    PortalInv P (({ w with db := { w.db with
        sessions := w.db.sessions.upsert s.session.toRow } }.record (some (.sessionCreated s))).goesOn
      s.call task) := by
  refine ⟨⟨hrule, h.lawful⟩, h.stored, fun id => ?_, fun id digest => ?_, fun call c hc => ?_,
    fun s' hs' => ?_, fun row hrow => ?_, ?_, fun a ha => ?_⟩
  · exact (mem_older (by simp)).trans (h.revoked id)
  · -- the new session is revoked neither in the history nor in its row
    refine (mem_older (by simp)).trans ((h.sessionsRevoked id digest).trans ?_)
    show _ ↔ ∃ x, (w.db.sessions.upsert s.session.toRow).get? id = some x ∧ _
    by_cases hid : s.session.id = id
    · have hself : (w.db.sessions.upsert s.session.toRow).get? id = some s.session.toRow :=
        (Table.get?_upsert w.db.sessions s.session.toRow id).trans (if_pos hid)
      rw [hself, ← hid, hfresh]
      constructor
      · rintro ⟨x, hx, -⟩
        cases hx
      · rintro ⟨x, hx, -, hsome⟩
        cases hx
        have hnone : s.session.toRow.revokedAt = none := congrArg (Option.map pgTimestamp) hopen
        rw [hnone] at hsome
        cases hsome
    · have hother : (w.db.sessions.upsert s.session.toRow).get? id = w.db.sessions.get? id :=
        Table.get?_upsert_of_ne _ hid
      rw [hother]
  · exact h.claims call c ((mem_older (by simp)).mp hc)
  · rcases List.mem_cons.mp hs' with heq | hs'
    · cases heq
      exact hgrant
    · exact h.created s' hs'
  · rcases Table.mem_upsert.mp hrow with rfl | ⟨hrow, -⟩
    · exact ⟨s, List.mem_cons_self, ⟨rfl, rfl, rfl, rfl, rfl⟩⟩
    · obtain ⟨s', hs', hsame⟩ := h.sessions row hrow
      exact ⟨s', List.mem_cons_of_mem _ hs', hsame⟩
  · exact h.distinct.upsert hdistinct
  · rcases Table.mem_upsert.mp ha with rfl | ⟨ha, hne⟩
    · exact htask _ _
    · -- another call has claimed another transaction
      refine (h.tasks a ha).mono (.refl _) (fun _ hr => List.mem_cons_of_mem _ hr) fun s' hs' => ?_
      rcases List.mem_cons.mp hs' with heq | hs'
      · cases heq
        refine .inr fun c hc hid => hne ?_
        have hcall := (claimed_unique h.lawful hc.claimed hrule.claimed hid.symm).1
        exact Option.some.inj hcall
      · exact .inl hs'

/-! ## Every step -/

/-- a unit of work whose answer nobody waits for -/
theorem detached (h : PortalInv P w) {α ε : Type} {lost : ε} {fault : CommitFault}
    {r : Except ε (α × AuditorDb)} {tells : α → Option AuditorRecord}
    (hok : ∀ a db, r = .ok (a, db) → PortalInv P ({ w with db }.record (tells a))) :
    PortalInv P (w.detached lost fault r tells) := by
  unfold AuditorWorld.detached
  cases settle_cases lost fault w.db r with
  | nothing e hstate hanswer hlanded =>
    rw [hstate, hlanded]
    exact h
  | committed a db hr hstate hanswer hlanded =>
    rw [hstate, hlanded]
    exact hok a db hr

theorem callbackStep (h : PortalInv P w) (call : Nat) (state code : String) (now : Int)
    (fault : CommitFault) : PortalInv P (P.callbackStep w call state code now fault) := by
  unfold AuditorPortal.callbackStep
  split
  · exact h.goesOn trivial
  · dsimp only
    cases settle_cases (.repository .database) fault w.db
      (w.db.claimAuditorAuthTransaction P.sha256 state now) with
    | nothing e hstate hanswer hlanded =>
      rw [hstate, hanswer, hlanded]
      exact h.goesOn trivial
    | committed c db hr hstate hanswer hlanded =>
      obtain ⟨t, hget, -, hopen, hexpires, rfl, rfl⟩ := AuditorDb.claimAuditorAuthTransaction_ok hr
      have hclaimed := h.claimed hget hopen hexpires (some call)
      rw [hstate, hlanded]
      rcases hanswer with hanswer | hanswer
      · rw [hanswer]
        refine hclaimed.goesOn ⟨List.mem_cons_self, fun s hs => ?_⟩
        exact h.open_unused hget hopen s ((List.mem_cons.mp hs).resolve_left (by simp))
      · rw [hanswer]
        exact hclaimed.goesOn trivial

theorem resolveGrantStep (h : PortalInv P w) {call : Nat} {claimed : ClaimedAuditorAuthTransaction}
    {code : String} {identity : VerifiedAuditorIdentity}
    (hj : AuditorTask.Justified P w.db w.log call (.resolving claimed code identity)) (now : Int)
    (ok : Bool) : PortalInv P (P.resolveGrantStep w call claimed code identity now ok) := by
  unfold AuditorPortal.resolveGrantStep
  split
  · exact h.goesOn trivial
  · split
    · exact h.goesOn trivial
    · next grant hgrant =>
      split
      · exact h.goesOn trivial
      · next email hemail =>
        split
        · exact h.goesOn trivial
        · next hsame =>
          push Not at hsame
          obtain ⟨hflag, heq⟩ := hsame
          obtain ⟨g, hget, rfl⟩ := AuditorDb.resolveActiveGrant_some hgrant
          have hid : g.id = claimed.grantId := Table.get?_key hget
          refine h.goesOn ⟨hj.1, hj.2, by simpa using hflag, ?_, hid, g, hget, rfl⟩
          rw [hemail, heq]

theorem createSessionStep (h : PortalInv P w) {call : Nat} {claimed : ClaimedAuditorAuthTransaction}
    {code : String} {identity : VerifiedAuditorIdentity} {grant : ResolvedActiveAuditorGrant}
    (hj : AuditorTask.Justified P w.db w.log call (.creating claimed code identity grant))
    {sessionId : AuditorSessionId} (hfresh : w.db.sessions.get? sessionId = none)
    (rawSession : Option String) (now : Int) (fault : CommitFault) :
    PortalInv P (P.createSessionStep w call claimed code identity grant sessionId rawSession now
      fault) := by
  unfold AuditorPortal.createSessionStep
  dsimp only
  cases settle_cases (.repository .database) fault w.db
    (w.db.createAuthenticatedAuditorSession P.sha256 P.lowerTrim
      ⟨grant.workspaceId, grant.id, identity.subject⟩ sessionId rawSession now) with
  | nothing e hstate hanswer hlanded =>
    rw [hstate, hanswer, hlanded]
    exact h.goesOn trivial
  | committed created db hr hstate hanswer hlanded =>
    obtain ⟨session, raw⟩ := created
    obtain ⟨hclaim, hverified, hflag, hemail, hid, g₀, hget₀, hsame⟩ := hj
    obtain ⟨g, hget, hworkspace, hopen, hexpires, hsession, hdistinct, rfl⟩ :=
      AuditorDb.createAuthenticatedAuditorSession_ok hr
    rw [hid, hget₀] at hget
    cases hget
    have hgid : g₀.id = claimed.grantId := Table.get?_key hget₀
    have hgrantId : session.grantId = claimed.grantId := by
      rw [hsession]
      exact hgid
    have hrule : SessionRule P ⟨call, claimed, code, identity, session⟩ w.log := by
      refine ⟨hclaim.claimed, hclaim.unused, fun hrevoked => ?_, hgrantId, hverified, hflag, ?_⟩
      · obtain ⟨g, hg, hsome⟩ := (h.revoked session.grantId).mp hrevoked
        rw [hgrantId, hget₀] at hg
        cases hg
        rw [hopen] at hsome
        cases hsome
      · rw [hemail, hsession, hsame]
    have hgrant : OnGrant w.db session := by
      refine ⟨g₀, hgrantId ▸ hget₀, ?_, ?_, ?_⟩
      · rw [hsession]
        have hstored : pgTimestamp g₀.expiresAt = g₀.expiresAt :=
          congrArg AuditorAccessGrant.expiresAt (h.stored g₀ (Table.get?_mem hget₀))
        exact lt_of_pgTimestamp_lt hexpires hstored
      · rw [hsession]
        exact hworkspace.symm
      · rw [hsession]
    have hnew : w.db.sessions.get? session.id = none ∧ session.revokedAt = none := by
      rw [hsession]
      exact ⟨hfresh, rfl⟩
    have hcreated : ∀ task : AuditorTask, (∀ db log, task.Justified P db log call) →
        PortalInv P (({ w with db := { w.db with
          sessions := w.db.sessions.upsert session.toRow } }.record
            (some (.sessionCreated ⟨call, claimed, code, identity, session⟩))).goesOn call task) :=
      fun task htask => h.sessionCreated hrule hgrant hnew.1 hnew.2 hdistinct htask
    rw [hstate, hlanded]
    rcases hanswer with hanswer | hanswer
    · rw [hanswer]
      exact hcreated _ fun _ _ => trivial
    · rw [hanswer]
      exact hcreated _ fun _ _ => trivial

end PortalInv

/-- **Every step keeps the invariant.** -/
theorem auditorStep_inv {P : AuditorPortal} (w : AuditorWorld) (e : AuditorEvent) (w' : AuditorWorld)
    (h : PortalInv P w) (hstep : auditorStep P w e = some w') : PortalInv P w' := by
  cases e with
  | issueGrant command grantId digest now fault =>
    unfold auditorStep at hstep
    dsimp only at hstep
    split at hstep
    · cases hstep
    · next hfresh =>
      cases hstep
      refine h.detached fun grant db hr => ?_
      obtain ⟨row, rfl, hopen, hrow, rfl⟩ := AuditorDb.issueAuditorAccessGrant_ok hr
      exact h.issued (Option.not_isSome_iff_eq_none.mp hfresh) hopen hrow
  | revokeGrant connection grantId now fault =>
    cases hstep
    refine h.detached fun grant db hr => ?_
    obtain ⟨g, hget, hid, hcases⟩ := AuditorDb.revokeAuditorAccessGrant_ok hr
    rw [hid]
    rcases hcases with ⟨hrevoked, rfl⟩ | rfl
    · exact h.revokedBefore hget hrevoked
    · exact h.revokedNow hget now
  | start workspaceId grantId transactionId state nonce verifier now fault =>
    unfold auditorStep at hstep
    dsimp only at hstep
    split at hstep
    · cases hstep
    · next hfresh =>
      cases hstep
      refine h.detached fun email db hr => ?_
      obtain ⟨row, rfl, -, rfl⟩ := AuditorDb.startAuditorAuthTransaction_ok hr
      exact h.started (Option.not_isSome_iff_eq_none.mp hfresh)
  | claim state now fault =>
    cases hstep
    refine h.detached fun c db hr => ?_
    obtain ⟨t, hget, -, hopen, hexpires, rfl, rfl⟩ := AuditorDb.claimAuditorAuthTransaction_ok hr
    exact h.claimed hget hopen hexpires none
  | callback call state code now fault =>
    unfold auditorStep at hstep
    dsimp only at hstep
    split at hstep
    · cases hstep
    · cases hstep
      exact h.callbackStep call state code now fault
  | exchange call result =>
    unfold auditorStep at hstep
    dsimp only at hstep
    split at hstep
    · next claimed code htask =>
      have hj := h.task_justified htask
      unfold AuditorPortal.exchangeStep at hstep
      split at hstep
      · cases hstep
        exact h.goesOn trivial
      · split at hstep
        · next hverified =>
          cases hstep
          exact h.goesOn ⟨hj, hverified⟩
        · cases hstep
    · cases hstep
  | resolveGrant call now ok =>
    unfold auditorStep at hstep
    dsimp only at hstep
    split at hstep
    · next claimed code identity htask =>
      cases hstep
      exact h.resolveGrantStep (h.task_justified htask) now ok
    · cases hstep
  | createSession call sessionId rawSession now fault =>
    unfold auditorStep at hstep
    dsimp only at hstep
    split at hstep
    · next claimed code identity grant htask =>
      split at hstep
      · cases hstep
      · next hfresh =>
        cases hstep
        exact h.createSessionStep (h.task_justified htask) (Option.not_isSome_iff_eq_none.mp hfresh)
          rawSession now fault
    · cases hstep
  | revokeSession rawSession now fault =>
    cases hstep
    refine h.detached fun answer db hr => ?_
    obtain ⟨row, row', hget, hdigest, hsame, hrevoked, hdistinct, rfl⟩ := AuditorDb.revokeAuditorSession_ok hr
    rw [← hdigest]
    exact h.sessionRevoked hget hsame hrevoked hdistinct

theorem record_log (w : AuditorWorld) (x : Option AuditorRecord) :
    ∀ r ∈ w.log, r ∈ (w.record x).log := fun _ hr => List.mem_append_right _ hr

/-- no step takes a record out of the history -/
theorem auditorStep_log {P : AuditorPortal} (w : AuditorWorld) (e : AuditorEvent) (w' : AuditorWorld)
    (hstep : auditorStep P w e = some w') : ∀ r ∈ w.log, r ∈ w'.log := by
  cases e with
  | issueGrant command grantId digest now fault =>
    unfold auditorStep at hstep
    dsimp only at hstep
    split at hstep
    · cases hstep
    · cases hstep
      exact record_log { w with db := _ } _
  | revokeGrant connection grantId now fault =>
    cases hstep
    exact record_log { w with db := _ } _
  | start workspaceId grantId transactionId state nonce verifier now fault =>
    unfold auditorStep at hstep
    dsimp only at hstep
    split at hstep
    · cases hstep
    · cases hstep
      exact record_log { w with db := _ } _
  | claim state now fault =>
    cases hstep
    exact record_log { w with db := _ } _
  | callback call state code now fault =>
    unfold auditorStep at hstep
    dsimp only at hstep
    split at hstep
    · cases hstep
    · cases hstep
      unfold AuditorPortal.callbackStep
      split
      · exact fun r hr => hr
      · dsimp only
        split
        · exact record_log { w with db := _ } _
        · exact record_log { w with db := _ } _
  | exchange call result =>
    unfold auditorStep at hstep
    dsimp only at hstep
    split at hstep
    · unfold AuditorPortal.exchangeStep at hstep
      split at hstep
      · cases hstep
        exact fun r hr => hr
      · split at hstep
        · cases hstep
          exact fun r hr => hr
        · cases hstep
    · cases hstep
  | resolveGrant call now ok =>
    unfold auditorStep at hstep
    dsimp only at hstep
    split at hstep
    · cases hstep
      unfold AuditorPortal.resolveGrantStep
      repeat' split
      all_goals exact fun r hr => hr
    · cases hstep
  | createSession call sessionId rawSession now fault =>
    unfold auditorStep at hstep
    dsimp only at hstep
    split at hstep
    · split at hstep
      · cases hstep
      · cases hstep
        unfold AuditorPortal.createSessionStep
        dsimp only
        split
        · exact record_log { w with db := _ } _
        · exact record_log { w with db := _ } _
    · cases hstep
  | revokeSession rawSession now fault =>
    cases hstep
    exact record_log { w with db := _ } _

theorem PortalInv.run {P : AuditorPortal} {events : List AuditorEvent} {w w' : AuditorWorld}
    (h : PortalInv P w) (hrun : run (auditorStep P) w events = some w') : PortalInv P w' :=
  run_inv (PortalInv P) auditorStep_inv h hrun

/-- the history only grows -/
theorem auditorRun_log {P : AuditorPortal} {events : List AuditorEvent} {w w' : AuditorWorld}
    (hrun : run (auditorStep P) w events = some w') : ∀ r ∈ w.log, r ∈ w'.log :=
  run_rel (fun _ => True) (fun w w' : AuditorWorld => ∀ r ∈ w.log, r ∈ w'.log)
    (fun _ _ _ _ _ => trivial) (fun _ _ hr => hr) (fun _ _ _ h h' r hr => h' r (h r hr))
    (fun w e w' _ hstep => auditorStep_log w e w' hstep) trivial hrun

/-! ## The promise -/

/-- what there is to say of a session: its transaction was claimed first, once and in time, and led to no
other; its grant is that of the transaction, was active, and is for the verified address -/
structure SessionGranted (P : AuditorPortal) (db : AuditorDb) (s : CreatedAuditorSession)
    (older : List AuditorRecord) : Prop where
  claimed : ∃ between oldest, older = between ++ .claimed (some s.call) s.claimed :: oldest ∧
    ∀ call c, .claimed call c ∈ oldest → c.id ≠ s.claimed.id
  inTime : s.claimed.consumedAt < s.claimed.expiresAt
  once : ∀ s', .sessionCreated s' ∈ older → s'.claimed.id ≠ s.claimed.id
  transaction : ∃ t, db.transactions.get? s.claimed.id = some t ∧ t.grantId = s.session.grantId
  grant : OnGrant db s.session
  unrevoked : .grantRevoked s.session.grantId ∉ older
  verified : P.verified (P.identityExchange s.claimed s.authorizationCode) s.identity = true
  emailVerified : s.identity.emailVerified = true
  email : normalizeEmail P.isValid s.identity.email = some s.session.auditorEmail

theorem PortalInv.granted {P : AuditorPortal} {w : AuditorWorld} (h : PortalInv P w)
    {newer older : List AuditorRecord} {s : CreatedAuditorSession}
    (hlog : w.log = newer ++ .sessionCreated s :: older) : SessionGranted P w.db s older := by
  have hrule : SessionRule P s older := h.lawful.of_split hlog
  have hcreated : .sessionCreated s ∈ w.log := by
    rw [hlog]
    exact List.mem_append_right _ List.mem_cons_self
  have hlogged : .claimed (some s.call) s.claimed ∈ w.log := by
    rw [hlog]
    exact List.mem_append_right _ (List.mem_cons_of_mem _ hrule.claimed)
  have holder : Lawful (portalRule P) older := h.lawful.before hlog
  obtain ⟨hexpires, hfirst⟩ := claim_first holder hrule.claimed
  obtain ⟨t, hget, hgrant, -⟩ := h.claims _ _ hlogged
  exact ⟨hfirst, hexpires, hrule.once, ⟨t, hget, hgrant.trans hrule.grantId.symm⟩,
    h.created s hcreated, hrule.unrevoked, hrule.verified, hrule.emailVerified, hrule.email⟩

/-- a session whose row is revoked does not resolve, by its secret or by any other -/
theorem AuditorDb.resolveSession_revoked {db : AuditorDb} (hdistinct : db.DigestsDistinct)
    {id : AuditorSessionId} {s : AuditorSessionRow} (hget : db.sessions.get? id = some s)
    (hrevoked : s.revokedAt.isSome = true) {digest : Sha256Digest} {now : Int}
    {resolved : ResolvedAuditorSession} (h : db.resolveSession digest now = some resolved) :
    resolved.id ≠ id ∧ digest ≠ s.sessionDigest := by
  obtain ⟨x, hx, g, hdigest, hactive, -, -, rfl⟩ := (AuditorDb.resolveSession_iff hdistinct).mp h
  have hopen := ((AuditorSessionRow.active_iff x now).mp hactive).1
  have hne : x ≠ s := by
    rintro rfl
    rw [hopen] at hrevoked
    cases hrevoked
  have hids : x.id ≠ id := by
    intro hid
    have hxget := Table.get?_of_mem hx
    rw [hid, hget] at hxget
    exact hne (Option.some.inj hxget).symm
  refine ⟨hids, fun heq => hne ?_⟩
  exact hdistinct x hx s (Table.get?_mem hget) (hdigest.trans heq)

/-- **Who gets into the portal.**  Every stored session is one that an authentication has created.  It
resolves while it and its grant are active, to the workspace and the period of the grant, and never once
the grant is revoked, or the session itself. -/
theorem auditor_portal_access_control (P : AuditorPortal) {events : List AuditorEvent}
    {w : AuditorWorld} (h : run (auditorStep P) .empty events = some w) :
    (∀ row ∈ w.db.sessions.rows, ∃ s, .sessionCreated s ∈ w.log ∧ s.session.toRow.SameSession row) ∧
    (∀ newer s older, w.log = newer ++ .sessionCreated s :: older → SessionGranted P w.db s older) ∧
    (∀ id, .grantRevoked id ∈ w.log ↔ ∃ g, w.db.grants.get? id = some g ∧ g.revokedAt.isSome = true) ∧
    (∀ id digest, .sessionRevoked id digest ∈ w.log ↔
      ∃ s, w.db.sessions.get? id = some s ∧ s.sessionDigest = digest ∧ s.revokedAt.isSome = true) ∧
    (∀ rawSession now resolved, w.db.resolveSession (P.sha256 rawSession) now = some resolved ↔
      ∃ s ∈ w.db.sessions.rows, ∃ g, s.sessionDigest = P.sha256 rawSession ∧
        (s.revokedAt = none ∧ now < s.expiresAt) ∧ w.db.grants.get? s.grantId = some g ∧
        (g.revokedAt = none ∧ now < g.expiresAt) ∧ resolved = s.resolved g) ∧
    ∀ events' w', run (auditorStep P) w events' = some w' →
      (∀ id g, w.db.grants.get? id = some g → g.revokedAt.isSome = true →
        ∀ rawSession now resolved, w'.db.resolveSession (P.sha256 rawSession) now = some resolved →
          resolved.grantId ≠ id) ∧
      ∀ id digest, .sessionRevoked id digest ∈ w.log →
        ∀ rawSession now resolved, w'.db.resolveSession (P.sha256 rawSession) now = some resolved →
          resolved.id ≠ id ∧ P.sha256 rawSession ≠ digest := by
  have hinv : PortalInv P w := (PortalInv.empty P).run h
  refine ⟨hinv.sessions, fun newer s older => hinv.granted, hinv.revoked, hinv.sessionsRevoked,
    fun raw now resolved => ?_, fun events' w' hrun =>
      ⟨fun id g hget hrevoked raw now resolved hresolved hid => ?_,
        fun id digest hrevoked raw now resolved hresolved => ?_⟩⟩
  · rw [AuditorDb.resolveSession_iff hinv.distinct]
    simp only [AuditorSessionRow.active_iff, AuditorAccessGrant.active_iff]
  · have hinv' : PortalInv P w' := hinv.run hrun
    have hlogged : .grantRevoked id ∈ w'.log :=
      auditorRun_log hrun _ ((hinv.revoked id).mpr ⟨g, hget, hrevoked⟩)
    obtain ⟨g', hget', hsome⟩ := (hinv'.revoked id).mp hlogged
    obtain ⟨s, -, x, -, -, hx, hactive, rfl⟩ :=
      (AuditorDb.resolveSession_iff hinv'.distinct).mp hresolved
    have hgrant : s.grantId = id := hid
    rw [hgrant, hget'] at hx
    cases hx
    rw [((AuditorAccessGrant.active_iff g' now).mp hactive).1] at hsome
    cases hsome
  · have hinv' : PortalInv P w' := hinv.run hrun
    obtain ⟨s, hget, hdigest, hsome⟩ :=
      (hinv'.sessionsRevoked id digest).mp (auditorRun_log hrun _ hrevoked)
    rw [← hdigest]
    exact AuditorDb.resolveSession_revoked hinv'.distinct hget hsome hresolved

/-! An auditor who gets in on new year and leaves again, and is shut out an hour later. -/

def newYearPortal : AuditorPortal where
  sha256 text := ⟨BitVec.ofNat 256 text.length⟩
  isValid _ := true
  lowerTrim text := text
  callbackUrl := "https://app.example.com/auditor-access/auth0/callback"
  verified exchange identity :=
    exchange.authorizationCode == "code" && identity.email == "Auditor@Example.com"

def newYearAuditorEvents : List AuditorEvent :=
  [.issueGrant ⟨⟨⟨2⟩, ⟨3⟩, ⟨1⟩, .all⟩, " Auditor@example.com", none, ⟨0, 0, le_refl 0⟩⟩ ⟨4⟩ ⟨5⟩
      1767225600000000000 .none,
    .start ⟨1⟩ ⟨4⟩ ⟨6⟩ "state" "nonce" "dBjftJeZ4CVP-mB92K27uhbUJU1p1r_wW1gFWFOEjXk"
      1767225601000000000 .none,
    .callback 0 "state" "code" 1767225602000000000 .none,
    .exchange 0 (.ok ⟨"email|auditor", "Auditor@Example.com", true⟩),
    .resolveGrant 0 1767225603000000000 true,
    .createSession 0 ⟨7⟩ (some "session secret") 1767225604000000000 .none,
    .revokeSession "session secret" 1767225610000000000 .none,
    .revokeGrant ⟨⟨2⟩, ⟨3⟩, ⟨1⟩, .all⟩ ⟨4⟩ 1767229200000000000 .none]

/-- there is one session, which was created and revoked, and which does not resolve any more, whatever
comes -/
theorem auditor_portal_access_control_newYear :
    ∃ w, run (auditorStep newYearPortal) .empty newYearAuditorEvents = some w ∧
      w.db.sessions.rows.map AuditorSessionRow.id = [⟨7⟩] ∧
      (∀ row ∈ w.db.sessions.rows, ∃ s, .sessionCreated s ∈ w.log ∧
        s.session.toRow.SameSession row) ∧
      .sessionRevoked ⟨7⟩ (newYearPortal.sha256 "session secret") ∈ w.log ∧
      (∀ events' w', run (auditorStep newYearPortal) w events' = some w' →
        ∀ now, w'.db.resolveSession (newYearPortal.sha256 "session secret") now = none) ∧
      ∀ rawSession now, w.db.resolveSession (newYearPortal.sha256 rawSession) now = none := by
  have hrun : (run (auditorStep newYearPortal) .empty newYearAuditorEvents).map (fun w =>
      (w.db.sessions.rows.map AuditorSessionRow.id,
        (w.db.sessions.get? ⟨7⟩).map fun s =>
          (decide (s.sessionDigest = newYearPortal.sha256 "session secret"), s.revokedAt.isSome),
        w.db.grants.rows.map fun g => (g.id, g.revokedAt.isSome)))
      = some ([⟨7⟩], some (true, true), [(⟨4⟩, true)]) := by
    decide +kernel
  obtain ⟨w, hw, hrows⟩ := Option.map_eq_some_iff.mp hrun
  obtain ⟨hsessions, -, -, hrevokedIff, hresolves, hlater⟩ := auditor_portal_access_control newYearPortal hw
  have hgrants : (w.db.grants.rows.map fun g => (g.id, g.revokedAt.isSome)) = [(⟨4⟩, true)] :=
    congrArg (fun x => x.2.2) hrows
  have hsession : .sessionRevoked ⟨7⟩ (newYearPortal.sha256 "session secret") ∈ w.log := by
    obtain ⟨s, hs, hflags⟩ := Option.map_eq_some_iff.mp (congrArg (fun x => x.2.1) hrows)
    obtain ⟨hdigest, hsome⟩ := Prod.mk.inj hflags
    exact (hrevokedIff _ _).mpr ⟨s, hs, of_decide_eq_true hdigest, hsome⟩
  refine ⟨w, hw, congrArg Prod.fst hrows, hsessions, hsession, fun events' w' hrun' now => ?_,
    fun raw now => ?_⟩
  · cases hres : w'.db.resolveSession (newYearPortal.sha256 "session secret") now with
    | none => rfl
    | some resolved => exact absurd rfl ((hlater events' w' hrun').2 _ _ hsession _ now resolved hres).2
  -- the only grant is revoked
  have hrevoked : ∀ g ∈ w.db.grants.rows, g.revokedAt.isSome = true := by
    intro g hg
    have hmem := List.mem_map_of_mem (f := fun g : AuditorAccessGrant => (g.id, g.revokedAt.isSome)) hg
    rw [hgrants] at hmem
    exact congrArg Prod.snd (List.mem_singleton.mp hmem)
  cases hres : w.db.resolveSession (newYearPortal.sha256 raw) now with
  | none => rfl
  | some resolved =>
    obtain ⟨s, -, g, -, -, hget, ⟨hopen, -⟩, -⟩ := (hresolves raw now resolved).mp hres
    have hsome := hrevoked g (Table.get?_mem hget)
    rw [hopen] at hsome
    cases hsome

end Proofplane
