import Proofplane.Base.Run
import Proofplane.Outbox.Store
import Mathlib.Logic.Function.Basic

/-!
# Dequeuers of the outbox

Any number of dequeuers work on one outbox without row locks.  Each of them lists the due rows and
then, row by row, publishes and deletes the row or records the failure; listing, publishing,
deleting and recording are separate steps, and a dequeuer may stop between any two of them.

* `Dequeuer`, `OutboxWorld`   where a dequeuer stands in `run_once`, and the whole system;
* `OutboxEvent`, `dequeue`    what can happen next: a committed enqueue, a step of a dequeuer with
                              the answer it gets, a crash;
* `Move`, `dequeue_move`      **all that one step can do**, in five cases;
* `OutboxInv`, `move_inv`     the invariant, kept by every step;
* `outbox_at_least_once`      **no row is lost**: a row leaves the outbox only through a dequeuer that
                              has published it, and nothing else about it changes but its attempts.

`committed`, `published` and `failures` are histories; no step reads them except to find a fresh id.
-/

namespace Proofplane
open Base

structure OutboxDequeuerConfig where
  batchSize : Nat
  maxAttempts : Int
  initialRetryDelay : Int
  maxRetryDelay : Int
  deriving DecidableEq, Repr

def retryDelay (attemptCount initial maximum : Int) : Int :=
  let exponent := (max 0 (min attemptCount 30)).toNat
  min (initial * 2 ^ exponent) maximum

/-- when a row whose publication failed is due again -/
def retryAt (config : OutboxDequeuerConfig) (row : OutboxMessage) (now : Int) : Int :=
  let exhausted := config.maxAttempts ≤ i32Succ row.attemptCount
  if exhausted then now + config.maxRetryDelay
  else now + retryDelay row.attemptCount config.initialRetryDelay config.maxRetryDelay

/-- where a dequeuer stands in `run_once` -/
inductive Dequeuer
  /-- between two runs, or crashed -/
  | idle
  /-- with these rows of its list still to publish -/
  | publishing (now : Int) (rows : List OutboxMessage)
  /-- the publisher has accepted `row`, the `DELETE` is next -/
  | deleting (now : Int) (row : OutboxMessage) (rest : List OutboxMessage)
  /-- the publisher has refused `row`, the `UPDATE` is next -/
  | recording (now : Int) (row : OutboxMessage) (nextAvailableAt : Int) (rest : List OutboxMessage)

namespace Dequeuer

/-- the rows it has in its hands -/
def held : Dequeuer → List OutboxMessage
  | .idle => []
  | .publishing _ rows => rows
  | .deleting _ row rest => row :: rest
  | .recording _ row _ rest => row :: rest

/-- the row it is working on -/
def current : Dequeuer → Option OutboxMessage
  | .idle => none
  | .publishing _ rows => rows.head?
  | .deleting _ row _ => some row
  | .recording _ row _ _ => some row

def isDeleting : Dequeuer → Bool
  | .deleting _ _ _ => true
  | _ => false

end Dequeuer

structure OutboxWorld where
  outbox : OutboxTable
  dequeuers : Nat → Dequeuer
  /-- every row that was ever committed, as it was inserted -/
  committed : List OutboxMessage
  /-- what a dequeuer has published, with its topic -/
  published : List (Nat × String × OutboundMessage)
  /-- the id of a row for each failure recorded for it -/
  failures : List Int

/-- the empty outbox, every dequeuer at rest -/
def OutboxWorld.init : OutboxWorld where
  outbox := Table.empty
  dequeuers := fun _ => .idle
  committed := []
  published := []
  failures := []

/-- how a statement ends: applied and acknowledged, applied with its answer lost, or not applied -/
inductive Statement
  | done | lost | failed
  deriving DecidableEq, Repr

inductive OutboxEvent
  /-- a transaction that appended this message commits; its id was never used before -/
  | enqueue (new : NewOutboxMessage) (id now : Int)
  | listDue (d : Nat) (now : Int)
  | publish (d : Nat) (accepted : Bool)
  | delete (d : Nat) (outcome : Statement)
  | recordFailure (d : Nat) (outcome : Statement)
  | finish (d : Nat)
  | crash (d : Nat)

/-- the dequeuer that takes the step -/
def OutboxEvent.actor : OutboxEvent → Option Nat
  | .enqueue _ _ _ => none
  | .listDue d _ => some d
  | .publish d _ => some d
  | .delete d _ => some d
  | .recordFailure d _ => some d
  | .finish d => some d
  | .crash d => some d

namespace OutboxWorld

/-- the world in which dequeuer `d` stands at `p` -/
def set (s : OutboxWorld) (d : Nat) (p : Dequeuer) : OutboxWorld :=
  { s with dequeuers := Function.update s.dequeuers d p }

theorem set_self (s : OutboxWorld) (d : Nat) (p : Dequeuer) : (s.set d p).dequeuers d = p := by
  show Function.update s.dequeuers d p d = p
  rw [Function.update_self]

theorem set_of_ne (s : OutboxWorld) {d j : Nat} (p : Dequeuer) (h : j ≠ d) :
    (s.set d p).dequeuers j = s.dequeuers j := by
  show Function.update s.dequeuers d p j = s.dequeuers j
  rw [Function.update_of_ne h]

end OutboxWorld

section
variable (config : Nat → OutboxDequeuerConfig)

/-- one step; a statement that returns an error ends the run of its dequeuer -/
def dequeue (s : OutboxWorld) : OutboxEvent → Option OutboxWorld
  | .enqueue new id now =>
    if s.committed.any (fun c => c.id = id) then none
    else
      let row := outboxRow new id (pgTimestamp now)
      some { s with outbox := s.outbox.upsert row, committed := s.committed ++ [row] }
  | .listDue d now =>
    match s.dequeuers d with
    | .idle => some (s.set d (.publishing now (listDueOutboxMessages s.outbox now (config d).batchSize)))
    | _ => none
  | .publish d accepted =>
    match s.dequeuers d with
    | .publishing now (row :: rest) =>
      if accepted then
        some { s.set d (.deleting now row rest) with
               published := (d, row.topic, outboundMessage row) :: s.published }
      else some (s.set d (.recording now row (retryAt (config d) row now) rest))
    | _ => none
  | .delete d outcome =>
    match s.dequeuers d with
    | .deleting now row rest =>
      match outcome with
      | .done => some { s.set d (.publishing now rest) with
                        outbox := deleteOutboxMessage s.outbox row.id }
      | .lost => some { s.set d .idle with outbox := deleteOutboxMessage s.outbox row.id }
      | .failed => some (s.set d .idle)
    | _ => none
  | .recordFailure d outcome =>
    match s.dequeuers d with
    | .recording now row nextAvailableAt rest =>
      match outcome, recordOutboxPublishFailure s.outbox row.id nextAvailableAt with
      | .done, some outbox =>
        some { s.set d (.publishing now rest) with outbox := outbox, failures := row.id :: s.failures }
      | .lost, some outbox =>
        some { s.set d .idle with outbox := outbox, failures := row.id :: s.failures }
      | _, _ => some (s.set d .idle)
    | _ => none
  | .finish d =>
    match s.dequeuers d with
    | .publishing _ [] => some (s.set d .idle)
    | _ => none
  | .crash d => some (s.set d .idle)

/-! ## What a step can do -/

/-- all that one step can do: a row is committed; a dequeuer moves on without touching the table;
it publishes its row; it deletes the row it has published; it counts a failure of its row -/
inductive Move : OutboxWorld → OutboxEvent → OutboxWorld → Prop
  | committed {s : OutboxWorld} {new : NewOutboxMessage} {id now : Int}
      (hfresh : ∀ c ∈ s.committed, c.id ≠ id) :
      Move s (.enqueue new id now)
        { s with
          outbox := s.outbox.upsert (outboxRow new id (pgTimestamp now))
          committed := s.committed ++ [outboxRow new id (pgTimestamp now)] }
  | moved {s : OutboxWorld} {e : OutboxEvent} {d : Nat} {p : Dequeuer}
      (hheld : ∀ r ∈ p.held, r ∈ (s.dequeuers d).held ∨ r ∈ s.outbox.rows)
      (hdel : p.isDeleting = false) : Move s e (s.set d p)
  | published {s : OutboxWorld} {d : Nat} {now : Int} {row : OutboxMessage}
      {rest : List OutboxMessage} (h : s.dequeuers d = .publishing now (row :: rest)) :
      Move s (.publish d true)
        { s.set d (.deleting now row rest) with
          published := (d, row.topic, outboundMessage row) :: s.published }
  | deleted {s : OutboxWorld} {d : Nat} {now : Int} {row : OutboxMessage}
      {rest : List OutboxMessage} {outcome : Statement} {p : Dequeuer}
      (h : s.dequeuers d = .deleting now row rest) (hheld : ∀ r ∈ p.held, r ∈ rest)
      (hdel : p.isDeleting = false) :
      Move s (.delete d outcome)
        { s.set d p with outbox := deleteOutboxMessage s.outbox row.id }
  | recorded {s : OutboxWorld} {d : Nat} {now next : Int} {row : OutboxMessage}
      {rest : List OutboxMessage} {outcome : Statement} {p : Dequeuer} {outbox : OutboxTable}
      (h : s.dequeuers d = .recording now row next rest)
      (ht : recordOutboxPublishFailure s.outbox row.id next = some outbox)
      (hheld : ∀ r ∈ p.held, r ∈ rest) (hdel : p.isDeleting = false) :
      Move s (.recordFailure d outcome)
        { s.set d p with outbox := outbox, failures := row.id :: s.failures }

variable {config}

/-- a dequeuer that goes back to rest -/
private theorem Move.toIdle (s : OutboxWorld) (e : OutboxEvent) (d : Nat) : Move s e (s.set d .idle) :=
  .moved (fun _ hr => by cases hr) rfl

theorem dequeue_move {s s' : OutboxWorld} {e : OutboxEvent} (h : dequeue config s e = some s') :
    Move s e s' := by
  cases e with
  | enqueue new id now =>
    simp only [dequeue] at h
    split at h
    · cases h
    · next hany =>
      cases h
      refine .committed fun c hc hid => hany ?_
      exact List.any_eq_true.mpr ⟨c, hc, decide_eq_true hid⟩
  | listDue d now =>
    simp only [dequeue] at h
    split at h
    · cases h
      exact .moved (fun r hr => .inr (mem_listDue hr)) rfl
    · cases h
  | publish d accepted =>
    simp only [dequeue] at h
    split at h
    · next now row rest hd =>
      split at h
      · next hacc =>
        cases h
        cases hacc
        exact .published hd
      · cases h
        refine .moved (fun r hr => .inl ?_) rfl
        rw [hd]
        exact hr
    · cases h
  | delete d outcome =>
    simp only [dequeue] at h
    split at h
    · next now row rest hd =>
      split at h
      · cases h
        exact .deleted hd (fun r hr => hr) rfl
      · cases h
        exact .deleted hd (fun r hr => by cases hr) rfl
      · cases h
        exact .toIdle s _ d
    · cases h
  | recordFailure d outcome =>
    simp only [dequeue] at h
    split at h
    · next now row next rest hd =>
      split at h
      · next outbox ht =>
        cases h
        exact .recorded hd ht (fun r hr => hr) rfl
      · next outbox ht =>
        cases h
        exact .recorded hd ht (fun r hr => by cases hr) rfl
      · cases h
        exact .toIdle s _ d
    · cases h
  | finish d =>
    simp only [dequeue] at h
    split at h
    · cases h
      exact .toIdle s _ d
    · cases h
  | crash d =>
    cases h
    exact .toIdle s _ d

end

/-! ## The invariant -/

/-- a row is a state of one that was committed -/
def Committed (s : OutboxWorld) (r : OutboxMessage) : Prop := ∃ c ∈ s.committed, SameMessage c r

structure OutboxInv (s : OutboxWorld) : Prop where
  /-- no id was committed twice -/
  nodup : (s.committed.map OutboxMessage.id).Nodup
  /-- a stored row is a committed one -/
  stored : ∀ r ∈ s.outbox.rows, Committed s r
  /-- so is a row in the hands of a dequeuer -/
  held : ∀ d, ∀ r ∈ (s.dequeuers d).held, Committed s r
  /-- a dequeuer about to delete has published that row -/
  publishedFirst : ∀ d now row rest, s.dequeuers d = .deleting now row rest →
    (d, row.topic, outboundMessage row) ∈ s.published
  /-- a committed row is still stored, or was published -/
  kept : ∀ c ∈ s.committed, (∃ r ∈ s.outbox.rows, SameMessage c r) ∨
    ∃ d, (d, c.topic, outboundMessage c) ∈ s.published
  /-- failures are recorded for committed rows -/
  failed : ∀ i ∈ s.failures, ∃ c ∈ s.committed, c.id = i
  /-- the attempts of a stored row are the failures recorded for it -/
  attempts : ∀ r ∈ s.outbox.rows, r.attemptCount = s.failures.count r.id

theorem OutboxInv.init : OutboxInv .init where
  nodup := List.nodup_nil
  stored r hr := absurd hr (Table.mem_rows_empty r)
  held d r hr := by cases hr
  publishedFirst d now row rest h := by cases h
  kept c hc := by cases hc
  failed i hi := by cases hi
  attempts r hr := absurd hr (Table.mem_rows_empty r)

/-- two committed states with one id are states of one row -/
theorem OutboxInv.same_of_id {s : OutboxWorld} (hinv : OutboxInv s) {c : OutboxMessage}
    (hc : c ∈ s.committed) {r : OutboxMessage} (hr : Committed s r) (hid : c.id = r.id) :
    SameMessage c r := by
  obtain ⟨c', hc', hsame⟩ := hr
  have heq : c = c' := List.inj_on_of_nodup_map hinv.nodup hc hc' (hid.trans hsame.id_eq)
  rw [heq]
  exact hsame

theorem Committed.mono {s s' : OutboxWorld} (h : ∀ c ∈ s.committed, c ∈ s'.committed)
    {r : OutboxMessage} (hr : Committed s r) : Committed s' r := by
  obtain ⟨c, hc, hsame⟩ := hr
  exact ⟨c, h c hc, hsame⟩

/-- what `set` does to the hands of a dequeuer -/
theorem set_held {s : OutboxWorld} {d : Nat} {p : Dequeuer} {P : OutboxMessage → Prop}
    (hold : ∀ j, ∀ r ∈ (s.dequeuers j).held, P r) (hnew : ∀ r ∈ p.held, P r) (j : Nat) :
    ∀ r ∈ ((s.set d p).dequeuers j).held, P r := by
  intro r hr
  by_cases hj : j = d
  · rw [hj, s.set_self] at hr
    exact hnew r hr
  · rw [s.set_of_ne p hj] at hr
    exact hold j r hr

/-- a dequeuer about to delete after `set` was so before, unless it is the one that moved -/
theorem set_deleting {s : OutboxWorld} {d j : Nat} {p : Dequeuer} {now : Int} {row : OutboxMessage}
    {rest : List OutboxMessage} (h : (s.set d p).dequeuers j = .deleting now row rest) :
    (j = d ∧ p = .deleting now row rest) ∨ s.dequeuers j = .deleting now row rest := by
  by_cases hj : j = d
  · rw [hj, s.set_self] at h
    exact .inl ⟨hj, h⟩
  · rw [s.set_of_ne p hj] at h
    exact .inr h

theorem set_not_deleting {s : OutboxWorld} {d j : Nat} {p : Dequeuer} {now : Int}
    {row : OutboxMessage} {rest : List OutboxMessage} (hp : p.isDeleting = false)
    (h : (s.set d p).dequeuers j = .deleting now row rest) :
    s.dequeuers j = .deleting now row rest := by
  rcases set_deleting h with ⟨-, hc⟩ | h
  · rw [hc] at hp
    cases hp
  · exact h

section
variable {s : OutboxWorld}

theorem OutboxInv.committed (hinv : OutboxInv s) {new : NewOutboxMessage} {id now : Int}
    (hfresh : ∀ c ∈ s.committed, c.id ≠ id) :
    OutboxInv
      { s with
        outbox := s.outbox.upsert (outboxRow new id (pgTimestamp now))
        committed := s.committed ++ [outboxRow new id (pgTimestamp now)] } := by
  have hmono : ∀ c ∈ s.committed, c ∈ s.committed ++ [outboxRow new id (pgTimestamp now)] :=
    fun c hc => List.mem_append_left _ hc
  have hnew : outboxRow new id (pgTimestamp now)
      ∈ s.committed ++ [outboxRow new id (pgTimestamp now)] :=
    List.mem_append_right _ (List.mem_singleton.mpr rfl)
  -- an id that no committed row has is not in the table either
  have hno : ∀ r ∈ s.outbox.rows, r.id ≠ id := by
    intro r hr
    obtain ⟨c, hc, hsame⟩ := hinv.stored r hr
    rw [hsame.id_eq]
    exact hfresh c hc
  refine ⟨?_, ?_, ?_, hinv.publishedFirst, ?_, ?_, ?_⟩
  · rw [List.map_append, List.nodup_append]
    refine ⟨hinv.nodup, List.nodup_singleton _, ?_⟩
    intro a ha b hb hab
    obtain ⟨c, hc, rfl⟩ := List.mem_map.mp ha
    rw [List.map_singleton, List.mem_singleton] at hb
    exact hfresh c hc (hab.trans hb)
  · intro r hr
    rcases Table.mem_upsert.mp hr with rfl | ⟨hr, -⟩
    · exact ⟨_, hnew, .refl _⟩
    · exact (hinv.stored r hr).mono hmono
  · intro d r hr
    exact (hinv.held d r hr).mono hmono
  · intro c hc
    rcases List.mem_append.mp hc with hc | hc
    · rcases hinv.kept c hc with ⟨r, hr, hsame⟩ | hpub
      · exact .inl ⟨r, Table.mem_upsert.mpr (.inr ⟨hr, hno r hr⟩), hsame⟩
      · exact .inr hpub
    · rw [List.mem_singleton] at hc
      exact .inl ⟨_, Table.mem_upsert.mpr (.inl rfl), hc ▸ .refl _⟩
  · intro i hi
    obtain ⟨c, hc, hid⟩ := hinv.failed i hi
    exact ⟨c, hmono c hc, hid⟩
  · intro r hr
    rcases Table.mem_upsert.mp hr with rfl | ⟨hr, -⟩
    · -- no failure was recorded for an id before its commit
      have hzero : s.failures.count id = 0 := by
        rw [List.count_eq_zero]
        intro hi
        obtain ⟨c, hc, hid⟩ := hinv.failed id hi
        exact hfresh c hc hid
      show (0 : Int) = s.failures.count id
      rw [hzero]
      rfl
    · exact hinv.attempts r hr

theorem OutboxInv.moved (hinv : OutboxInv s) {d : Nat} {p : Dequeuer}
    (hheld : ∀ r ∈ p.held, r ∈ (s.dequeuers d).held ∨ r ∈ s.outbox.rows)
    (hdel : p.isDeleting = false) : OutboxInv (s.set d p) where
  nodup := hinv.nodup
  stored := hinv.stored
  held := set_held (P := Committed s) hinv.held fun r hr => by
    rcases hheld r hr with h | h
    · exact hinv.held d r h
    · exact hinv.stored r h
  publishedFirst j now row rest h := hinv.publishedFirst j now row rest (set_not_deleting hdel h)
  kept := hinv.kept
  failed := hinv.failed
  attempts := hinv.attempts

theorem OutboxInv.published' (hinv : OutboxInv s) {d : Nat} {now : Int} {row : OutboxMessage}
    {rest : List OutboxMessage} (h : s.dequeuers d = .publishing now (row :: rest)) :
    OutboxInv
      { s.set d (.deleting now row rest) with
        published := (d, row.topic, outboundMessage row) :: s.published } where
  nodup := hinv.nodup
  stored := hinv.stored
  held := set_held (P := Committed s) hinv.held fun r hr => by
    apply hinv.held d r
    rw [h]
    exact hr
  publishedFirst j now' row' rest' hj := by
    rcases set_deleting hj with ⟨rfl, hp⟩ | hold
    · cases hp
      exact List.mem_cons_self
    · exact List.mem_cons_of_mem _ (hinv.publishedFirst j now' row' rest' hold)
  kept c hc := by
    rcases hinv.kept c hc with hrow | ⟨j, hj⟩
    · exact .inl hrow
    · exact .inr ⟨j, List.mem_cons_of_mem _ hj⟩
  failed := hinv.failed
  attempts := hinv.attempts

theorem OutboxInv.deleted (hinv : OutboxInv s) {d : Nat} {now : Int} {row : OutboxMessage}
    {rest : List OutboxMessage} {p : Dequeuer} (h : s.dequeuers d = .deleting now row rest)
    (hheld : ∀ r ∈ p.held, r ∈ rest) (hdel : p.isDeleting = false) :
    OutboxInv { s.set d p with outbox := deleteOutboxMessage s.outbox row.id } where
  nodup := hinv.nodup
  stored r hr := hinv.stored r (Table.mem_delete.mp hr).1
  held := set_held (P := Committed s) hinv.held fun r hr => by
    apply hinv.held d r
    rw [h]
    exact List.mem_cons_of_mem row (hheld r hr)
  publishedFirst j now' row' rest' hj :=
    hinv.publishedFirst j now' row' rest' (set_not_deleting hdel hj)
  kept c hc := by
    by_cases hid : c.id = row.id
    · -- the deleted row is the one that was published
      have hrow : Committed s row := by
        apply hinv.held d row
        rw [h]
        exact List.mem_cons_self
      have hsame := hinv.same_of_id hc hrow hid
      have hpub := hinv.publishedFirst d now row rest h
      rw [hsame.topic_eq, hsame.outboundMessage_eq] at hpub
      exact .inr ⟨d, hpub⟩
    · rcases hinv.kept c hc with ⟨r, hr, hsame⟩ | hpub
      · refine .inl ⟨r, Table.mem_delete.mpr ⟨hr, ?_⟩, hsame⟩
        rw [hsame.id_eq]
        exact hid
      · exact .inr hpub
  failed := hinv.failed
  attempts r hr := hinv.attempts r (Table.mem_delete.mp hr).1

/-- a row after a recorded failure is the row before it, or that row with one more attempt -/
theorem recorded_rows {t t' : OutboxTable} {id next : Int}
    (ht : recordOutboxPublishFailure t id next = some t') {r : OutboxMessage} (hr : r ∈ t'.rows) :
    (r ∈ t.rows ∧ r.id ≠ id) ∨ ∃ r0 ∈ t.rows, r0.id = id ∧ r = r0.failed next := by
  have hget : t'.get? r.id = some r := Table.get?_of_mem hr
  rw [recordOutboxPublishFailure_some ht] at hget
  split at hget
  · next hid =>
    obtain ⟨r0, hr0, hfail⟩ := Option.map_eq_some_iff.mp hget
    obtain ⟨hmem, hkey⟩ := Table.get?_eq_some_iff.mp hr0
    exact .inr ⟨r0, hmem, hkey, hfail.symm⟩
  · next hid => exact .inl ⟨(Table.get?_eq_some_iff.mp hget).1, hid⟩

/-- and every row before it is still there -/
theorem recorded_keeps {t t' : OutboxTable} {id next : Int}
    (ht : recordOutboxPublishFailure t id next = some t') {r : OutboxMessage} (hr : r ∈ t.rows) :
    ∃ r' ∈ t'.rows, SameMessage r r' := by
  have hget : t.get? r.id = some r := Table.get?_of_mem hr
  have hget' := recordOutboxPublishFailure_some ht r.id
  by_cases hid : r.id = id
  · rw [if_pos hid, ← hid, hget] at hget'
    exact ⟨_, (Table.get?_eq_some_iff.mp hget').1, .failed r next⟩
  · rw [if_neg hid, hget] at hget'
    exact ⟨r, (Table.get?_eq_some_iff.mp hget').1, .refl r⟩

theorem OutboxInv.recorded (hinv : OutboxInv s) {d : Nat} {now next : Int} {row : OutboxMessage}
    {rest : List OutboxMessage} {p : Dequeuer} {outbox : OutboxTable}
    (h : s.dequeuers d = .recording now row next rest)
    (ht : recordOutboxPublishFailure s.outbox row.id next = some outbox)
    (hheld : ∀ r ∈ p.held, r ∈ rest) (hdel : p.isDeleting = false) :
    OutboxInv { s.set d p with outbox := outbox, failures := row.id :: s.failures } where
  nodup := hinv.nodup
  stored r hr := by
    rcases recorded_rows ht hr with ⟨hr, -⟩ | ⟨r0, hr0, -, rfl⟩
    · exact hinv.stored r hr
    · obtain ⟨c, hc, hsame⟩ := hinv.stored r0 hr0
      exact ⟨c, hc, hsame.trans (.failed r0 next)⟩
  held := set_held (P := Committed s) hinv.held fun r hr => by
    apply hinv.held d r
    rw [h]
    exact List.mem_cons_of_mem row (hheld r hr)
  publishedFirst j now' row' rest' hj :=
    hinv.publishedFirst j now' row' rest' (set_not_deleting hdel hj)
  kept c hc := by
    rcases hinv.kept c hc with ⟨r, hr, hsame⟩ | hpub
    · obtain ⟨r', hr', hsame'⟩ := recorded_keeps ht hr
      exact .inl ⟨r', hr', hsame.trans hsame'⟩
    · exact .inr hpub
  failed i hi := by
    rcases List.mem_cons.mp hi with rfl | hi
    · have hrow : Committed s row := by
        apply hinv.held d row
        rw [h]
        exact List.mem_cons_self
      obtain ⟨c, hc, hsame⟩ := hrow
      exact ⟨c, hc, hsame.id_eq.symm⟩
    · exact hinv.failed i hi
  attempts r hr := by
    show r.attemptCount = ((row.id :: s.failures).count r.id : Nat)
    rcases recorded_rows ht hr with ⟨hr, hne⟩ | ⟨r0, hr0, hid, rfl⟩
    · rw [List.count_cons_of_ne (Ne.symm hne)]
      exact hinv.attempts r hr
    · have hold := hinv.attempts r0 hr0
      show r0.attemptCount + 1 = ((row.id :: s.failures).count r0.id : Nat)
      rw [hid, List.count_cons_self, hold, hid]
      exact (Nat.cast_succ _).symm

theorem move_inv {s' : OutboxWorld} {e : OutboxEvent} (hinv : OutboxInv s) (h : Move s e s') :
    OutboxInv s' := by
  cases h with
  | committed hfresh => exact hinv.committed hfresh
  | moved hheld hdel => exact hinv.moved hheld hdel
  | published h => exact hinv.published' h
  | deleted h hheld hdel => exact hinv.deleted h hheld hdel
  | recorded h ht hheld hdel => exact hinv.recorded h ht hheld hdel

/-! ## Steps on the table -/

/-- a row leaves the table only in a `DELETE` of a dequeuer that has published that row -/
theorem move_deletes {s' : OutboxWorld} {e : OutboxEvent} (hinv : OutboxInv s) (h : Move s e s')
    {id : Int} {r : OutboxMessage} (hr : s.outbox.get? id = some r)
    (hr' : s'.outbox.get? id = none) :
    ∃ d outcome, e = .delete d outcome ∧ (d, r.topic, outboundMessage r) ∈ s.published := by
  cases h with
  | @committed new i now hfresh =>
    rw [Table.get?_upsert] at hr'
    split at hr'
    · cases hr'
    · rw [hr] at hr'
      cases hr'
  | moved hheld hdel => exact absurd (hr.symm.trans hr') (Option.some_ne_none r)
  | published h => exact absurd (hr.symm.trans hr') (Option.some_ne_none r)
  | @deleted d now row rest outcome p hd hheld hdel =>
    have hid : id = row.id := by
      by_contra hne
      have hget := Table.get?_delete s.outbox row.id id
      rw [if_neg hne, hr] at hget
      exact absurd (hget.symm.trans hr') (Option.some_ne_none r)
    obtain ⟨hmem, hkey⟩ := Table.get?_eq_some_iff.mp hr
    obtain ⟨c, hc, hsame⟩ := hinv.stored r hmem
    have hrow : Committed s row := by
      apply hinv.held d row
      rw [hd]
      exact List.mem_cons_self
    have hsame' : SameMessage c row :=
      hinv.same_of_id hc hrow (hsame.id_eq.symm.trans (hkey.trans hid))
    have hpub := hinv.publishedFirst d now row rest hd
    have hrr : SameMessage row r := hsame'.symm.trans hsame
    rw [← hrr.topic_eq, ← hrr.outboundMessage_eq] at hpub
    exact ⟨d, outcome, rfl, hpub⟩
  | @recorded d now next row rest outcome p outbox hd ht hheld hdel =>
    have hget := recordOutboxPublishFailure_some ht id
    rw [hr'] at hget
    split at hget
    · next hid =>
      rw [← hid, hr] at hget
      cases hget
    · rw [hr] at hget
      cases hget

/-- what was committed stays in the history -/
theorem move_committed {s' : OutboxWorld} {e : OutboxEvent} (h : Move s e s') :
    ∀ c ∈ s.committed, c ∈ s'.committed := by
  intro c hc
  cases h with
  | committed hfresh => exact List.mem_append_left _ hc
  | moved hheld hdel => exact hc
  | published h => exact hc
  | deleted h hheld hdel => exact hc
  | recorded h ht hheld hdel => exact hc

/-- the row of an id stays the same message -/
theorem move_same {s' : OutboxWorld} {e : OutboxEvent} (hinv : OutboxInv s) (h : Move s e s')
    {id : Int} {r r' : OutboxMessage} (hr : s.outbox.get? id = some r)
    (hr' : s'.outbox.get? id = some r') : SameMessage r r' := by
  have hinv' := move_inv hinv h
  obtain ⟨hmem, hkey⟩ := Table.get?_eq_some_iff.mp hr
  obtain ⟨hmem', hkey'⟩ := Table.get?_eq_some_iff.mp hr'
  obtain ⟨c, hc, hsame⟩ := hinv.stored r hmem
  have hc' : c ∈ s'.committed := move_committed h c hc
  have hid : c.id = r'.id := by
    rw [hkey', ← hkey]
    exact hsame.id_eq.symm
  exact hsame.symm.trans (hinv'.same_of_id hc' (hinv'.stored r' hmem') hid)

/-- a step changes the row that is being enqueued, or the one its dequeuer works on -/
theorem move_others {s' : OutboxWorld} {e : OutboxEvent} (h : Move s e s') {id : Int}
    (hne : s'.outbox.get? id ≠ s.outbox.get? id) :
    (∃ new now, e = .enqueue new id now) ∨
    ∃ d row, e.actor = some d ∧ (s.dequeuers d).current = some row ∧ row.id = id := by
  cases h with
  | @committed new i now hfresh =>
    have hi : i = id := by
      by_contra hc
      exact hne (Table.get?_upsert_of_ne s.outbox hc)
    rw [hi]
    exact .inl ⟨new, now, rfl⟩
  | moved hheld hdel => exact absurd rfl hne
  | published h => exact absurd rfl hne
  | @deleted d now row rest outcome p hd hheld hdel =>
    refine .inr ⟨d, row, rfl, by rw [hd]; rfl, ?_⟩
    by_contra hc
    apply hne
    show (s.outbox.delete row.id).get? id = s.outbox.get? id
    rw [Table.get?_delete, if_neg (Ne.symm hc)]
  | @recorded d now next row rest outcome p outbox hd ht hheld hdel =>
    refine .inr ⟨d, row, rfl, by rw [hd]; rfl, ?_⟩
    by_contra hc
    apply hne
    show outbox.get? id = s.outbox.get? id
    rw [recordOutboxPublishFailure_some ht id, if_neg (Ne.symm hc)]

end

/-! ## Runs -/

section
variable {config : Nat → OutboxDequeuerConfig}

theorem run_outboxInv {es : List OutboxEvent} {s : OutboxWorld}
    (h : run (dequeue config) .init es = some s) : OutboxInv s :=
  run_inv OutboxInv (fun _ _ _ hinv hstep => move_inv hinv (dequeue_move hstep)) .init h

theorem run_committed {es : List OutboxEvent} {s s' : OutboxWorld}
    (h : run (dequeue config) s es = some s') : ∀ c ∈ s.committed, c ∈ s'.committed :=
  run_rel (fun _ => True) (fun s s' => ∀ c ∈ s.committed, c ∈ s'.committed)
    (fun _ _ _ _ _ => trivial) (fun _ _ hc => hc) (fun _ _ _ h1 h2 c hc => h2 c (h1 c hc))
    (fun _ _ _ _ hstep => move_committed (dequeue_move hstep)) trivial h

end

/-- **At-least-once delivery.**  After any run of any number of dequeuers, with any failures and
crashes: every row committed so far is still in the outbox or has been published; a stored row is a
committed one with as many attempts as failures were recorded for it; and from there a step removes a
row only as the `DELETE` of a dequeuer that has published that row's message, never changes a row's
identity, type, payload or metadata, and touches no other row than the one it is about. -/
theorem outbox_at_least_once (config : Nat → OutboxDequeuerConfig) (es : List OutboxEvent)
    (s : OutboxWorld) (hrun : run (dequeue config) .init es = some s) :
    (∀ earlier later s0, es = earlier ++ later → run (dequeue config) .init earlier = some s0 →
      ∀ c ∈ s0.committed, (∃ r, s.outbox.get? c.id = some r ∧ SameMessage c r) ∨
        ∃ d, (d, c.topic, outboundMessage c) ∈ s.published) ∧
    (∀ id r, s.outbox.get? id = some r →
      (∃ c ∈ s.committed, SameMessage c r) ∧ r.attemptCount = s.failures.count id) ∧
    (∀ e s', dequeue config s e = some s' →
      (∀ id r, s.outbox.get? id = some r → s'.outbox.get? id = none →
        ∃ d outcome, e = .delete d outcome ∧ (d, r.topic, outboundMessage r) ∈ s.published) ∧
      (∀ id r r', s.outbox.get? id = some r → s'.outbox.get? id = some r' → SameMessage r r') ∧
      (∀ id, s'.outbox.get? id ≠ s.outbox.get? id →
        (∃ new now, e = .enqueue new id now) ∨
        ∃ d row, e.actor = some d ∧ (s.dequeuers d).current = some row ∧ row.id = id)) := by
  have hinv : OutboxInv s := run_outboxInv hrun
  refine ⟨?_, ?_, ?_⟩
  · intro earlier later s0 hsplit hs0 c hc
    rw [hsplit] at hrun
    obtain ⟨s1, hs1, hlater⟩ := run_append_some hrun
    have heq : s1 = s0 := Option.some.inj (hs1.symm.trans hs0)
    rw [heq] at hlater
    rcases hinv.kept c (run_committed hlater c hc) with ⟨r, hr, hsame⟩ | hpub
    · exact .inl ⟨r, Table.get?_eq_some_iff.mpr ⟨hr, hsame.id_eq⟩, hsame⟩
    · exact .inr hpub
  · intro id r hr
    obtain ⟨hmem, hkey⟩ := Table.get?_eq_some_iff.mp hr
    rw [← hkey]
    exact ⟨hinv.stored r hmem, hinv.attempts r hmem⟩
  · intro e s' hstep
    have hmove := dequeue_move hstep
    exact ⟨fun id r hr hr' => move_deletes hinv hmove hr hr',
      fun id r r' hr hr' => move_same hinv hmove hr hr', fun id hne => move_others hmove hne⟩

/-- the defaults of a dequeuer -/
def OutboxDequeuerConfig.default : OutboxDequeuerConfig := ⟨100, 10, seconds 1, minutes 5⟩

/-- two dequeuers list the same row; one publishes it and crashes, the other publishes it again and
deletes it -/
def publishedTwice : List OutboxEvent :=
  [.enqueue ⟨"message-bus", .newSendWorkspaceInvitation 7 1 none none 8⟩ 1 0, .listDue 0 0,
    .listDue 1 0, .publish 0 true, .crash 0, .publish 1 true, .delete 1 .done]

/-- the row is gone, and was published twice -/
theorem outbox_at_least_once_twice :
    (run (dequeue fun _ => .default) .init publishedTwice).map
        (fun s => (s.outbox.rows.length, s.committed.length, s.published.length))
      = some (0, 1, 2) ∧
    ∀ s, run (dequeue fun _ => .default) .init publishedTwice = some s →
      ∀ c ∈ s.committed, (∃ r, s.outbox.get? c.id = some r ∧ SameMessage c r) ∨
        ∃ d, (d, c.topic, outboundMessage c) ∈ s.published :=
  ⟨rfl, fun s hs => (outbox_at_least_once _ publishedTwice s hs).1 publishedTwice [] s
    (List.append_nil _).symm hs⟩

end Proofplane
