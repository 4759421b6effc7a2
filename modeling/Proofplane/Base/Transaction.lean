import Mathlib.Data.List.Basic

/-!
# Transactions

A unit of work runs on the whole state and commits, or leaves nothing behind.  Its caller may be told
less than the truth: a commit whose acknowledgement is lost is reported as an error.

* `CommitFault`   what may go wrong with a commit;
* `settle`        what the caller is told, and the state afterwards;
* `landed`        the answer of a unit of work that has committed, whatever its caller was told;
* `settle_cases`  the answer decides the state, but for a lost acknowledgement.
-/

namespace Base

/-- what may go wrong with a commit -/
inductive CommitFault
  | none | beforeCommit | lostAcknowledgement
  deriving DecidableEq, Repr

/-- what the caller of a unit of work is told, and the state afterwards -/
def settle {σ ε α : Type*} (lost : ε) (fault : CommitFault) (s : σ) (r : Except ε (α × σ)) :
    Except ε α × σ :=
  match fault, r with
  | .beforeCommit, _ => (.error lost, s)
  | _, .error e => (.error e, s)
  | .none, .ok (a, s') => (.ok a, s')
  | .lostAcknowledgement, .ok (_, s') => (.error lost, s')

/-- the answer of a unit of work that has committed -/
def landed {σ ε α : Type*} (fault : CommitFault) (r : Except ε (α × σ)) : Option α :=
  match fault, r with
  | .beforeCommit, _ => none
  | _, .error _ => none
  | _, .ok (a, _) => some a

variable {σ ε α : Type*} {lost : ε} {s : σ} {r : Except ε (α × σ)}

/-- how a unit of work ends: nothing has happened, or it has committed and the answer is its own or is
lost -/
inductive Settled (lost : ε) (fault : CommitFault) (s : σ) (r : Except ε (α × σ)) : Prop
  | nothing (e : ε) (hstate : (settle lost fault s r).2 = s)
      (hanswer : (settle lost fault s r).1 = .error e) (hlanded : landed fault r = none) :
      Settled lost fault s r
  | committed (a : α) (s' : σ) (hr : r = .ok (a, s')) (hstate : (settle lost fault s r).2 = s')
      (hanswer : (settle lost fault s r).1 = .ok a ∨ (settle lost fault s r).1 = .error lost)
      (hlanded : landed fault r = some a) : Settled lost fault s r

theorem settle_cases (lost : ε) (fault : CommitFault) (s : σ) (r : Except ε (α × σ)) :
    Settled lost fault s r := by
  cases r with
  | error e =>
    cases fault with
    | none => exact .nothing e rfl rfl rfl
    | beforeCommit => exact .nothing lost rfl rfl rfl
    | lostAcknowledgement => exact .nothing e rfl rfl rfl
  | ok p =>
    obtain ⟨a, s'⟩ := p
    cases fault with
    | none => exact .committed a s' rfl rfl (.inl rfl) rfl
    | beforeCommit => exact .nothing lost rfl rfl rfl
    | lostAcknowledgement => exact .committed a s' rfl rfl (.inr rfl) rfl

/-- an answer that is not an error is that of a committed unit of work -/
theorem settle_ok {fault : CommitFault} {a : α} (h : (settle lost fault s r).1 = .ok a) :
    r = .ok (a, (settle lost fault s r).2) ∧ landed fault r = some a := by
  cases settle_cases lost fault s r with
  | nothing e hstate hanswer hlanded =>
    rw [hanswer] at h
    cases h
  | committed b s' hr hstate hanswer hlanded =>
    rcases hanswer with hb | hb
    · rw [hb] at h
      cases h
      rw [hstate]
      exact ⟨hr, hlanded⟩
    · rw [hb] at h
      cases h

end Base
