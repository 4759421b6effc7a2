import Mathlib.Data.List.Basic

/-!
# Methods that change their receiver

A method may assign to its receiver and then fail: nothing rolls the assignments back.  So it is a
computation that carries the state through an error, and what it leaves behind is part of its result.

* `Mutation ε σ`       methods on a state of type `σ`;
* `Mutation.exec`      the answer, and the state afterwards, on success or failure; one lemma for each
                       operation of the monad;
* `Mutation.settle`    the result of a method that computes the new state before it assigns any of it.
-/

namespace Base

/-- a method on a state of type `σ` that may fail -/
abbrev Mutation (ε σ : Type) := ExceptT ε (StateM σ)

namespace Mutation
variable {ε σ α β : Type}

/-- the answer of a method, and the state afterwards -/
def exec (m : Mutation ε σ α) (s : σ) : Except ε α × σ := StateT.run (ExceptT.run m) s

/-- `if c { return Err(e) }` -/
def refuse (c : Prop) [Decidable c] (e : ε) : Mutation ε σ Unit := if c then throw e else pure ()

/-- the answer and the new state, or the error and the old one -/
def settle (s : σ) : Except ε (α × σ) → Except ε α × σ
  | .ok (a, s') => (.ok a, s')
  | .error e => (.error e, s)

@[simp] theorem exec_pure (a : α) (s : σ) : exec (pure a : Mutation ε σ α) s = (.ok a, s) := rfl

@[simp] theorem exec_throw (e : ε) (s : σ) :
    exec (throw e : Mutation ε σ α) s = (.error e, s) := rfl

@[simp] theorem exec_get (s : σ) : exec (get : Mutation ε σ σ) s = (.ok s, s) := rfl

@[simp] theorem exec_modify (f : σ → σ) (s : σ) :
    exec (modify f : Mutation ε σ PUnit) s = (.ok ⟨⟩, f s) := rfl

theorem exec_bind (m : Mutation ε σ α) (f : α → Mutation ε σ β) (s : σ) :
    exec (m >>= f) s
      = match exec m s with
        | (.ok a, s') => exec (f a) s'
        | (.error e, s') => (.error e, s') := by
  show StateT.run (ExceptT.run (m >>= f)) s = _
  rw [ExceptT.run_bind, StateT.run_bind]
  unfold exec
  cases StateT.run (ExceptT.run m) s with
  | mk r s' =>
    cases r with
    | ok a => rfl
    | error e => rfl

theorem exec_refuse (c : Prop) [Decidable c] (e : ε) (s : σ) :
    exec (refuse c e : Mutation ε σ Unit) s = if c then (.error e, s) else (.ok (), s) := by
  unfold refuse
  split
  · rfl
  · rfl

/-- past a check that does not refuse -/
theorem exec_refuse_bind {c : Prop} [Decidable c] (e : ε) (f : Unit → Mutation ε σ β) (s : σ) :
    exec (refuse c e >>= f) s = if c then (.error e, s) else exec (f ()) s := by
  rw [exec_bind, exec_refuse]
  by_cases h : c
  · rw [if_pos h, if_pos h]
  · rw [if_neg h, if_neg h]

theorem exec_get_bind (f : σ → Mutation ε σ β) (s : σ) :
    exec ((get : Mutation ε σ σ) >>= f) s = exec (f s) s := by
  rw [exec_bind, exec_get]

/-- a settled method whose answer is wrapped -/
theorem exec_map_settle {m : Mutation ε σ α} {s : σ} {r : Except ε (α × σ)} (f : α → β)
    (h : m.exec s = settle s r) :
    exec (m >>= fun a => pure (f a)) s = settle s (r.map fun p => (f p.1, p.2)) := by
  rw [exec_bind, h]
  cases r with
  | ok p => rfl
  | error e => rfl

end Mutation

end Base
