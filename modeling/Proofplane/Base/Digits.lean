import Mathlib.Data.List.Induction
import Mathlib.Tactic.Ring

/-!
# Numbers with a fixed number of digits

* `fixedDigits b k n`   the last `k` digits of `n` in base `b`, the highest first;
* `digitsValue`         the number of some digits, `digitsValue_fixedDigits` the way back;
* `fixedDigits_injective`   **numbers below `b ^ k` are told apart by `k` digits**;
* `fillDigits`          the loop that writes them into a buffer, from its end.
-/

namespace Base

variable {b k n m : Nat}

def fixedDigits (b : Nat) : Nat → Nat → List Nat
  | 0, _ => []
  | k + 1, n => fixedDigits b k (n / b) ++ [n % b]

def digitsValue (b : Nat) (ds : List Nat) : Nat := ds.foldl (fun n d => n * b + d) 0

@[simp] theorem length_fixedDigits (b k n : Nat) : (fixedDigits b k n).length = k := by
  induction k generalizing n with
  | zero => rfl
  | succ k ih => rw [fixedDigits, List.length_append, ih, List.length_singleton]

theorem fixedDigits_lt (hb : 0 < b) : ∀ d ∈ fixedDigits b k n, d < b := by
  induction k generalizing n with
  | zero => exact fun d hd => absurd hd List.not_mem_nil
  | succ k ih =>
    intro d hd
    rcases List.mem_append.mp hd with hd | hd
    · exact ih d hd
    · rw [List.mem_singleton.mp hd]
      exact Nat.mod_lt n hb

theorem digitsValue_concat (b : Nat) (ds : List Nat) (d : Nat) :
    digitsValue b (ds ++ [d]) = digitsValue b ds * b + d := by
  unfold digitsValue
  rw [List.foldl_append]
  rfl

theorem digitsValue_fixedDigits (b k n : Nat) : digitsValue b (fixedDigits b k n) = n % b ^ k := by
  induction k generalizing n with
  | zero => rw [pow_zero, Nat.mod_one]; rfl
  | succ k ih =>
    rw [fixedDigits, digitsValue_concat, ih, pow_succ, mul_comm (b ^ k) b, Nat.mod_mul, mul_comm, add_comm]

/-- the digits of the number of some digits -/
theorem fixedDigits_digitsValue {ds : List Nat} (h : ∀ d ∈ ds, d < b) :
    fixedDigits b ds.length (digitsValue b ds) = ds := by
  induction ds using List.reverseRecOn with
  | nil => rfl
  | append_singleton ds d ih =>
    have hd : d < b := h d (List.mem_append_right ds (List.mem_singleton_self d))
    have hdiv : (digitsValue b ds * b + d) / b = digitsValue b ds := by
      rw [mul_comm, Nat.mul_add_div (by omega), Nat.div_eq_of_lt hd, add_zero]
    have hmod : (digitsValue b ds * b + d) % b = d := by
      rw [Nat.mul_add_mod', Nat.mod_eq_of_lt hd]
    rw [List.length_append, List.length_singleton, fixedDigits, digitsValue_concat, hdiv, hmod,
      ih fun x hx => h x (List.mem_append_left [d] hx)]

theorem fixedDigits_injective (hn : n < b ^ k) (hm : m < b ^ k)
    (h : fixedDigits b k n = fixedDigits b k m) : n = m := by
  have hvalue := congrArg (digitsValue b) h
  rwa [digitsValue_fixedDigits, digitsValue_fixedDigits, Nat.mod_eq_of_lt hn, Nat.mod_eq_of_lt hm] at hvalue

/-- digits that are written with different characters are told apart by them -/
theorem map_inj_of_lt {β : Type*} {f : Nat → β} (hf : ∀ i < b, ∀ j < b, f i = f j → i = j) :
    ∀ {ds es : List Nat}, (∀ d ∈ ds, d < b) → (∀ e ∈ es, e < b) → ds.map f = es.map f → ds = es
  | [], [], _, _, _ => rfl
  | d :: ds, e :: es, hds, hes, h => by
    rw [List.map_cons, List.map_cons, List.cons.injEq] at h
    have hhead := hf d (hds d List.mem_cons_self) e (hes e List.mem_cons_self) h.1
    rw [hhead, map_inj_of_lt hf (fun x hx => hds x (List.mem_cons_of_mem d hx))
      (fun x hx => hes x (List.mem_cons_of_mem e hx)) h.2]

/-! ## Writing them -/

/-- `for index in (0..k).rev() { buffer[index] = digit(remaining % b); remaining /= b }` -/
def fillDigits {β : Type*} (digit : Nat → β) (b : Nat) : Nat → Nat → List β → List β
  | 0, _, buffer => buffer
  | k + 1, remaining, buffer => fillDigits digit b k (remaining / b) (buffer.set k (digit (remaining % b)))

/-- what is behind the place where the loop starts stays -/
theorem fillDigits_eq {β : Type*} (digit : Nat → β) (b : Nat) {buffer : List β} (h : k ≤ buffer.length) :
    fillDigits digit b k n buffer = (fixedDigits b k n).map digit ++ buffer.drop k := by
  induction k generalizing n buffer with
  | zero => rfl
  | succ k ih =>
    have hset : (buffer.set k (digit (n % b))).drop k = digit (n % b) :: buffer.drop (k + 1) := by
      rw [List.drop_eq_getElem_cons (by rw [List.length_set]; exact h), List.getElem_set_self,
        List.drop_set_of_lt (Nat.lt_succ_self k)]
    rw [fillDigits, ih (by rw [List.length_set]; omega), hset, fixedDigits, List.map_append,
      List.append_assoc]
    rfl

end Base
