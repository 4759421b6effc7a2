import Proofplane.Base.Table

/-!
# Row locks

Transactions that run at the same time are serialized by the rows that they have locked, and by nothing
else.  `locks` says which rows a transaction holds at the point where it is: it locks a row when it comes
to such a point, and gives all of them back when it ends.

* `Transaction`        a transaction under way;
* `Free`               a row that no other transaction holds;
* `Exclusive`          no row is held twice; `Exclusive.moves`, `Exclusive.ends`   **nor after a
                       transaction has gone on to free rows, or has ended**;
* `Holds`              what every transaction knows of the state; `Holds.moves`, `Holds.ends`,
                       `Holds.changes`   how that survives a step.
-/

set_option linter.unusedSectionVars false

namespace Base

/-- a transaction under way, and the point where it is -/
structure Transaction (τ : Type*) where
  id : Nat
  point : τ
  deriving DecidableEq, Repr

abbrev Transactions (τ : Type*) := Table (Transaction.id (τ := τ))

namespace Transactions
variable {τ ρ σ : Type*} [DecidableEq ρ] {locks : τ → List ρ} {txs : Transactions τ}

/-- no other transaction holds the row -/
def Free (locks : τ → List ρ) (txs : Transactions τ) (tx : Nat) (row : ρ) : Prop :=
  ∀ t ∈ txs.rows, t.id ≠ tx → row ∉ locks t.point

instance (locks : τ → List ρ) (txs : Transactions τ) (tx : Nat) (row : ρ) :
    Decidable (Free locks txs tx row) :=
  inferInstanceAs (Decidable (∀ t ∈ txs.rows, t.id ≠ tx → row ∉ locks t.point))

/-- the point where a transaction is -/
def point (txs : Transactions τ) (tx : Nat) : Option τ := (txs.get? tx).map Transaction.point

/-- a transaction begins, or goes on -/
def moves (txs : Transactions τ) (tx : Nat) (point : τ) : Transactions τ := txs.upsert ⟨tx, point⟩

/-- a transaction has committed, or was rolled back -/
def ends (txs : Transactions τ) (tx : Nat) : Transactions τ := txs.delete tx

theorem mem_of_point {tx : Nat} {p : τ} (h : txs.point tx = some p) :
    ∃ t ∈ txs.rows, t.id = tx ∧ t.point = p := by
  obtain ⟨t, ht, rfl⟩ := Option.map_eq_some_iff.mp h
  exact ⟨t, Table.get?_mem ht, Table.get?_key ht, rfl⟩

/-! ## No row is held twice -/

def Exclusive (locks : τ → List ρ) (txs : Transactions τ) : Prop :=
  ∀ t ∈ txs.rows, ∀ row ∈ locks t.point, Free locks txs t.id row

/-- a row that a transaction holds is free for it -/
theorem Exclusive.free (h : Exclusive locks txs) {tx : Nat} {p : τ} (hp : txs.point tx = some p)
    {row : ρ} (hrow : row ∈ locks p) : Free locks txs tx row := by
  obtain ⟨t, ht, rfl, rfl⟩ := mem_of_point hp
  exact h t ht row hrow

theorem Exclusive.moves (h : Exclusive locks txs) {tx : Nat} {p : τ}
    (hfree : ∀ row ∈ locks p, Free locks txs tx row) : Exclusive locks (txs.moves tx p) := by
  intro t ht row hrow u hu hne
  rcases Table.mem_upsert.mp ht with rfl | ⟨ht', htne⟩
  · rcases Table.mem_upsert.mp hu with rfl | ⟨hu', hune⟩
    · exact absurd rfl hne
    · exact hfree row hrow u hu' hune
  · rcases Table.mem_upsert.mp hu with rfl | ⟨hu', hune⟩
    · exact fun hlocks => hfree row hlocks t ht' htne hrow
    · exact h t ht' row hrow u hu' hne

theorem Exclusive.ends (h : Exclusive locks txs) (tx : Nat) : Exclusive locks (txs.ends tx) := by
  intro t ht row hrow u hu hne
  exact h t (Table.mem_delete.mp ht).1 row hrow u (Table.mem_delete.mp hu).1 hne

/-! ## What a transaction knows -/

/-- every transaction is right about the state -/
def Holds (Knows : τ → σ → Prop) (txs : Transactions τ) (s : σ) : Prop :=
  ∀ t ∈ txs.rows, Knows t.point s

variable {Knows : τ → σ → Prop} {s s' : σ}

theorem Holds.of_point (h : Holds Knows txs s) {tx : Nat} {p : τ} (hp : txs.point tx = some p) :
    Knows p s := by
  obtain ⟨t, ht, -, rfl⟩ := mem_of_point hp
  exact h t ht

theorem Holds.moves (h : Holds Knows txs s) {tx : Nat} {p : τ} (hp : Knows p s) :
    Holds Knows (txs.moves tx p) s := by
  intro t ht
  rcases Table.mem_upsert.mp ht with rfl | ⟨ht', -⟩
  · exact hp
  · exact h t ht'

theorem Holds.ends (h : Holds Knows txs s) (tx : Nat) : Holds Knows (txs.ends tx) s :=
  fun t ht => h t (Table.mem_delete.mp ht).1

/-- a transaction that ends has changed the state: what the others know is still so -/
theorem Holds.changes (h : Holds Knows txs s) {tx : Nat}
    (hframe : ∀ t ∈ txs.rows, t.id ≠ tx → Knows t.point s → Knows t.point s') :
    Holds Knows (txs.ends tx) s' := by
  intro t ht
  obtain ⟨ht', hne⟩ := Table.mem_delete.mp ht
  exact hframe t ht' hne (h t ht')

end Transactions

end Base
