import Proofplane.Base.Json
import Mathlib.Data.String.Basic

/-!
# The fields of a JSON object, as a map

The library keeps the fields of an object in the order of their keys, no key twice.

* `Json.insert`, `Json.remove`   setting and dropping a key;
* `lookup_insert`                what is found afterwards;
* `removeAll_insertAll`          **dropping keys that were added to an object gives it back**.
-/

namespace Base
namespace Json

def containsKey (fields : List (String × Json)) (key : String) : Bool := (lookup fields key).isSome

/-- the fields with one more, or with another value where the key is there -/
def insert : List (String × Json) → String → Json → List (String × Json)
  | [], key, value => [(key, value)]
  | f :: fields, key, value =>
    if key < f.1 then (key, value) :: f :: fields
    else if key = f.1 then (key, value) :: fields
    else f :: insert fields key value

/-- the fields without those of a key -/
def remove (fields : List (String × Json)) (key : String) : List (String × Json) :=
  fields.filter fun f => decide (f.1 ≠ key)

/-- the fields with some more, one after the other -/
def insertAll (fields more : List (String × Json)) : List (String × Json) :=
  more.foldl (fun acc f => insert acc f.1 f.2) fields

/-- the fields without those of some keys, one after the other -/
def removeAll (fields : List (String × Json)) (keys : List String) : List (String × Json) :=
  keys.foldl remove fields

theorem insert_nil (key : String) (value : Json) : insert [] key value = [(key, value)] := rfl

/-- the keys stand in the order of their characters -/
theorem insert_cons (f : String × Json) (fields : List (String × Json)) (key : String) (value : Json) :
    insert (f :: fields) key value =
      if key.toList < f.1.toList then (key, value) :: f :: fields
      else if key = f.1 then (key, value) :: fields
      else f :: insert fields key value := by
  rw [insert]
  simp only [String.lt_iff_toList_lt]

theorem lookup_cons (f : String × Json) (fields : List (String × Json)) (key : String) :
    lookup (f :: fields) key = if f.1 = key then some f.2 else lookup fields key := by
  unfold lookup
  rw [List.find?_cons]
  by_cases h : f.1 = key
  · simp [h]
  · simp [h]

theorem lookup_insert (fields : List (String × Json)) (key : String) (value : Json) (k : String) :
    lookup (insert fields key value) k = if key = k then some value else lookup fields k := by
  induction fields with
  | nil => rw [insert, lookup_cons]
  | cons f fields ih =>
    rw [insert]
    by_cases hlt : key < f.1
    · rw [if_pos hlt, lookup_cons]
    · rw [if_neg hlt]
      by_cases heq : key = f.1
      · rw [if_pos heq, lookup_cons, lookup_cons, ← heq]
        by_cases hk : key = k
        · rw [if_pos hk, if_pos hk]
        · rw [if_neg hk, if_neg hk, if_neg hk]
      · rw [if_neg heq, lookup_cons, lookup_cons, ih]
        by_cases hk : key = k
        · have hne : f.1 ≠ k := by
            intro hf
            exact heq (hk.trans hf.symm)
          rw [if_neg hne, if_pos hk, if_pos hk]
        · rw [if_neg hk, if_neg hk]

/-- a field whose key is filtered out leaves no trace -/
theorem filter_insert (p : String → Bool) (fields : List (String × Json)) {key : String} {value : Json}
    (h : p key = false) :
    (insert fields key value).filter (fun f => p f.1) = fields.filter fun f => p f.1 := by
  induction fields with
  | nil => simp [insert, h]
  | cons f fields ih =>
    rw [insert]
    by_cases hlt : key < f.1
    · rw [if_pos hlt, List.filter_cons_of_neg (by simp [h])]
    · rw [if_neg hlt]
      by_cases heq : key = f.1
      · rw [if_pos heq, List.filter_cons_of_neg (by simp [h]),
          List.filter_cons_of_neg (by simp [← heq, h])]
      · rw [if_neg heq, List.filter_cons, List.filter_cons, ih]

theorem filter_insertAll (p : String → Bool) (more fields : List (String × Json))
    (h : ∀ f ∈ more, p f.1 = false) :
    (insertAll fields more).filter (fun f => p f.1) = fields.filter fun f => p f.1 := by
  unfold insertAll
  induction more generalizing fields with
  | nil => rfl
  | cons f more ih =>
    rw [List.foldl_cons, ih _ fun g hg => h g (List.mem_cons_of_mem f hg),
      filter_insert p fields (h f List.mem_cons_self)]

theorem removeAll_eq_filter (fields : List (String × Json)) (keys : List String) :
    removeAll fields keys = fields.filter fun f => decide (f.1 ∉ keys) := by
  unfold removeAll
  induction keys generalizing fields with
  | nil => simp
  | cons key keys ih =>
    rw [List.foldl_cons, ih, remove, List.filter_filter]
    congr 1
    funext f
    simp [Bool.and_comm]

theorem lookup_eq_none_iff {fields : List (String × Json)} {key : String} :
    lookup fields key = none ↔ ∀ f ∈ fields, f.1 ≠ key := by
  unfold lookup
  simp

/-- **Dropping the keys that were added gives the object back**, if it had none of them. -/
theorem removeAll_insertAll {fields more : List (String × Json)} {keys : List String}
    (hmore : ∀ f ∈ more, f.1 ∈ keys) (hnew : ∀ key ∈ keys, lookup fields key = none) :
    removeAll (insertAll fields more) keys = fields := by
  rw [removeAll_eq_filter, filter_insertAll (fun key => decide (key ∉ keys)) more fields]
  · rw [List.filter_eq_self]
    intro f hf
    rw [decide_eq_true_eq]
    intro hmem
    exact lookup_eq_none_iff.mp (hnew _ hmem) f hf rfl
  · intro f hf
    simp [hmore f hf]

end Json
end Base
