import Proofplane.Domain.Ids
import Proofplane.Base.Repeats

/-!
# Batches of one request

A request names at most fifty things, each by an id and none twice.  The items keep the order in which they
were sent; the ids that come again are told in the order in which they come again.

* `duplicateIds`    the one pass over the items, with the ids seen so far and the duplicates so far;
* `validateBatch`   the checks of a batch, in their order;
* `duplicateIds_repeats`   **the pass tells the ids that come again, as `Repeats` says**;
* `batch_validation`       **what a batch is accepted for, and what it is refused with**.
-/

namespace Proofplane
open Base

/-- `MAX_BATCH_ITEMS` -/
def maxBatchItems : Nat := 50

/-- `BatchError` -/
inductive BatchError
  | empty (field : String)
  | tooLarge (field : String) (maximum received : Nat)
  | duplicates (field : String) (ids : List Uuid)
  deriving DecidableEq, Repr

def BatchError.message : BatchError → String
  | .empty field => s!"{field} must not be empty"
  | .tooLarge field maximum received =>
    s!"{field} must contain at most {maximum} items, received {received}"
  | .duplicates field _ => s!"{field} contains duplicate ids"

/-! ## The pass -/

/-- what `duplicate_ids` has in hand: the ids seen and the duplicates told -/
structure DuplicateScan where
  seen : Finset Uuid
  duplicates : List Uuid

def DuplicateScan.start : DuplicateScan := ⟨∅, []⟩

/-- `if !seen.insert(id) && !duplicates.contains(&id) { duplicates.push(id) }` -/
def DuplicateScan.next (st : DuplicateScan) (id : Uuid) : DuplicateScan :=
  let (fresh, seen) := hashInsert st.seen id
  if !fresh && !st.duplicates.contains id then ⟨seen, st.duplicates ++ [id]⟩ else ⟨seen, st.duplicates⟩

section
variable {α : Type*} (key : α → Uuid)

/-- `duplicate_ids` -/
def duplicateIds (items : List α) : List Uuid :=
  ((items.map key).foldl DuplicateScan.next .start).duplicates

/-- `validate_batch` -/
def validateBatch (field : String) (items : List α) : Except BatchError (List α) :=
  if items.isEmpty then
    .error (.empty field)
  else if maxBatchItems < items.length then
    .error (.tooLarge field maxBatchItems items.length)
  else
    let duplicates := duplicateIds key items
    if !duplicates.isEmpty then .error (.duplicates field duplicates) else .ok items

end

/-! ## What the pass has in hand -/

/-- the two sets after the ids `ids` -/
structure Scanned (ids : List Uuid) (st : DuplicateScan) : Prop where
  seen : st.seen = ids.toFinset
  duplicates : Repeats ids st.duplicates

theorem scanned_start : Scanned [] .start := ⟨rfl, repeats_nil⟩

/-- one more id: it is told exactly if it has been seen once -/
theorem Scanned.next {ids : List Uuid} {st : DuplicateScan} (h : Scanned ids st) (id : Uuid) :
    Scanned (ids ++ [id]) (st.next id) := by
  have hseen : insert id st.seen = (ids ++ [id]).toFinset := by rw [toFinset_concat, h.seen]
  have hfresh : (hashInsert st.seen id).1 = true ↔ ids.count id = 0 := by
    rw [hashInsert_fst, h.seen, List.mem_toFinset, List.count_eq_zero]
  have htold : st.duplicates.contains id = true ↔ 2 ≤ ids.count id := by
    rw [List.contains_iff_mem, h.duplicates.mem]
  unfold DuplicateScan.next
  dsimp only
  split
  case isTrue hif =>
    rw [Bool.and_eq_true, Bool.not_eq_true', Bool.not_eq_true', ← Bool.not_eq_true, ← Bool.not_eq_true,
      hfresh, htold] at hif
    exact ⟨hseen, h.duplicates.again (by omega)⟩
  case isFalse hif =>
    rw [Bool.and_eq_true, Bool.not_eq_true', Bool.not_eq_true', ← Bool.not_eq_true, ← Bool.not_eq_true,
      hfresh, htold] at hif
    exact ⟨hseen, h.duplicates.snoc (by omega)⟩

theorem scanned_foldl (ids : List Uuid) : Scanned ids (ids.foldl DuplicateScan.next .start) := by
  induction ids using List.reverseRecOn with
  | nil => exact scanned_start
  | append_singleton ids id ih =>
    rw [List.foldl_append]
    exact ih.next id

section
variable {α : Type*} (key : α → Uuid) (field : String) (items : List α)

/-- the pass tells each id that comes again, once, where it comes for the second time -/
theorem duplicateIds_repeats : Repeats (items.map key) (duplicateIds key items) :=
  (scanned_foldl (items.map key)).duplicates

theorem duplicateIds_eq_nil_iff : duplicateIds key items = [] ↔ (items.map key).Nodup :=
  (duplicateIds_repeats key items).eq_nil_iff

/-! ## The checks -/

/-- the checks, told of the length and the keys -/
theorem validateBatch_eq :
    validateBatch key field items =
      if items.length = 0 then .error (.empty field)
      else if maxBatchItems < items.length then .error (.tooLarge field maxBatchItems items.length)
      else if (items.map key).Nodup then .ok items
      else .error (.duplicates field (duplicateIds key items)) := by
  have hempty : items.isEmpty = true ↔ items.length = 0 := by rw [List.isEmpty_iff, List.length_eq_zero_iff]
  have hdup : (!(duplicateIds key items).isEmpty) = true ↔ ¬ (items.map key).Nodup := by
    rw [Bool.not_eq_true', ← Bool.not_eq_true, List.isEmpty_iff, duplicateIds_eq_nil_iff]
  unfold validateBatch
  simp only [hempty, hdup, ite_not]

theorem validateBatch_ok_iff (items' : List α) :
    validateBatch key field items = .ok items' ↔
      items' = items ∧ (1 ≤ items.length ∧ items.length ≤ maxBatchItems) ∧ (items.map key).Nodup := by
  rw [validateBatch_eq]
  split_ifs with hempty hlarge hdup
  · exact iff_of_false (fun h => nomatch h) fun h => absurd h.2.1.1 (by omega)
  · exact iff_of_false (fun h => nomatch h) fun h => absurd h.2.1.2 (by omega)
  · refine ⟨?_, ?_⟩
    · rintro ⟨⟩
      exact ⟨rfl, ⟨by omega, by omega⟩, hdup⟩
    · rintro ⟨rfl, -, -⟩
      rfl
  · exact iff_of_false (fun h => nomatch h) fun h => hdup h.2.2

/-- a batch that names ids twice is refused with exactly those -/
theorem validateBatch_duplicates (hone : 1 ≤ items.length) (hmax : items.length ≤ maxBatchItems)
    (hdup : ¬ (items.map key).Nodup) :
    ∃ ids, validateBatch key field items = .error (.duplicates field ids) ∧ ids ≠ [] ∧
      Repeats (items.map key) ids := by
  refine ⟨duplicateIds key items, ?_, ?_, duplicateIds_repeats key items⟩
  · rw [validateBatch_eq, if_neg (by omega), if_neg (by omega), if_neg hdup]
  · rwa [Ne, duplicateIds_eq_nil_iff]

/-- a batch is accepted as it is, if it has one item at least, fifty at most and no id twice; the ids it
is refused with are those that come again, each once, in the order in which they come again -/
theorem batch_validation :
    (∀ items', validateBatch key field items = .ok items' ↔
      items' = items ∧ (1 ≤ items.length ∧ items.length ≤ maxBatchItems) ∧ (items.map key).Nodup) ∧
    (∀ ids, duplicateIds key items = ids ↔ Repeats (items.map key) ids) := by
  refine ⟨validateBatch_ok_iff key field items, fun ids => ⟨?_, ?_⟩⟩
  · rintro rfl
    exact duplicateIds_repeats key items
  · exact (duplicateIds_repeats key items).unique

end

example : duplicateIds id [7, 1, 4, 1, 7, 1] = [1, 7] := by decide

end Proofplane
