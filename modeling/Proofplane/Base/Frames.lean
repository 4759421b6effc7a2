import Proofplane.Base.Machine
import Mathlib.Algebra.Group.Nat.Defs
import Mathlib.Data.List.Basic

/-!
# Frames behind their lengths

A stream of bytes in frames: each is its length, in four bytes with the highest first, and then its bytes.
A frame of length zero ends the stream.

* `sliceChunks`       the slices of one length, the last as long as what is left;
* `frame`, `endFrame`   what is written;
* `readFrames`        the frames up to the end, and what is behind it;
* `readFrames_frames`   **frames that are not empty are read as they were written**.
-/

namespace Base

/-! ## Slices -/

section
variable {α : Type}

/-- at most `fuel` slices -/
def slices (size : Nat) : Nat → List α → List (List α)
  | 0, _ => []
  | _, [] => []
  | fuel + 1, l => l.take size :: slices size fuel (l.drop size)

def sliceChunks (size : Nat) (l : List α) : List (List α) := slices size l.length l

theorem slices_cons (size fuel : Nat) (a : α) (l : List α) :
    slices size (fuel + 1) (a :: l) = (a :: l).take size :: slices size fuel ((a :: l).drop size) := rfl

theorem flatten_slices {size fuel : Nat} (hsize : 0 < size) {l : List α} (h : l.length ≤ fuel) :
    (slices size fuel l).flatten = l := by
  induction fuel generalizing l with
  | zero =>
    obtain rfl := List.length_eq_zero_iff.mp (Nat.le_zero.mp h)
    rfl
  | succ fuel ih =>
    cases l with
    | nil => rfl
    | cons a l =>
      have hrest : ((a :: l).drop size).length ≤ fuel := by
        rw [List.length_drop]
        omega
      rw [slices_cons, List.flatten_cons, ih hrest, List.take_append_drop]

theorem mem_slices {size fuel : Nat} (hsize : 0 < size) {l slice : List α} (h : slice ∈ slices size fuel l) :
    slice ≠ [] ∧ slice.length ≤ size := by
  induction fuel generalizing l with
  | zero => cases h
  | succ fuel ih =>
    cases l with
    | nil => cases h
    | cons a l =>
      rw [slices_cons] at h
      rcases List.mem_cons.mp h with rfl | h
      · refine ⟨?_, List.length_take_le _ _⟩
        obtain ⟨n, rfl⟩ := Nat.exists_eq_succ_of_ne_zero (Nat.ne_of_gt hsize)
        exact List.cons_ne_nil _ _
      · exact ih h

/-- the slices are the list, and none of them is empty -/
theorem sliceChunks_spec {size : Nat} (hsize : 0 < size) (l : List α) :
    (sliceChunks size l).flatten = l ∧ ∀ slice ∈ sliceChunks size l, slice ≠ [] ∧ slice.length ≤ size :=
  ⟨flatten_slices hsize (Nat.le_refl _), fun _ h => mem_slices hsize h⟩

end

/-! ## Frames -/

def frame (bytes : List UInt8) : List UInt8 := toBeBytes (UInt32.ofNat bytes.length) ++ bytes

def endFrame : List UInt8 := toBeBytes 0

/-- the frames before the one of length zero, at most `fuel` of them, and the bytes behind it -/
def readFrames : Nat → List UInt8 → Option (List (List UInt8) × List UInt8)
  | fuel + 1, a :: b :: c :: d :: rest =>
    let length := ofBeBytes a b c d
    if length = 0 then some ([], rest)
    else if rest.length < length then none
    else (readFrames fuel (rest.drop length)).map fun read => (rest.take length :: read.1, read.2)
  | _, _ => none

theorem readFrames_cons (fuel : Nat) (a b c d : UInt8) (rest : List UInt8) :
    readFrames (fuel + 1) (a :: b :: c :: d :: rest)
      = if ofBeBytes a b c d = 0 then some ([], rest)
        else if rest.length < ofBeBytes a b c d then none
        else (readFrames fuel (rest.drop (ofBeBytes a b c d))).map
          fun read => (rest.take (ofBeBytes a b c d) :: read.1, read.2) := rfl

theorem readFrames_end (fuel : Nat) (rest : List UInt8) :
    readFrames (fuel + 1) (endFrame ++ rest) = some ([], rest) := by
  have hzero : ofBeBytes 0 0 0 0 = 0 := rfl
  have hend : endFrame = [0, 0, 0, 0] := by decide
  rw [hend]
  show readFrames (fuel + 1) (0 :: 0 :: 0 :: 0 :: rest) = _
  rw [readFrames_cons, if_pos hzero]

theorem readFrames_frame {bytes rest : List UInt8} {fuel : Nat} (hne : bytes ≠ [])
    (hlength : bytes.length < 2 ^ 32) :
    readFrames (fuel + 1) (frame bytes ++ rest)
      = (readFrames fuel rest).map fun read => (bytes :: read.1, read.2) := by
  have hnat : (UInt32.ofNat bytes.length).toNat = bytes.length := UInt32.toNat_ofNat_of_lt' hlength
  have hpos : ¬ bytes.length = 0 := fun h => hne (List.length_eq_zero_iff.mp h)
  have henough : ¬ (bytes ++ rest).length < bytes.length := by
    rw [List.length_append]
    omega
  unfold frame toBeBytes
  rw [List.append_assoc]
  show readFrames (fuel + 1) (_ :: _ :: _ :: _ :: (bytes ++ rest)) = _
  rw [readFrames_cons, ofBeBytes_toBeBytes, hnat, if_neg hpos, if_neg henough, List.drop_left,
    List.take_left]

/-- **Frames that are not empty are read as they were written.** -/
theorem readFrames_frames {frames : List (List UInt8)} {fuel : Nat}
    (h : ∀ bytes ∈ frames, bytes ≠ [] ∧ bytes.length < 2 ^ 32) (hfuel : frames.length < fuel)
    (rest : List UInt8) :
    readFrames fuel (frames.flatMap frame ++ (endFrame ++ rest)) = some (frames, rest) := by
  induction frames generalizing fuel with
  | nil =>
    obtain ⟨n, rfl⟩ := Nat.exists_eq_succ_of_ne_zero (Nat.ne_of_gt hfuel)
    exact readFrames_end n rest
  | cons bytes frames ih =>
    obtain ⟨n, rfl⟩ := Nat.exists_eq_succ_of_ne_zero (Nat.ne_of_gt (Nat.zero_lt_of_lt hfuel))
    obtain ⟨hne, hlength⟩ := h bytes List.mem_cons_self
    have hrest := ih (fun b hb => h b (List.mem_cons_of_mem _ hb)) (Nat.lt_of_succ_lt_succ hfuel)
    rw [List.flatMap_cons, List.append_assoc, readFrames_frame hne hlength, hrest]
    rfl

end Base
