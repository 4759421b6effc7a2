import Mathlib.Data.Int.Order.Basic

/-!
# Machine integers

Signed integers of 32 and 64 bits are modelled by `Int`; where the range matters the operation says
what happens at its end.  Unsigned ones of 32 bits are Lean's own, with their bytes.
-/

namespace Base

def i64Max : Int := 9223372036854775807
def i64Min : Int := -9223372036854775808
def u64Max : Nat := 18446744073709551615
def i32Max : Int := 2147483647
def i32Min : Int := -2147483648

/-- the successor of a 64-bit integer, if it has one -/
def checkedSucc (n : Int) : Option Int := if n + 1 ≤ i64Max then some (n + 1) else none

/-- a signed integer of 64 bits as an unsigned one -/
def asU64 (n : Int) : Nat := (n % 18446744073709551616).toNat

theorem asU64_of_nonneg {n : Int} (h0 : 0 ≤ n) (h : n ≤ i64Max) : (asU64 n : Int) = n := by
  unfold asU64 i64Max at *
  omega

/-- the successor of a 32-bit integer, as it wraps -/
def i32Succ (n : Int) : Int := if n = i32Max then i32Min else n + 1

/-! ## Bytes -/

/-- the four bytes, the highest first -/
def toBeBytes (n : UInt32) : List UInt8 :=
  [(n >>> 24).toUInt8, (n >>> 16).toUInt8, (n >>> 8).toUInt8, n.toUInt8]

def ofBeBytes (a b c d : UInt8) : Nat := ((a.toNat * 256 + b.toNat) * 256 + c.toNat) * 256 + d.toNat

theorem ofBeBytes_toBeBytes (n : UInt32) :
    ofBeBytes (n >>> 24).toUInt8 (n >>> 16).toUInt8 (n >>> 8).toUInt8 n.toUInt8 = n.toNat := by
  have hlt := n.toNat_lt
  have hbyte : ∀ k : UInt32, (n >>> k).toUInt8.toNat = n.toNat / 2 ^ (k.toNat % 32) % 256 := by
    intro k
    rw [UInt32.toNat_toUInt8, UInt32.toNat_shiftRight, Nat.shiftRight_eq_div_pow]
  have h24 : (24 : UInt32).toNat % 32 = 24 := rfl
  have h16 : (16 : UInt32).toNat % 32 = 16 := rfl
  have h8 : (8 : UInt32).toNat % 32 = 8 := rfl
  unfold ofBeBytes
  rw [hbyte, hbyte, hbyte, h24, h16, h8, UInt32.toNat_toUInt8]
  omega

end Base
