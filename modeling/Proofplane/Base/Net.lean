import Mathlib.Algebra.Order.Ring.Nat
import Mathlib.Data.Nat.Bitwise
import Mathlib.Tactic.IntervalCases

/-!
# Internet addresses

Addresses of 32 and 128 bits, as their octets and segments, and the questions that the standard library
answers about them.

* `InBlock`        numbers that begin with the same bits, `InBlock.meets` for two blocks;
* `and_highMask`   **a mask of high bits is a test of the leading bits**;
* `Ipv4Addr`, `Ipv6Addr`   addresses, their numbers and their networks (`InNet`);
* `inNet_8`, `inNet_second`, `inNet_first`, `inNet_96`   a network read off the octets and segments;
* `IpAddr`, `SocketAddr`   either of them, and with a port.
-/

namespace Base

/-! ## Blocks of numbers -/

/-- two numbers of `width` bits with the same first `len` bits -/
def InBlock (width net len a : Nat) : Prop := a / 2 ^ (width - len) = net / 2 ^ (width - len)

instance (width net len a : Nat) : Decidable (InBlock width net len a) :=
  inferInstanceAs (Decidable (_ = _))

/-- of two blocks that share a number, the wider one holds the other -/
theorem InBlock.meets {width net net' len len' a : Nat} (h : InBlock width net len a)
    (h' : InBlock width net' len' a) : InBlock width net (min len len') net' := by
  unfold InBlock at *
  rw [← Nat.sub_max_sub_left]
  rcases le_total (width - len) (width - len') with hle | hle
  · have hpow : (2 : Nat) ^ (width - len') = 2 ^ (width - len) * 2 ^ (width - len' - (width - len)) := by
      rw [← pow_add, Nat.add_sub_cancel' hle]
    rw [max_eq_right hle, ← h', hpow, ← Nat.div_div_eq_div_mul, ← Nat.div_div_eq_div_mul, h]
  · have hpow : (2 : Nat) ^ (width - len) = 2 ^ (width - len') * 2 ^ (width - len - (width - len')) := by
      rw [← pow_add, Nat.add_sub_cancel' hle]
    rw [max_eq_left hle, ← h, hpow, ← Nat.div_div_eq_div_mul, ← Nat.div_div_eq_div_mul, h']

/-- a mask of all bits from the `k`-th on keeps what is left of the bits below it -/
theorem and_highMask {w k n : Nat} (hn : n < 2 ^ w) (hk : k ≤ w) :
    n &&& (2 ^ w - 2 ^ k) = n / 2 ^ k * 2 ^ k := by
  have hmask : 2 ^ w - 2 ^ k = (2 ^ (w - k) - 1) <<< k := by
    rw [Nat.shiftLeft_eq, Nat.sub_mul, ← pow_add, Nat.sub_add_cancel hk, Nat.one_mul]
  rw [hmask, ← Nat.shiftRight_eq_div_pow, ← Nat.shiftLeft_eq]
  apply Nat.eq_of_testBit_eq
  intro i
  rw [Nat.testBit_and, Nat.testBit_shiftLeft, Nat.testBit_shiftLeft, Nat.testBit_two_pow_sub_one,
    Nat.testBit_shiftRight]
  by_cases hi : k ≤ i
  · have hsum : k + (i - k) = i := by omega
    have hge : decide (i ≥ k) = true := decide_eq_true hi
    rw [hge, Bool.true_and, Bool.true_and, hsum]
    by_cases hw : i - k < w - k
    · rw [decide_eq_true hw, Bool.and_true]
    · have hpow : n < 2 ^ i := lt_of_lt_of_le hn (Nat.pow_le_pow_right (by omega) (by omega))
      rw [Nat.testBit_lt_two_pow hpow, Bool.false_and]
  · have hge : decide (i ≥ k) = false := decide_eq_false hi
    rw [hge, Bool.false_and, Bool.false_and, Bool.and_false]

/-- the test of the leading bits by a mask, for a value without the bits that the mask drops -/
theorem and_highMask_eq_iff {w k n v : Nat} (hn : n < 2 ^ w) (hk : k ≤ w) (hv : v % 2 ^ k = 0) :
    n &&& (2 ^ w - 2 ^ k) = v ↔ n / 2 ^ k = v / 2 ^ k := by
  have hpos : 0 < 2 ^ k := Nat.two_pow_pos k
  have hval : v = v / 2 ^ k * 2 ^ k := (Nat.div_mul_cancel (Nat.dvd_of_mod_eq_zero hv)).symm
  rw [and_highMask hn hk]
  constructor
  · intro h
    rw [← h, Nat.mul_div_cancel _ hpos]
  · intro h
    rw [h]
    exact hval.symm

/-! ## IPv4 -/

structure Ipv4Addr where
  a : UInt8
  b : UInt8
  c : UInt8
  d : UInt8
  deriving DecidableEq, Repr

namespace Ipv4Addr

def toNat (ip : Ipv4Addr) : Nat :=
  ip.a.toNat * 2 ^ 24 + ip.b.toNat * 2 ^ 16 + ip.c.toNat * 2 ^ 8 + ip.d.toNat

/-- the address lies in the network -/
def InNet (ip net : Ipv4Addr) (len : Nat) : Prop := InBlock 32 net.toNat len ip.toNat

instance (ip net : Ipv4Addr) (len : Nat) : Decidable (ip.InNet net len) :=
  inferInstanceAs (Decidable (InBlock _ _ _ _))

def isPrivate (ip : Ipv4Addr) : Bool :=
  decide (ip.a = 10) || (decide (ip.a = 172) && decide (16 ≤ ip.b) && decide (ip.b ≤ 31)) ||
    (decide (ip.a = 192) && decide (ip.b = 168))

def isLoopback (ip : Ipv4Addr) : Bool := decide (ip.a = 127)

def isLinkLocal (ip : Ipv4Addr) : Bool := decide (ip.a = 169) && decide (ip.b = 254)

def isBroadcast (ip : Ipv4Addr) : Bool := decide (ip = ⟨255, 255, 255, 255⟩)

def isDocumentation (ip : Ipv4Addr) : Bool :=
  (decide (ip.a = 192) && decide (ip.b = 0) && decide (ip.c = 2)) ||
    (decide (ip.a = 198) && decide (ip.b = 51) && decide (ip.c = 100)) ||
    (decide (ip.a = 203) && decide (ip.b = 0) && decide (ip.c = 113))

def isUnspecified (ip : Ipv4Addr) : Bool := decide (ip = ⟨0, 0, 0, 0⟩)

def isMulticast (ip : Ipv4Addr) : Bool := decide (224 ≤ ip.a) && decide (ip.a ≤ 239)

end Ipv4Addr

/-! ## IPv6 -/

structure Ipv6Addr where
  s0 : UInt16
  s1 : UInt16
  s2 : UInt16
  s3 : UInt16
  s4 : UInt16
  s5 : UInt16
  s6 : UInt16
  s7 : UInt16
  deriving DecidableEq, Repr

/-- the octets of two segments -/
def Ipv4Addr.ofSegments (hi lo : UInt16) : Ipv4Addr :=
  ⟨(hi / 256).toUInt8, hi.toUInt8, (lo / 256).toUInt8, lo.toUInt8⟩

namespace Ipv6Addr

def toNat (ip : Ipv6Addr) : Nat :=
  ip.s0.toNat * 2 ^ 112 + ip.s1.toNat * 2 ^ 96 + ip.s2.toNat * 2 ^ 80 + ip.s3.toNat * 2 ^ 64 +
    ip.s4.toNat * 2 ^ 48 + ip.s5.toNat * 2 ^ 32 + ip.s6.toNat * 2 ^ 16 + ip.s7.toNat

/-- the address lies in the network -/
def InNet (ip net : Ipv6Addr) (len : Nat) : Prop := InBlock 128 net.toNat len ip.toNat

instance (ip net : Ipv6Addr) (len : Nat) : Decidable (ip.InNet net len) :=
  inferInstanceAs (Decidable (InBlock _ _ _ _))

def isLoopback (ip : Ipv6Addr) : Bool := decide (ip = ⟨0, 0, 0, 0, 0, 0, 0, 1⟩)

def isUnspecified (ip : Ipv6Addr) : Bool := decide (ip = ⟨0, 0, 0, 0, 0, 0, 0, 0⟩)

def isMulticast (ip : Ipv6Addr) : Bool := decide (ip.s0 &&& 0xff00 = 0xff00)

/-- the last 32 bits, as an address -/
def lowIpv4 (ip : Ipv6Addr) : Ipv4Addr := .ofSegments ip.s6 ip.s7

/-- the address in an IPv4-mapped one -/
def toIpv4Mapped (ip : Ipv6Addr) : Option Ipv4Addr :=
  if ip.s0 = 0 ∧ ip.s1 = 0 ∧ ip.s2 = 0 ∧ ip.s3 = 0 ∧ ip.s4 = 0 ∧ ip.s5 = 0xffff then
    some ip.lowIpv4
  else none

end Ipv6Addr

inductive IpAddr
  | v4 (ip : Ipv4Addr)
  | v6 (ip : Ipv6Addr)
  deriving DecidableEq, Repr

structure SocketAddr where
  ip : IpAddr
  port : UInt16
  deriving DecidableEq, Repr

/-! ## The questions as networks -/

namespace Ipv4Addr
variable (ip : Ipv4Addr)

/-- the octets are below 256 -/
theorem bounds : ip.a.toNat < 256 ∧ ip.b.toNat < 256 ∧ ip.c.toNat < 256 ∧ ip.d.toNat < 256 :=
  ⟨ip.a.toNat_lt, ip.b.toNat_lt, ip.c.toNat_lt, ip.d.toNat_lt⟩

theorem inNet_8 (net : Ipv4Addr) : ip.InNet net 8 ↔ ip.a.toNat = net.a.toNat := by
  have h := ip.bounds
  have hnet := net.bounds
  show ip.toNat / 2 ^ 24 = net.toNat / 2 ^ 24 ↔ _
  unfold toNat
  omega

theorem inNet_16 (net : Ipv4Addr) :
    ip.InNet net 16 ↔ ip.a.toNat = net.a.toNat ∧ ip.b.toNat = net.b.toNat := by
  have h := ip.bounds
  have hnet := net.bounds
  show ip.toNat / 2 ^ 16 = net.toNat / 2 ^ 16 ↔ _
  unfold toNat
  omega

theorem inNet_24 (net : Ipv4Addr) :
    ip.InNet net 24 ↔ ip.a.toNat = net.a.toNat ∧ ip.b.toNat = net.b.toNat ∧ ip.c.toNat = net.c.toNat := by
  have h := ip.bounds
  have hnet := net.bounds
  show ip.toNat / 2 ^ 8 = net.toNat / 2 ^ 8 ↔ _
  unfold toNat
  omega

/-- a network that ends in the first octet -/
theorem inNet_4 (net : Ipv4Addr) : ip.InNet net 4 ↔ ip.a.toNat / 16 = net.a.toNat / 16 := by
  have h := ip.bounds
  have hnet := net.bounds
  show ip.toNat / 2 ^ 28 = net.toNat / 2 ^ 28 ↔ _
  unfold toNat
  omega

/-- a network that ends in the second octet, `k` bits before its end -/
theorem inNet_second (net : Ipv4Addr) {k : Nat} (hk : k ≤ 8) :
    ip.InNet net (16 - k)
      ↔ ip.a.toNat = net.a.toNat ∧ ip.b.toNat / 2 ^ k = net.b.toNat / 2 ^ k := by
  have h := ip.bounds
  have hnet := net.bounds
  have hexp : 32 - (16 - k) = 16 + k := by omega
  unfold InNet InBlock toNat
  rw [hexp]
  interval_cases k <;> omega

theorem isPrivate_iff :
    ip.isPrivate = true ↔
      ip.InNet ⟨10, 0, 0, 0⟩ 8 ∨ ip.InNet ⟨172, 16, 0, 0⟩ 12 ∨ ip.InNet ⟨192, 168, 0, 0⟩ 16 := by
  have hsecond := ip.inNet_second ⟨172, 16, 0, 0⟩ (show 4 ≤ 8 by omega)
  have hb := ip.bounds
  unfold isPrivate
  simp only [Bool.or_eq_true, Bool.and_eq_true, decide_eq_true_eq, UInt8.le_iff_toNat_le,
    ← UInt8.toNat_inj, UInt8.reduceToNat, inNet_8, inNet_16] at hsecond ⊢
  rw [hsecond]
  omega

theorem isLoopback_iff : ip.isLoopback = true ↔ ip.InNet ⟨127, 0, 0, 0⟩ 8 := by
  unfold isLoopback
  rw [decide_eq_true_eq, ← UInt8.toNat_inj, inNet_8]

theorem isLinkLocal_iff : ip.isLinkLocal = true ↔ ip.InNet ⟨169, 254, 0, 0⟩ 16 := by
  unfold isLinkLocal
  rw [Bool.and_eq_true, decide_eq_true_eq, decide_eq_true_eq, ← UInt8.toNat_inj, ← UInt8.toNat_inj,
    inNet_16]

theorem isDocumentation_iff :
    ip.isDocumentation = true ↔
      ip.InNet ⟨192, 0, 2, 0⟩ 24 ∨ ip.InNet ⟨198, 51, 100, 0⟩ 24 ∨ ip.InNet ⟨203, 0, 113, 0⟩ 24 := by
  unfold isDocumentation
  simp only [Bool.or_eq_true, Bool.and_eq_true, decide_eq_true_eq, ← UInt8.toNat_inj, inNet_24,
    or_assoc, and_assoc]

theorem isMulticast_iff : ip.isMulticast = true ↔ ip.InNet ⟨224, 0, 0, 0⟩ 4 := by
  have hb := ip.bounds
  unfold isMulticast
  rw [Bool.and_eq_true, decide_eq_true_eq, decide_eq_true_eq, UInt8.le_iff_toNat_le,
    UInt8.le_iff_toNat_le, inNet_4]
  show 224 ≤ ip.a.toNat ∧ ip.a.toNat ≤ 239 ↔ ip.a.toNat / 16 = 224 / 16
  omega

/-- a mask of the leading bits of the second octet, with the first octet -/
theorem second_mask_iff {k : Nat} (hk : k ≤ 8) (mask value : UInt8) (net : Ipv4Addr)
    (hmask : mask.toNat = 2 ^ 8 - 2 ^ k) (hvalue : value.toNat % 2 ^ k = 0) (hnet : net.b = value) :
    ip.a = net.a ∧ ip.b &&& mask = value ↔ ip.InNet net (16 - k) := by
  rw [inNet_second ip net hk, ← UInt8.toNat_inj, ← UInt8.toNat_inj, UInt8.toNat_and, hmask, hnet,
    and_highMask_eq_iff ip.b.toNat_lt hk hvalue]

end Ipv4Addr

namespace Ipv6Addr
variable (ip : Ipv6Addr)

theorem bounds :
    ip.s0.toNat < 65536 ∧ ip.s1.toNat < 65536 ∧ ip.s2.toNat < 65536 ∧ ip.s3.toNat < 65536 ∧
      ip.s4.toNat < 65536 ∧ ip.s5.toNat < 65536 ∧ ip.s6.toNat < 65536 ∧ ip.s7.toNat < 65536 :=
  ⟨ip.s0.toNat_lt, ip.s1.toNat_lt, ip.s2.toNat_lt, ip.s3.toNat_lt, ip.s4.toNat_lt, ip.s5.toNat_lt,
    ip.s6.toNat_lt, ip.s7.toNat_lt⟩

/-- the first segment and the bits behind it -/
theorem toNat_eq : ∃ low < 2 ^ 112, ip.toNat = ip.s0.toNat * 2 ^ 112 + low := by
  have h := ip.bounds
  refine ⟨ip.s1.toNat * 2 ^ 96 + ip.s2.toNat * 2 ^ 80 + ip.s3.toNat * 2 ^ 64 + ip.s4.toNat * 2 ^ 48 +
    ip.s5.toNat * 2 ^ 32 + ip.s6.toNat * 2 ^ 16 + ip.s7.toNat, by omega, ?_⟩
  unfold toNat
  omega

/-- a network that ends in the first segment, `k` bits before its end -/
theorem inNet_first (net : Ipv6Addr) {k : Nat} (hk : k ≤ 16) :
    ip.InNet net (16 - k) ↔ ip.s0.toNat / 2 ^ k = net.s0.toNat / 2 ^ k := by
  obtain ⟨low, hlow, hip⟩ := ip.toNat_eq
  obtain ⟨lownet, hlownet, hnet⟩ := net.toNat_eq
  have hdiv : ∀ hi lo, lo < 2 ^ 112 → (hi * 2 ^ 112 + lo) / 2 ^ (112 + k) = hi / 2 ^ k := by
    intro hi lo hlo
    rw [pow_add, ← Nat.div_div_eq_div_mul, Nat.mul_comm hi, Nat.mul_add_div (by omega),
      Nat.div_eq_of_lt hlo, Nat.add_zero]
  have hexp : 128 - (16 - k) = 112 + k := by omega
  unfold InNet InBlock
  rw [hexp, hip, hnet, hdiv _ _ hlow, hdiv _ _ hlownet]

theorem first_mask_iff {k : Nat} (hk : k ≤ 16) (mask value : UInt16) (net : Ipv6Addr)
    (hmask : mask.toNat = 2 ^ 16 - 2 ^ k) (hvalue : value.toNat % 2 ^ k = 0) (hnet : net.s0 = value) :
    ip.s0 &&& mask = value ↔ ip.InNet net (16 - k) := by
  rw [inNet_first ip net hk, ← UInt16.toNat_inj, UInt16.toNat_and, hmask, hnet,
    and_highMask_eq_iff ip.s0.toNat_lt hk hvalue]

/-- a network of all the bits is an address -/
theorem inNet_128 (net : Ipv6Addr) : ip.InNet net 128 ↔ ip = net := by
  have h := ip.bounds
  have hnet := net.bounds
  have hsegments : ip = net ↔ ip.s0.toNat = net.s0.toNat ∧ ip.s1.toNat = net.s1.toNat ∧
      ip.s2.toNat = net.s2.toNat ∧ ip.s3.toNat = net.s3.toNat ∧ ip.s4.toNat = net.s4.toNat ∧
      ip.s5.toNat = net.s5.toNat ∧ ip.s6.toNat = net.s6.toNat ∧ ip.s7.toNat = net.s7.toNat := by
    cases ip
    cases net
    simp only [mk.injEq, UInt16.toNat_inj]
  rw [hsegments]
  show ip.toNat / 2 ^ 0 = net.toNat / 2 ^ 0 ↔ _
  unfold toNat
  omega

/-- the last 32 bits are free -/
theorem inNet_96 (net : Ipv6Addr) :
    ip.InNet net 96 ↔ ip.s0 = net.s0 ∧ ip.s1 = net.s1 ∧ ip.s2 = net.s2 ∧ ip.s3 = net.s3 ∧
      ip.s4 = net.s4 ∧ ip.s5 = net.s5 := by
  have h := ip.bounds
  have hnet := net.bounds
  simp only [← UInt16.toNat_inj]
  show ip.toNat / 2 ^ 32 = net.toNat / 2 ^ 32 ↔ _
  unfold toNat
  omega

theorem isLoopback_iff : ip.isLoopback = true ↔ ip.InNet ⟨0, 0, 0, 0, 0, 0, 0, 1⟩ 128 := by
  unfold isLoopback
  rw [inNet_128, decide_eq_true_eq]

theorem isUnspecified_iff : ip.isUnspecified = true ↔ ip.InNet ⟨0, 0, 0, 0, 0, 0, 0, 0⟩ 128 := by
  unfold isUnspecified
  rw [inNet_128, decide_eq_true_eq]

theorem isMulticast_iff : ip.isMulticast = true ↔ ip.InNet ⟨0xff00, 0, 0, 0, 0, 0, 0, 0⟩ 8 := by
  unfold isMulticast
  rw [decide_eq_true_eq]
  exact ip.first_mask_iff (show 8 ≤ 16 by omega) 0xff00 0xff00 ⟨0xff00, 0, 0, 0, 0, 0, 0, 0⟩ rfl rfl rfl

end Ipv6Addr

end Base
