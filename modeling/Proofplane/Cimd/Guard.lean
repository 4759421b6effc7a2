import Proofplane.Base.Net

/-!
# The guard of the client metadata fetch

A client id is a URL that the server fetches, so whoever names it aims the server.  The host is resolved
once, the first address that is not forbidden is taken and the fetch is pinned to it.

* `permitAddr`, `isForbiddenIp`    the guard, in the source's tests on octets and segments;
* `resolvePermittedAddr`, `resolve`   the choice of an address, and what is contacted;
* `ForbiddenIp`                    what must not be contacted: the networks, and their embeddings in IPv6;
* `MissedIp`                       **what of it the guard lets through** (`forbiddenIp_iff`);
* `MissedComeBehind`               a list in which an address that may be contacted comes before them;
* `cimd_guard`                     the guard keeps its promise exactly for such lists.
-/

namespace Proofplane
open Base

structure ResolvedClient where
  clientName : String
  redirectUris : List String
  deriving DecidableEq, Repr

inductive CimdError
  | invalidClient | forbiddenHost | unreachable
  deriving DecidableEq, Repr

inductive Host
  | domain (name : String)
  | ipv4 (ip : Ipv4Addr)
  | ipv6 (ip : Ipv6Addr)
  deriving DecidableEq, Repr

/-- what the guard reads of a parsed URL -/
structure CimdUrl where
  scheme : String
  host : Option Host
  portOrKnownDefault : Option UInt16
  deriving DecidableEq, Repr

/-! ## The guard -/

def isForbiddenIpv4 (ip : Ipv4Addr) : Bool :=
  ip.isPrivate || ip.isLoopback || ip.isLinkLocal || ip.isBroadcast || ip.isDocumentation ||
    ip.isUnspecified || ip.isMulticast ||
    -- carrier-grade NAT shared address space
    (decide (ip.a = 100) && decide (ip.b &&& 0xc0 = 0x40)) ||
    -- IETF benchmarking
    (decide (ip.a = 198) && decide (ip.b &&& 0xfe = 18))

def isForbiddenIpv6 (ip : Ipv6Addr) : Bool :=
  ip.isLoopback || ip.isUnspecified || ip.isMulticast ||
    -- unique local addresses
    decide (ip.s0 &&& 0xfe00 = 0xfc00) ||
    -- link-local unicast
    decide (ip.s0 &&& 0xffc0 = 0xfe80)

def isForbiddenIp : IpAddr → Bool
  | .v4 v4 => isForbiddenIpv4 v4
  | .v6 v6 =>
    match v6.toIpv4Mapped with
    | some mapped => isForbiddenIpv4 mapped
    | none => isForbiddenIpv6 v6

def permitAddr (addr : SocketAddr) : Except CimdError SocketAddr :=
  if isForbiddenIp addr.ip = true then .error .forbiddenHost else .ok addr

/-- the URL parser, the resolver's answers and the fetch itself, which are not the program's own -/
structure CimdResolver where
  parse : String → Option CimdUrl
  lookupHost : String → UInt16 → Option (List SocketAddr)
  fetchDocument : CimdUrl → SocketAddr → Except CimdError ResolvedClient

namespace CimdResolver
variable (R : CimdResolver)

def parseHttpsUrl (clientId : String) : Except CimdError CimdUrl :=
  match R.parse clientId with
  | none => .error .invalidClient
  | some url =>
    if url.scheme ≠ "https" then .error .invalidClient
    else if url.host.isNone then .error .invalidClient
    else .ok url

def resolvePermittedAddr (url : CimdUrl) : Except CimdError SocketAddr :=
  let port := url.portOrKnownDefault.getD 443
  match url.host with
  | none => .error .invalidClient
  | some (.ipv4 ip) => permitAddr ⟨.v4 ip, port⟩
  | some (.ipv6 ip) => permitAddr ⟨.v6 ip, port⟩
  | some (.domain name) =>
    match R.lookupHost name port with
    | none => .error .unreachable
    | some addrs =>
      match addrs.findSome? fun addr => (permitAddr addr).toOption with
      | some addr => .ok addr
      | none => .error .forbiddenHost

/-- the answer, and the addresses that were contacted for it -/
def resolve (clientId : String) : Except CimdError ResolvedClient × List SocketAddr :=
  match R.parseHttpsUrl clientId with
  | .error e => (.error e, [])
  | .ok url =>
    match R.resolvePermittedAddr url with
    | .error e => (.error e, [])
    | .ok addr => (R.fetchDocument url addr, [addr])

/-- the addresses that a host stands for: the literal one, or the resolver's answer -/
def candidates (url : CimdUrl) : Option (List SocketAddr) :=
  let port := url.portOrKnownDefault.getD 443
  match url.host with
  | none => none
  | some (.ipv4 ip) => some [⟨.v4 ip, port⟩]
  | some (.ipv6 ip) => some [⟨.v6 ip, port⟩]
  | some (.domain name) => R.lookupHost name port

end CimdResolver

/-! ## What must not be contacted -/

/-- the networks of IPv4 that are not on the public internet -/
def forbiddenNets4 : List (Ipv4Addr × Nat) :=
  [(⟨0, 0, 0, 0⟩, 8), (⟨10, 0, 0, 0⟩, 8), (⟨172, 16, 0, 0⟩, 12), (⟨192, 168, 0, 0⟩, 16),
    (⟨127, 0, 0, 0⟩, 8), (⟨169, 254, 0, 0⟩, 16), (⟨100, 64, 0, 0⟩, 10), (⟨198, 18, 0, 0⟩, 15),
    (⟨192, 0, 2, 0⟩, 24), (⟨198, 51, 100, 0⟩, 24), (⟨203, 0, 113, 0⟩, 24), (⟨224, 0, 0, 0⟩, 4),
    (⟨240, 0, 0, 0⟩, 4)]

def ForbiddenIpv4 (ip : Ipv4Addr) : Prop := ∃ net ∈ forbiddenNets4, ip.InNet net.1 net.2

instance (ip : Ipv4Addr) : Decidable (ForbiddenIpv4 ip) :=
  inferInstanceAs (Decidable (∃ net ∈ forbiddenNets4, _))

/-- unspecified, loopback, unique local, link-local, multicast and documentation -/
def forbiddenNets6 : List (Ipv6Addr × Nat) :=
  [(⟨0, 0, 0, 0, 0, 0, 0, 0⟩, 128), (⟨0, 0, 0, 0, 0, 0, 0, 1⟩, 128),
    (⟨0xfc00, 0, 0, 0, 0, 0, 0, 0⟩, 7), (⟨0xfe80, 0, 0, 0, 0, 0, 0, 0⟩, 10),
    (⟨0xff00, 0, 0, 0, 0, 0, 0, 0⟩, 8), (⟨0x2001, 0xdb8, 0, 0, 0, 0, 0, 0⟩, 32)]

/-- `::ffff:0:0/96` -/
def mappedNet : Ipv6Addr := ⟨0, 0, 0, 0, 0, 0xffff, 0, 0⟩

/-- `::/96` -/
def compatibleNet : Ipv6Addr := ⟨0, 0, 0, 0, 0, 0, 0, 0⟩

/-- `64:ff9b::/96` -/
def nat64Net : Ipv6Addr := ⟨0x64, 0xff9b, 0, 0, 0, 0, 0, 0⟩

/-- `2002::/16` -/
def sixToFourNet : Ipv6Addr := ⟨0x2002, 0, 0, 0, 0, 0, 0, 0⟩

/-- the IPv4 address in a 6to4 one -/
def sixToFourIpv4 (ip : Ipv6Addr) : Ipv4Addr := .ofSegments ip.s1 ip.s2

/-- a forbidden address of IPv4 in one of its embeddings -/
def EmbedsForbiddenIpv4 (ip : Ipv6Addr) : Prop :=
  (ip.InNet mappedNet 96 ∧ ForbiddenIpv4 ip.lowIpv4) ∨
    (ip.InNet compatibleNet 96 ∧ ForbiddenIpv4 ip.lowIpv4) ∨
    (ip.InNet nat64Net 96 ∧ ForbiddenIpv4 ip.lowIpv4) ∨
    (ip.InNet sixToFourNet 16 ∧ ForbiddenIpv4 (sixToFourIpv4 ip))

instance (ip : Ipv6Addr) : Decidable (EmbedsForbiddenIpv4 ip) :=
  inferInstanceAs (Decidable (_ ∧ _ ∨ _ ∧ _ ∨ _ ∧ _ ∨ _ ∧ _))

def ForbiddenIp : IpAddr → Prop
  | .v4 ip => ForbiddenIpv4 ip
  | .v6 ip => (∃ net ∈ forbiddenNets6, ip.InNet net.1 net.2) ∨ EmbedsForbiddenIpv4 ip

instance : (ip : IpAddr) → Decidable (ForbiddenIp ip)
  | .v4 ip => inferInstanceAs (Decidable (ForbiddenIpv4 ip))
  | .v6 _ => inferInstanceAs (Decidable ((∃ net ∈ forbiddenNets6, _) ∨ _))

/-! ## What the guard misses -/

/-- `0.0.0.0/8` but for its first address, `240.0.0.0/4` but for its last -/
def MissedIpv4 (ip : Ipv4Addr) : Prop :=
  (ip.InNet ⟨0, 0, 0, 0⟩ 8 ∧ ip ≠ ⟨0, 0, 0, 0⟩) ∨
    (ip.InNet ⟨240, 0, 0, 0⟩ 4 ∧ ip ≠ ⟨255, 255, 255, 255⟩)

/-- the same in IPv4-mapped addresses, the documentation network, and the embeddings that are not looked
into -/
def MissedIpv6 (ip : Ipv6Addr) : Prop :=
  (ip.InNet mappedNet 96 ∧ MissedIpv4 ip.lowIpv4) ∨
    ip.InNet ⟨0x2001, 0xdb8, 0, 0, 0, 0, 0, 0⟩ 32 ∨
    (ip.InNet compatibleNet 96 ∧ ForbiddenIpv4 ip.lowIpv4 ∧ ip ≠ ⟨0, 0, 0, 0, 0, 0, 0, 0⟩ ∧
      ip ≠ ⟨0, 0, 0, 0, 0, 0, 0, 1⟩) ∨
    (ip.InNet nat64Net 96 ∧ ForbiddenIpv4 ip.lowIpv4) ∨
    (ip.InNet sixToFourNet 16 ∧ ForbiddenIpv4 (sixToFourIpv4 ip))

def MissedIp : IpAddr → Prop
  | .v4 ip => MissedIpv4 ip
  | .v6 ip => MissedIpv6 ip

instance (ip : Ipv4Addr) : Decidable (MissedIpv4 ip) :=
  inferInstanceAs (Decidable (_ ∧ _ ∨ _ ∧ _))

instance (ip : Ipv6Addr) : Decidable (MissedIpv6 ip) :=
  inferInstanceAs (Decidable (_ ∧ _ ∨ _ ∨ _ ∧ _ ∧ _ ∧ _ ∨ _ ∧ _ ∨ _ ∧ _))

instance : (ip : IpAddr) → Decidable (MissedIp ip)
  | .v4 ip => inferInstanceAs (Decidable (MissedIpv4 ip))
  | .v6 ip => inferInstanceAs (Decidable (MissedIpv6 ip))

/-- every missed address of the list comes behind one that may be contacted -/
def MissedComeBehind (addrs : List SocketAddr) : Prop :=
  ∀ before addr after, addrs = before ++ addr :: after → MissedIp addr.ip →
    ∃ earlier ∈ before, ¬ ForbiddenIp earlier.ip

/-! ## The guard as networks -/

/-- what the guard refuses of IPv4, but for the first and the last address of all -/
def refusedNets4 : List (Ipv4Addr × Nat) :=
  [(⟨10, 0, 0, 0⟩, 8), (⟨172, 16, 0, 0⟩, 12), (⟨192, 168, 0, 0⟩, 16), (⟨127, 0, 0, 0⟩, 8),
    (⟨169, 254, 0, 0⟩, 16), (⟨100, 64, 0, 0⟩, 10), (⟨198, 18, 0, 0⟩, 15), (⟨192, 0, 2, 0⟩, 24),
    (⟨198, 51, 100, 0⟩, 24), (⟨203, 0, 113, 0⟩, 24), (⟨224, 0, 0, 0⟩, 4)]

/-- what the guard refuses of IPv6, but for the first two addresses -/
def refusedNets6 : List (Ipv6Addr × Nat) :=
  [(⟨0xfc00, 0, 0, 0, 0, 0, 0, 0⟩, 7), (⟨0xfe80, 0, 0, 0, 0, 0, 0, 0⟩, 10),
    (⟨0xff00, 0, 0, 0, 0, 0, 0, 0⟩, 8)]

theorem isForbiddenIpv4_iff (ip : Ipv4Addr) :
    isForbiddenIpv4 ip = true ↔
      ip = ⟨0, 0, 0, 0⟩ ∨ ip = ⟨255, 255, 255, 255⟩ ∨ ∃ net ∈ refusedNets4, ip.InNet net.1 net.2 := by
  have hshared := ip.second_mask_iff (show 6 ≤ 8 by omega) 0xc0 0x40 ⟨100, 64, 0, 0⟩ rfl rfl rfl
  have hbenchmark := ip.second_mask_iff (show 1 ≤ 8 by omega) 0xfe 18 ⟨198, 18, 0, 0⟩ rfl rfl rfl
  have hbroadcast : ip.isBroadcast = true ↔ ip = ⟨255, 255, 255, 255⟩ := decide_eq_true_iff
  have hunspecified : ip.isUnspecified = true ↔ ip = ⟨0, 0, 0, 0⟩ := decide_eq_true_iff
  unfold isForbiddenIpv4 refusedNets4
  simp only [Bool.or_eq_true, Bool.and_eq_true, decide_eq_true_eq, ip.isPrivate_iff, ip.isLoopback_iff,
    ip.isLinkLocal_iff, ip.isDocumentation_iff, ip.isMulticast_iff, hbroadcast, hunspecified, List.mem_cons,
    List.not_mem_nil, or_false, exists_eq_or_imp, exists_eq_left]
  rw [hshared, hbenchmark]
  simp only [or_assoc, or_comm, or_left_comm]

theorem isForbiddenIpv6_iff (ip : Ipv6Addr) :
    isForbiddenIpv6 ip = true ↔
      ip = ⟨0, 0, 0, 0, 0, 0, 0, 0⟩ ∨ ip = ⟨0, 0, 0, 0, 0, 0, 0, 1⟩ ∨
        ∃ net ∈ refusedNets6, ip.InNet net.1 net.2 := by
  have hlocal := ip.first_mask_iff (show 9 ≤ 16 by omega) 0xfe00 0xfc00 ⟨0xfc00, 0, 0, 0, 0, 0, 0, 0⟩
    rfl rfl rfl
  have hlink := ip.first_mask_iff (show 6 ≤ 16 by omega) 0xffc0 0xfe80 ⟨0xfe80, 0, 0, 0, 0, 0, 0, 0⟩
    rfl rfl rfl
  unfold isForbiddenIpv6 refusedNets6
  simp only [Bool.or_eq_true, decide_eq_true_eq, ip.isLoopback_iff, ip.isUnspecified_iff,
    ip.isMulticast_iff, ip.inNet_128, List.mem_cons, List.not_mem_nil, or_false, exists_eq_or_imp,
    exists_eq_left]
  rw [hlocal, hlink]
  simp only [or_assoc, or_comm, or_left_comm]

theorem toIpv4Mapped_eq (ip : Ipv6Addr) :
    ip.toIpv4Mapped = if ip.InNet mappedNet 96 then some ip.lowIpv4 else none := by
  unfold Ipv6Addr.toIpv4Mapped
  exact if_congr (ip.inNet_96 mappedNet).symm rfl rfl

/-! ## What is forbidden is what the guard refuses and what it misses -/

theorem forbiddenIpv4_nets (ip : Ipv4Addr) :
    ForbiddenIpv4 ip ↔ ip.InNet ⟨0, 0, 0, 0⟩ 8 ∨ (∃ net ∈ refusedNets4, ip.InNet net.1 net.2) ∨
      ip.InNet ⟨240, 0, 0, 0⟩ 4 := by
  have hsplit : forbiddenNets4 = (⟨0, 0, 0, 0⟩, 8) :: (refusedNets4 ++ [(⟨240, 0, 0, 0⟩, 4)]) := rfl
  unfold ForbiddenIpv4
  rw [hsplit]
  simp only [List.mem_cons, List.mem_append, List.not_mem_nil, or_false, or_and_right, exists_or,
    exists_eq_left]

theorem forbiddenIpv4_iff (ip : Ipv4Addr) :
    ForbiddenIpv4 ip ↔ isForbiddenIpv4 ip = true ∨ MissedIpv4 ip := by
  have hzero : ip = ⟨0, 0, 0, 0⟩ → ip.InNet ⟨0, 0, 0, 0⟩ 8 := by
    rintro rfl
    decide
  have hbroadcast : ip = ⟨255, 255, 255, 255⟩ → ip.InNet ⟨240, 0, 0, 0⟩ 4 := by
    rintro rfl
    decide
  rw [forbiddenIpv4_nets, isForbiddenIpv4_iff]
  unfold MissedIpv4
  by_cases h0 : ip = ⟨0, 0, 0, 0⟩
  · exact iff_of_true (.inl (hzero h0)) (.inl (.inl h0))
  · by_cases h1 : ip = ⟨255, 255, 255, 255⟩
    · exact iff_of_true (.inr (.inr (hbroadcast h1))) (.inl (.inr (.inl h1)))
    · simp only [h0, h1, ne_eq, not_false_eq_true, and_true, false_or]
      exact or_left_comm

theorem forbiddenNets6_iff (ip : Ipv6Addr) :
    (∃ net ∈ forbiddenNets6, ip.InNet net.1 net.2) ↔
      isForbiddenIpv6 ip = true ∨ ip.InNet ⟨0x2001, 0xdb8, 0, 0, 0, 0, 0, 0⟩ 32 := by
  have hsplit : forbiddenNets6 = (⟨0, 0, 0, 0, 0, 0, 0, 0⟩, 128) :: (⟨0, 0, 0, 0, 0, 0, 0, 1⟩, 128) ::
      (refusedNets6 ++ [(⟨0x2001, 0xdb8, 0, 0, 0, 0, 0, 0⟩, 32)]) := rfl
  rw [hsplit, isForbiddenIpv6_iff]
  simp only [List.mem_cons, List.mem_append, List.not_mem_nil, or_false, or_and_right, exists_or,
    exists_eq_left, ip.inNet_128, or_assoc]

/-- an address of a network that lies apart from those that the guard refuses -/
theorem isForbiddenIpv6_apart {ip net : Ipv6Addr} {len : Nat} (h : ip.InNet net len)
    (hapart : ∀ refused ∈ refusedNets6, ¬ InBlock 128 net.toNat (min len refused.2) refused.1.toNat)
    (h0 : ip ≠ ⟨0, 0, 0, 0, 0, 0, 0, 0⟩) (h1 : ip ≠ ⟨0, 0, 0, 0, 0, 0, 0, 1⟩) :
    isForbiddenIpv6 ip = false := by
  rw [Bool.eq_false_iff, ne_eq, isForbiddenIpv6_iff]
  rintro (h' | h' | ⟨refused, hmem, h'⟩)
  · exact h0 h'
  · exact h1 h'
  · exact hapart refused hmem (InBlock.meets h h')

/-- an address of a network is none that lies outside of it -/
theorem ne_of_inNet {ip net : Ipv6Addr} {len : Nat} (h : ip.InNet net len) {other : Ipv6Addr}
    (hother : ¬ other.InNet net len) : ip ≠ other := by
  rintro rfl
  exact hother h

/-- an IPv4-mapped address lies in no other network that is forbidden or embeds an address -/
theorem mapped_apart {ip : Ipv6Addr} (h : ip.InNet mappedNet 96) :
    isForbiddenIpv6 ip = false ∧ ¬ ip.InNet ⟨0x2001, 0xdb8, 0, 0, 0, 0, 0, 0⟩ 32 ∧
      ¬ ip.InNet compatibleNet 96 ∧ ¬ ip.InNet nat64Net 96 ∧ ¬ ip.InNet sixToFourNet 16 := by
  refine ⟨?_, fun h' => absurd (h.meets h') (by decide), fun h' => absurd (h.meets h') (by decide),
    fun h' => absurd (h.meets h') (by decide), fun h' => absurd (h.meets h') (by decide)⟩
  exact isForbiddenIpv6_apart h (by decide) (ne_of_inNet h (by decide)) (ne_of_inNet h (by decide))

/-- **What must not be contacted is what the guard refuses and what it misses.** -/
theorem forbiddenIp_iff (ip : IpAddr) : ForbiddenIp ip ↔ isForbiddenIp ip = true ∨ MissedIp ip := by
  cases ip with
  | v4 ip => exact forbiddenIpv4_iff ip
  | v6 ip =>
    show (∃ net ∈ forbiddenNets6, ip.InNet net.1 net.2) ∨ EmbedsForbiddenIpv4 ip ↔
      (match ip.toIpv4Mapped with
        | some mapped => isForbiddenIpv4 mapped
        | none => isForbiddenIpv6 ip) = true ∨ MissedIpv6 ip
    rw [forbiddenNets6_iff, toIpv4Mapped_eq]
    unfold EmbedsForbiddenIpv4 MissedIpv6
    by_cases hmapped : ip.InNet mappedNet 96
    · obtain ⟨h6, hdocumentation, hcompatible, hnat64, h6to4⟩ := mapped_apart hmapped
      rw [if_pos hmapped]
      simp only [hmapped, h6, hdocumentation, hcompatible, hnat64, h6to4, forbiddenIpv4_iff, true_and,
        false_and, or_false, false_or, Bool.false_eq_true]
    · rw [if_neg hmapped]
      dsimp only
      simp only [hmapped, false_and, false_or]
      by_cases h0 : ip = ⟨0, 0, 0, 0, 0, 0, 0, 0⟩
      · have hrefused : isForbiddenIpv6 ip = true := by
          rw [h0]
          rfl
        exact iff_of_true (.inl (.inl hrefused)) (.inl hrefused)
      · by_cases h1 : ip = ⟨0, 0, 0, 0, 0, 0, 0, 1⟩
        · have hrefused : isForbiddenIpv6 ip = true := by
            rw [h1]
            rfl
          exact iff_of_true (.inl (.inl hrefused)) (.inl hrefused)
        · simp only [h0, h1, ne_eq, not_false_eq_true, and_true]
          exact or_assoc

/-- in `0.0.0.0/8` and `240.0.0.0/4` the guard refuses one address each -/
theorem isForbiddenIpv4_zero_or_high {ip : Ipv4Addr}
    (h : ip.InNet ⟨0, 0, 0, 0⟩ 8 ∨ ip.InNet ⟨240, 0, 0, 0⟩ 4) (hrefused : isForbiddenIpv4 ip = true) :
    ip = ⟨0, 0, 0, 0⟩ ∨ ip = ⟨255, 255, 255, 255⟩ := by
  have hapart : ∀ net ∈ refusedNets4, ¬ InBlock 32 0 (min 8 net.2) net.1.toNat ∧
      ¬ InBlock 32 (240 * 2 ^ 24) (min 4 net.2) net.1.toNat := by decide
  rcases (isForbiddenIpv4_iff ip).mp hrefused with hzero | hbroadcast | ⟨net, hmem, hnet⟩
  · exact .inl hzero
  · exact .inr hbroadcast
  · obtain ⟨hlow, hhigh⟩ := hapart net hmem
    rcases h with h | h
    · exact absurd (InBlock.meets h hnet) hlow
    · exact absurd (InBlock.meets h hnet) hhigh

theorem MissedIpv4.permitted {ip : Ipv4Addr} (h : MissedIpv4 ip) : isForbiddenIpv4 ip = false := by
  rw [Bool.eq_false_iff]
  intro hrefused
  rcases h with ⟨hnet, hne⟩ | ⟨hnet, hne⟩
  · rcases isForbiddenIpv4_zero_or_high (.inl hnet) hrefused with rfl | rfl
    · exact hne rfl
    · exact absurd hnet (by decide)
  · rcases isForbiddenIpv4_zero_or_high (.inr hnet) hrefused with rfl | rfl
    · exact absurd hnet (by decide)
    · exact hne rfl

/-- **What the guard misses it lets through.** -/
theorem MissedIp.permitted {ip : IpAddr} (h : MissedIp ip) : isForbiddenIp ip = false := by
  cases ip with
  | v4 ip => exact MissedIpv4.permitted h
  | v6 ip =>
    show (match ip.toIpv4Mapped with
      | some mapped => isForbiddenIpv4 mapped
      | none => isForbiddenIpv6 ip) = false
    have hmissed : MissedIpv6 ip := h
    unfold MissedIpv6 at hmissed
    rw [toIpv4Mapped_eq]
    by_cases hmapped : ip.InNet mappedNet 96
    · obtain ⟨-, hdocumentation, hcompatible, hnat64, h6to4⟩ := mapped_apart hmapped
      rw [if_pos hmapped]
      simp only [hmapped, hdocumentation, hcompatible, hnat64, h6to4, true_and, false_and, or_false] at hmissed
      exact hmissed.permitted
    · rw [if_neg hmapped]
      rcases hmissed with ⟨hmapped', -⟩ | h | ⟨h, -, h0, h1⟩ | ⟨h, -⟩ | ⟨h, -⟩
      · exact absurd hmapped' hmapped
      · exact isForbiddenIpv6_apart h (by decide) (ne_of_inNet h (by decide)) (ne_of_inNet h (by decide))
      · exact isForbiddenIpv6_apart h (by decide) h0 h1
      · exact isForbiddenIpv6_apart h (by decide) (ne_of_inNet h (by decide)) (ne_of_inNet h (by decide))
      · exact isForbiddenIpv6_apart h (by decide) (ne_of_inNet h (by decide)) (ne_of_inNet h (by decide))

/-! ## The choice -/

namespace CimdResolver
variable {R : CimdResolver} {clientId : String} {url : CimdUrl} {addrs : List SocketAddr}

theorem permitAddr_toOption (addr : SocketAddr) :
    (permitAddr addr).toOption = if isForbiddenIp addr.ip = true then none else some addr := by
  unfold permitAddr
  split
  · rfl
  · rfl

/-- the first address that is not refused, whether there is one address or a list -/
theorem resolvePermittedAddr_eq (h : R.candidates url = some addrs) :
    R.resolvePermittedAddr url
      = match addrs.find? fun addr => !isForbiddenIp addr.ip with
        | some addr => .ok addr
        | none => .error .forbiddenHost := by
  have hlist : ∀ l : List SocketAddr,
      (l.findSome? fun addr => (permitAddr addr).toOption)
        = l.find? fun addr => !isForbiddenIp addr.ip := by
    intro l
    induction l with
    | nil => rfl
    | cons addr l ih =>
      rw [List.findSome?_cons, List.find?_cons, permitAddr_toOption, ih]
      cases isForbiddenIp addr.ip <;> rfl
  have hone : ∀ addr : SocketAddr, permitAddr addr
      = match [addr].find? fun addr => !isForbiddenIp addr.ip with
        | some addr => .ok addr
        | none => .error .forbiddenHost := by
    intro addr
    unfold permitAddr
    rw [List.find?_cons, List.find?_nil]
    cases isForbiddenIp addr.ip <;> rfl
  unfold candidates at h
  unfold resolvePermittedAddr
  dsimp only at h ⊢
  cases hhost : url.host with
  | none =>
    rw [hhost] at h
    cases h
  | some host =>
    rw [hhost] at h
    cases host with
    | ipv4 ip =>
      cases h
      exact hone _
    | ipv6 ip =>
      cases h
      exact hone _
    | domain name =>
      have hanswer : R.lookupHost name (url.portOrKnownDefault.getD 443) = some addrs := h
      dsimp only
      rw [hanswer]
      dsimp only
      rw [hlist]

/-- what the guard promises for a client id whose host stands for these addresses -/
structure Guards (R : CimdResolver) (clientId : String) (url : CimdUrl)
    (addrs : List SocketAddr) : Prop where
  chosen : ∀ addr, R.resolvePermittedAddr url = .ok addr → addr ∈ addrs ∧ ¬ ForbiddenIp addr.ip
  pinned : ∀ addr ∈ (R.resolve clientId).2, R.resolvePermittedAddr url = .ok addr
  refused : (∀ addr ∈ addrs, ForbiddenIp addr.ip) →
    R.resolvePermittedAddr url = .error .forbiddenHost ∧
      R.resolve clientId = (.error .forbiddenHost, [])

theorem resolve_eq (hurl : R.parseHttpsUrl clientId = .ok url) :
    R.resolve clientId
      = match R.resolvePermittedAddr url with
        | .error e => (.error e, [])
        | .ok addr => (R.fetchDocument url addr, [addr]) := by
  unfold resolve
  rw [hurl]

end CimdResolver

/-- the first address that is not refused is no missed one exactly if they all come behind one that may be
contacted -/
theorem missedComeBehind_iff (addrs : List SocketAddr) :
    MissedComeBehind addrs ↔
      ∀ addr, (addrs.find? fun addr => !isForbiddenIp addr.ip) = some addr → ¬ MissedIp addr.ip := by
  constructor
  · intro h addr hfind hmissed
    obtain ⟨-, before, after, hsplit, hbefore⟩ := List.find?_eq_some_iff_append.mp hfind
    obtain ⟨earlier, hmem, hallowed⟩ := h before addr after hsplit hmissed
    have hrefused : isForbiddenIp earlier.ip = true := by
      have hno := hbefore earlier hmem
      rwa [Bool.not_not] at hno
    exact hallowed ((forbiddenIp_iff earlier.ip).mpr (.inl hrefused))
  · intro h before addr after hsplit hmissed
    by_contra hno
    -- all before `addr` is forbidden, so the choice falls on a missed address there, or on `addr`
    have hbefore : ∀ earlier ∈ before, ForbiddenIp earlier.ip := by
      intro earlier hmem
      by_contra hallowed
      exact hno ⟨earlier, hmem, hallowed⟩
    have hpermitted : (!isForbiddenIp addr.ip) = true := by rw [hmissed.permitted, Bool.not_false]
    have hhere : ((addr :: after).find? fun addr => !isForbiddenIp addr.ip) = some addr :=
      List.find?_cons_of_pos hpermitted
    rw [hsplit, List.find?_append, hhere] at h
    cases hfind : before.find? fun addr => !isForbiddenIp addr.ip with
    | none =>
      rw [hfind, Option.none_or] at h
      exact h addr rfl hmissed
    | some chosen =>
      rw [hfind, Option.some_or] at h
      have hchosen : isForbiddenIp chosen.ip = false := by
        have htest := List.find?_some hfind
        rwa [Bool.not_eq_true'] at htest
      rcases (forbiddenIp_iff chosen.ip).mp (hbefore chosen (List.mem_of_find?_eq_some hfind)) with hr | hm
      · rw [hchosen] at hr
        cases hr
      · exact h chosen rfl hm

/-- **The guard keeps its promise exactly where the missed networks come behind**: every address of the
answer that lies in one of them has before it an address that lies in no forbidden network. -/
theorem cimd_guard (R : CimdResolver) (clientId : String) (url : CimdUrl)
    (hurl : R.parseHttpsUrl clientId = .ok url) (addrs : List SocketAddr)
    (haddrs : R.candidates url = some addrs) :
    R.Guards clientId url addrs ↔ MissedComeBehind addrs := by
  have hchoice := CimdResolver.resolvePermittedAddr_eq haddrs
  have hresolve := CimdResolver.resolve_eq hurl
  rw [missedComeBehind_iff]
  constructor
  · intro hguards addr hfind hmissed
    rw [hfind] at hchoice
    exact (hguards.chosen addr hchoice).2 ((forbiddenIp_iff addr.ip).mpr (.inr hmissed))
  · intro hsafe
    cases hfind : addrs.find? fun addr => !isForbiddenIp addr.ip with
    | none =>
      rw [hfind] at hchoice
      dsimp only at hchoice
      rw [hchoice] at hresolve
      refine ⟨fun addr h => ?_, fun addr h => ?_, fun _ => ⟨hchoice, hresolve⟩⟩
      · rw [hchoice] at h
        cases h
      · rw [hresolve] at h
        cases h
    | some addr =>
      have hmem : addr ∈ addrs := List.mem_of_find?_eq_some hfind
      have hpermitted : isForbiddenIp addr.ip = false := by
        have h := List.find?_some hfind
        simpa using h
      have hallowed : ¬ ForbiddenIp addr.ip := by
        rw [forbiddenIp_iff, hpermitted]
        exact fun h => h.elim (fun h => (by cases h)) (hsafe addr hfind)
      rw [hfind] at hchoice
      dsimp only at hchoice
      rw [hchoice] at hresolve
      refine ⟨fun addr' h => ?_, fun addr' h => ?_, fun hall => absurd (hall addr hmem) hallowed⟩
      · rw [hchoice] at h
        cases h
        exact ⟨hmem, hallowed⟩
      · rw [hresolve] at h
        rw [List.mem_singleton.mp h]
        exact hchoice

/-- a resolver that answers every name with these addresses -/
def answering (addrs : List SocketAddr) : CimdResolver where
  parse _ := some ⟨"https", some (.domain "client.example"), some 443⟩
  lookupHost _ _ := some addrs
  fetchDocument _ _ := .error .unreachable

/-- a private address is passed over for the public one behind it, and the reserved one does not get its
turn -/
theorem cimd_guard_public :
    let addrs : List SocketAddr :=
      [⟨.v4 ⟨10, 0, 0, 1⟩, 443⟩, ⟨.v4 ⟨93, 184, 216, 34⟩, 443⟩, ⟨.v4 ⟨240, 0, 0, 1⟩, 443⟩]
    (answering addrs).Guards "https://client.example/client.json"
      ⟨"https", some (.domain "client.example"), some 443⟩ addrs := by
  intro addrs
  refine (cimd_guard _ "https://client.example/client.json" _ rfl _ rfl).mpr ?_
  intro before addr after hsplit hmissed
  rcases before with _ | ⟨first, _ | ⟨second, before⟩⟩
  · obtain ⟨rfl, -⟩ := List.cons.inj hsplit
    exact absurd hmissed (by decide)
  · obtain ⟨-, hsplit⟩ := List.cons.inj hsplit
    obtain ⟨rfl, -⟩ := List.cons.inj hsplit
    exact absurd hmissed (by decide)
  · obtain ⟨-, hsplit⟩ := List.cons.inj hsplit
    obtain ⟨rfl, -⟩ := List.cons.inj hsplit
    exact ⟨_, List.mem_cons_of_mem _ List.mem_cons_self, by decide⟩

/-- the address of the cloud metadata service, as NAT64 writes it, is contacted -/
theorem cimd_guard_nat64 :
    ∃ addr : SocketAddr, addr.ip = .v6 ⟨0x64, 0xff9b, 0, 0, 0, 0, 0xa9fe, 0xa9fe⟩ ∧
      ForbiddenIp addr.ip ∧
      (answering [addr]).resolvePermittedAddr ⟨"https", some (.domain "client.example"), some 443⟩
        = .ok addr ∧
      ((answering [addr]).resolve "https://client.example/client.json").2 = [addr] ∧
      ¬ (answering [addr]).Guards "https://client.example/client.json"
        ⟨"https", some (.domain "client.example"), some 443⟩ [addr] := by
  have hforbidden : ForbiddenIp (.v6 ⟨0x64, 0xff9b, 0, 0, 0, 0, 0xa9fe, 0xa9fe⟩) :=
    .inr (.inr (.inr (.inl ⟨by decide, by decide⟩)))
  refine ⟨⟨.v6 ⟨0x64, 0xff9b, 0, 0, 0, 0, 0xa9fe, 0xa9fe⟩, 443⟩, rfl, hforbidden, rfl, rfl, ?_⟩
  exact fun h => (h.chosen _ rfl).2 hforbidden

end Proofplane
