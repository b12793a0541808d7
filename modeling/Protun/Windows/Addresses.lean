import Mathlib.Tactic.IntervalCases
import Protun.Api.Text
import Protun.Windows.LocalIp

/-!
# Addresses in rows and back (`helpers/routing_table.rs`, `helpers/local_ip_finder.rs`)

The library writes an address into a row of the routing table, and reads addresses of rows in two
places: `sockaddr_inet_to_ip_addr` for the interfaces, and `sockaddr_to_string` for the log. The
machine is little-endian.

* `u.Byte` and `u.Word` are the same memory, seen as 16 bytes or as 8 `u16` (`words`).
* `swapBytes` is what that does to a segment: the bytes of an IPv6 address are in network order,
  those of a `u16` are not.

* `words_ipv6Octets`: the words of an address are its segments with their bytes swapped.
* **`sockaddr_decoded_iff`**: every address is decoded as it was encoded, and shown so iff it is an
  IPv4 address or its segments have two equal bytes each.
* `shown_with_bytes_swapped`: the text of `2001:db8::1`.
-/

namespace Protun.Routing

open LocalIp

/-! ## `sockaddr_to_string` -/

/-- `u32::to_ne_bytes`, on a little-endian machine. -/
def u32ToNeBytes (x : BitVec 32) : List Nat :=
  [0, 8, 16, 24].map fun sh => (x >>> sh).toNat % 256

/-- `Ipv6.sin6_addr.u.Word`, on a little-endian machine. -/
def words : Bytes → List Nat
  | low :: high :: bytes => (low.toNat + 256 * high.toNat) :: words bytes
  | _ => []

/-- `sockaddr_to_string`. -/
def sockaddrToString (ip : SockaddrInet) : String :=
  if ip.siFamily = afInet then ipv4ToString (newIpv4Addr (u32ToNeBytes ip.sAddr))
  else if ip.siFamily = afInet6 then ipv6ToString (newIpv6Addr (words ip.byte))
  else ""

/-! ## IPv4 -/

theorem newIpv4Addr_octets (a : BitVec 32) : newIpv4Addr (octets a) = a := by
  unfold newIpv4Addr
  rw [foldl_octets, BitVec.ofNat_toNat, BitVec.setWidth_eq]

theorem octets_u32FromLeBytes (a : BitVec 32) :
    octets (u32FromLeBytes (octets a)) = (octets a).reverse := by
  have hlt : ∀ o ∈ octets a, o < 256 := by
    intro o ho
    obtain ⟨sh, -, rfl⟩ := List.mem_map.mp ho
    exact Nat.mod_lt _ (by decide)
  obtain ⟨o₀, o₁, o₂, o₃, ho⟩ : ∃ o₀ o₁ o₂ o₃, octets a = [o₀, o₁, o₂, o₃] := ⟨_, _, _, _, rfl⟩
  rw [ho] at hlt ⊢
  simp only [List.forall_mem_cons] at hlt
  simp only [u32FromLeBytes, octets, List.map_cons, List.map_nil, List.foldr_cons, List.foldr_nil,
    List.reverse_cons, List.reverse_nil, List.nil_append, List.cons_append,
    BitVec.toNat_ushiftRight, Nat.shiftRight_eq_div_pow, BitVec.toNat_ofNat, List.cons.injEq,
    and_true]
  omega

theorem octets_u32FromBe (x : BitVec 32) : octets (u32FromBe x) = (octets x).reverse := by
  have hbyte : ∀ k < 4,
      (u32FromBe x >>> (8 * k)).setWidth 8 = (x >>> (8 * (3 - k))).setWidth 8 := by
    intro k hk
    unfold u32FromBe
    apply BitVec.eq_of_getLsbD_eq
    intro i hi
    interval_cases k <;> interval_cases i <;> simp
  have hoctet : ∀ k < 4,
      (u32FromBe x >>> (8 * k)).toNat % 256 = (x >>> (8 * (3 - k))).toNat % 256 := by
    intro k hk
    have h := congrArg BitVec.toNat (hbyte k hk)
    rwa [BitVec.toNat_setWidth, BitVec.toNat_setWidth] at h
  unfold octets
  simp only [List.map_cons, List.map_nil]
  rw [hoctet 3 (by decide), hoctet 2 (by decide), hoctet 1 (by decide), hoctet 0 (by decide)]
  rfl

/-- Both decoders undo the encoding of an IPv4 address. -/
theorem decode_sockaddrV4 (a : BitVec 32) :
    sockaddrInetToIpAddr (sockaddrV4 a) = some (.v4 a) ∧
      sockaddrToString (sockaddrV4 a) = ipv4ToString a := by
  have hfromBe : u32FromBe (u32FromLeBytes (octets a)) = a := by
    apply octets_injective
    rw [octets_u32FromBe, octets_u32FromLeBytes, List.reverse_reverse]
  have htoNe : u32ToNeBytes (u32FromLeBytes (octets a)) = octets a := by
    change (octets (u32FromLeBytes (octets a))).reverse = octets a
    rw [octets_u32FromLeBytes, List.reverse_reverse]
  constructor
  · change some (IpAddr.v4 (u32FromBe (u32FromLeBytes (octets a)))) = _
    rw [hfromBe]
  · change ipv4ToString (newIpv4Addr (u32ToNeBytes (u32FromLeBytes (octets a)))) = _
    rw [htoNe, newIpv4Addr_octets]

/-! ## IPv6 -/

/-- The bytes of a segment in network order. -/
def bytesOf (seg : Nat) : Bytes := [UInt8.ofNat (seg / 256), UInt8.ofNat seg]

/-- The bytes of a segment, the other way around. -/
def swapBytes (seg : Nat) : Nat := seg / 256 + 256 * (seg % 256)

theorem bytesOf_segment (a : BitVec 128) (k : Nat) :
    bytesOf ((a >>> k).toNat % 65536) =
      [UInt8.ofNat (a >>> (k + 8)).toNat, UInt8.ofNat (a >>> k).toNat] := by
  have hhigh : (a >>> (k + 8)).toNat = (a >>> k).toNat / 256 := by
    rw [BitVec.toNat_ushiftRight, BitVec.toNat_ushiftRight, Nat.shiftRight_add,
      Nat.shiftRight_eq_div_pow _ 8]
  have hmod : ∀ {n m : Nat}, n % 256 = m % 256 → UInt8.ofNat n = UInt8.ofNat m := by
    intro n m h
    apply UInt8.toNat_inj.mp
    rwa [UInt8.toNat_ofNat', UInt8.toNat_ofNat']
  unfold bytesOf
  rw [hhigh, hmod (n := (a >>> k).toNat % 65536 / 256) (m := (a >>> k).toNat / 256) (by omega),
    hmod (n := (a >>> k).toNat % 65536) (m := (a >>> k).toNat) (by omega)]

theorem ipv6Octets_eq (a : BitVec 128) : ipv6Octets a = (segments a).flatMap bytesOf := by
  simp only [segments, List.map_cons, List.map_nil, List.flatMap_cons, List.flatMap_nil,
    bytesOf_segment]
  rfl

theorem segments_lt (a : BitVec 128) : ∀ seg ∈ segments a, seg < 65536 := by
  intro seg hseg
  obtain ⟨sh, -, rfl⟩ := List.mem_map.mp hseg
  exact Nat.mod_lt _ (by decide)

section Segments

variable {segs : List Nat}

theorem words_flatMap (h : ∀ seg ∈ segs, seg < 65536) :
    words (segs.flatMap bytesOf) = segs.map swapBytes := by
  induction segs with
  | nil => rfl
  | cons seg segs ih =>
    rw [List.forall_mem_cons] at h
    have hword : (UInt8.ofNat (seg / 256)).toNat + 256 * (UInt8.ofNat seg).toNat =
        swapBytes seg := by
      unfold swapBytes
      rw [UInt8.toNat_ofNat', UInt8.toNat_ofNat']
      omega
    rw [List.flatMap_cons, List.map_cons, ← ih h.2, ← hword]
    rfl

theorem foldl_flatMap (h : ∀ seg ∈ segs, seg < 65536) (n : Nat) :
    (segs.flatMap bytesOf).foldl (fun n b => 256 * n + b.toNat) n =
      segs.foldl (fun n s => 65536 * n + s) n := by
  induction segs generalizing n with
  | nil => rfl
  | cons seg segs ih =>
    rw [List.forall_mem_cons] at h
    have hseg : 256 * (256 * n + (UInt8.ofNat (seg / 256)).toNat) + (UInt8.ofNat seg).toNat =
        65536 * n + seg := by
      rw [UInt8.toNat_ofNat', UInt8.toNat_ofNat']
      omega
    rw [List.flatMap_cons, List.foldl_append, List.foldl_cons, ih h.2, ← hseg]
    rfl

/-- `Ipv6Addr::new` keeps the segments it is given. -/
theorem segments_newIpv6Addr (hlen : segs.length = 8) (h : ∀ seg ∈ segs, seg < 65536) :
    segments (newIpv6Addr segs) = segs := by
  match segs, hlen with
  | [s₀, s₁, s₂, s₃, s₄, s₅, s₆, s₇], _ =>
    simp only [List.forall_mem_cons] at h
    simp only [newIpv6Addr, segments, List.map_cons, List.map_nil, List.foldl_cons, List.foldl_nil,
      BitVec.toNat_ushiftRight, Nat.shiftRight_eq_div_pow, BitVec.toNat_ofNat, List.cons.injEq,
      and_true]
    omega

end Segments

theorem words_ipv6Octets (a : BitVec 128) : words (ipv6Octets a) = (segments a).map swapBytes := by
  rw [ipv6Octets_eq, words_flatMap (segments_lt a)]

theorem ipv6FromOctets_ipv6Octets (a : BitVec 128) : ipv6FromOctets (ipv6Octets a) = a := by
  unfold ipv6FromOctets
  rw [ipv6Octets_eq, foldl_flatMap (segments_lt a), foldl_segments, BitVec.ofNat_toNat,
    BitVec.setWidth_eq]

theorem swapBytes_lt {seg : Nat} (h : seg < 65536) : swapBytes seg < 65536 := by
  unfold swapBytes
  omega

theorem newIpv6Addr_swapped_iff (a : BitVec 128) :
    newIpv6Addr ((segments a).map swapBytes) = a ↔ ∀ seg ∈ segments a, seg / 256 = seg % 256 := by
  have hswap : ∀ seg ∈ segments a, (swapBytes seg = seg ↔ seg / 256 = seg % 256) := by
    intro seg hseg
    have hlt := segments_lt a seg hseg
    unfold swapBytes
    omega
  have hsegs : segments (newIpv6Addr ((segments a).map swapBytes)) =
      (segments a).map swapBytes := by
    refine segments_newIpv6Addr (by simp [segments]) fun seg hseg => ?_
    obtain ⟨seg', hseg', rfl⟩ := List.mem_map.mp hseg
    exact swapBytes_lt (segments_lt a seg' hseg')
  have hself := List.map_inj_left (l := segments a) (f := swapBytes) (g := id)
  rw [List.map_id] at hself
  rw [← segments_injective.eq_iff, hsegs, hself]
  exact forall₂_congr hswap

/-- The address is decoded as it was encoded, and shown so iff its segments have equal bytes. -/
theorem decode_sockaddrV6 (a : BitVec 128) :
    sockaddrInetToIpAddr (sockaddrV6 a) = some (.v6 a) ∧
      (sockaddrToString (sockaddrV6 a) = ipv6ToString a ↔
        ∀ seg ∈ segments a, seg / 256 = seg % 256) := by
  constructor
  · change some (IpAddr.v6 (ipv6FromOctets (ipv6Octets a))) = _
    rw [ipv6FromOctets_ipv6Octets]
  · change ipv6ToString (newIpv6Addr (words (ipv6Octets a))) = ipv6ToString a ↔ _
    rw [ipv6ToString_injective.eq_iff, words_ipv6Octets, newIpv6Addr_swapped_iff]

/-! ## The theorem -/

/-- `destination_ip_addr` of either kind of route. -/
def Route.destinationIpAddr : Route → IpAddr
  | .v4 route => .v4 route.destinationIpAddr
  | .v6 route => .v6 route.destinationIpAddr

/-- The address has no segments, or the two bytes of each are equal. -/
def SegmentsSymmetric : IpAddr → Prop
  | .v4 _ => True
  | .v6 a => ∀ seg ∈ segments a, seg / 256 = seg % 256

/-- **Decoding undoes encoding**, for every destination of both families. The text of what is
decoded is that of the destination iff it is an IPv4 address, or an IPv6 address whose segments have
two equal bytes each. -/
theorem sockaddr_decoded_iff (route : Route) :
    sockaddrInetToIpAddr route.row.destinationPrefix.address = some route.destinationIpAddr ∧
      (sockaddrToString route.row.destinationPrefix.address = route.destinationIpAddr.toText ↔
        SegmentsSymmetric route.destinationIpAddr) := by
  cases route with
  | v4 route =>
    obtain ⟨hdecoded, htext⟩ := decode_sockaddrV4 route.destinationIpAddr
    exact ⟨hdecoded, iff_of_true htext trivial⟩
  | v6 route => exact decode_sockaddrV6 route.destinationIpAddr

/-- A route to `2001:db8::1`. -/
def routeToDoc : Route :=
  .v6 {
    destinationIpAddr := 0x20010db8000000000000000000000001#128
    destinationPrefixLength := 128
    nextHopAddress := none
    interfaceIndex := 1 }

/-- The route to `2001:db8::1` is shown as one to `120:b80d::100`. -/
theorem shown_with_bytes_swapped :
    routeToDoc.destinationIpAddr.toText = "2001:db8::1" ∧
      sockaddrToString routeToDoc.row.destinationPrefix.address = "120:b80d::100" ∧
      sockaddrToString routeToDoc.row.destinationPrefix.address ≠
        routeToDoc.destinationIpAddr.toText := by
  decide

end Protun.Routing
