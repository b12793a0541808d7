import Mathlib.Data.Int.Order.Basic
import Protun.Client
import Protun.Data.BestPerKey
import Protun.Data.Table

/-!
# Candidate peers (`sanitized_peers.rs`, `util.rs`)

`SanitizedPeers` is a list of peers no two of which have the same entry IP. `fromPeers` builds it
with the pass of `BestPerKey`: for every IP the first peer of least priority value survives
(`fromPeers_keeps_best`). The client's address of a peer (`addr`) determines its IP and is
determined by it, so the addresses of a sanitised list are distinct too
(`SanitizedPeers.addr_nodup`), which is what `update_peers` relies on.

`as_peer` hands the priority on as an `i16`. **`fromPeers_priority_order_iff`** says which lists and
which ranges of priorities the client sees in order.
-/

namespace Protun

/-- `as i16` of an `i32`: the low 16 bits, signed. -/
def asI16 (n : Int) : Int := n.bmod 65536

/-- How often `as i16` wraps `n` around: the number of the window of 65536 values, the window 0
being that of the `i16`s. -/
def wraps (n : Int) : Int := (n + 32768) / 65536

theorem asI16_eq (n : Int) : asI16 n = n - 65536 * wraps n := by
  unfold asI16 wraps Int.bmod
  dsimp only
  split <;> omega

/-- The windows, one beside the other. -/
theorem wraps_eq_iff {n k : Int} :
    wraps n = k ↔ 65536 * k - 32768 ≤ n ∧ n ≤ 65536 * k + 32767 := by
  unfold wraps
  omega

/-- Two numbers of different windows that lie less than 65536 apart change places. -/
theorem asI16_lt_iff_of_wraps_ne {m n : Int} (hne : wraps m ≠ wraps n) (h : n - m < 65536)
    (h' : m - n < 65536) : asI16 m < asI16 n ↔ n < m := by
  rw [asI16_eq, asI16_eq]
  unfold wraps at hne ⊢
  omega

namespace PeerInfo

/-- `PeerInfo::addr`. -/
def addr (p : PeerInfo) : PeerAddr :=
  match p.serverIp with
  | .v4 a => .ipv4 a
  | .v6 a => .ipv6 a

/-- `PeerInfo::to_non_zero_vec`. -/
def toNonZeroVec (ports : List UInt16) : List NonZeroU16 :=
  ports.filterMap fun x => if h : x ≠ 0 then some ⟨x, h⟩ else none

/-- `PeerInfo::as_peer`. -/
def asPeer (p : PeerInfo) : Peer where
  addr := p.addr
  publicKey := p.serverPublicKey
  tag := some p.peerId
  udpPorts := toNonZeroVec p.udpPorts
  tcpPorts := toNonZeroVec p.tcpPorts
  tlsPorts := toNonZeroVec p.tlsPorts
  priority := asI16 p.priority
  bouncingLabels :=
    match p.exitLabel with
    | some label => [label]
    | none => []

/-- The address names the entry IP. -/
theorem addr_inj {p q : PeerInfo} : p.addr = q.addr ↔ p.serverIp = q.serverIp := by
  unfold addr
  cases p.serverIp <;> cases q.serverIp <;> simp

end PeerInfo

/-- `SanitizedPeers`: no two peers share an entry IP. -/
structure SanitizedPeers where
  list : List PeerInfo
  nodup : (list.map PeerInfo.serverIp).Nodup
  deriving DecidableEq

namespace SanitizedPeers

/-- The `duplicates_idx` of `SanitizedPeers::from`. -/
def duplicatesIdx (peers : List PeerInfo) : List Nat :=
  BestPerKey.duplicates PeerInfo.serverIp PeerInfo.priority peers

/-- `SanitizedPeers::from`, on lists. -/
def sanitize (peers : List PeerInfo) : List PeerInfo :=
  if (duplicatesIdx peers).isEmpty then peers
  else BestPerKey.dropDuplicates PeerInfo.serverIp PeerInfo.priority peers

/-- Without duplicates the early return gives what the second pass would. -/
theorem sanitize_eq (peers : List PeerInfo) :
    sanitize peers = BestPerKey.dropDuplicates PeerInfo.serverIp PeerInfo.priority peers := by
  unfold sanitize
  split
  · rename_i h
    unfold duplicatesIdx at h
    unfold BestPerKey.dropDuplicates
    rw [List.isEmpty_iff.mp h]
    simp
  · rfl

theorem sanitize_nodup (peers : List PeerInfo) :
    ((sanitize peers).map PeerInfo.serverIp).Nodup := by
  rw [sanitize_eq]
  exact BestPerKey.nodup_keys_dropDuplicates _ _ _

/-- `SanitizedPeers::from`. -/
def fromPeers (peers : List PeerInfo) : SanitizedPeers := ⟨sanitize peers, sanitize_nodup peers⟩

/-- Two sanitised lists are equal if their peers are. -/
theorem list_inj {peers peers' : SanitizedPeers} (h : peers.list = peers'.list) :
    peers = peers' := by
  cases peers
  cases peers'
  congr

/-- A list without a repeated entry IP is left as it is. -/
theorem sanitize_of_nodup {peers : List PeerInfo} (h : (peers.map PeerInfo.serverIp).Nodup) :
    sanitize peers = peers := by
  have hnone : duplicatesIdx peers = [] := BestPerKey.duplicates_of_nodup _ _ h
  unfold sanitize
  simp [hnone]

/-- **The first peer of least priority of every entry IP, in the order of the input.** The indices
that are left are those of the first peers of least priority, one for every IP that occurs. The
list of duplicate indices has no repetition, so the capacity `peers.len() - duplicates_idx.len()`
does not underflow and is the length of the result. A sanitised list is left as it is. -/
theorem fromPeers_keeps_best (peers : List PeerInfo) :
    (∃ kept : List Nat, kept.Pairwise (· < ·) ∧
      (∀ i, i ∈ kept ↔
        ∃ p, BestPerKey.FirstLeast PeerInfo.serverIp PeerInfo.priority peers i p) ∧
      (fromPeers peers).list = kept.filterMap (peers[·]?)) ∧
    (∀ ip ∈ peers.map PeerInfo.serverIp, ∃ i p,
      BestPerKey.FirstLeast PeerInfo.serverIp PeerInfo.priority peers i p ∧ p.serverIp = ip ∧
      (fromPeers peers).list.filter (·.serverIp = ip) = [p]) ∧
    (duplicatesIdx peers).Nodup ∧
    (duplicatesIdx peers).length ≤ peers.length ∧
    (fromPeers peers).list.length = peers.length - (duplicatesIdx peers).length ∧
    fromPeers (fromPeers peers).list = fromPeers peers := by
  have hlist : (fromPeers peers).list =
      BestPerKey.dropDuplicates PeerInfo.serverIp PeerInfo.priority peers := sanitize_eq peers
  have hlength := BestPerKey.length_dropDuplicates PeerInfo.serverIp PeerInfo.priority peers
  rw [← hlist] at hlength
  obtain ⟨best, hscan⟩ := BestPerKey.scanInv_duplicates PeerInfo.serverIp PeerInfo.priority peers
  refine ⟨?_, ?_, hscan.dups_nodup, ?_, ?_, ?_⟩
  · refine ⟨_, BestPerKey.kept_increasing _ _ peers, BestPerKey.mem_kept _ _ peers, ?_⟩
    rw [hlist, BestPerKey.dropDuplicates_eq]
  · intro ip hip
    obtain ⟨q, hq, rfl⟩ := List.mem_map.mp hip
    rw [hlist]
    exact BestPerKey.filter_key_dropDuplicates _ _ hq
  · unfold duplicatesIdx
    omega
  · unfold duplicatesIdx
    omega
  · exact list_inj (sanitize_of_nodup (fromPeers peers).nodup)

/-- `SanitizedPeers::is_empty`. -/
def isEmpty (peers : SanitizedPeers) : Bool := peers.list.isEmpty

/-- `SanitizedPeers::contains`, by whole-record equality. -/
def contains (peers : SanitizedPeers) (p : PeerInfo) : Bool := p ∈ peers.list

theorem addr_nodup (peers : SanitizedPeers) : (peers.list.map PeerInfo.addr).Nodup := by
  refine List.pairwise_map.mpr ((List.pairwise_map.mp peers.nodup).imp ?_)
  intro p q h heq
  exact h (PeerInfo.addr_inj.mp heq)

/-! ## Priorities -/

/-- The client sees the order of the priorities. The peers are compared as `i32` here and as `i16`
by the client. -/
def OrderKept (peers : SanitizedPeers) : Prop :=
  ∀ p ∈ peers.list, ∀ q ∈ peers.list,
    (p.priority < q.priority ↔ p.asPeer.priority < q.asPeer.priority)

/-- The priorities lie between `lo` and `hi`. -/
def Within (lo hi : Int) (peers : SanitizedPeers) : Prop :=
  ∀ p ∈ peers.list, lo ≤ p.priority ∧ p.priority ≤ hi

/-- The priorities lie less than 65536 apart. -/
def Close (peers : SanitizedPeers) : Prop :=
  ∀ p ∈ peers.list, ∀ q ∈ peers.list, q.priority - p.priority < 65536

/-- The priorities lie in the window `k` of 65536 values, as those that fit an `i16` lie in the
window 0. -/
def InWindow (k : Int) (peers : SanitizedPeers) : Prop :=
  peers.Within (65536 * k - 32768) (65536 * k + 32767)

section Windows

variable {peers : SanitizedPeers} {k : Int}

theorem InWindow.close (h : peers.InWindow k) : peers.Close := by
  intro p hp q hq
  have hp' := h p hp
  have hq' := h q hq
  omega

theorem InWindow.orderKept (h : peers.InWindow k) : peers.OrderKept := by
  intro p hp q hq
  have hp' : wraps p.priority = k := wraps_eq_iff.mpr (h p hp)
  have hq' : wraps q.priority = k := wraps_eq_iff.mpr (h q hq)
  change _ ↔ asI16 p.priority < asI16 q.priority
  rw [asI16_eq, asI16_eq, hp', hq']
  omega

/-- Between two windows that touch the order is lost. -/
theorem OrderKept.wraps_eq (hkept : peers.OrderKept) (hclose : peers.Close) {p q : PeerInfo}
    (hp : p ∈ peers.list) (hq : q ∈ peers.list) : wraps p.priority = wraps q.priority := by
  by_contra hne
  have hlt : p.priority < q.priority ↔ asI16 p.priority < asI16 q.priority := hkept p hp q hq
  rw [asI16_lt_iff_of_wraps_ne hne (hclose p hp q hq) (hclose q hq p hp)] at hlt
  have heq : p.priority = q.priority := by omega
  exact hne (by rw [heq])

theorem exists_inWindow_iff : (∃ k, peers.InWindow k) ↔ peers.Close ∧ peers.OrderKept := by
  constructor
  · rintro ⟨k, h⟩
    exact ⟨h.close, h.orderKept⟩
  · rintro ⟨hclose, hkept⟩
    rcases hlist : peers.list with _ | ⟨p, rest⟩
    · exact ⟨0, fun p hp => absurd (hlist ▸ hp) List.not_mem_nil⟩
    · have hp : p ∈ peers.list := hlist ▸ List.mem_cons_self
      exact ⟨wraps p.priority, fun q hq => wraps_eq_iff.mp (hkept.wraps_eq hclose hq hp)⟩

end Windows

/-- A peer of which only the entry IP and the priority matter. -/
def peerAt (ip : BitVec 32) (priority : Int) : PeerInfo where
  peerId := ""
  serverIp := .v4 ip
  serverPublicKey := Vector.replicate 32 0
  udpPorts := []
  tcpPorts := []
  tlsPorts := []
  priority := priority
  exitLabel := none

theorem fromPeers_peerAt (priority priority' : Int) :
    (fromPeers [peerAt 1 priority, peerAt 2 priority']).list =
      [peerAt 1 priority, peerAt 2 priority'] := by
  have hips : ([peerAt 1 priority, peerAt 2 priority'].map PeerInfo.serverIp).Nodup := by
    change [IpAddr.v4 1, IpAddr.v4 2].Nodup
    decide
  exact sanitize_of_nodup hips

/-- The last priority of a window and the first one of the next change places. -/
theorem not_orderKept_at_border (k : Int) :
    ¬ (fromPeers [peerAt 1 (65536 * k + 32767), peerAt 2 (65536 * k + 32768)]).OrderKept := by
  intro hkept
  have hlist := fromPeers_peerAt (65536 * k + 32767) (65536 * k + 32768)
  have hlt := (hkept _ (hlist ▸ List.mem_cons_self) _
    (hlist ▸ List.mem_cons_of_mem _ List.mem_cons_self)).mp (by simp [peerAt])
  have hne : wraps (65536 * k + 32767) ≠ wraps (65536 * k + 32768) := by
    unfold wraps
    omega
  have hgt := (asI16_lt_iff_of_wraps_ne hne (by omega) (by omega)).mp hlt
  omega

/-- **When the client sees the order of the priorities.** A list that survives has its priorities
in one window of 65536 values, as when they all fit an `i16`, iff they lie less than 65536 apart
and the client sees their order. Priorities that lie further apart are in order only by accident:
the client sees the order of every list with priorities between `lo` and `hi` iff these bounds lie
in one window. -/
theorem fromPeers_priority_order_iff (peers : List PeerInfo) (lo hi : Int) :
    ((∃ k, (fromPeers peers).InWindow k) ↔
      (fromPeers peers).Close ∧ (fromPeers peers).OrderKept) ∧
    ((∀ peers, (fromPeers peers).Within lo hi → (fromPeers peers).OrderKept) ↔
      ∃ k, 65536 * k - 32768 ≤ lo ∧ hi ≤ 65536 * k + 32767) := by
  refine ⟨exists_inWindow_iff, fun h => ?_, ?_⟩
  · refine ⟨wraps lo, (wraps_eq_iff.mp rfl).1, ?_⟩
    by_contra hborder
    have hlo := (wraps_eq_iff (n := lo).mp rfl).2
    refine not_orderKept_at_border (wraps lo) (h _ ?_)
    unfold Within
    rw [fromPeers_peerAt]
    simp only [List.forall_mem_cons, peerAt]
    refine ⟨by omega, by omega, by simp⟩
  · rintro ⟨k, hlo, hhi⟩ peers hwithin
    refine InWindow.orderKept (k := k) fun p hp => ?_
    have hp' := hwithin p hp
    omega

/-- The priority 40000 is -25536 as an `i16`, so the peer that is to come second comes first. -/
theorem priority_order_inverted :
    (fromPeers [peerAt 1 0, peerAt 2 40000]).list = [peerAt 1 0, peerAt 2 40000] ∧
    (peerAt 1 0).priority < (peerAt 2 40000).priority ∧
    (peerAt 2 40000).asPeer.priority < (peerAt 1 0).asPeer.priority :=
  ⟨fromPeers_peerAt 0 40000, by decide, by decide⟩

end SanitizedPeers

end Protun
