import Mathlib.Data.Prod.Lex
import Protun.Data.StableMin
import Protun.Windows.RoutingTable

/-!
# The interface that leads to the internet (`helpers/local_ip_finder.rs`)

`get_internet_interfaces` pairs the default routes of the routing table with the unicast addresses
of their interfaces, sorts the pairs by family and by the sum of the two metrics, and takes the
first of each family.

* The two tables, and what the system answers about an interface, are fields of `FinderOs`. They do
  not change while the function runs.
* `codeText` is the `Display` of the error codes of the `windows` crate.
* The `HashMap` from interfaces to addresses is a function; `sort_by_key` is a stable sort, like
  `List.insertionSort`.
* The sum of the metrics is a `u32` (`effective_metric`), which wraps around in a release build.
* The logging is left out, and with it `Display` and `print_addresses`.

What is to be found is said by `candidates`, a list in the order of the tables, and `List.argmin` of
the sum of the metrics as natural numbers.

* `filterMap_fromRoutes`: the pairs the code collects are the candidates, family by family.
* **`internet_interfaces_least_iff`**: the two results are the first least candidates iff no sum
  that wraps around wins by it.
* `overflowing_metric_wins`: the worse of two interfaces is taken.
-/

namespace Protun.LocalIp

open Routing StableMin

/-! ## Addresses -/

/-- `u32::from_be`, on a little-endian machine. -/
def u32FromBe (x : BitVec 32) : BitVec 32 :=
  (x <<< 24) ||| ((x &&& 0xff00) <<< 8) ||| ((x >>> 8) &&& 0xff00) ||| (x >>> 24)

/-- `Ipv6Addr::from([u8; 16])`. -/
def ipv6FromOctets (bytes : Bytes) : BitVec 128 :=
  BitVec.ofNat 128 (bytes.foldl (fun n b => 256 * n + b.toNat) 0)

/-- `sockaddr_inet_to_ip_addr`. -/
def sockaddrInetToIpAddr (sa : SockaddrInet) : Option IpAddr :=
  if sa.siFamily = afInet then some (.v4 (u32FromBe sa.sAddr))
  else if sa.siFamily = afInet6 then some (.v6 (ipv6FromOctets sa.byte))
  else none

/-- The address, if it is an IPv4 address. -/
def ofV4 : IpAddr → Option (BitVec 32)
  | .v4 a => some a
  | .v6 _ => none

/-- The address, if it is an IPv6 address. -/
def ofV6 : IpAddr → Option (BitVec 128)
  | .v4 _ => none
  | .v6 a => some a

/-! ## The system -/

/-- `MIB_IPFORWARD_ROW2` with the interface's LUID. -/
structure RouteRow extends MibIpforwardRow where
  interfaceLuid : UInt64
  deriving DecidableEq, Repr

/-- `MIB_UNICASTIPADDRESS_ROW`. -/
structure AddressRow where
  interfaceLuid : UInt64
  address : SockaddrInet
  deriving DecidableEq, Repr

/-- `MIB_IF_ROW2`, the fields the code reads. -/
structure MibIfRow where
  adminStatus : Int
  operStatus : Int
  mediaConnectState : Int
  deriving DecidableEq, Repr

/-- `GUID`, as `to_u128` gives it. -/
abbrev Guid := BitVec 128

/-- `ADAPTER_GUID`. -/
def adapterGuid : Guid := 207251590231051553767137937883512590316

/-- The calls of the IP helper API. -/
structure FinderOs where
  /-- The table may be a null pointer. -/
  getIpForwardTable2 : Except Win32Error (Option (List RouteRow))
  getUnicastIpAddressTable : Except Win32Error (Option (List AddressRow))
  convertInterfaceLuidToGuid : UInt64 → Option Guid
  getIfEntry2 : UInt64 → Option MibIfRow
  /-- The metric of the interface for an address family. -/
  getIpInterfaceEntry : UInt64 → UInt16 → Option UInt32
  codeText : Win32Error → String

variable (os : FinderOs)

/-! ## The code -/

/-- `is_route_interface_up`. The three statuses that are asked for are all 1. -/
def isRouteInterfaceUp (route : RouteRow) : Option Bool :=
  (os.getIfEntry2 route.interfaceLuid).map fun row =>
    row.adminStatus = 1 && row.operStatus = 1 && row.mediaConnectState = 1

/-- `get_interface_metric`. -/
def getInterfaceMetric (route : RouteRow) (addressFamily : UInt16) : Option UInt32 :=
  os.getIpInterfaceEntry route.interfaceLuid addressFamily

/-- `create_internet_interface`. -/
def createInternetInterface (route : RouteRow) : IpAddr → Option InternetInterface
  | .v4 ipv4addr =>
    match sockaddrInetToIpAddr route.nextHop with
    | some (.v4 ipv4NextHop) =>
      (getInterfaceMetric os route afInet).map fun interfaceMetric =>
        .v4 {
          interfaceMetric
          anyRouteMetric := route.metric
          localIp := ipv4addr
          interfaceIndex := route.interfaceIndex
          nextHop := ipv4NextHop }
    | some (.v6 _) | none => none
  | .v6 ipv6addr =>
    match sockaddrInetToIpAddr route.nextHop with
    | some (.v6 ipv6NextHop) =>
      (getInterfaceMetric os route afInet6).map fun interfaceMetric =>
        .v6 {
          interfaceMetric
          anyRouteMetric := route.metric
          localIp := ipv6addr
          interfaceIndex := route.interfaceIndex
          nextHop := ipv6NextHop }
    | some (.v4 _) | none => none

/-- `HashMap<InterfaceLuid, Vec<IpAddr>>`. -/
abbrev AddressMap := UInt64 → Option (List IpAddr)

/-- One round of the loop over the address table. -/
def pushAddress (map : AddressMap) (row : AddressRow) : AddressMap :=
  match sockaddrInetToIpAddr row.address with
  | some ip =>
    fun luid => if luid = row.interfaceLuid then some ((map luid).getD [] ++ [ip]) else map luid
  | none => map

/-- The loop that fills `ip_addresses_by_interface_luid`. -/
def ipAddressesByInterfaceLuid (ipAddresses : List AddressRow) : AddressMap :=
  ipAddresses.foldl pushAddress fun _ => none

/-- `get_internet_interfaces_from_route`. -/
def getInternetInterfacesFromRoute (map : AddressMap) (route : RouteRow) :
    List InternetInterface :=
  if isRouteInterfaceUp os route = some true then
    match map route.interfaceLuid with
    | some ipAddresses => ipAddresses.filterMap (createInternetInterface os route)
    | none => []
  else []

/-- One round of the loop of `get_internet_interfaces_from_routes`. -/
def addRoute (map : AddressMap) (interfaces : List InternetInterface) (route : RouteRow) :
    List InternetInterface :=
  match os.convertInterfaceLuidToGuid route.interfaceLuid with
  | some guid =>
    if guid ≠ adapterGuid then interfaces ++ getInternetInterfacesFromRoute os map route
    else interfaces
  | none => interfaces

/-- `get_internet_interfaces_from_routes`. -/
def getInternetInterfacesFromRoutes (map : AddressMap) (routes : List RouteRow) :
    List InternetInterface :=
  (routes.filter (·.destinationPrefix.prefixLength = 0)).foldl (addRoute os map) []

/-- `effective_metric`. -/
def effectiveMetric {w : Nat} (i : IpInternetInterface w) : UInt32 :=
  i.interfaceMetric + i.anyRouteMetric

/-- The key of `sort_by_key`. -/
def sortKey : InternetInterface → Nat ×ₗ Nat
  | .v4 i => toLex (4, (effectiveMetric i).toNat)
  | .v6 i => toLex (6, (effectiveMetric i).toNat)

/-- What `get_potential_internet_interfaces` makes of the tables. -/
def potentialInternetInterfaces (routes : List RouteRow) (ipAddresses : List AddressRow) :
    Except ProTunFatalError (List InternetInterface) :=
  let interfaces := (getInternetInterfacesFromRoutes os (ipAddressesByInterfaceLuid ipAddresses)
    routes).insertionSort fun a b => sortKey a ≤ sortKey b
  if interfaces.isEmpty then .error (.noLocalIp "No valid local internet IP addresses")
  else .ok interfaces

/-- `get_potential_internet_interfaces`. -/
def getPotentialInternetInterfaces : Except ProTunFatalError (List InternetInterface) :=
  match os.getIpForwardTable2 with
  | .error code =>
    .error (.noLocalIp
      s!"Error when getting the routing table. Win32 error code: {os.codeText code}")
  | .ok none => .error (.noLocalIp "GetIpForwardTable2 returned a null routing table")
  | .ok (some routes) =>
    match os.getUnicastIpAddressTable with
    | .error code =>
      .error (.noLocalIp
        s!"Error when getting the unicast IP address table. Win32 error code: {os.codeText code}")
    | .ok none => .error (.noLocalIp "GetUnicastIpAddressTable returned a null address table")
    | .ok (some ipAddresses) => potentialInternetInterfaces os routes ipAddresses

/-- `get_internet_interfaces`. -/
def getInternetInterfaces : Except ProTunFatalError
    (Option (IpInternetInterface 32) × Option (IpInternetInterface 128)) :=
  (getPotentialInternetInterfaces os).map fun interfaces =>
    (interfaces.findSome? InternetInterface.v4?, interfaces.findSome? InternetInterface.v6?)

/-! ## What is to be found -/

/-- The route leads to the internet, over an interface that is up and is not the library's. -/
def LeadsOut (route : RouteRow) : Prop :=
  route.destinationPrefix.prefixLength = 0 ∧
    (∃ guid ∈ os.convertInterfaceLuidToGuid route.interfaceLuid, guid ≠ adapterGuid) ∧
    isRouteInterfaceUp os route = some true

instance (route : RouteRow) : Decidable (LeadsOut os route) :=
  decidable_of_iff (route.destinationPrefix.prefixLength = 0 ∧
      (os.convertInterfaceLuidToGuid route.interfaceLuid).any (· ≠ adapterGuid) = true ∧
      isRouteInterfaceUp os route = some true) (by simp [LeadsOut, Option.any_eq_true])

/-- The interface of a route for an address of a family, whose addresses are `ofFamily`. The next
hop is to be of the same family. -/
def interfaceFor {w : Nat} (ofFamily : IpAddr → Option (BitVec w)) (addressFamily : UInt16)
    (route : RouteRow) (ip : IpAddr) : Option (IpInternetInterface w) := do
  let localIp ← ofFamily ip
  let nextHop ← (sockaddrInetToIpAddr route.nextHop).bind ofFamily
  let interfaceMetric ← getInterfaceMetric os route addressFamily
  pure {
    interfaceMetric
    anyRouteMetric := route.metric
    localIp
    interfaceIndex := route.interfaceIndex
    nextHop }

/-- The candidate of a route and an address row. -/
def candidate {w : Nat} (ofFamily : IpAddr → Option (BitVec w)) (addressFamily : UInt16)
    (route : RouteRow) (row : AddressRow) : Option (IpInternetInterface w) :=
  if LeadsOut os route ∧ row.interfaceLuid = route.interfaceLuid then
    (sockaddrInetToIpAddr row.address).bind (interfaceFor os ofFamily addressFamily route)
  else none

/-- The candidates of a family in the order of the tables. -/
def candidates {w : Nat} (ofFamily : IpAddr → Option (BitVec w)) (addressFamily : UInt16)
    (routes : List RouteRow) (ipAddresses : List AddressRow) : List (IpInternetInterface w) :=
  routes.flatMap fun route => ipAddresses.filterMap (candidate os ofFamily addressFamily route)

/-- The sum of the metrics, as natural numbers. -/
def metricSum {w : Nat} (i : IpInternetInterface w) : Nat :=
  i.interfaceMetric.toNat + i.anyRouteMetric.toNat

/-! ## The code collects the candidates -/

variable {os} {route : RouteRow} {routes : List RouteRow} {ipAddresses : List AddressRow}

/-- The address of a row, if the row is of the interface. -/
def addressOn (luid : UInt64) (row : AddressRow) : Option IpAddr :=
  if row.interfaceLuid = luid then sockaddrInetToIpAddr row.address else none

theorem getD_pushAddress (map : AddressMap) (row : AddressRow) (luid : UInt64) :
    (pushAddress map row luid).getD [] = (map luid).getD [] ++ (addressOn luid row).toList := by
  unfold pushAddress addressOn
  by_cases hluid : row.interfaceLuid = luid
  · subst hluid
    cases sockaddrInetToIpAddr row.address <;> simp
  · cases sockaddrInetToIpAddr row.address <;> simp [hluid, Ne.symm hluid]

theorem getD_ipAddressesByInterfaceLuid (ipAddresses : List AddressRow) (luid : UInt64) :
    (ipAddressesByInterfaceLuid ipAddresses luid).getD [] =
      ipAddresses.filterMap (addressOn luid) := by
  unfold ipAddressesByInterfaceLuid
  induction ipAddresses using List.reverseRecOn with
  | nil => rfl
  | append_singleton rows row ih =>
    rw [List.foldl_concat, getD_pushAddress, ih, List.filterMap_append]
    cases h : addressOn luid row <;> simp [h]

theorem fromRoute_eq (ipAddresses : List AddressRow) (route : RouteRow) :
    getInternetInterfacesFromRoute os (ipAddressesByInterfaceLuid ipAddresses) route =
      if isRouteInterfaceUp os route = some true then
        (ipAddresses.filterMap (addressOn route.interfaceLuid)).filterMap
          (createInternetInterface os route)
      else [] := by
  unfold getInternetInterfacesFromRoute
  rw [← getD_ipAddressesByInterfaceLuid]
  cases ipAddressesByInterfaceLuid ipAddresses route.interfaceLuid <;> rfl

/-- The interfaces that a route adds. -/
def interfacesOf (os : FinderOs) (ipAddresses : List AddressRow) (route : RouteRow) :
    List InternetInterface :=
  if LeadsOut os route then
    (ipAddresses.filterMap (addressOn route.interfaceLuid)).filterMap
      (createInternetInterface os route)
  else []

theorem addRoute_eq (hdefault : route.destinationPrefix.prefixLength = 0)
    (ipAddresses : List AddressRow) (interfaces : List InternetInterface) :
    addRoute os (ipAddressesByInterfaceLuid ipAddresses) interfaces route =
      interfaces ++ interfacesOf os ipAddresses route := by
  unfold addRoute
  split
  · rename_i guid hguid
    by_cases hadapter : guid = adapterGuid
    · have hout : ¬ LeadsOut os route := by
        rintro ⟨-, ⟨guid', hguid', hne⟩, -⟩
        rw [hguid] at hguid'
        exact hne (Option.some.inj hguid' ▸ hadapter)
      rw [if_neg (not_not.mpr hadapter), interfacesOf, if_neg hout, List.append_nil]
    · have hout : LeadsOut os route ↔ isRouteInterfaceUp os route = some true :=
        ⟨fun h => h.2.2, fun hup => ⟨hdefault, ⟨guid, hguid, hadapter⟩, hup⟩⟩
      rw [if_pos hadapter, fromRoute_eq, interfacesOf]
      simp only [hout]
  · rename_i hguid
    have hout : ¬ LeadsOut os route := by
      rintro ⟨-, ⟨guid, hguid', -⟩, -⟩
      rw [hguid] at hguid'
      cases hguid'
    rw [interfacesOf, if_neg hout, List.append_nil]

theorem fromRoutes_eq (routes : List RouteRow) (ipAddresses : List AddressRow) :
    getInternetInterfacesFromRoutes os (ipAddressesByInterfaceLuid ipAddresses) routes =
      routes.flatMap (interfacesOf os ipAddresses) := by
  unfold getInternetInterfacesFromRoutes
  induction routes using List.reverseRecOn with
  | nil => rfl
  | append_singleton routes route ih =>
    rw [List.filter_append, List.foldl_append, ih, List.flatMap_append, List.flatMap_singleton]
    by_cases hdefault : route.destinationPrefix.prefixLength = 0
    · rw [List.filter_cons_of_pos (by simpa using hdefault)]
      exact addRoute_eq hdefault ipAddresses _
    · rw [List.filter_cons_of_neg (by simpa using hdefault), interfacesOf,
        if_neg fun h => hdefault h.1, List.append_nil]
      rfl

/-- An interface is created of one family, that of the address and of the next hop. -/
theorem create_families (route : RouteRow) (ip : IpAddr) :
    (createInternetInterface os route ip).bind InternetInterface.v4? =
        interfaceFor os ofV4 afInet route ip ∧
      (createInternetInterface os route ip).bind InternetInterface.v6? =
        interfaceFor os ofV6 afInet6 route ip := by
  unfold createInternetInterface interfaceFor
  rcases ip with ip | ip
  · rcases sockaddrInetToIpAddr route.nextHop with _ | (hop | hop)
    · exact ⟨rfl, rfl⟩
    · cases getInterfaceMetric os route afInet <;> exact ⟨rfl, rfl⟩
    · exact ⟨rfl, rfl⟩
  · rcases sockaddrInetToIpAddr route.nextHop with _ | (hop | hop)
    · exact ⟨rfl, rfl⟩
    · exact ⟨rfl, rfl⟩
    · cases getInterfaceMetric os route afInet6 <;> exact ⟨rfl, rfl⟩

section Family

variable {w : Nat} {g : InternetInterface → Option (IpInternetInterface w)}
  {ofFamily : IpAddr → Option (BitVec w)} {addressFamily : UInt16}

/-- **What the code collects of a family are its candidates**, in the order of the tables. -/
theorem filterMap_fromRoutes
    (hg : ∀ route ip, (createInternetInterface os route ip).bind g =
      interfaceFor os ofFamily addressFamily route ip)
    (routes : List RouteRow) (ipAddresses : List AddressRow) :
    (getInternetInterfacesFromRoutes os (ipAddressesByInterfaceLuid ipAddresses) routes).filterMap
      g = candidates os ofFamily addressFamily routes ipAddresses := by
  unfold candidates
  rw [fromRoutes_eq, List.filterMap_flatMap]
  refine List.flatMap_congr fun route _ => ?_
  unfold interfacesOf
  by_cases hout : LeadsOut os route
  · rw [if_pos hout, List.filterMap_filterMap, List.filterMap_filterMap]
    refine List.filterMap_congr fun row _ => ?_
    unfold addressOn candidate
    by_cases hluid : row.interfaceLuid = route.interfaceLuid
    · rw [if_pos hluid, if_pos ⟨hout, hluid⟩]
      exact congrArg _ (funext (hg route))
    · rw [if_neg hluid, if_neg fun h => hluid h.2]
      rfl
  · rw [if_neg hout]
    symm
    refine List.filterMap_eq_nil_iff.mpr fun row _ => ?_
    exact if_neg fun h => hout h.1

theorem effectiveMetric_toNat (i : IpInternetInterface w) :
    (effectiveMetric i).toNat = metricSum i % UInt32.size :=
  UInt32.toNat_add _ _

theorem metricSum_lt (i : IpInternetInterface w) : metricSum i < 2 * UInt32.size := by
  have hinterface := i.interfaceMetric.toNat_lt_size
  have hroute := i.anyRouteMetric.toNat_lt_size
  unfold metricSum
  omega

/-- The first of the sorted interfaces of a family. -/
theorem findSome?_sorted
    (hkey : ∀ a a' i i', g a = some i → g a' = some i' →
      (sortKey a ≤ sortKey a' ↔ (effectiveMetric i).toNat ≤ (effectiveMetric i').toNat))
    (hg : ∀ route ip, (createInternetInterface os route ip).bind g =
      interfaceFor os ofFamily addressFamily route ip)
    (routes : List RouteRow) (ipAddresses : List AddressRow) :
    ((getInternetInterfacesFromRoutes os (ipAddressesByInterfaceLuid ipAddresses)
      routes).insertionSort fun a b => sortKey a ≤ sortKey b).findSome? g =
        (candidates os ofFamily addressFamily routes ipAddresses).argmin
          (fun i => metricSum i % UInt32.size) := by
  have hsum : (fun i : IpInternetInterface w => metricSum i % UInt32.size) =
      fun i => (effectiveMetric i).toNat := funext fun i => (effectiveMetric_toNat i).symm
  rw [hsum, ← filterMap_fromRoutes hg]
  exact findSome?_insertionSort hkey _

end Family

theorem sortKey_v4 (a a' : InternetInterface) (i i' : IpInternetInterface 32)
    (ha : a.v4? = some i) (ha' : a'.v4? = some i') :
    sortKey a ≤ sortKey a' ↔ (effectiveMetric i).toNat ≤ (effectiveMetric i').toNat := by
  cases a <;> cases ha
  cases a' <;> cases ha'
  simp [sortKey, Prod.Lex.le_iff]

theorem sortKey_v6 (a a' : InternetInterface) (i i' : IpInternetInterface 128)
    (ha : a.v6? = some i) (ha' : a'.v6? = some i') :
    sortKey a ≤ sortKey a' ↔ (effectiveMetric i).toNat ≤ (effectiveMetric i').toNat := by
  cases a <;> cases ha
  cases a' <;> cases ha'
  simp [sortKey, Prod.Lex.le_iff]

/-- Every interface is of one of the two families. -/
theorem eq_nil_iff_families (interfaces : List InternetInterface) :
    interfaces = [] ↔ interfaces.filterMap InternetInterface.v4? = [] ∧
      interfaces.filterMap InternetInterface.v6? = [] := by
  cases interfaces with
  | nil => simp
  | cons a interfaces => cases a <;> simp [InternetInterface.v4?, InternetInterface.v6?]

/-! ## The theorem -/

/-- What `get_internet_interfaces` gives for the two tables. -/
theorem getInternetInterfaces_eq (hroutes : os.getIpForwardTable2 = .ok (some routes))
    (haddresses : os.getUnicastIpAddressTable = .ok (some ipAddresses)) :
    getInternetInterfaces os =
      if candidates os ofV4 afInet routes ipAddresses = [] ∧
          candidates os ofV6 afInet6 routes ipAddresses = [] then
        .error (.noLocalIp "No valid local internet IP addresses")
      else
        .ok ((candidates os ofV4 afInet routes ipAddresses).argmin (metricSum · % UInt32.size),
          (candidates os ofV6 afInet6 routes ipAddresses).argmin (metricSum · % UInt32.size)) := by
  unfold getInternetInterfaces getPotentialInternetInterfaces
  rw [hroutes, haddresses]
  unfold potentialInternetInterfaces
  have hv4 := fun route ip => (@create_families os route ip).1
  have hv6 := fun route ip => (@create_families os route ip).2
  have hempty : (getInternetInterfacesFromRoutes os (ipAddressesByInterfaceLuid ipAddresses)
      routes).insertionSort (fun a b => sortKey a ≤ sortKey b) = [] ↔
        candidates os ofV4 afInet routes ipAddresses = [] ∧
          candidates os ofV6 afInet6 routes ipAddresses = [] := by
    rw [← filterMap_fromRoutes hv4, ← filterMap_fromRoutes hv6, ← eq_nil_iff_families,
      ← List.length_eq_zero_iff, List.length_insertionSort, List.length_eq_zero_iff]
  dsimp only
  by_cases hnone : candidates os ofV4 afInet routes ipAddresses = [] ∧
      candidates os ofV6 afInet6 routes ipAddresses = []
  · rw [if_pos hnone, if_pos (List.isEmpty_iff.mpr (hempty.mpr hnone))]
    rfl
  · rw [if_neg hnone, if_neg fun h => hnone (hempty.mp (List.isEmpty_iff.mp h))]
    rw [← findSome?_sorted sortKey_v4 hv4, ← findSome?_sorted sortKey_v6 hv6]
    rfl

/-- **The first interfaces of least metric.** With the two tables given, the results are the first
candidates with the least sum of metrics, family by family, and an error exactly if there is no
candidate at all, iff in neither family a sum that wraps around wins by it. -/
theorem internet_interfaces_least_iff (hroutes : os.getIpForwardTable2 = .ok (some routes))
    (haddresses : os.getUnicastIpAddressTable = .ok (some ipAddresses)) :
    getInternetInterfaces os =
      (if candidates os ofV4 afInet routes ipAddresses = [] ∧
          candidates os ofV6 afInet6 routes ipAddresses = [] then
        .error (.noLocalIp "No valid local internet IP addresses")
      else
        .ok ((candidates os ofV4 afInet routes ipAddresses).argmin metricSum,
          (candidates os ofV6 afInet6 routes ipAddresses).argmin metricSum)) ↔
    FairlyWrapped UInt32.size metricSum (candidates os ofV4 afInet routes ipAddresses) ∧
      FairlyWrapped UInt32.size metricSum (candidates os ofV6 afInet6 routes ipAddresses) := by
  rw [getInternetInterfaces_eq hroutes haddresses, ← argmin_mod_iff fun i _ => metricSum_lt i,
    ← argmin_mod_iff fun i _ => metricSum_lt i]
  by_cases hnone : candidates os ofV4 afInet routes ipAddresses = [] ∧
      candidates os ofV6 afInet6 routes ipAddresses = []
  · rw [if_pos hnone, if_pos hnone, hnone.1, hnone.2]
    simp
  · rw [if_neg hnone, if_neg hnone, Except.ok.injEq, Prod.mk.injEq]

/-- Default routes over the interfaces with the LUIDs 1 and 2. -/
def twoRoutes : List RouteRow :=
  [⟨⟨⟨sockaddrV4 0, 0⟩, sockaddrV4 0x0a000001, 11, 0⟩, 1⟩,
    ⟨⟨⟨sockaddrV4 0, 0⟩, sockaddrV4 0x0a000002, 12, 1⟩, 2⟩]

/-- An IPv4 address on each of them. -/
def twoAddresses : List AddressRow := [⟨1, sockaddrV4 0x0a000101⟩, ⟨2, sockaddrV4 0x0a000102⟩]

/-- A system with these tables, where both interfaces are up and have the metrics `m₁` and `m₂`. -/
def twoInterfaces (m₁ m₂ : UInt32) : FinderOs where
  getIpForwardTable2 := .ok (some twoRoutes)
  getUnicastIpAddressTable := .ok (some twoAddresses)
  convertInterfaceLuidToGuid luid := some (BitVec.ofNat 128 luid.toNat)
  getIfEntry2 _ := some ⟨1, 1, 1⟩
  getIpInterfaceEntry luid _ := some (if luid = 1 then m₁ else m₂)
  codeText _ := ""

/-- The candidates there. -/
def twoCandidates (m₁ m₂ : UInt32) : List (IpInternetInterface 32) :=
  [⟨m₁, 0, 0x0a000101, 11, 0x0a000001⟩, ⟨m₂, 1, 0x0a000102, 12, 0x0a000002⟩]

/-- Without a sum that wraps around, the interface with the lesser sum is taken. -/
theorem internet_interfaces_least_two :
    getInternetInterfaces (twoInterfaces 25 10) =
      .ok (some ⟨10, 1, 0x0a000102, 12, 0x0a000002⟩, none) := by
  have hv4 : candidates (twoInterfaces 25 10) ofV4 afInet twoRoutes twoAddresses =
      twoCandidates 25 10 := by decide +kernel
  have hv6 : candidates (twoInterfaces 25 10) ofV6 afInet6 twoRoutes twoAddresses = [] := by
    decide +kernel
  have hfair : FairlyWrapped UInt32.size metricSum (twoCandidates 25 10) := by
    exact fairlyWrapped_of_forall_lt (by decide +kernel)
  refine ((@internet_interfaces_least_iff (twoInterfaces 25 10) twoRoutes twoAddresses
    rfl rfl).mpr ?_).trans ?_
  · exact ⟨hv4 ▸ hfair, hv6 ▸ fairlyWrapped_of_forall_lt (by simp)⟩
  · rw [hv4, hv6]
    decide +kernel

/-- An interface with the metric `u32::MAX` and a route of metric 1 is taken before one with the
metrics 5 and 0, which comes first in both tables too. -/
theorem overflowing_metric_wins :
    candidates (twoInterfaces 5 0xffffffff) ofV4 afInet twoRoutes twoAddresses =
        twoCandidates 5 0xffffffff ∧
      (twoCandidates 5 0xffffffff).map metricSum = [5, 4294967296] ∧
      getInternetInterfaces (twoInterfaces 5 0xffffffff) =
        .ok ((twoCandidates 5 0xffffffff)[1]?, none) := by
  decide +kernel

end Protun.LocalIp
