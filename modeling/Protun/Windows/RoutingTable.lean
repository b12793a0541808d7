import Mathlib.Tactic.SplitIfs
import Protun.Api.Types
import Protun.Trace.Past

/-!
# The routing table of Windows (`helpers/routing_table.rs`)

Rows of the table (`MIB_IPFORWARD_ROW2`), the routes the library asks for, and the functions that
add and delete them.

* The machine's routing table is part of the state. What a system call answers is up to the
  environment: any code at all. What it does follows from the code: `NO_ERROR` adds or deletes the
  row, every other code leaves the table as it is.
* A `SOCKADDR_INET` is a union; the fields the code uses, the family, the IPv4 address and the IPv6
  address, do not overlap.
* Two rows are of one route if destination, next hop and interface agree (`MibIpforwardRow.key`).
  The family of the next hop is not compared: a row whose next hop is not set is on-link, which the
  system writes as the zero address.
* Nobody else changes the table while a function runs. Before it, the table is arbitrary.
* The logging is left out, and with it `Display` and `row_to_string`.
-/

namespace Protun.Routing

open Trace

/-! ## Rows -/

/-- `WIN32_ERROR`. -/
abbrev Win32Error := UInt32

/-- `NO_ERROR`. -/
def noError : Win32Error := 0

/-- `ERROR_NOT_FOUND`. -/
def errorNotFound : Win32Error := 1168

/-- `ERROR_OBJECT_NOT_FOUND`. -/
def errorObjectNotFound : Win32Error := 4312

/-- `ERROR_OBJECT_ALREADY_EXISTS`. -/
def errorObjectAlreadyExists : Win32Error := 5010

/-- `AF_INET`. -/
def afInet : UInt16 := 2

/-- `AF_INET6`. -/
def afInet6 : UInt16 := 23

/-- `SOCKADDR_INET`; all zero in a row that `InitializeIpForwardEntry` has just filled. -/
structure SockaddrInet where
  siFamily : UInt16 := 0
  /-- `Ipv4.sin_addr.S_un.S_addr`. -/
  sAddr : BitVec 32 := 0
  /-- `Ipv6.sin6_addr.u.Byte`. -/
  byte : Bytes := List.replicate 16 0
  deriving DecidableEq, Repr

/-- `u32::from_le_bytes`. -/
def u32FromLeBytes (bytes : List Nat) : BitVec 32 :=
  BitVec.ofNat 32 (bytes.foldr (fun b n => b + 256 * n) 0)

/-- `Ipv6Addr::octets`. -/
def ipv6Octets (a : BitVec 128) : Bytes :=
  (List.range 16).map fun i => UInt8.ofNat (a >>> (8 * (15 - i))).toNat

/-- `Ipv4Addr::new`. -/
def newIpv4Addr (octets : List Nat) : BitVec 32 :=
  BitVec.ofNat 32 (octets.foldl (fun n o => 256 * n + o) 0)

/-- `Ipv6Addr::new`. -/
def newIpv6Addr (segments : List Nat) : BitVec 128 :=
  BitVec.ofNat 128 (segments.foldl (fun n s => 65536 * n + s) 0)

/-- The fields the code sets for an IPv4 address. -/
def sockaddrV4 (a : BitVec 32) : SockaddrInet :=
  { siFamily := afInet, sAddr := u32FromLeBytes (octets a) }

/-- The fields the code sets for an IPv6 address. -/
def sockaddrV6 (a : BitVec 128) : SockaddrInet := { siFamily := afInet6, byte := ipv6Octets a }

/-- `IP_ADDRESS_PREFIX`. -/
structure IpAddressPrefix where
  address : SockaddrInet
  prefixLength : UInt8
  deriving DecidableEq, Repr

/-- `MIB_IPFORWARD_ROW2`, the fields the code reads or sets. -/
structure MibIpforwardRow where
  destinationPrefix : IpAddressPrefix
  nextHop : SockaddrInet
  interfaceIndex : UInt32
  metric : UInt32
  deriving DecidableEq, Repr

/-- What makes two rows the same route. -/
structure RouteKey where
  destinationPrefix : IpAddressPrefix
  nextHopV4 : BitVec 32
  nextHopV6 : Bytes
  interfaceIndex : UInt32
  deriving DecidableEq, Repr

/-- The route a row is of. -/
def MibIpforwardRow.key (row : MibIpforwardRow) : RouteKey where
  destinationPrefix := row.destinationPrefix
  nextHopV4 := row.nextHop.sAddr
  nextHopV6 := row.nextHop.byte
  interfaceIndex := row.interfaceIndex

/-- The routing table. -/
abbrev Table := List MibIpforwardRow

/-- The table has a row of the same route. -/
def InTable (row : MibIpforwardRow) (table : Table) : Prop := ∃ r ∈ table, r.key = row.key

instance (row : MibIpforwardRow) (table : Table) : Decidable (InTable row table) :=
  inferInstanceAs (Decidable (∃ r ∈ table, r.key = row.key))

theorem inTable_snoc {row row' : MibIpforwardRow} {table : Table} :
    InTable row (table ++ [row']) ↔ InTable row table ∨ row'.key = row.key := by
  simp [InTable, or_and_right, exists_or]

/-! ## Routes -/

/-- `Ipv4Route` and `Ipv6Route`, which differ in the width of their addresses. -/
structure IpRoute (w : Nat) where
  destinationIpAddr : BitVec w
  destinationPrefixLength : UInt8
  nextHopAddress : Option (BitVec w)
  interfaceIndex : UInt32
  deriving DecidableEq, Repr

/-- `Ipv4Route`. -/
abbrev Ipv4Route := IpRoute 32

/-- `Ipv6Route`. -/
abbrev Ipv6Route := IpRoute 128

/-- `Route`. -/
inductive Route where
  | v4 (route : Ipv4Route)
  | v6 (route : Ipv6Route)
  deriving DecidableEq, Repr

/-- The row of a route, given how an address is written into it. -/
def createMibIpforwardRow {w : Nat} (sockaddr : BitVec w → SockaddrInet) (route : IpRoute w) :
    MibIpforwardRow where
  destinationPrefix := ⟨sockaddr route.destinationIpAddr, route.destinationPrefixLength⟩
  nextHop := match route.nextHopAddress with
    | some nextHopAddress => sockaddr nextHopAddress
    | none => {}
  interfaceIndex := route.interfaceIndex
  metric := 1

/-- `create_ipv4_mib_ipforward_row`. -/
def createIpv4MibIpforwardRow : Ipv4Route → MibIpforwardRow := createMibIpforwardRow sockaddrV4

/-- `create_ipv6_mib_ipforward_row`. -/
def createIpv6MibIpforwardRow : Ipv6Route → MibIpforwardRow := createMibIpforwardRow sockaddrV6

/-- The row `add_route` and `delete_route` build. -/
def Route.row : Route → MibIpforwardRow
  | .v4 route => createIpv4MibIpforwardRow route
  | .v6 route => createIpv6MibIpforwardRow route

instance decidableEqExcept {ε α : Type} [DecidableEq ε] [DecidableEq α] :
    DecidableEq (Except ε α)
  | .ok a, .ok b => decidable_of_iff (a = b) (Iff.of_eq (Except.ok.injEq a b).symm)
  | .error e, .error f => decidable_of_iff (e = f) (Iff.of_eq (Except.error.injEq e f).symm)
  | .ok _, .error _ => isFalse nofun
  | .error _, .ok _ => isFalse nofun

/-- `RouteCreationError`. -/
inductive RouteCreationError where
  | alreadyExists
  | protocolDisabled
  | unknown (message : String)
  deriving DecidableEq, Repr

/-- `RouteDeletionSuccess`. -/
inductive RouteDeletionSuccess where
  | deleted
  | notFound
  deriving DecidableEq, Repr

/-! ## The machine -/

/-- `ProTunFatalError`, the variants that occur while a session is created. -/
inductive ProTunFatalError where
  | noLocalIp (message : String)
  | wintunLibraryLoadingFailed (message : String)
  | wintunInterfaceCreationFailed (message : String)
  | wintunAdapterIndexFetchFailed (message : String)
  | wintunSessionCreationFailed (message : String)
  | wintunIpAddressSetupFailed (message : String)
  deriving DecidableEq, Repr

/-- `Ipv4InternetInterface` and `Ipv6InternetInterface`. -/
structure IpInternetInterface (w : Nat) where
  interfaceMetric : UInt32
  anyRouteMetric : UInt32
  localIp : BitVec w
  interfaceIndex : UInt32
  nextHop : BitVec w
  deriving DecidableEq, Repr

/-- `InternetInterface`. -/
inductive InternetInterface where
  | v4 (i : IpInternetInterface 32)
  | v6 (i : IpInternetInterface 128)
  deriving DecidableEq, Repr

/-- `if let InternetInterface::V4(v4) = i { Some(v4) } else { None }`. -/
def InternetInterface.v4? : InternetInterface → Option (IpInternetInterface 32)
  | .v4 i => some i
  | .v6 _ => none

/-- `if let InternetInterface::V6(v6) = i { Some(v6) } else { None }`. -/
def InternetInterface.v6? : InternetInterface → Option (IpInternetInterface 128)
  | .v4 _ => none
  | .v6 i => some i

/-- The system calls of the route functions. A `Bool` says whether the call succeeded. -/
structure RouteOs (E : Type) where
  createIpForwardEntry2 : MibIpforwardRow → Table → E → Win32Error × E
  deleteIpForwardEntry2 : MibIpforwardRow → Table → E → Win32Error × E
  /-- `GetIpForwardTable2`, with a table that is not null. -/
  getIpForwardTable2 : E → Bool × E
  /-- `get_potential_internet_interfaces`. -/
  getPotentialInternetInterfaces : Table → E → Except ProTunFatalError (List InternetInterface) × E
  /-- `open_subkey_with_flags` of the library's registry key. -/
  openSubkey : E → Bool × E
  /-- `get_value("RoutingTable")`. -/
  getValue : E → Bool × E
  /-- `create_subkey_with_flags` of the library's registry key. -/
  createSubkey : E → Bool × E
  /-- `set_value("RoutingTable")`. -/
  setValue : E → Bool × E

/-- The environment, the routing table and the registry value `RoutingTable`, if there is one. -/
structure Machine (E : Type) where
  env : E
  table : Table
  routingTable : Option (List String)

/-- What can be seen of a run. -/
inductive Obs where
  /-- `CreateIpForwardEntry2` answered. -/
  | created (row : MibIpforwardRow) (code : Win32Error)
  /-- `DeleteIpForwardEntry2` answered. -/
  | deleted (row : MibIpforwardRow) (code : Win32Error)
  /-- `add_route` returned. -/
  | addRoute (route : Route) (result : Except RouteCreationError Unit)
  /-- `delete_route` returned. -/
  | deleteRoute (route : Route) (result : Except String RouteDeletionSuccess)
  /-- The registry value was asked for, and whether the registry answered. -/
  | readJournal (ok : Bool)
  /-- The registry value was to be replaced, and whether it was. -/
  | wroteJournal (ok : Bool)
  /-- The handle of an adapter was closed, and whether the adapter is gone with it. -/
  | closedAdapter (interfaceIndex : UInt32) (gone : Bool)

/-- A program on the machine. -/
abbrev Win (E α : Type) := Prog (Machine E) Obs α

variable {E : Type} (os : RouteOs E)

/-- A call that only the environment knows of. -/
def ask {α : Type} (call : E → α × E) : Win E α := fun h =>
  match call h.now.env with
  | (a, env) => (some a, h.set { h.now with env })

/-- `CreateIpForwardEntry2`. -/
def createIpForwardEntry2 (row : MibIpforwardRow) : Win E Win32Error := fun h =>
  match os.createIpForwardEntry2 row h.now.table h.now.env with
  | (code, env) =>
    let table := if code = noError then h.now.table ++ [row] else h.now.table
    (some code, (h.set { h.now with env, table }).emit (.created row code))

/-- `DeleteIpForwardEntry2`. -/
def deleteIpForwardEntry2 (row : MibIpforwardRow) : Win E Win32Error := fun h =>
  match os.deleteIpForwardEntry2 row h.now.table h.now.env with
  | (code, env) =>
    let table := if code = noError then h.now.table.filter (·.key ≠ row.key) else h.now.table
    (some code, (h.set { h.now with env, table }).emit (.deleted row code))

/-! ## `routing_table.rs` -/

/-- What `add_v4_route` makes of the answer. -/
def v4Creation (result : Win32Error) : Except RouteCreationError Unit :=
  if result = noError then .ok ()
  else if result = errorObjectAlreadyExists then .error .alreadyExists
  else .error (.unknown (toString result.toNat))

/-- What `add_v6_route` makes of the answer. -/
def v6Creation (result : Win32Error) : Except RouteCreationError Unit :=
  if result = noError then .ok ()
  else if result = errorObjectAlreadyExists then .error .alreadyExists
  else if result = errorNotFound then .error .protocolDisabled
  else .error (.unknown (toString result.toNat))

/-- `add_v4_route`. -/
def addV4Route (route : Ipv4Route) : Win E (Except RouteCreationError Unit) := do
  return v4Creation (← createIpForwardEntry2 os (createIpv4MibIpforwardRow route))

/-- `add_v6_route`. -/
def addV6Route (route : Ipv6Route) : Win E (Except RouteCreationError Unit) := do
  return v6Creation (← createIpForwardEntry2 os (createIpv6MibIpforwardRow route))

/-- `add_route`. -/
def addRoute (route : Route) : Win E (Except RouteCreationError Unit) := do
  let result ← match route with
    | .v4 ipv4Route => addV4Route os ipv4Route
    | .v6 ipv6Route => addV6Route os ipv6Route
  Prog.emit (.addRoute route result)
  return result

/-- What the deletions make of the answer. -/
def deletion (result : Win32Error) : Except String RouteDeletionSuccess :=
  if result = noError then .ok .deleted
  else if result = errorObjectNotFound then .ok .notFound
  else .error (toString result.toNat)

/-- `delete_v4_route`. -/
def deleteV4Route (route : Ipv4Route) : Win E (Except String RouteDeletionSuccess) := do
  return deletion (← deleteIpForwardEntry2 os (createIpv4MibIpforwardRow route))

/-- `delete_v6_route`. -/
def deleteV6Route (route : Ipv6Route) : Win E (Except String RouteDeletionSuccess) := do
  return deletion (← deleteIpForwardEntry2 os (createIpv6MibIpforwardRow route))

/-- `delete_route`. -/
def deleteRoute (route : Route) : Win E (Except String RouteDeletionSuccess) := do
  let result ← match route with
    | .v4 ipv4Route => deleteV4Route os ipv4Route
    | .v6 ipv6Route => deleteV6Route os ipv6Route
  Prog.emit (.deleteRoute route result)
  return result

/-- `get_interface_rows`. -/
def getInterfaceRows (interfaceIndex : UInt32) : Win E (List MibIpforwardRow) := do
  if ← ask os.getIpForwardTable2 then
    fun h => (some (h.now.table.filter (·.interfaceIndex = interfaceIndex)), h)
  else return []

/-- `delete_routes`. -/
def deleteRoutes (interfaceIndex : UInt32) :
    Win E (List (Except String RouteDeletionSuccess)) := do
  let interfaceRows ← getInterfaceRows os interfaceIndex
  Prog.fold (fun results row => do
    return results ++ [deletion (← deleteIpForwardEntry2 os row)]) interfaceRows []

/-! ## Calls and their histories -/

/-- What `add_route` makes of the answer. -/
def Route.creation : Route → Win32Error → Except RouteCreationError Unit
  | .v4 _ => v4Creation
  | .v6 _ => v6Creation

theorem Route.creation_eq_ok {route : Route} {code : Win32Error} :
    route.creation code = .ok () ↔ code = noError := by
  cases route <;> simp only [creation, v4Creation, v6Creation] <;> split_ifs <;> simp_all

theorem deletion_eq_ok {code : Win32Error} :
    (∃ success, deletion code = .ok success) ↔ code = noError ∨ code = errorObjectNotFound := by
  unfold deletion
  split_ifs <;> simp_all

variable {os} {h : Hist (Machine E) Obs}

theorem addRoute_apply (route : Route) :
    addRoute os route h =
      (some (route.creation (os.createIpForwardEntry2 route.row h.now.table h.now.env).1),
        (createIpForwardEntry2 os route.row h).2.emit (.addRoute route
          (route.creation (os.createIpForwardEntry2 route.row h.now.table h.now.env).1))) := by
  cases route <;> rfl

theorem deleteRoute_apply (route : Route) :
    deleteRoute os route h =
      (some (deletion (os.deleteIpForwardEntry2 route.row h.now.table h.now.env).1),
        (deleteIpForwardEntry2 os route.row h).2.emit (.deleteRoute route
          (deletion (os.deleteIpForwardEntry2 route.row h.now.table h.now.env).1))) := by
  cases route <;> rfl

end Protun.Routing
