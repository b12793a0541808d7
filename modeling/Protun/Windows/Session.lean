import Protun.Windows.Routes

/-!
# Creating a Wintun session (`helpers/wintun/wintun_session.rs`)

`WinTunSession::create` opens or creates the adapter, configures it, adds the routes and starts the
session. It can fail at six places. The routes are deleted by `Drop for WinTunSession`, so only once
there is a session; an earlier failure drops nothing but the adapter's handle.

* The calls that configure the adapter (`Configuration`) may do anything to the routing table: the
  system adds routes of its own for an address.
* Whether the adapter is gone when its handle is closed is up to the system. It is for an adapter
  that was created through the handle, not for one that was opened. With an adapter go the routes of
  its interface.
* **`nothing_left_iff`**: when `create` fails, the routes it added are gone iff each of them is on
  the interface of the adapter and the system lets the adapter go when its handle is closed.
* `serverRoute_left`: the session does not start, and the route to the server stays.
-/

namespace Protun.Routing

open Trace

/-! ## The adapter -/

/-- A Wintun adapter, by the index of its interface. -/
structure Adapter where
  interfaceIndex : UInt32
  deriving DecidableEq, Repr

/-- The calls that configure the adapter. -/
inductive Configuration where
  | setIpv4AdapterConfigurations (interfaceIndex : UInt32) (mtu : UInt16)
  | setIpv6AdapterConfigurations (interfaceIndex : UInt32) (mtu : UInt16)
  | enableAdapterIpv6
  | disableAdapterIpv6
  | setAdapterIpv4Address (interfaceIndex : UInt32) (address : BitVec 32) (prefixLength : UInt8)
  | setAdapterIpv6Address (interfaceIndex : UInt32) (address : BitVec 128) (prefixLength : UInt8)
  | setAdapterIpv4DnsServers (ips : List (BitVec 32))
  | setAdapterIpv6DnsServers (ips : List (BitVec 128))

/-- The system calls of `create`. -/
structure SessionOs (E : Type) extends RouteOs E where
  /-- `wintun::load_from_path`. -/
  loadFromPath : E → Except String Unit × E
  /-- `Adapter::open`. -/
  openAdapter : E → Except String Adapter × E
  /-- `Adapter::create`. -/
  createAdapter : E → Except String Adapter × E
  /-- Whether `get_adapter_index` finds the index. -/
  getAdapterIndex : E → Except String Unit × E
  /-- Whether a configuration succeeds, and the table after it. -/
  configure : Configuration → Table → E → (Bool × Table) × E
  /-- `start_session`. -/
  startSession : Nat → E → Except String Unit × E
  /-- Whether the adapter is gone when its handle is closed. -/
  closeAdapter : Adapter → E → Bool × E

/-- `AdapterConfig`. -/
structure AdapterConfig where
  customDnsServerIps : List IpAddr
  isIpv6Enabled : Bool
  mtu : UInt16
  bufferSizeBytes : UInt32

/-- `WinTunSession`. -/
structure WinTunSession where
  adapter : Adapter
  interfaceIndex : UInt32
  clientIpv4Addr : BitVec 32
  serverIpv4Addr : BitVec 32
  clientIpv6Addr : Option (BitVec 128)
  serverIpv6Addr : Option (BitVec 128)
  routes : Routes
  deriving DecidableEq

/-- `wintun::MIN_RING_CAPACITY`. -/
def minRingCapacity : Nat := 0x20000

/-- `wintun::MAX_RING_CAPACITY`. -/
def maxRingCapacity : Nat := 0x4000000

/-- `get_valid_wintun_buffer_size`. -/
def getValidWintunBufferSize (proposedSize : UInt32) : Nat :=
  let next := proposedSize.toNat.nextPowerOfTwo
  -- `checked_next_power_of_two` overflows above 2^31
  let size := if next < UInt32.size then next else maxRingCapacity
  max minRingCapacity (min size maxRingCapacity)

/-- `split_ips_by_protocol`. -/
def splitIpsByProtocol : List IpAddr → List (BitVec 32) × List (BitVec 128)
  | [] => ([], [])
  | .v4 a :: ips => (a :: (splitIpsByProtocol ips).1, (splitIpsByProtocol ips).2)
  | .v6 a :: ips => ((splitIpsByProtocol ips).1, a :: (splitIpsByProtocol ips).2)

/-! ## `WinTunSession::create` -/

variable {E : Type} (os : SessionOs E) (json : Json)

/-- Configure the adapter. -/
def configure (c : Configuration) : Win E Bool := fun h =>
  match os.configure c h.now.table h.now.env with
  | ((ok, table), env) => (some ok, h.set { h.now with env, table })

/-- The handle of the adapter is dropped. -/
def closeAdapter (adapter : Adapter) : Win E Unit := fun h =>
  match os.closeAdapter adapter h.now.env with
  | (gone, env) =>
    let table :=
      if gone then h.now.table.filter (·.interfaceIndex ≠ adapter.interfaceIndex) else h.now.table
    (some (), (h.set { h.now with env, table }).emit (.closedAdapter adapter.interfaceIndex gone))

/-- `create_wintun_adapter`. -/
def createWintunAdapter : Win E (Except ProTunFatalError Adapter) := do
  match ← ask os.loadFromPath with
  | .error e =>
    return .error (.wintunLibraryLoadingFailed ("Failed to load WinTUN DLL. Error: " ++ e))
  | .ok _ =>
    match ← ask os.openAdapter with
    | .ok adapter => return .ok adapter
    | .error _ =>
      match ← ask os.createAdapter with
      | .ok adapter => return .ok adapter
      | .error e => return .error (.wintunInterfaceCreationFailed
          ("Could not create the WinTUN adapter. Error: " ++ e))

/-- The loop of `set_adapter_ip_addresses` over `i`. -/
def tryIpAddresses (interfaceIndex : UInt32) :
    List Nat → Win E (Except ProTunFatalError (BitVec 32 × Option (BitVec 128)))
  | [] => return .error (.wintunIpAddressSetupFailed
      "Could not set valid IP addresses for the WinTUN adapter.")
  | i :: is => do
    let clientIpv4Addr := newIpv4Addr [10, i, 0, 2]
    if ← configure os (.setAdapterIpv4Address interfaceIndex clientIpv4Addr 32) then
      let clientIpv6Addr := newIpv6Addr [0x2a07, 0xb944, 0, 0, 0, 0, i, 2]
      let ok ← configure os (.setAdapterIpv6Address interfaceIndex clientIpv6Addr 128)
      return .ok (clientIpv4Addr, if ok then some clientIpv6Addr else none)
    else tryIpAddresses interfaceIndex is

/-- `set_adapter_ip_addresses`. -/
def setAdapterIpAddresses (interfaceIndex : UInt32) :
    Win E (Except ProTunFatalError (BitVec 32 × Option (BitVec 128))) :=
  tryIpAddresses os interfaceIndex (List.range' 2 254)

/-- `set_dns_servers`: whether it succeeds. -/
def setDnsServers (customDnsServerIps : List IpAddr) (serverIpv4Addr : BitVec 32)
    (serverIpv6Addr : Option (BitVec 128)) : Win E Bool := do
  let ipv4 := distinct ((splitIpsByProtocol customDnsServerIps).1 ++ [serverIpv4Addr])
  if ← configure os (.setAdapterIpv4DnsServers ipv4) then
    match serverIpv6Addr with
    | some serverIpv6Addr =>
      let ipv6 := distinct ((splitIpsByProtocol customDnsServerIps).2 ++ [serverIpv6Addr])
      configure os (.setAdapterIpv6DnsServers ipv6)
    | none => return true
  else return false

/-- The server's IPv4 address that belongs to the client's. -/
def serverIpv4AddrOf (clientIpv4Addr : BitVec 32) : BitVec 32 :=
  newIpv4Addr [10, (octets clientIpv4Addr).getD 1 0, 0, 1]

/-- The server's IPv6 address that belongs to the client's. -/
def serverIpv6AddrOf (clientIpv6Addr : BitVec 128) : BitVec 128 :=
  newIpv6Addr [0x2a07, 0xb944, 0, 0, 0, 0, (segments clientIpv6Addr).getD 6 0, 1]

/-- `calculate_and_set_dns_servers`. -/
def calculateAndSetDnsServers (customDnsServerIps : List IpAddr) (clientIpv4Addr : BitVec 32)
    (clientIpv6Addr : Option (BitVec 128)) : Win E (BitVec 32 × Option (BitVec 128)) := do
  let serverIpv4Addr := serverIpv4AddrOf clientIpv4Addr
  let serverIpv6Addr := clientIpv6Addr.map serverIpv6AddrOf
  let _ ← setDnsServers os customDnsServerIps serverIpv4Addr serverIpv6Addr
  return (serverIpv4Addr, serverIpv6Addr)

/-- The configurations before the addresses; the results are ignored. -/
def configureAdapter (interfaceIndex : UInt32) (adapterConfig : AdapterConfig) : Win E Unit := do
  let _ ← configure os (.setIpv4AdapterConfigurations interfaceIndex adapterConfig.mtu)
  if adapterConfig.isIpv6Enabled then
    let _ ← configure os .enableAdapterIpv6
    let _ ← configure os (.setIpv6AdapterConfigurations interfaceIndex adapterConfig.mtu)
  else
    let _ ← configure os .disableAdapterIpv6

/-- `create` from the routes on. -/
def createRoutesAndSession (serverIps : List IpAddr) (adapterConfig : AdapterConfig)
    (adapter : Adapter) (clientIpv4Addr : BitVec 32) (clientIpv6Addr : Option (BitVec 128))
    (serverIpv4Addr : BitVec 32) (serverIpv6Addr : Option (BitVec 128)) :
    Win E (Except ProTunFatalError WinTunSession) := do
  match ← Routes.create os.toRouteOs json serverIpv4Addr serverIpv6Addr adapter.interfaceIndex
    serverIps with
  | .error e => return .error e
  | .ok routes =>
    match ← ask (os.startSession (getValidWintunBufferSize adapterConfig.bufferSizeBytes)) with
    | .error e => return .error (.wintunSessionCreationFailed
        ("Failed to create the Wintun session. Error: " ++ e))
    | .ok _ => return .ok {
        adapter, clientIpv4Addr, serverIpv4Addr, clientIpv6Addr, serverIpv6Addr, routes,
        interfaceIndex := adapter.interfaceIndex }

/-- `create` with the adapter. -/
def createOn (serverIps : List IpAddr) (adapterConfig : AdapterConfig) (adapter : Adapter) :
    Win E (Except ProTunFatalError WinTunSession) := do
  match ← ask os.getAdapterIndex with
  | .error e => return .error (.wintunAdapterIndexFetchFailed
      ("Failed to get the Wintun adapter index. Error: " ++ e))
  | .ok _ =>
    configureAdapter os adapter.interfaceIndex adapterConfig
    match ← setAdapterIpAddresses os adapter.interfaceIndex with
    | .error e => return .error e
    | .ok (clientIpv4Addr, clientIpv6Addr) =>
      let (serverIpv4Addr, serverIpv6Addr) ← calculateAndSetDnsServers os
        adapterConfig.customDnsServerIps clientIpv4Addr clientIpv6Addr
      createRoutesAndSession os json serverIps adapterConfig adapter clientIpv4Addr clientIpv6Addr
        serverIpv4Addr serverIpv6Addr

/-- `WinTunSession::create`. An error drops the adapter, if there is one. -/
def WinTunSession.create (serverIps : List IpAddr) (adapterConfig : AdapterConfig) :
    Win E (Except ProTunFatalError WinTunSession) := do
  match ← createWintunAdapter os with
  | .error e => return .error e
  | .ok adapter =>
    match ← createOn os json serverIps adapterConfig adapter with
    | .error e =>
      closeAdapter os adapter
      return .error e
    | .ok session => return .ok session

/-! ## What a failure leaves -/

/-- The row that was added, if one was. -/
def Obs.addedRow? : Obs → Option MibIpforwardRow
  | .created row code => if code = noError then some row else none
  | _ => none

/-- The rows that were added. -/
def addedRows (l : List (Obs × Machine E)) : List MibIpforwardRow := l.filterMap (·.1.addedRow?)

section Left

variable {os json} {l : List (Obs × Machine E)} {m : Machine E} {o : Obs} {row : MibIpforwardRow}
  {h : Hist (Machine E) Obs} {N : Hist (Machine E) Obs → Prop}

theorem mem_addedRows_snoc :
    row ∈ addedRows (l ++ [(o, m)]) ↔ row ∈ addedRows l ∨ o.addedRow? = some row := by
  unfold addedRows
  rw [List.filterMap_append, List.mem_append]
  simp

/-- Nothing has been added. -/
def Untouched (h : Hist (Machine E) Obs) : Prop := addedRows h.past = []

/-- What was added is in the table. -/
def Present (h : Hist (Machine E) Obs) : Prop := ∀ row ∈ addedRows h.past, InTable row h.now.table

theorem Untouched.present (hu : Untouched h) : Present h :=
  fun _ hrow => absurd (hu ▸ hrow) List.not_mem_nil

theorem untouched_ignoresEnv : IgnoresEnv (Untouched (E := E)) := fun _ _ hu => hu

theorem present_ignoresEnv : IgnoresEnv (Present (E := E)) := fun _ _ hp => hp

theorem triple_configure (c : Configuration) :
    Prog.Triple Untouched (configure os c) (fun _ => Untouched) N :=
  fun _ hu => hu

theorem triple_createWintunAdapter :
    Prog.Triple Untouched (createWintunAdapter os) (fun _ => Untouched) N := by
  have hask {α : Type} (call : E → α × E) :
      Prog.Triple Untouched (ask call) (fun _ => Untouched) N :=
    triple_ask untouched_ignoresEnv call
  refine Prog.triple_bind (hask _) fun loaded => ?_
  cases loaded with
  | error e => exact Prog.triple_pure fun _ hu => hu
  | ok =>
    refine Prog.triple_bind (hask _) fun opened => ?_
    cases opened with
    | ok adapter => exact Prog.triple_pure fun _ hu => hu
    | error e =>
      refine Prog.triple_bind (hask _) fun created => ?_
      cases created <;> exact Prog.triple_pure fun _ hu => hu

theorem triple_tryIpAddresses (interfaceIndex : UInt32) (is : List Nat) :
    Prog.Triple Untouched (tryIpAddresses os interfaceIndex is) (fun _ => Untouched) N := by
  induction is with
  | nil => exact Prog.triple_pure fun _ hu => hu
  | cons i is ih =>
    refine Prog.triple_bind (triple_configure _) fun ok => ?_
    cases ok with
    | false => exact ih
    | true => exact Prog.triple_bind (triple_configure _) fun _ => Prog.triple_pure fun _ hu => hu

theorem triple_calculateAndSetDnsServers (customDnsServerIps : List IpAddr)
    (clientIpv4Addr : BitVec 32) (clientIpv6Addr : Option (BitVec 128)) :
    Prog.Triple Untouched
      (calculateAndSetDnsServers os customDnsServerIps clientIpv4Addr clientIpv6Addr)
      (fun _ => Untouched) N := by
  refine Prog.triple_bind (Prog.triple_bind (triple_configure _) fun ok => ?_) fun _ =>
    Prog.triple_pure fun _ hu => hu
  cases ok with
  | false => exact Prog.triple_pure fun _ hu => hu
  | true =>
    cases clientIpv6Addr with
    | none => exact Prog.triple_pure fun _ hu => hu
    | some a => exact triple_configure _

theorem triple_configureAdapter (interfaceIndex : UInt32) (adapterConfig : AdapterConfig) :
    Prog.Triple Untouched (configureAdapter os interfaceIndex adapterConfig)
      (fun _ => Untouched) N := by
  refine Prog.triple_bind (triple_configure _) fun _ => ?_
  split
  · exact Prog.triple_bind (triple_configure _) fun _ =>
      Prog.triple_bind (triple_configure _) fun _ => Prog.triple_pure fun _ hu => hu
  · exact Prog.triple_bind (triple_configure _) fun _ => Prog.triple_pure fun _ hu => hu

/-- What is asked for is in the table if the answer is `NO_ERROR`. -/
theorem Present.createIpForwardEntry2 {os : RouteOs E} (hp : Present h) (row : MibIpforwardRow) :
    Present (createIpForwardEntry2 os row h).2 := by
  intro row' hrow'
  rw [createIpForwardEntry2_eq, Hist.emit_past, mem_addedRows_snoc] at hrow'
  rw [createIpForwardEntry2_eq, Hist.emit_now, Hist.set_now, inTable_after]
  rcases hrow' with hrow' | hrow'
  · exact .inl (hp row' hrow')
  · obtain ⟨hcode, heq⟩ := Option.ite_none_right_eq_some.mp hrow'
    exact .inr ⟨hcode, by rw [Option.some.inj heq]⟩

theorem Present.set (hp : Present h) (hm : m.table = h.now.table) : Present (h.set m) := by
  intro row hrow
  rw [Hist.set_now, hm]
  exact hp row hrow

theorem Present.note (hp : Present h) (ho : o.isNote = true) : Present (h.emit o) := by
  have hadded (row : MibIpforwardRow) : o.addedRow? ≠ some row := by
    cases o <;> simp_all [Obs.isNote, Obs.addedRow?]
  exact fun row hrow => hp row ((mem_addedRows_snoc.mp hrow).resolve_right (hadded row))

theorem present_create (serverIpv4Addr : BitVec 32) (serverIpv6Addr : Option (BitVec 128))
    (interfaceIndex : UInt32) (serverIps : List IpAddr) :
    Prog.Inv Present (Routes.create os.toRouteOs json serverIpv4Addr serverIpv6Addr interfaceIndex
      serverIps) := by
  exact inv_create _ json (fun _ _ hm hp => hp.set hm) (fun _ _ ho hp => hp.note ho)
    (fun _ row hp => hp.createIpForwardEntry2 row) serverIps

theorem triple_createRoutesAndSession (serverIps : List IpAddr) (adapterConfig : AdapterConfig)
    (adapter : Adapter) (clientIpv4Addr : BitVec 32) (clientIpv6Addr : Option (BitVec 128))
    (serverIpv4Addr : BitVec 32) (serverIpv6Addr : Option (BitVec 128)) :
    Prog.Triple Present (createRoutesAndSession os json serverIps adapterConfig adapter
      clientIpv4Addr clientIpv6Addr serverIpv4Addr serverIpv6Addr) (fun _ => Present) Present := by
  refine Prog.triple_bind ((present_create _ _ _ _).triple fun _ hp => hp) fun routes => ?_
  cases routes with
  | error e => exact Prog.triple_pure fun _ hp => hp
  | ok routes =>
    refine Prog.triple_bind (triple_ask present_ignoresEnv _) fun session => ?_
    cases session <;> exact Prog.triple_pure fun _ hp => hp

theorem triple_createOn (serverIps : List IpAddr) (adapterConfig : AdapterConfig)
    (adapter : Adapter) :
    Prog.Triple Untouched (createOn os json serverIps adapterConfig adapter) (fun _ => Present)
      Present := by
  refine Prog.triple_bind (triple_ask untouched_ignoresEnv _) fun index => ?_
  cases index with
  | error e => exact Prog.triple_pure fun _ hu => hu.present
  | ok =>
    refine Prog.triple_bind (triple_configureAdapter _ _) fun _ =>
      Prog.triple_bind (triple_tryIpAddresses _ _) fun addresses => ?_
    cases addresses with
    | error e => exact Prog.triple_pure fun _ hu => hu.present
    | ok addresses =>
      exact Prog.triple_bind (triple_calculateAndSetDnsServers _ _ _) fun _ =>
        (triple_createRoutesAndSession _ _ _ _ _ _ _).pre fun _ hu => hu.present

/-- With the adapter go the rows of its interface and no others. -/
theorem Present.inTable_closeAdapter (hp : Present h) (adapter : Adapter)
    (hrow : row ∈ addedRows h.past) :
    InTable row (closeAdapter os adapter h).2.now.table ↔
      ¬ (row.interfaceIndex = adapter.interfaceIndex ∧
        (os.closeAdapter adapter h.now.env).1 = true) := by
  obtain ⟨r, hr, hkey⟩ := hp row hrow
  have hindex {r : MibIpforwardRow} (hkey : r.key = row.key) :
      r.interfaceIndex = row.interfaceIndex := congrArg RouteKey.interfaceIndex hkey
  unfold closeAdapter
  simp only [Hist.emit_now, Hist.set_now]
  split_ifs with hgone
  · rw [and_iff_left hgone]
    constructor
    · rintro ⟨r', hr', hkey'⟩ hi
      have hne := (List.mem_filter.mp hr').2
      simp [hindex hkey', hi] at hne
    · intro hne
      refine ⟨r, List.mem_filter.mpr ⟨hr, ?_⟩, hkey⟩
      simpa [hindex hkey] using hne
  · exact iff_of_true ⟨r, hr, hkey⟩ fun hc => hgone hc.2

theorem addedRows_closeAdapter (adapter : Adapter) :
    addedRows (closeAdapter os adapter h).2.past = addedRows h.past := by
  unfold closeAdapter addedRows
  rw [Hist.emit_past, List.filterMap_append]
  simp [Obs.addedRow?]

end Left

/-- The result is an error. -/
def isFailure {α : Type} : Option (Except ProTunFatalError α) → Bool
  | some (.error _) => true
  | _ => false

/-- How `create` fails: without an adapter, or with one whose handle it then closes. -/
theorem create_failed {serverIps : List IpAddr} {adapterConfig : AdapterConfig}
    {h : Hist (Machine E) Obs}
    (hfail : isFailure (WinTunSession.create os json serverIps adapterConfig h).1 = true) :
    (∃ e, createWintunAdapter os h = (some (.error e),
        (WinTunSession.create os json serverIps adapterConfig h).2)) ∨
      ∃ adapter h' e h'', createWintunAdapter os h = (some (.ok adapter), h') ∧
        createOn os json serverIps adapterConfig adapter h' = (some (.error e), h'') ∧
        (WinTunSession.create os json serverIps adapterConfig h).2 =
          (closeAdapter os adapter h'').2 := by
  unfold WinTunSession.create at hfail ⊢
  rw [Prog.bind_apply] at hfail ⊢
  cases hopened : createWintunAdapter os h with
  | mk opened h' =>
    rw [hopened] at hfail
    rcases opened with _ | e | adapter
    · cases hfail
    · exact .inl ⟨e, rfl⟩
    · dsimp only at hfail ⊢
      rw [Prog.bind_apply] at hfail ⊢
      cases hcreated : createOn os json serverIps adapterConfig adapter h' with
      | mk created h'' =>
        rw [hcreated] at hfail
        rcases created with _ | e | session
        · cases hfail
        · exact .inr ⟨adapter, h', e, h'', rfl, hcreated, rfl⟩
        · cases hfail

/-- The system lets `adapter` go when `create`, started on `m`, comes to close its handle. -/
def LetGo (serverIps : List IpAddr) (adapterConfig : AdapterConfig) (m : Machine E)
    (adapter : Adapter) : Prop :=
  (os.closeAdapter adapter (createOn os json serverIps adapterConfig adapter
    (createWintunAdapter os (Hist.init m)).2).2.now.env).1 = true

/-- **What a failed `create` leaves.** For every outcome of the system calls: when `create` returns
an error, none of the rows added during the call is in the routing table, iff each of them is on
the interface of the adapter it works with, and the system lets that adapter go when it is asked to
close its handle. -/
theorem nothing_left_iff (serverIps : List IpAddr) (adapterConfig : AdapterConfig)
    (m : Machine E) :
    let r := WinTunSession.create os json serverIps adapterConfig (Hist.init m)
    (isFailure r.1 = true → ∀ row ∈ addedRows r.2.past, ¬ InTable row r.2.now.table) ↔
      (isFailure r.1 = true → ∀ row ∈ addedRows r.2.past,
        ∃ adapter, (createWintunAdapter os (Hist.init m)).1 = some (.ok adapter) ∧
          row.interfaceIndex = adapter.interfaceIndex ∧
          LetGo os json serverIps adapterConfig m adapter) := by
  intro r
  refine imp_congr_right fun hfail => forall₂_congr fun row hrow => ?_
  have hcreate : Prog.Triple Untouched (createWintunAdapter os) (fun _ => Untouched) Untouched :=
    triple_createWintunAdapter
  have hopened := hcreate (Hist.init m) rfl
  obtain ⟨e, hadapter⟩ | ⟨adapter, h', e, h'', hadapter, hon, hlast⟩ := create_failed os json hfail
  · rw [hadapter] at hopened
    exact absurd (hopened ▸ hrow) List.not_mem_nil
  · rw [hadapter] at hopened
    have hpresent : Present h'' := by
      have hcreateOn : Prog.Triple Untouched (createOn os json serverIps adapterConfig adapter)
          (fun _ => Present) Present := triple_createOn serverIps adapterConfig adapter
      have hp := hcreateOn h' hopened
      rwa [hon] at hp
    change row ∈ addedRows (WinTunSession.create os json serverIps adapterConfig _).2.past at hrow
    rw [hlast, addedRows_closeAdapter] at hrow
    change ¬ InTable row (WinTunSession.create os json serverIps adapterConfig _).2.now.table ↔ _
    rw [hlast, hpresent.inTable_closeAdapter adapter hrow, Classical.not_not]
    simp [LetGo, hadapter, hon]

/-- A machine on which the session does not start. The adapter of interface 9 is created, and it is
gone when its handle is closed. -/
def unstartable : SessionOs Unit where
  toRouteOs := fixedOs addNew true
  loadFromPath _ := (.ok (), ())
  openAdapter _ := (.error "not found", ())
  createAdapter _ := (.ok ⟨9⟩, ())
  getAdapterIndex _ := (.ok (), ())
  configure _ table _ := ((true, table), ())
  startSession _ _ := (.error "busy", ())
  closeAdapter _ _ := (true, ())

/-- `create` for some servers there. -/
abbrev unstarted (serverIps : List IpAddr) :
    Option (Except ProTunFatalError WinTunSession) × Hist (Machine Unit) Obs :=
  WinTunSession.create unstartable unaryJson serverIps ⟨[], true, 1420, 0⟩
    (Hist.init ⟨(), [], none⟩)

/-- The host route of a server stays when the session does not start. -/
theorem serverRoute_left :
    isFailure (unstarted [.v4 5]).1 = true ∧
      ∃ row ∈ addedRows (unstarted [.v4 5]).2.past,
        InTable row (unstarted [.v4 5]).2.now.table := by
  decide +kernel

end Protun.Routing
