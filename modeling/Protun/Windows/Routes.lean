import Protun.Windows.RoutingTable

/-!
# The library's routes and their journal (`helpers/routes.rs`, `registry_editor.rs`, `vector.rs`)

`Routes::create` adds the routes of the ProTUN interface, then a host route for every VPN server on
the internet interface. The host routes it added are written to a registry value, the journal, from
which `delete_created_routes` deletes them, in this session or in a later one.

* The registry value is a list of strings. A value that does not exist reads as an error, which the
  code answers with the empty list.
* `serde_json` is a pair of functions (`Json`). That it reads back what it wrote is an assumption
  (`Json.Lawful`).
* `triple_create` and `triple_deleteCreatedRoutes` are the rules of the two functions: assertions on
  the history and on the local list, and what each call has to do with them.
* **`anyRoutes_iff`**: after `create` the any routes are in the table iff they were there before or
  the system answers `NO_ERROR` when it comes to them. Any other answer is ignored.
-/

namespace Protun.Routing

open Trace

/-! ## `vector.rs` -/

section Distinct

variable {α : Type} [DecidableEq α]

/-- The elements that are not in `set`, each once: `filter(|x| set.insert(x))`. -/
def distinctFrom (set : List α) : List α → List α
  | [] => []
  | x :: xs => if x ∈ set then distinctFrom set xs else x :: distinctFrom (x :: set) xs

/-- `VecDistinct::distinct` and `VecDistinctString::distinct`. -/
def distinct : List α → List α := distinctFrom []

theorem mem_distinctFrom {x : α} {l : List α} :
    ∀ {set}, x ∈ distinctFrom set l ↔ x ∈ l ∧ x ∉ set := by
  induction l with
  | nil => simp [distinctFrom]
  | cons y ys ih =>
    intro set
    by_cases hy : y ∈ set
    · simp only [distinctFrom, if_pos hy, ih, List.mem_cons]
      constructor
      · rintro ⟨hx, hset⟩
        exact ⟨.inr hx, hset⟩
      · rintro ⟨rfl | hx, hset⟩
        · exact absurd hy hset
        · exact ⟨hx, hset⟩
    · simp only [distinctFrom, if_neg hy, List.mem_cons, ih, not_or]
      by_cases hxy : x = y
      · simp [hxy, hy]
      · simp [hxy]

theorem mem_distinct {x : α} {l : List α} : x ∈ distinct l ↔ x ∈ l := by
  simp [distinct, mem_distinctFrom]

end Distinct

/-! ## `registry_editor.rs` -/

variable {E : Type} (os : RouteOs E)

/-- `filter(|s| s.len() > 0)` and `distinct`. -/
def nonEmptyDistinct (routes : List String) : List String := distinct (routes.filter (· ≠ ""))

theorem mem_nonEmptyDistinct {s : String} {routes : List String} :
    s ∈ nonEmptyDistinct routes ↔ s ∈ routes ∧ s ≠ "" := by
  simp [nonEmptyDistinct, mem_distinct]

/-- The strings in the journal; none if there is no value. -/
def Machine.journal (m : Machine E) : List String := m.routingTable.getD []

/-- `get_created_routes`. -/
def getCreatedRoutes : Win E (List String) := do
  if ← ask os.openSubkey then
    if ← ask os.getValue then
      Prog.emit (.readJournal true)
      fun h => (some (nonEmptyDistinct h.now.journal), h)
    else
      Prog.emit (.readJournal false)
      return []
  else
    Prog.emit (.readJournal false)
    return []

/-- Put the list into the registry value. -/
def storeJournal (routes : List String) : Win E Unit := fun h =>
  (some (), (h.set { h.now with routingTable := some routes }).emit (.wroteJournal true))

/-- `set_created_routes`. -/
def setCreatedRoutes (routes : List String) : Win E Unit := do
  let routes := nonEmptyDistinct routes
  if ← ask os.createSubkey then
    if ← ask os.setValue then storeJournal routes
    else Prog.emit (.wroteJournal false)
  else Prog.emit (.wroteJournal false)

/-! ## `routes.rs` -/

/-- `serde_json::to_string` and `serde_json::from_str` for `Route`. -/
structure Json where
  toString : Route → Except String String
  fromStr : String → Except String Route

/-- Writing works, reading undoes it, and the empty string is not a route. -/
structure Json.Lawful (json : Json) : Prop where
  roundTrip : ∀ route, ∃ s, json.toString route = .ok s ∧ json.fromStr s = .ok route
  fromStr_empty : ∀ route, json.fromStr "" ≠ .ok route

/-- `Routes`. -/
structure Routes where
  interfaceIndex : UInt32
  deriving DecidableEq

/-- `create_ipv4_host_route` and `create_ipv6_host_route`, given the length of an address. -/
def createIpHostRoute {w : Nat} (length : UInt8) (serverIp : BitVec w)
    (nextHop : Option (BitVec w)) (interfaceIndex : UInt32) : IpRoute w where
  destinationIpAddr := serverIp
  destinationPrefixLength := length
  nextHopAddress := nextHop
  interfaceIndex := interfaceIndex

/-- `create_ipv4_host_route`. -/
def createIpv4HostRoute : BitVec 32 → Option (BitVec 32) → UInt32 → Ipv4Route :=
  createIpHostRoute 32

/-- `create_ipv6_host_route`. -/
def createIpv6HostRoute : BitVec 128 → Option (BitVec 128) → UInt32 → Ipv6Route :=
  createIpHostRoute 128

/-- `create_ipv4_local_agent_route`. -/
def createIpv4LocalAgentRoute (serverIp : BitVec 32) (interfaceIndex : UInt32) : Ipv4Route :=
  createIpv4HostRoute serverIp none interfaceIndex

/-- `create_ipv6_local_agent_route`. -/
def createIpv6LocalAgentRoute (serverIp : BitVec 128) (interfaceIndex : UInt32) : Ipv6Route :=
  createIpv6HostRoute serverIp none interfaceIndex

/-- `create_ipv4_any_route` and `create_ipv6_any_route`. -/
def createIpAnyRoute (w : Nat) (interfaceIndex : UInt32) : IpRoute w where
  destinationIpAddr := 0
  destinationPrefixLength := 0
  nextHopAddress := none
  interfaceIndex := interfaceIndex

/-- `create_ipv4_any_route`. -/
def createIpv4AnyRoute : UInt32 → Ipv4Route := createIpAnyRoute 32

/-- `create_ipv6_any_route`. -/
def createIpv6AnyRoute : UInt32 → Ipv6Route := createIpAnyRoute 128

/-- `get_internet_interfaces`: the first of each family. -/
def getInternetInterfaces : Win E (Except ProTunFatalError
    (Option (IpInternetInterface 32) × Option (IpInternetInterface 128))) := fun h =>
  ask (fun env =>
    match os.getPotentialInternetInterfaces h.now.table env with
    | (.error e, env) => (.error e, env)
    | (.ok interfaces, env) =>
      (.ok (interfaces.findSome? InternetInterface.v4?,
        interfaces.findSome? InternetInterface.v6?), env)) h

/-- The route of a server, if there is an internet interface of its family. -/
def createServerRoute (ipv4 : Option (IpInternetInterface 32))
    (ipv6 : Option (IpInternetInterface 128)) : IpAddr → Option Route
  | .v4 serverIp => ipv4.map fun i =>
      .v4 (createIpv4HostRoute serverIp (some i.nextHop) i.interfaceIndex)
  | .v6 serverIp => ipv6.map fun i =>
      .v6 (createIpv6HostRoute serverIp (some i.nextHop) i.interfaceIndex)

/-- `create_server_routes`. -/
def createServerRoutes (serverIps : List IpAddr) :
    Win E (Except ProTunFatalError (List Route)) := do
  match ← getInternetInterfaces os with
  | .error e => return .error e
  | .ok (ipv4, ipv6) => return .ok (serverIps.filterMap (createServerRoute ipv4 ipv6))

variable (json : Json)

/-- What `create` pushes to `created_routes` after a call of `add_route`. -/
def journalEntry (route : Route) : Except RouteCreationError Unit → List String
  | .ok _ =>
    match json.toString route with
    | .ok jsonRoute => [jsonRoute]
    | .error _ => []
  | .error _ => []

/-- The routes of the ProTUN interface that `create` adds; the results are ignored. -/
def addTunRoutes (serverIpv4Addr : BitVec 32) (serverIpv6Addr : Option (BitVec 128))
    (interfaceIndex : UInt32) : Win E Unit := do
  let _ ← addV4Route os (createIpv4LocalAgentRoute serverIpv4Addr interfaceIndex)
  let _ ← addV4Route os (createIpv4AnyRoute interfaceIndex)
  match serverIpv6Addr with
  | some serverIpv6Addr =>
    let _ ← addV6Route os (createIpv6LocalAgentRoute serverIpv6Addr interfaceIndex)
    let _ ← addV6Route os (createIpv6AnyRoute interfaceIndex)
  | none => return ()

/-- The rows `create` asks for on the ProTUN interface. -/
def tunRows (serverIpv4Addr : BitVec 32) (serverIpv6Addr : Option (BitVec 128))
    (interfaceIndex : UInt32) : List MibIpforwardRow :=
  [createIpv4MibIpforwardRow (createIpv4LocalAgentRoute serverIpv4Addr interfaceIndex),
    createIpv4MibIpforwardRow (createIpv4AnyRoute interfaceIndex)] ++
  match serverIpv6Addr with
  | some serverIpv6Addr =>
    [createIpv6MibIpforwardRow (createIpv6LocalAgentRoute serverIpv6Addr interfaceIndex),
      createIpv6MibIpforwardRow (createIpv6AnyRoute interfaceIndex)]
  | none => []

/-- The route leads to a single address. -/
def Route.IsHost : Route → Prop
  | .v4 route => route.destinationPrefixLength = 32
  | .v6 route => route.destinationPrefixLength = 128

theorem isHost_of_createServerRoute {ipv4 : Option (IpInternetInterface 32)}
    {ipv6 : Option (IpInternetInterface 128)} {serverIp : IpAddr} {route : Route}
    (h : createServerRoute ipv4 ipv6 serverIp = some route) : route.IsHost := by
  cases serverIp with
  | v4 serverIp =>
    obtain ⟨i, -, rfl⟩ := Option.map_eq_some_iff.mp h
    rfl
  | v6 serverIp =>
    obtain ⟨i, -, rfl⟩ := Option.map_eq_some_iff.mp h
    rfl

/-- The loop of `create` over the server routes. -/
def addServerRoutes : List Route → List String → Win E (List String) :=
  Prog.fold fun createdRoutes route => do
    return createdRoutes ++ journalEntry json route (← addRoute os route)

/-- `Routes::create`. -/
def Routes.create (serverIpv4Addr : BitVec 32) (serverIpv6Addr : Option (BitVec 128))
    (interfaceIndex : UInt32) (serverIps : List IpAddr) :
    Win E (Except ProTunFatalError Routes) := do
  addTunRoutes os serverIpv4Addr serverIpv6Addr interfaceIndex
  let createdRoutes ← getCreatedRoutes os
  match ← createServerRoutes os serverIps with
  | .error e => return .error e
  | .ok routes =>
    setCreatedRoutes os (← addServerRoutes os json routes createdRoutes)
    return .ok { interfaceIndex }

/-- What is to be written back for a journal entry. -/
def deleteEntry (routesToReinsert : List String) (createdRoute : String) :
    Win E (List String) :=
  match json.fromStr createdRoute with
  | .ok route => do
    match ← deleteRoute os route with
    | .error _ => return routesToReinsert ++ [createdRoute]
    | .ok _ => return routesToReinsert
  -- there is no need to re-insert what cannot be read
  | .error _ => return routesToReinsert

/-- `delete_created_routes`. -/
def deleteCreatedRoutes : Win E Unit := do
  let createdRoutes ← getCreatedRoutes os
  setCreatedRoutes os (← Prog.fold (deleteEntry os json) createdRoutes [])

/-- `Routes::delete`. -/
def Routes.delete (routes : Routes) : Win E Unit := do
  let _ ← deleteRoutes os routes.interfaceIndex
  deleteCreatedRoutes os json

/-! ## A machine to evaluate -/

/-- Numbers in unary, separated by commas. -/
def unary (numbers : List Nat) : String :=
  String.ofList ([','].intercalate (numbers.map (List.replicate · '1')))

/-- The numbers of such a text. -/
def ofUnary (s : String) : List Nat := (s.toList.splitOn ',').map List.length

theorem ofUnary_unary {numbers : List Nat} (h : numbers ≠ []) :
    ofUnary (unary numbers) = numbers := by
  unfold ofUnary unary
  rw [String.toList_ofList, List.splitOn_intercalate]
  · simp [Function.comp_def]
  · intro l hl
    obtain ⟨n, -, rfl⟩ := List.mem_map.mp hl
    simp
  · simpa using h

/-- The numbers of a route; a next hop is told from none by adding one to it. -/
def IpRoute.numbers {w : Nat} (route : IpRoute w) : List Nat :=
  [route.destinationIpAddr.toNat, route.destinationPrefixLength.toNat,
    route.nextHopAddress.elim 0 (·.toNat + 1), route.interfaceIndex.toNat]

/-- The next hop of a number. -/
def nextHopOfNumber (w : Nat) : Nat → Option (BitVec w)
  | 0 => none
  | n + 1 => some (BitVec.ofNat w n)

/-- The route of four numbers. -/
def IpRoute.ofNumbers (w : Nat) : List Nat → Option (IpRoute w)
  | [address, length, nextHop, index] =>
    some ⟨BitVec.ofNat w address, UInt8.ofNat length, nextHopOfNumber w nextHop, UInt32.ofNat index⟩
  | _ => none

theorem IpRoute.ofNumbers_numbers {w : Nat} (route : IpRoute w) :
    IpRoute.ofNumbers w route.numbers = some route := by
  obtain ⟨address, length, nextHop, index⟩ := route
  cases nextHop <;> simp [numbers, ofNumbers, nextHopOfNumber]

/-- A codec for `Route` that can be evaluated. -/
def unaryJson : Json where
  toString
    | .v4 route => .ok (unary (0 :: route.numbers))
    | .v6 route => .ok (unary (1 :: route.numbers))
  fromStr s :=
    match ofUnary s with
    | 0 :: numbers => ((IpRoute.ofNumbers 32 numbers).map Route.v4).elim (.error "route") .ok
    | 1 :: numbers => ((IpRoute.ofNumbers 128 numbers).map Route.v6).elim (.error "route") .ok
    | _ => .error "route"

theorem unaryJson_fromStr_v4 (route : Ipv4Route) :
    unaryJson.fromStr (unary (0 :: route.numbers)) = .ok (.v4 route) := by
  simp [unaryJson, ofUnary_unary, IpRoute.ofNumbers_numbers]

theorem unaryJson_fromStr_v6 (route : Ipv6Route) :
    unaryJson.fromStr (unary (1 :: route.numbers)) = .ok (.v6 route) := by
  simp [unaryJson, ofUnary_unary, IpRoute.ofNumbers_numbers]

theorem unaryJson_lawful : unaryJson.Lawful where
  roundTrip route := by
    cases route with
    | v4 route => exact ⟨_, rfl, unaryJson_fromStr_v4 route⟩
    | v6 route => exact ⟨_, rfl, unaryJson_fromStr_v6 route⟩
  fromStr_empty _ := nofun

/-- A machine without a state of its own. Rows are deleted if they are there, the internet is behind
the gateway 0.0.0.1, and the registry can be written. -/
def fixedOs (create : MibIpforwardRow → Table → Win32Error) (reads : Bool) : RouteOs Unit where
  createIpForwardEntry2 row table _ := (create row table, ())
  deleteIpForwardEntry2 row table _ :=
    (if InTable row table then noError else errorObjectNotFound, ())
  getIpForwardTable2 _ := (true, ())
  getPotentialInternetInterfaces _ _ := (.ok [.v4 ⟨25, 0, 2, 3, 1⟩], ())
  openSubkey _ := (reads, ())
  getValue _ := (reads, ())
  createSubkey _ := (true, ())
  setValue _ := (true, ())

/-- Add a row unless it is there. -/
def addNew (row : MibIpforwardRow) (table : Table) : Win32Error :=
  if InTable row table then errorObjectAlreadyExists else noError

/-! ## Rules for the two functions -/

/-- Nothing the environment does to itself matters. -/
def IgnoresEnv (P : Hist (Machine E) Obs → Prop) : Prop :=
  ∀ h env, P h → P (h.set { h.now with env })

/-- No call of the registry ever fails. -/
def RouteOs.RegistryWorks (os : RouteOs E) : Prop :=
  ∀ env, (os.openSubkey env).1 = true ∧ (os.getValue env).1 = true ∧
    (os.createSubkey env).1 = true ∧ (os.setValue env).1 = true

section Rules

variable {os json} {P Q N : Hist (Machine E) Obs → Prop}

theorem triple_ask {α : Type} (hP : IgnoresEnv P) (call : E → α × E) :
    Prog.Triple P (ask call) (fun _ => P) N :=
  fun h hp => hP h _ hp

theorem triple_ask_eq {α : Type} (hP : IgnoresEnv P) (call : E → α × E) :
    Prog.Triple P (ask call) (fun a h => (∃ env, (call env).1 = a) ∧ P h) N :=
  fun h hp => ⟨⟨h.now.env, rfl⟩, hP h _ hp⟩

theorem triple_getInternetInterfaces (hP : IgnoresEnv P) :
    Prog.Triple P (getInternetInterfaces os) (fun _ => P) N :=
  fun h hp => hP h _ hp

/-- The journal is read, or the answer is the empty list. -/
theorem triple_getCreatedRoutes {J : List String → Hist (Machine E) Obs → Prop}
    (hP : IgnoresEnv P)
    (hread : ∀ h, P h → J (nonEmptyDistinct h.now.journal) (h.emit (.readJournal true)))
    (hfail : ¬ os.RegistryWorks → ∀ h, P h → J [] (h.emit (.readJournal false))) :
    Prog.Triple P (getCreatedRoutes os) J N := by
  refine Prog.triple_bind (triple_ask_eq hP os.openSubkey) fun opened => ?_
  cases opened with
  | false =>
    rintro h ⟨⟨env, henv⟩, hp⟩
    exact hfail (fun hw => by simp [(hw env).1] at henv) h hp
  | true =>
    refine Prog.triple_bind ((triple_ask_eq hP os.getValue).pre fun _ h => h.2) fun got => ?_
    cases got with
    | false =>
      rintro h ⟨⟨env, henv⟩, hp⟩
      exact hfail (fun hw => by simp [(hw env).2.1] at henv) h hp
    | true => exact fun h hp => hread h hp.2

/-- The journal is replaced, or it stays. -/
theorem triple_setCreatedRoutes {routes : List String} (hP : IgnoresEnv P)
    (hstore : ∀ h, P h →
      Q ((h.set { h.now with routingTable := some (nonEmptyDistinct routes) }).emit
        (.wroteJournal true)))
    (hfail : ¬ os.RegistryWorks → ∀ h, P h → Q (h.emit (.wroteJournal false))) :
    Prog.Triple P (setCreatedRoutes os routes) (fun _ => Q) N := by
  refine Prog.triple_bind (triple_ask_eq hP os.createSubkey) fun opened => ?_
  cases opened with
  | false =>
    rintro h ⟨⟨env, henv⟩, hp⟩
    exact hfail (fun hw => by simp [(hw env).2.2.1] at henv) h hp
  | true =>
    refine Prog.triple_bind ((triple_ask_eq hP os.setValue).pre fun _ h => h.2) fun got => ?_
    cases got with
    | false =>
      rintro h ⟨⟨env, henv⟩, hp⟩
      exact hfail (fun hw => by simp [(hw env).2.2.2] at henv) h hp
    | true => exact fun h hp => hstore h hp.2

theorem triple_addTunRoutes {serverIpv4Addr : BitVec 32} {serverIpv6Addr : Option (BitVec 128)}
    {interfaceIndex : UInt32}
    (htun : ∀ row ∈ tunRows serverIpv4Addr serverIpv6Addr interfaceIndex,
      Prog.Triple P (createIpForwardEntry2 os row) (fun _ => P) N) :
    Prog.Triple P (addTunRoutes os serverIpv4Addr serverIpv6Addr interfaceIndex)
      (fun _ => P) N := by
  have hkeep {α : Type} {a : α} : Prog.Triple P (pure a) (fun _ => P) N :=
    Prog.triple_pure fun _ h => h
  refine Prog.triple_bind (Prog.triple_bind (htun _ (by simp [tunRows])) fun _ => hkeep) fun _ =>
    Prog.triple_bind (Prog.triple_bind (htun _ (by simp [tunRows])) fun _ => hkeep) fun _ => ?_
  cases serverIpv6Addr with
  | none => exact hkeep
  | some a =>
    exact Prog.triple_bind (Prog.triple_bind (htun _ (by simp [tunRows])) fun _ => hkeep)
      fun _ => Prog.triple_bind (Prog.triple_bind (htun _ (by simp [tunRows])) fun _ => hkeep)
        fun _ => hkeep

theorem triple_createServerRoutes (hP : IgnoresEnv P) (serverIps : List IpAddr) :
    Prog.Triple P (createServerRoutes os serverIps)
      (fun result h => (∀ routes, result = .ok routes → ∀ route ∈ routes, route.IsHost) ∧ P h)
      N := by
  refine Prog.triple_bind (triple_getInternetInterfaces hP) fun interfaces => ?_
  cases interfaces with
  | error e => exact Prog.triple_pure fun _ h => ⟨by simp, h⟩
  | ok interfaces =>
    refine Prog.triple_pure fun _ h => ⟨?_, h⟩
    rintro _ ⟨rfl⟩ route hroute
    obtain ⟨serverIp, -, hip⟩ := List.mem_filterMap.mp hroute
    exact isHost_of_createServerRoute hip

/-- The rule of `create`: from `S` the routes of the ProTUN interface are added, `P` holds until the
journal is read, `J` speaks of the list that is to be written, and `Q` holds after the write. If the
routes of the servers cannot be made, what is left is `R`, which holds after the read. -/
theorem triple_create {S R : Hist (Machine E) Obs → Prop}
    {J : List String → Hist (Machine E) Obs → Prop} {serverIpv4Addr : BitVec 32}
    {serverIpv6Addr : Option (BitVec 128)} {interfaceIndex : UInt32}
    (hR : IgnoresEnv R) (hJ : ∀ created, IgnoresEnv (J created))
    (htun : Prog.Triple S (addTunRoutes os serverIpv4Addr serverIpv6Addr interfaceIndex)
      (fun _ => P) N)
    (hread : Prog.Triple P (getCreatedRoutes os) (fun created h => R h ∧ J created h) N)
    (hadd : ∀ created route, route.IsHost → Prog.Triple (J created) (addRoute os route)
      (fun result => J (created ++ journalEntry json route result)) N)
    (hwrite : ∀ created, Prog.Triple (J created) (setCreatedRoutes os created) (fun _ => Q) N)
    (serverIps : List IpAddr) :
    Prog.Triple S
      (Routes.create os json serverIpv4Addr serverIpv6Addr interfaceIndex serverIps)
      (fun result h => (∃ e, result = .error e ∧ R h) ∨ (∃ routes, result = .ok routes ∧ Q h))
      N := by
  refine Prog.triple_bind htun fun _ => Prog.triple_bind hread fun created =>
    Prog.triple_bind (triple_createServerRoutes
      (fun h env hp => ⟨hR h env hp.1, hJ created h env hp.2⟩) serverIps) fun routes => ?_
  cases routes with
  | error e => exact Prog.triple_pure fun _ h => .inl ⟨e, rfl, h.2.1⟩
  | ok routes =>
    have hloop := Prog.triple_fold (N := N)
      (J := fun rest created h => (∀ route ∈ rest, Route.IsHost route) ∧ J created h)
      (f := fun created route => do
        return created ++ journalEntry json route (← addRoute os route))
      (fun route rest created h hJ => Prog.triple_bind
        (P := fun h => J created h)
        (hadd created route (hJ.1 route List.mem_cons_self))
        (fun _ => Prog.triple_pure fun _ h => ⟨fun r hr => hJ.1 r (List.mem_cons_of_mem _ hr), h⟩)
        h hJ.2)
    refine Prog.triple_bind ((hloop routes created).pre fun _ h => ⟨h.1 routes rfl, h.2.2⟩)
      fun created => Prog.triple_bind ((hwrite created).pre fun _ h => h.2) fun _ => ?_
    exact Prog.triple_pure fun _ h => .inr ⟨_, rfl, h⟩

/-- The rule of `delete_created_routes`: `J` speaks of the entries still to be tried and of those
that are to be written back. -/
theorem triple_deleteCreatedRoutes {J : List String → List String → Hist (Machine E) Obs → Prop}
    (hread : Prog.Triple P (getCreatedRoutes os) (fun created => J created []) N)
    (hskip : ∀ s rest kept h, (∀ route, json.fromStr s ≠ .ok route) → J (s :: rest) kept h →
      J rest kept h)
    (hdelete : ∀ s rest kept route, json.fromStr s = .ok route →
      Prog.Triple (J (s :: rest) kept) (deleteRoute os route)
        (fun result h => (∃ e, result = .error e ∧ J rest (kept ++ [s]) h) ∨
          ∃ success, result = .ok success ∧ J rest kept h) N)
    (hwrite : ∀ kept, Prog.Triple (J [] kept) (setCreatedRoutes os kept) (fun _ => Q) N) :
    Prog.Triple P (deleteCreatedRoutes os json) (fun _ => Q) N := by
  refine Prog.triple_bind hread fun created => Prog.triple_bind
    (Prog.triple_fold (J := J) (fun s rest kept => ?_) created []) hwrite
  unfold deleteEntry
  cases hs : json.fromStr s with
  | error e => exact Prog.triple_pure fun h => hskip s rest kept h (by simp [hs])
  | ok route =>
    refine Prog.triple_bind (hdelete s rest kept route hs) fun result => ?_
    rintro h (⟨e, rfl, hJ⟩ | ⟨success, rfl, hJ⟩)
    · exact hJ
    · exact hJ

end Rules

/-! ## What `create` leaves in the table -/

/-- The observation is none of a call that changes the routing table. -/
def Obs.isNote : Obs → Bool
  | .addRoute .. | .deleteRoute .. | .readJournal _ | .wroteJournal _ => true
  | _ => false

/-- What every addition keeps, whatever the registry and the environment do, `create` keeps. -/
theorem inv_create {I : Hist (Machine E) Obs → Prop} {serverIpv4Addr : BitVec 32}
    {serverIpv6Addr : Option (BitVec 128)} {interfaceIndex : UInt32}
    (hset : ∀ h (m : Machine E), m.table = h.now.table → I h → I (h.set m))
    (hemit : ∀ h o, Obs.isNote o = true → I h → I (h.emit o))
    (hadd : ∀ h row, I h → I (createIpForwardEntry2 os row h).2)
    (serverIps : List IpAddr) :
    Prog.Inv I
      (Routes.create os json serverIpv4Addr serverIpv6Addr interfaceIndex serverIps) := by
  have henv : IgnoresEnv I := fun h env => hset h _ rfl
  refine fun h hI => (triple_create (P := I) (Q := I) (N := I) (R := I) (J := fun _ => I) henv
    (fun _ => henv) (triple_addTunRoutes fun row _ h => hadd h row)
    (triple_getCreatedRoutes henv (fun h hI => ⟨hemit h _ rfl hI, hemit h _ rfl hI⟩)
      fun _ h hI => ⟨hemit h _ rfl hI, hemit h _ rfl hI⟩)
    (fun _ route _ h hI => ?_)
    (fun _ => triple_setCreatedRoutes henv (fun h hI => hemit _ _ rfl (hset h _ rfl hI))
      fun _ h => hemit h _ rfl)
    serverIps).leaves ?_ hI
  · rw [addRoute_apply]
    exact hemit _ _ rfl (hadd h _ hI)
  · rintro result h (⟨e, -, hI⟩ | ⟨routes, -, hI⟩)
    · exact hI
    · exact hI

/-- The system was asked to add `row` and answered `code`. -/
def Obs.answers (row : MibIpforwardRow) (code : Win32Error) : Obs → Bool
  | .created row' code' => row' = row ∧ code' = code
  | _ => false

theorem Obs.answers_iff {row : MibIpforwardRow} {code : Win32Error} {o : Obs} :
    o.answers row code = true ↔ o = .created row code := by
  cases o <;> simp [answers]

/-- The system answered `code` when asked to add `row`. -/
def Answered (row : MibIpforwardRow) (code : Win32Error) (l : List (Obs × Machine E)) : Prop :=
  ∃ x ∈ l, x.1.answers row code = true

instance (row : MibIpforwardRow) (code : Win32Error) (l : List (Obs × Machine E)) :
    Decidable (Answered row code l) :=
  inferInstanceAs (Decidable (∃ x ∈ l, x.1.answers row code = true))

theorem answered_snoc {row : MibIpforwardRow} {code : Win32Error} {o : Obs}
    {l : List (Obs × Machine E)} {m : Machine E} :
    Answered row code (l ++ [(o, m)]) ↔ Answered row code l ∨ o = .created row code := by
  simp [Answered, or_and_right, exists_or, Obs.answers_iff]

/-- The row of the IPv4 any route of an interface. -/
def ipv4AnyRow (interfaceIndex : UInt32) : MibIpforwardRow :=
  createIpv4MibIpforwardRow (createIpv4AnyRoute interfaceIndex)

/-- The row of the IPv6 any route of an interface. -/
def ipv6AnyRow (interfaceIndex : UInt32) : MibIpforwardRow :=
  createIpv6MibIpforwardRow (createIpv6AnyRoute interfaceIndex)

/-- What the system answers on the machine `m` when it is asked to add `row`. -/
def RouteOs.answer (row : MibIpforwardRow) (m : Machine E) : Win32Error :=
  (os.createIpForwardEntry2 row m.table m.env).1

/-- The machine after that answer. -/
def RouteOs.after (row : MibIpforwardRow) (m : Machine E) : Machine E where
  env := (os.createIpForwardEntry2 row m.table m.env).2
  table := if os.answer row m = noError then m.table ++ [row] else m.table
  routingTable := m.routingTable

/-- The machine on which the system is asked for the IPv4 any route: one route was asked for
before. -/
def RouteOs.atIpv4Any (serverIpv4Addr : BitVec 32) (interfaceIndex : UInt32) (m : Machine E) :
    Machine E :=
  os.after (createIpv4MibIpforwardRow (createIpv4LocalAgentRoute serverIpv4Addr interfaceIndex)) m

/-- The machine on which the system is asked for the IPv6 any route: three routes were asked for
before. -/
def RouteOs.atIpv6Any (serverIpv4Addr : BitVec 32) (serverIpv6Addr : BitVec 128)
    (interfaceIndex : UInt32) (m : Machine E) : Machine E :=
  os.after (createIpv6MibIpforwardRow (createIpv6LocalAgentRoute serverIpv6Addr interfaceIndex))
    (os.after (ipv4AnyRow interfaceIndex) (os.atIpv4Any serverIpv4Addr interfaceIndex m))

section AnyRoutes

variable {os} {row row' : MibIpforwardRow} {m : Machine E} {h h' : Hist (Machine E) Obs}
  {code : Win32Error}

theorem createIpForwardEntry2_eq (row : MibIpforwardRow) (h : Hist (Machine E) Obs) :
    createIpForwardEntry2 os row h = (some (os.answer row h.now),
      (h.set (os.after row h.now)).emit (.created row (os.answer row h.now))) := rfl

theorem inTable_after : InTable row (os.after row' m).table ↔
    InTable row m.table ∨ os.answer row' m = noError ∧ row'.key = row.key := by
  unfold RouteOs.after
  dsimp only
  split_ifs with hc
  · simp [inTable_snoc, hc]
  · simp [hc]

theorem inTable_after_self :
    InTable row (os.after row m).table ↔ InTable row m.table ∨ os.answer row m = noError := by
  rw [inTable_after, and_iff_left rfl]

theorem inTable_after_of_ne (hne : row'.key ≠ row.key) :
    InTable row (os.after row' m).table ↔ InTable row m.table := by
  rw [inTable_after, or_iff_left fun hc => hne hc.2]

/-- Rows of prefixes of different lengths are of different routes. -/
theorem key_ne_of_prefixLength
    (hne : row'.destinationPrefix.prefixLength ≠ row.destinationPrefix.prefixLength) :
    row'.key ≠ row.key :=
  fun hkey => hne (congrArg (fun k => k.destinationPrefix.prefixLength) hkey)

theorem key_ipv6AnyRow_ne (interfaceIndex : UInt32) :
    (ipv6AnyRow interfaceIndex).key ≠ (ipv4AnyRow interfaceIndex).key :=
  fun hkey => absurd (congrArg (fun k => k.destinationPrefix.address.siFamily) hkey)
    (by decide : afInet6 ≠ afInet)

/-- The row is in the table, and has been answered for, as before. -/
structure SameFor (row : MibIpforwardRow) (h h' : Hist (Machine E) Obs) : Prop where
  table : InTable row h'.now.table ↔ InTable row h.now.table
  answered : ∀ code, Answered row code h'.past ↔ Answered row code h.past

theorem SameFor.refl : SameFor row h h := ⟨Iff.rfl, fun _ => Iff.rfl⟩

theorem SameFor.set (hs : SameFor row h h') (hm : m.table = h'.now.table) :
    SameFor row h (h'.set m) where
  table := by rw [Hist.set_now, hm, hs.table]
  answered := hs.answered

theorem SameFor.note (hs : SameFor row h h') {o : Obs} (ho : o.isNote = true) :
    SameFor row h (h'.emit o) where
  table := hs.table
  answered code := by
    have hne : o ≠ .created row code := by
      rintro rfl
      cases ho
    rw [Hist.emit_past, answered_snoc, or_iff_left hne, hs.answered]

/-- Another route is asked for. -/
theorem SameFor.createIpForwardEntry2 (hs : SameFor row h h') (hne : row'.key ≠ row.key) :
    SameFor row h (createIpForwardEntry2 os row' h').2 where
  table := by
    rw [createIpForwardEntry2_eq, Hist.emit_now, Hist.set_now, inTable_after_of_ne hne, hs.table]
  answered code := by
    have hrow : Obs.created row' (os.answer row' h'.now) ≠ .created row code := by
      rintro ⟨⟩
      exact hne rfl
    rw [createIpForwardEntry2_eq, Hist.emit_past, answered_snoc, or_iff_left hrow, Hist.set_past,
      hs.answered]

theorem Route.IsHost.key_ne {route : Route} (hroute : route.IsHost)
    (hany : row.destinationPrefix.prefixLength = 0) : route.row.key ≠ row.key := by
  refine key_ne_of_prefixLength ?_
  rw [hany]
  cases route with
  | v4 route => exact fun hlen => absurd (hroute.symm.trans hlen) (by decide)
  | v6 route => exact fun hlen => absurd (hroute.symm.trans hlen) (by decide)

/-- After the routes of the ProTUN interface, no any route is asked for. -/
theorem sameFor_create (hany : row.destinationPrefix.prefixLength = 0) (serverIpv4Addr : BitVec 32)
    (serverIpv6Addr : Option (BitVec 128)) (interfaceIndex : UInt32) (serverIps : List IpAddr)
    (h : Hist (Machine E) Obs) :
    SameFor row (addTunRoutes os serverIpv4Addr serverIpv6Addr interfaceIndex h).2
      (Routes.create os json serverIpv4Addr serverIpv6Addr interfaceIndex serverIps h).2 := by
  generalize hstart : (addTunRoutes os serverIpv4Addr serverIpv6Addr interfaceIndex h).2 = start
  have henv : IgnoresEnv (SameFor row start) := fun _ _ hs => hs.set rfl
  have htun : Prog.Triple (· = h)
      (addTunRoutes os serverIpv4Addr serverIpv6Addr interfaceIndex)
      (fun _ => SameFor row start) (SameFor row start) := by
    refine Prog.triple_of_leaves ?_ fun _ => id
    rintro _ rfl
    rw [hstart]
    exact .refl
  refine (triple_create (Q := SameFor row start) (R := SameFor row start)
    (J := fun _ => SameFor row start) henv (fun _ => henv) htun
    (triple_getCreatedRoutes henv (fun _ hs => ⟨hs.note rfl, hs.note rfl⟩)
      fun _ _ hs => ⟨hs.note rfl, hs.note rfl⟩)
    (fun _ route hroute h' hs => ?_)
    (fun _ => triple_setCreatedRoutes henv
      (fun _ hs => SameFor.note (SameFor.set hs (by rfl)) (by rfl)) fun _ _ hs => hs.note rfl)
    serverIps).leaves ?_ rfl
  · rw [addRoute_apply]
    exact (hs.createIpForwardEntry2 (hroute.key_ne hany)).note rfl
  · rintro result h' (⟨e, -, hs⟩ | ⟨routes, -, hs⟩)
    · exact hs
    · exact hs

/-- A route that is asked for once. -/
structure AskedOnce (os : RouteOs E) (row : MibIpforwardRow) (m m' : Machine E)
    (h : Hist (Machine E) Obs) : Prop where
  table : InTable row h.now.table ↔ InTable row m.table ∨ os.answer row m' = noError
  answered : ∀ code, Answered row code h.past ↔ os.answer row m' = code

theorem SameFor.askedOnce (hs : SameFor row (Hist.init m) h) :
    AskedOnce os row m h.now (Routing.createIpForwardEntry2 os row h).2 where
  table := by
    rw [createIpForwardEntry2_eq, Hist.emit_now, Hist.set_now, inTable_after_self, hs.table]
    rfl
  answered code := by
    rw [createIpForwardEntry2_eq, Hist.emit_past, answered_snoc, Hist.set_past, hs.answered]
    simp [Answered]

theorem AskedOnce.sameFor {m' : Machine E} (ha : AskedOnce os row m m' h) (hs : SameFor row h h') :
    AskedOnce os row m m' h' where
  table := hs.table.trans ha.table
  answered code := (hs.answered code).trans (ha.answered code)

variable (os) (serverIpv4Addr : BitVec 32) (serverIpv6Addr : Option (BitVec 128))
  (interfaceIndex : UInt32) (m : Machine E)

/-- The IPv4 any route is asked for after the route to the local agent, and not again. -/
theorem askedOnce_ipv4Any :
    AskedOnce os (ipv4AnyRow interfaceIndex) m (os.atIpv4Any serverIpv4Addr interfaceIndex m)
      (addTunRoutes os serverIpv4Addr serverIpv6Addr interfaceIndex (Hist.init m)).2 := by
  have hagent4 : (Route.v4 (createIpv4LocalAgentRoute serverIpv4Addr interfaceIndex)).IsHost := rfl
  have hasked : AskedOnce os (ipv4AnyRow interfaceIndex) m
      (os.atIpv4Any serverIpv4Addr interfaceIndex m)
      (addTunRoutes os serverIpv4Addr none interfaceIndex (Hist.init m)).2 :=
    (SameFor.refl.createIpForwardEntry2 (hagent4.key_ne rfl)).askedOnce
  cases serverIpv6Addr with
  | none => exact hasked
  | some a =>
    have hagent6 : (Route.v6 (createIpv6LocalAgentRoute a interfaceIndex)).IsHost := rfl
    exact hasked.sameFor ((SameFor.refl.createIpForwardEntry2 (hagent6.key_ne rfl)
      ).createIpForwardEntry2 (key_ipv6AnyRow_ne interfaceIndex))

/-- The IPv6 any route is asked for last. -/
theorem askedOnce_ipv6Any (a : BitVec 128) :
    AskedOnce os (ipv6AnyRow interfaceIndex) m (os.atIpv6Any serverIpv4Addr a interfaceIndex m)
      (addTunRoutes os serverIpv4Addr (some a) interfaceIndex (Hist.init m)).2 := by
  have hagent4 : (Route.v4 (createIpv4LocalAgentRoute serverIpv4Addr interfaceIndex)).IsHost := rfl
  have hagent6 : (Route.v6 (createIpv6LocalAgentRoute a interfaceIndex)).IsHost := rfl
  exact (((SameFor.refl.createIpForwardEntry2 (hagent4.key_ne rfl)).createIpForwardEntry2
    (key_ipv6AnyRow_ne interfaceIndex).symm).createIpForwardEntry2 (hagent6.key_ne rfl)).askedOnce

end AnyRoutes

/-- **When the mandatory routes are there.** For every answer of the system calls, after `create`
the any routes (that of IPv6 only if there is a server address for it and it was not reported
disabled) are in the table, iff each of them was there before the call or the system answers
`NO_ERROR` when `create` comes to ask for it. Every other answer is ignored. -/
theorem anyRoutes_iff (m : Machine E) (serverIpv4Addr : BitVec 32)
    (serverIpv6Addr : Option (BitVec 128)) (interfaceIndex : UInt32) (serverIps : List IpAddr) :
    let r := Routes.create os json serverIpv4Addr serverIpv6Addr interfaceIndex serverIps
      (Hist.init m)
    let any4 := ipv4AnyRow interfaceIndex
    let any6 := ipv6AnyRow interfaceIndex
    (InTable any4 r.2.now.table ∧
      (serverIpv6Addr.isSome → InTable any6 r.2.now.table ∨ Answered any6 errorNotFound r.2.past)) ↔
    (InTable any4 m.table ∨
        os.answer any4 (os.atIpv4Any serverIpv4Addr interfaceIndex m) = noError) ∧
      ∀ a ∈ serverIpv6Addr, InTable any6 m.table ∨
        os.answer any6 (os.atIpv6Any serverIpv4Addr a interfaceIndex m) = noError ∨
        os.answer any6 (os.atIpv6Any serverIpv4Addr a interfaceIndex m) = errorNotFound := by
  intro r any4 any6
  have hrest (row : MibIpforwardRow) (hany : row.destinationPrefix.prefixLength = 0) :
      SameFor row (addTunRoutes os serverIpv4Addr serverIpv6Addr interfaceIndex (Hist.init m)).2
        r.2 :=
    sameFor_create json hany serverIpv4Addr serverIpv6Addr interfaceIndex serverIps _
  have h4 := (askedOnce_ipv4Any os serverIpv4Addr serverIpv6Addr interfaceIndex m).sameFor
    (hrest any4 rfl)
  rw [h4.table]
  refine and_congr_right fun _ => ?_
  cases serverIpv6Addr with
  | none => simp
  | some a =>
    have h6 := (askedOnce_ipv6Any os serverIpv4Addr interfaceIndex m a).sameFor (hrest any6 rfl)
    simp only [Option.isSome_some, true_imp_iff, Option.mem_def, Option.some.injEq, forall_eq']
    rw [h6.table, h6.answered, or_assoc]

/-- The system denies every row, and `create` returns `Ok` without the any route. -/
theorem anyRoute_denied :
    let r := Routes.create (fixedOs (fun _ _ => 5) true) unaryJson 0x0a020001 none 9 []
      (Hist.init ⟨(), [], none⟩)
    r.1 = some (.ok ⟨9⟩) ∧ ¬ InTable (ipv4AnyRow 9) r.2.now.table := by
  decide +kernel

end Protun.Routing
