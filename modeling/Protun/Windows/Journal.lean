import Protun.Data.Journal
import Protun.Windows.Routes

/-!
# The journal of server routes over many sessions

The journal is the only record of the host routes that are to be deleted. It is read, changed and
written by `Routes::create` and by `delete_created_routes`, also as part of `Routes::delete`, and it
outlives the sessions. Here any sequence of the three operations runs on one machine.

* `Standing`: `create` added the route, and no deletion since then removed it or found it missing.
* **`journal_covers`**: if the registry never fails, every standing route is listed after every
  operation, and `delete_created_routes` passes only routes to `delete_route` that `create` added or
  that were listed at the start.
* **`none_lost_iff`**: if the journal cannot be read but can be written, the routes it listed are
  forgotten, so none that is still in the table is lost iff there was none in the table.
-/

namespace Protun.Routing

open Trace Journal

variable {E : Type} (os : RouteOs E) (json : Json)

/-! ## Operations -/

/-- A call that reads the journal and writes it. -/
inductive Call where
  | create (serverIpv4Addr : BitVec 32) (serverIpv6Addr : Option (BitVec 128))
      (interfaceIndex : UInt32) (serverIps : List IpAddr)
  | deleteCreatedRoutes

/-- Perform a call; the result of `create` does not matter here. -/
def Call.perform : Call → Win E Unit
  | .create serverIpv4Addr serverIpv6Addr interfaceIndex serverIps => do
    let _ ← Routes.create os json serverIpv4Addr serverIpv6Addr interfaceIndex serverIps
  | .deleteCreatedRoutes => Routing.deleteCreatedRoutes os json

/-- An operation of some session. -/
inductive Op where
  | call (c : Call)
  | delete (routes : Routes)

/-- Perform an operation. -/
def Op.perform : Op → Win E Unit
  | .call c => c.perform os json
  | .delete routes => routes.delete os json

/-- Any sequence of operations. -/
def run (ops : List Op) : Win E Unit := Prog.forEach ops (Op.perform os json)

/-! ## What is standing and what is listed -/

/-- A deletion removed the route of `row` or found it missing. -/
def Obs.removes (row : MibIpforwardRow) : Obs → Prop
  | .deleted row' code => row'.key = row.key ∧ (code = noError ∨ code = errorObjectNotFound)
  | _ => False

/-- `create` added the route on the internet interface, and no later deletion removed it or found
it missing. -/
def Standing (route : Route) (l : List (Obs × Machine E)) : Prop :=
  Since (fun o => ¬ o.removes route.row) (· = .addRoute route (.ok ())) l

/-- The journal lists the route. -/
def Listed (route : Route) (m : Machine E) : Prop := ∃ s ∈ m.journal, json.fromStr s = .ok route

/-- The route was listed at the start, or `create` has added it. -/
def Known (start : Machine E) (l : List (Obs × Machine E)) (route : Route) : Prop :=
  Listed json route start ∨ ∃ m, (.addRoute route (.ok ()), m) ∈ l

/-- The entries cover what is standing, and only what is known has been passed to
`delete_route`. -/
structure Journaled (start : Machine E) (entries : List String) (h : Hist (Machine E) Obs) :
    Prop where
  covers : Covers (fun s route => json.fromStr s = .ok route) {route | Standing route h.past}
    {route | Known json start h.past route} entries
  deleted : ∀ route result m, (.deleteRoute route result, m) ∈ h.past →
    Known json start h.past route

variable {os json} {start m : Machine E} {entries : List String} {h : Hist (Machine E) Obs}
  {l : List (Obs × Machine E)} {o : Obs}

theorem Known.append {route : Route} (hk : Known json start l route)
    (seg : List (Obs × Machine E)) : Known json start (l ++ seg) route :=
  hk.imp_right fun ⟨m, hm⟩ => ⟨m, List.mem_append_left _ hm⟩

theorem not_standing_nil {route : Route} : ¬ Standing route ([] : List (Obs × Machine E)) :=
  not_since_nil

theorem standing_snoc {route : Route} :
    Standing route (l ++ [(o, m)]) ↔
      o = .addRoute route (.ok ()) ∨ (¬ o.removes route.row ∧ Standing route l) :=
  since_snoc

theorem standing_of_snoc {route : Route} (hs : Standing route (l ++ [(o, m)]))
    (ho : o ≠ .addRoute route (.ok ())) : Standing route l ∧ ¬ o.removes route.row := by
  obtain ho' | ⟨hr, hs⟩ := standing_snoc.mp hs
  · exact absurd ho' ho
  · exact ⟨hs, hr⟩

namespace Journaled

/-- Observations but those of `add_route` and `delete_route` make less standing. -/
theorem emit (hj : Journaled json start entries h) (m : Machine E)
    (hadd : ∀ route, o ≠ .addRoute route (.ok ()))
    (hdel : ∀ route result, o ≠ .deleteRoute route result) :
    Journaled json start entries ((h.set m).emit o) where
  covers := hj.covers.mono (fun route hs => (standing_of_snoc hs (hadd route)).1)
    fun _ hk => hk.append _
  deleted route result m' hmem := by
    rcases List.mem_append.mp hmem with hmem | hmem
    · exact (hj.deleted route result m' hmem).append _
    · obtain ⟨rfl, -⟩ := Prod.mk.inj (List.mem_singleton.mp hmem)
      exact absurd rfl (hdel route result)

/-- An added route, with its entry. -/
theorem added (hjson : json.Lawful) (hj : Journaled json start entries h) (route : Route) :
    Journaled json start (entries ++ journalEntry json route (.ok ()))
      (h.emit (.addRoute route (.ok ()))) := by
  obtain ⟨s, hs, hread⟩ := hjson.roundTrip route
  have hentry : journalEntry json route (.ok ()) = [s] := by simp [journalEntry, hs]
  have hknown : Known json start (h.emit (.addRoute route (.ok ()))).past route :=
    .inr ⟨h.now, by simp⟩
  refine ⟨?_, fun route' result m hmem => ?_⟩
  · rw [hentry]
    refine ((hj.covers.mono (fun _ hs => hs) fun _ hk => hk.append _).push hread
      (fun r hr => ?_) hknown).mono (fun r hr => ?_) fun _ hk => hk
    · exact (Except.ok.inj (hread.symm.trans hr)).symm
    · obtain ho | ⟨-, hs⟩ := standing_snoc.mp hr
      · left
        injection ho with ho
        exact ho.symm
      · exact .inr hs
  · rcases List.mem_append.mp hmem with hmem | hmem
    · exact (hj.deleted route' result m hmem).append _
    · simp at hmem

/-- A known route is passed to `delete_route`. -/
theorem tried (hj : Journaled json start entries h) {route : Route}
    (hknown : Known json start h.past route) (result : Except String RouteDeletionSuccess) :
    Journaled json start entries (h.emit (.deleteRoute route result)) where
  covers := hj.covers.mono (fun route hs => (standing_of_snoc hs nofun).1) fun _ hk => hk.append _
  deleted route' result' m' hmem := by
    rcases List.mem_append.mp hmem with hmem | hmem
    · exact (hj.deleted route' result' m' hmem).append _
    · obtain ⟨ho, -⟩ := Prod.mk.inj (List.mem_singleton.mp hmem)
      injection ho with hroute
      exact hroute ▸ hknown.append _

/-- Entries that name nothing standing may go. -/
theorem shrink {entries' : List String} (hj : Journaled json start entries h)
    (hsub : ∀ s ∈ entries', s ∈ entries)
    (hkeep : ∀ s ∈ entries, s ∉ entries' → ∀ route, json.fromStr s = .ok route →
      ¬ Standing route h.past) : Journaled json start entries' h :=
  ⟨hj.covers.shrink hsub fun s hs hs' route hroute hread => hkeep s hs hs' route hread hroute,
    hj.deleted⟩

theorem nonEmptyDistinct (hjson : json.Lawful) (hj : Journaled json start entries h) :
    Journaled json start (nonEmptyDistinct entries) h := by
  refine hj.shrink (fun s hs => (mem_nonEmptyDistinct.mp hs).1) fun s hs hs' route hread => ?_
  have hempty : s = "" := by
    by_contra hne
    exact hs' (mem_nonEmptyDistinct.mpr ⟨hs, hne⟩)
  exact absurd hread (hempty ▸ hjson.fromStr_empty route)

/-- One entry may go if its route is not standing. -/
theorem drop {s : String} {rest kept : List String}
    (hj : Journaled json start (kept ++ s :: rest) h)
    (hgone : ∀ route, json.fromStr s = .ok route → ¬ Standing route h.past) :
    Journaled json start (kept ++ rest) h := by
  refine hj.shrink (fun s' hs' => ?_) fun s' hs' hout route hread => ?_
  · rcases List.mem_append.mp hs' with hs' | hs' <;> simp [hs']
  · have heq : s' = s := by
      by_contra hne
      exact hout (by simpa [hne] using hs')
    exact hgone route (heq ▸ hread)

end Journaled

/-! ## The operations keep the journal -/

section Kept

variable {N : Hist (Machine E) Obs → Prop}

theorem journaled_ignoresEnv (entries : List String) :
    IgnoresEnv (Journaled (E := E) json start entries) :=
  fun _ _ hj => ⟨hj.covers, hj.deleted⟩

theorem triple_getCreatedRoutes_journaled (hreg : os.RegistryWorks) (hjson : json.Lawful) :
    Prog.Triple (fun h => Journaled json start h.now.journal h) (getCreatedRoutes os)
      (fun created h => Journaled json start h.now.journal h ∧ Journaled json start created h)
      N := by
  refine triple_getCreatedRoutes (fun _ _ hj => ⟨hj.covers, hj.deleted⟩) (fun h hj => ?_)
    fun hfail => absurd hreg hfail
  exact ⟨hj.emit h.now nofun nofun, (hj.nonEmptyDistinct hjson).emit h.now nofun nofun⟩

theorem triple_setCreatedRoutes_journaled (hreg : os.RegistryWorks) (hjson : json.Lawful)
    (entries : List String) :
    Prog.Triple (Journaled json start entries) (setCreatedRoutes os entries)
      (fun _ h => Journaled json start h.now.journal h) N := by
  refine triple_setCreatedRoutes (journaled_ignoresEnv entries) (fun h hj => ?_)
    fun hfail => absurd hreg hfail
  exact (hj.nonEmptyDistinct hjson).emit _ nofun nofun

theorem triple_addRoute_journaled (hjson : json.Lawful) (entries : List String) (route : Route) :
    Prog.Triple (Journaled json start entries) (addRoute os route)
      (fun result => Journaled json start (entries ++ journalEntry json route result)) N := by
  intro h hj
  rw [addRoute_apply]
  have hcreated : Journaled json start entries (createIpForwardEntry2 os route.row h).2 :=
    hj.emit _ nofun nofun
  cases hres : route.creation (os.createIpForwardEntry2 route.row h.now.table h.now.env).1 with
  | ok => exact hcreated.added hjson route
  | error e =>
    have hnone : journalEntry json route (.error e) = [] := rfl
    simp only [hnone, List.append_nil]
    exact hcreated.emit _ nofun nofun

theorem triple_deleteRoute_journaled {s : String} {rest kept : List String} {route : Route}
    (hread : json.fromStr s = .ok route) :
    Prog.Triple (Journaled json start (kept ++ s :: rest)) (deleteRoute os route)
      (fun result h => (∃ e, result = .error e ∧ Journaled json start ((kept ++ [s]) ++ rest) h) ∨
        ∃ success, result = .ok success ∧ Journaled json start (kept ++ rest) h) N := by
  intro h hj
  rw [deleteRoute_apply]
  have hknown := hj.covers.sound s (by simp) route hread
  have hdeleted : Journaled json start (kept ++ s :: rest)
      (deleteIpForwardEntry2 os route.row h).2 := hj.emit _ nofun nofun
  cases hres : deletion (os.deleteIpForwardEntry2 route.row h.now.table h.now.env).1 with
  | error e =>
    refine .inl ⟨e, rfl, ?_⟩
    rw [List.append_assoc]
    exact hdeleted.tried (hknown.append _) _
  | ok success =>
    -- only the entry that was just tried goes, and its route is not standing any more
    refine .inr ⟨success, rfl, (hdeleted.drop fun route' hread' hs => ?_).tried
      (hknown.append _) _⟩
    obtain rfl : route = route' := Except.ok.inj (hread.symm.trans hread')
    exact (standing_of_snoc hs nofun).2 ⟨rfl, deletion_eq_ok.mp ⟨success, hres⟩⟩

theorem triple_deleteCreatedRoutes_journaled (hreg : os.RegistryWorks) (hjson : json.Lawful) :
    Prog.Triple (fun h => Journaled json start h.now.journal h) (deleteCreatedRoutes os json)
      (fun _ h => Journaled json start h.now.journal h) N := by
  refine triple_deleteCreatedRoutes (J := fun rest kept => Journaled json start (kept ++ rest))
    ((triple_getCreatedRoutes_journaled hreg hjson).post fun _ _ hj => hj.2)
    (fun s rest kept h hnone hj => hj.drop fun route hread => absurd hread (hnone route))
    (fun s rest kept route hread => triple_deleteRoute_journaled hread) fun kept => ?_
  rw [List.append_nil]
  exact triple_setCreatedRoutes_journaled hreg hjson kept

theorem triple_deleteRoutes_journaled (interfaceIndex : UInt32) :
    Prog.Triple (fun h => Journaled json start h.now.journal h) (deleteRoutes os interfaceIndex)
      (fun _ h => Journaled json start h.now.journal h) N := by
  have hrows : Prog.Triple (fun h => Journaled json start h.now.journal h)
      (getInterfaceRows os interfaceIndex) (fun _ h => Journaled json start h.now.journal h) N := by
    refine Prog.triple_bind (triple_ask (fun _ _ hj => ⟨hj.covers, hj.deleted⟩) _) fun ok => ?_
    cases ok <;> exact fun _ hj => hj
  have hdelete (row : MibIpforwardRow) : Prog.Triple (fun h => Journaled json start h.now.journal h)
      (deleteIpForwardEntry2 os row) (fun _ h => Journaled json start h.now.journal h) N :=
    fun _ hj => hj.emit _ nofun nofun
  refine Prog.triple_bind hrows fun rows => Prog.triple_fold
    (J := fun _ _ h => Journaled json start h.now.journal h) (fun row rest results => ?_) rows []
  exact Prog.triple_bind (hdelete row) fun _ => Prog.triple_pure fun _ hj => hj

theorem triple_perform_journaled (hreg : os.RegistryWorks) (hjson : json.Lawful) (op : Op) :
    Prog.Triple (fun h => Journaled json start h.now.journal h) (op.perform os json)
      (fun _ h => Journaled json start h.now.journal h) N := by
  cases op with
  | delete routes =>
    exact Prog.triple_bind (triple_deleteRoutes_journaled _) fun _ =>
      triple_deleteCreatedRoutes_journaled hreg hjson
  | call c =>
    cases c with
    | deleteCreatedRoutes => exact triple_deleteCreatedRoutes_journaled hreg hjson
    | create serverIpv4Addr serverIpv6Addr interfaceIndex serverIps =>
      have hcreate (row : MibIpforwardRow) :
          Prog.Triple (fun h => Journaled json start h.now.journal h)
            (createIpForwardEntry2 os row) (fun _ h => Journaled json start h.now.journal h) N :=
        fun _ hj => hj.emit _ nofun nofun
      refine Prog.triple_bind (triple_create (fun _ _ hj => ⟨hj.covers, hj.deleted⟩)
        journaled_ignoresEnv (triple_addTunRoutes fun row _ => hcreate row)
        (triple_getCreatedRoutes_journaled hreg hjson)
        (fun entries route _ => triple_addRoute_journaled hjson entries route)
        (triple_setCreatedRoutes_journaled hreg hjson) serverIps) fun result =>
          Prog.triple_pure fun h hr => ?_
      rcases hr with ⟨e, -, hj⟩ | ⟨routes, -, hj⟩
      · exact hj
      · exact hj

end Kept

/-- **The journal covers the standing routes.** If the registry never fails and JSON is read as it
was written, then after any sequence of operations, whatever the system answers to each addition
and deletion: every server route that `create` added and that no later deletion removed or found
missing is listed; and a route for which `add_route` only ever answered that it already exists, and
which was not listed at the start, has never been passed to `delete_route`. -/
theorem journal_covers (hreg : os.RegistryWorks) (hjson : json.Lawful) (ops : List Op)
    (m : Machine E) :
    ∃ h, run os json ops (Hist.init m) = (some (), h) ∧
      (∀ route, Standing route h.past → Listed json route h.now) ∧
      ∀ route, ¬ Listed json route m →
        (∀ result m', (.addRoute route result, m') ∈ h.past → result = .error .alreadyExists) →
        ∀ result m', (.deleteRoute route result, m') ∉ h.past := by
  have hinit : Journaled json m m.journal (Hist.init m) :=
    ⟨⟨fun _ hs => absurd hs not_standing_nil, fun s hs _ hread => .inl ⟨s, hs, hread⟩⟩,
      fun _ _ _ hmem => absurd hmem List.not_mem_nil⟩
  have hrun := Prog.triple_forEach (N := fun _ => False)
    (triple_perform_journaled hreg hjson) ops (Hist.init m) hinit
  cases hr : run os json ops (Hist.init m) with
  | mk result h =>
    unfold run at hr
    rw [hr] at hrun
    cases result with
    | none => exact hrun.elim
    | some =>
      refine ⟨h, rfl, fun route hs => hrun.covers.complete route hs, ?_⟩
      intro route hlisted hadd result m' hmem
      rcases hrun.deleted route result m' hmem with hl | ⟨m'', hm⟩
      · exact hlisted hl
      · exact absurd (hadd _ m'' hm) nofun

/-- The host route of the server 0.0.0.5 on the internet interface. -/
abbrev ipv4Route5 : Ipv4Route := ⟨5, 32, some 1, 3⟩

/-- A session is created for that server, on an empty table and with no journal. -/
abbrev created5 : Hist (Machine Unit) Obs :=
  (run (fixedOs addNew true) unaryJson [.call (.create 0x0a020001 none 9 [.v4 5])]
    (Hist.init ⟨(), [], none⟩)).2

/-- The route stands and is listed. -/
theorem serverRoute5_covered :
    Standing (.v4 ipv4Route5) created5.past ∧ Listed unaryJson (.v4 ipv4Route5) created5.now := by
  have hstands : Standing (.v4 ipv4Route5) created5.past :=
    ⟨created5.past.take 4, (.addRoute (.v4 ipv4Route5) (.ok ()), _), created5.past.drop 5, rfl, rfl,
      fun y hy => by
        obtain rfl := List.mem_singleton.mp hy
        exact id⟩
  have hreg : (fixedOs addNew true).RegistryWorks := fun _ => ⟨rfl, rfl, rfl, rfl⟩
  obtain ⟨h, hr, hlisted, -⟩ := journal_covers hreg unaryJson_lawful
    [.call (.create 0x0a020001 none 9 [.v4 5])] ⟨(), [], none⟩
  obtain rfl : created5 = h := congrArg Prod.snd hr
  exact ⟨hstands, hlisted _ hstands⟩

/-! ## When the journal cannot be read -/

/-- `CreateIpForwardEntry2` answers `NO_ERROR` only for a row that is not there yet. -/
def RouteOs.AddsNew (os : RouteOs E) : Prop :=
  ∀ row table env, (os.createIpForwardEntry2 row table env).1 = noError → ¬ InTable row table

/-- The journal could not be read. -/
def ReadFailed (l : List (Obs × Machine E)) : Prop := ∃ m, (.readJournal false, m) ∈ l

/-- The journal was written. -/
def Wrote (l : List (Obs × Machine E)) : Prop := ∃ m, (.wroteJournal true, m) ∈ l

theorem readFailed_snoc :
    ReadFailed (l ++ [(o, m)]) ↔ ReadFailed l ∨ o = .readJournal false := by
  simp [ReadFailed, exists_or, eq_comm]

theorem wrote_snoc : Wrote (l ++ [(o, m)]) ↔ Wrote l ∨ o = .wroteJournal true := by
  simp [Wrote, exists_or, eq_comm]

/-- No entry is of a route that was in the table at the start. -/
def Foreign (json : Json) (table : Table) (entries : List String) : Prop :=
  ∀ s ∈ entries, ∀ route, json.fromStr s = .ok route → ¬ InTable route.row table

theorem Foreign.nonEmptyDistinct {table : Table} (hf : Foreign json table entries) :
    Foreign json table (nonEmptyDistinct entries) :=
  fun s hs => hf s (mem_nonEmptyDistinct.mp hs).1

/-- Before the journal is read: the table has only grown. -/
structure Unread (table : Table) (h : Hist (Machine E) Obs) : Prop where
  unread : ¬ ReadFailed h.past
  unwritten : ¬ Wrote h.past
  grows : ∀ row, InTable row table → InTable row h.now.table

/-- Before the journal is written: if it could not be read, the table has only grown and the entries
to be written are of routes that were not in it. -/
structure Forgetting (json : Json) (table : Table) (entries : List String)
    (h : Hist (Machine E) Obs) : Prop where
  unwritten : ¬ Wrote h.past
  grows : ReadFailed h.past → ∀ row, InTable row table → InTable row h.now.table
  foreign : ReadFailed h.past → Foreign json table entries

/-- At the end: if the journal could not be read and was written, it holds nothing that was in the
table at the start, and the table has only grown. -/
structure Forgot (json : Json) (table : Table) (h : Hist (Machine E) Obs) : Prop where
  grows : ReadFailed h.past → ∀ row, InTable row table → InTable row h.now.table
  foreign : ReadFailed h.past → Wrote h.past → Foreign json table h.now.journal

section Forgotten

variable {table : Table} {N : Hist (Machine E) Obs → Prop}

theorem InTable.createIpForwardEntry2 {row : MibIpforwardRow} (hrow : InTable row h.now.table)
    (row' : MibIpforwardRow) : InTable row (createIpForwardEntry2 os row' h).2.now.table := by
  unfold Routing.createIpForwardEntry2
  simp only [Hist.emit_now, Hist.set_now]
  split
  · exact inTable_snoc.mpr (.inl hrow)
  · exact hrow

theorem not_readFailed_snoc (hl : ¬ ReadFailed l) (ho : o ≠ .readJournal false) :
    ¬ ReadFailed (l ++ [(o, m)]) :=
  fun h => (readFailed_snoc.mp h).elim hl ho

theorem not_wrote_snoc (hl : ¬ Wrote l) (ho : o ≠ .wroteJournal true) :
    ¬ Wrote (l ++ [(o, m)]) :=
  fun h => (wrote_snoc.mp h).elim hl ho

theorem ReadFailed.of_snoc (h : ReadFailed (l ++ [(o, m)])) (ho : o ≠ .readJournal false) :
    ReadFailed l :=
  (readFailed_snoc.mp h).resolve_right ho

theorem Unread.createIpForwardEntry2 (hu : Unread table h) (row : MibIpforwardRow) :
    Unread table (createIpForwardEntry2 os row h).2 where
  unread := not_readFailed_snoc hu.unread nofun
  unwritten := not_wrote_snoc hu.unwritten nofun
  grows _ hrow := (hu.grows _ hrow).createIpForwardEntry2 row

/-- Observations but those of the registry change nothing, as long as no row goes. -/
theorem Forgetting.emit (hf : Forgetting json table entries h)
    (hm : ∀ row, InTable row h.now.table → InTable row m.table)
    (ho : o ≠ .readJournal false) (ho' : o ≠ .wroteJournal true) :
    Forgetting json table entries ((h.set m).emit o) where
  unwritten := not_wrote_snoc hf.unwritten ho'
  grows hr row hrow := hm row (hf.grows (hr.of_snoc ho) row hrow)
  foreign hr := hf.foreign (hr.of_snoc ho)

theorem forgetting_ignoresEnv (entries : List String) :
    IgnoresEnv (Forgetting (E := E) json table entries) :=
  fun _ _ hf => ⟨hf.unwritten, hf.grows, hf.foreign⟩

theorem Forgetting.forgot (hf : Forgetting json table entries h) : Forgot json table h :=
  ⟨hf.grows, fun _ hw => absurd hw hf.unwritten⟩

/-- If the journal was read, nothing is claimed. -/
theorem forgetting_of_read (hread : ¬ ReadFailed h.past) (hwrite : ¬ Wrote h.past)
    (entries : List String) : Forgetting json table entries h :=
  ⟨hwrite, fun hr => absurd hr hread, fun hr => absurd hr hread⟩

theorem triple_getCreatedRoutes_forgetting (json : Json) :
    Prog.Triple (Unread (E := E) table) (getCreatedRoutes os)
      (fun created h => (ReadFailed h.past → created = []) ∧ Forgetting json table created h)
      N := by
  refine triple_getCreatedRoutes (fun _ _ hu => ⟨hu.unread, hu.unwritten, hu.grows⟩)
    (fun h hu => ?_) fun _ h hu => ?_
  · have hread : ¬ ReadFailed (h.emit (.readJournal true)).past :=
      not_readFailed_snoc hu.unread nofun
    exact ⟨fun hr => absurd hr hread,
      forgetting_of_read hread (not_wrote_snoc hu.unwritten nofun) _⟩
  · exact ⟨fun _ => rfl, not_wrote_snoc hu.unwritten nofun, fun _ => hu.grows, fun _ s hs =>
      absurd hs List.not_mem_nil⟩

theorem triple_setCreatedRoutes_forgetting (entries : List String) :
    Prog.Triple (Forgetting json table entries) (setCreatedRoutes os entries)
      (fun _ => Forgot json table) N := by
  refine triple_setCreatedRoutes (forgetting_ignoresEnv entries) (fun h hf => ?_) fun _ h hf => ?_
  · exact ⟨fun hr => hf.grows (hr.of_snoc nofun),
      fun hr _ => (hf.foreign (hr.of_snoc nofun)).nonEmptyDistinct⟩
  · have hkept : Forgetting json table entries (h.emit (.wroteJournal false)) :=
      hf.emit (m := h.now) (fun _ => id) nofun nofun
    exact hkept.forgot

theorem triple_addRoute_forgetting (hadds : os.AddsNew) (hjson : json.Lawful)
    (entries : List String) (route : Route) :
    Prog.Triple (Forgetting json table entries) (addRoute os route)
      (fun result => Forgetting json table (entries ++ journalEntry json route result)) N := by
  intro h hf
  rw [addRoute_apply]
  have hcreated : Forgetting json table entries (createIpForwardEntry2 os route.row h).2 :=
    hf.emit (fun _ hrow => hrow.createIpForwardEntry2 route.row) nofun nofun
  have hnoted : Forgetting json table entries ((createIpForwardEntry2 os route.row h).2.emit
      (.addRoute route (route.creation
        (os.createIpForwardEntry2 route.row h.now.table h.now.env).1))) :=
    hcreated.emit (m := (createIpForwardEntry2 os route.row h).2.now) (fun _ => id) nofun nofun
  refine ⟨hnoted.unwritten, hnoted.grows, fun hr s hs route' hread => ?_⟩
  rcases List.mem_append.mp hs with hs | hs
  · exact hnoted.foreign hr s hs route' hread
  · -- an entry is made for a route that was added, so it was not there
    cases hres : route.creation (os.createIpForwardEntry2 route.row h.now.table h.now.env).1 with
    | error e =>
      rw [hres] at hs
      exact absurd hs List.not_mem_nil
    | ok =>
      obtain ⟨s', hs', hread'⟩ := hjson.roundTrip route
      obtain rfl : s = s' := by simpa [hres, journalEntry, hs'] using hs
      obtain rfl : route = route' := Except.ok.inj (hread'.symm.trans hread)
      have hnew := hadds route.row _ _ (Route.creation_eq_ok.mp hres)
      exact fun hrow => hnew (hf.grows ((hr.of_snoc nofun).of_snoc nofun) _ hrow)

theorem triple_create_forgot (hadds : os.AddsNew) (hjson : json.Lawful)
    {serverIpv4Addr : BitVec 32} {serverIpv6Addr : Option (BitVec 128)} {interfaceIndex : UInt32}
    {serverIps : List IpAddr} :
    Prog.Triple (Unread table)
      (Routes.create os json serverIpv4Addr serverIpv6Addr interfaceIndex serverIps)
      (fun _ => Forgot json table) N := by
  have hforgot : IgnoresEnv (Forgot (E := E) json table) := fun _ _ hf => ⟨hf.grows, hf.foreign⟩
  refine (triple_create hforgot forgetting_ignoresEnv
    (triple_addTunRoutes fun row _ h hu => hu.createIpForwardEntry2 row)
    ((triple_getCreatedRoutes_forgetting json).post fun _ _ hf => ⟨hf.2.forgot, hf.2⟩)
    (fun entries route _ => triple_addRoute_forgetting hadds hjson entries route)
    triple_setCreatedRoutes_forgetting serverIps).post ?_
  rintro result h (⟨e, -, hf⟩ | ⟨routes, -, hf⟩)
  · exact hf
  · exact hf

/-- With nothing read, nothing is deleted. -/
theorem triple_deleteCreatedRoutes_forgot :
    Prog.Triple (Unread table) (deleteCreatedRoutes os json) (fun _ => Forgot json table) N := by
  refine triple_deleteCreatedRoutes (J := fun rest kept h =>
      (ReadFailed h.past → rest = [] ∧ kept = []) ∧ Forgetting json table kept h)
    ((triple_getCreatedRoutes_forgetting json).post fun created h hf => ?_)
    (fun s rest kept h _ hJ => ⟨fun hr => ?_, hJ.2⟩) (fun s rest kept route _ h hJ => ?_)
    fun kept => (triple_setCreatedRoutes_forgetting kept).pre fun _ hJ => hJ.2
  · exact ⟨fun hr => ⟨hf.1 hr, rfl⟩, hf.2.unwritten, hf.2.grows, fun _ s hs =>
      absurd hs List.not_mem_nil⟩
  · exact absurd (hJ.1 hr).1 (List.cons_ne_nil s rest)
  · -- there is something to delete, so the journal was read
    have hread : ¬ ReadFailed h.past := fun hr => List.cons_ne_nil s rest (hJ.1 hr).1
    rw [deleteRoute_apply]
    have hafter (result : Except String RouteDeletionSuccess) (kept : List String) :
        let h' := (deleteIpForwardEntry2 os route.row h).2.emit (.deleteRoute route result)
        (ReadFailed h'.past → rest = [] ∧ kept = []) ∧ Forgetting json table kept h' := by
      intro h'
      have hread' : ¬ ReadFailed h'.past :=
        not_readFailed_snoc (not_readFailed_snoc hread nofun) nofun
      have hwrite' : ¬ Wrote h'.past :=
        not_wrote_snoc (not_wrote_snoc hJ.2.unwritten nofun) nofun
      exact ⟨fun hr => absurd hr hread', forgetting_of_read hread' hwrite' kept⟩
    cases deletion (os.deleteIpForwardEntry2 route.row h.now.table h.now.env).1 with
    | error e => exact .inl ⟨e, rfl, hafter _ _⟩
    | ok success => exact .inr ⟨success, rfl, hafter _ _⟩

end Forgotten

/-- **What a failed read costs.** The journal cannot be read in a call that writes it. No route that
was listed before the call and is still in the table is lost iff no listed route was in the table
before the call: there was nothing to lose. -/
theorem none_lost_iff (hadds : os.AddsNew) (hjson : json.Lawful) (c : Call) (m : Machine E)
    (h : Hist (Machine E) Obs) (hr : c.perform os json (Hist.init m) = (some (), h))
    (hread : ReadFailed h.past) (hwrite : Wrote h.past) :
    (∀ route, Listed json route m → InTable route.row m.table → InTable route.row h.now.table →
        Listed json route h.now) ↔
      ∀ route, Listed json route m → ¬ InTable route.row m.table := by
  have hinit : Unread m.table (Hist.init m : Hist (Machine E) Obs) :=
    ⟨fun ⟨_, hm⟩ => absurd hm List.not_mem_nil, fun ⟨_, hm⟩ => absurd hm List.not_mem_nil,
      fun _ => id⟩
  have hcall : Prog.Triple (Unread m.table) (c.perform os json) (fun _ => Forgot json m.table)
      fun _ => False := by
    cases c with
    | create => exact Prog.triple_bind (triple_create_forgot hadds hjson) fun _ =>
        Prog.triple_pure fun _ hf => hf
    | deleteCreatedRoutes => exact triple_deleteCreatedRoutes_forgot
  have hforgot := hcall _ hinit
  rw [hr] at hforgot
  constructor
  · intro hkept route hlisted hrow
    obtain ⟨s, hs, hs'⟩ := hkept route hlisted hrow (hforgot.grows hread _ hrow)
    exact hforgot.foreign hread hwrite s hs route hs' hrow
  · intro hnone route hlisted hrow
    exact absurd hrow (hnone route hlisted)

/-- A machine whose journal lists the route of the server 0.0.0.5. -/
abbrev listing5 (table : Table) : Machine Unit :=
  ⟨(), table, some [unary (0 :: ipv4Route5.numbers)]⟩

/-- `delete_created_routes` there, with a registry that cannot be read. -/
abbrev unreadable5 (table : Table) : Hist (Machine Unit) Obs :=
  (Call.deleteCreatedRoutes.perform (fixedOs addNew false) unaryJson
    (Hist.init (listing5 table))).2

theorem addsNew_fixedOs (reads : Bool) : (fixedOs addNew reads).AddsNew := by
  intro row table _ hcode hrow
  simp [fixedOs, addNew, hrow, errorObjectAlreadyExists, noError] at hcode

/-- The listed route is not in the table, and nothing is lost. -/
theorem unreadable5_nothing_lost :
    ReadFailed (unreadable5 []).past ∧ Wrote (unreadable5 []).past ∧
      ∀ route, Listed unaryJson route (listing5 []) → InTable route.row [] →
        InTable route.row (unreadable5 []).now.table →
        Listed unaryJson route (unreadable5 []).now := by
  have hread : ReadFailed (unreadable5 []).past := ⟨_, List.mem_cons_self⟩
  have hwrite : Wrote (unreadable5 []).past := ⟨_, List.mem_cons_of_mem _ List.mem_cons_self⟩
  refine ⟨hread, hwrite, (none_lost_iff (addsNew_fixedOs false) unaryJson_lawful
    .deleteCreatedRoutes (listing5 []) _ rfl hread hwrite).mpr fun _ _ hrow => ?_⟩
  simp [InTable] at hrow

/-- It is in the table before and after, and the journal does not list it any more. -/
theorem unreadable5_lost :
    Listed unaryJson (.v4 ipv4Route5) (listing5 [Route.row (.v4 ipv4Route5)]) ∧
      InTable (Route.row (.v4 ipv4Route5)) [Route.row (.v4 ipv4Route5)] ∧
      ReadFailed (unreadable5 [Route.row (.v4 ipv4Route5)]).past ∧
      Wrote (unreadable5 [Route.row (.v4 ipv4Route5)]).past ∧
      InTable (Route.row (.v4 ipv4Route5)) (unreadable5 [Route.row (.v4 ipv4Route5)]).now.table ∧
      ¬ Listed unaryJson (.v4 ipv4Route5) (unreadable5 [Route.row (.v4 ipv4Route5)]).now := by
  refine ⟨⟨_, List.mem_cons_self, unaryJson_fromStr_v4 ipv4Route5⟩, ⟨_, List.mem_cons_self, rfl⟩,
    ⟨_, List.mem_cons_self⟩, ⟨_, List.mem_cons_of_mem _ List.mem_cons_self⟩,
    ⟨_, List.mem_cons_self, rfl⟩, ?_⟩
  rintro ⟨s, hs, -⟩
  exact absurd hs List.not_mem_nil

end Protun.Routing
