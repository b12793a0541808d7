import Protun.Connection.Deadline
import Protun.Connection.Invariant
import Protun.Connection.Script
import Protun.Connection.Zoom

/-!
# The client of the connection thread (`pvpn_client.rs`)

`PvpnClientImpl` is the `PvpnClient` a real connection runs with. It wraps `pvpnclient::Client`,
whose calls answer a value together with a task and a deadline, and keeps only the latest task and
deadline (`handle_result`). The loop pulls while the latest task says so, and it sleeps until the
latest deadline at most.

The environment of the thread is the client and the rest of the world (`Env`). The thread owns the
client, so its other dependencies (`Platform`) see the world only.

* `Client.Drained`: a state in which a call has left the client that answered another task than
  `NeedPull`. `PvpnClientImpl.Rests`: the flag is down, and since the client was drained it was only
  asked for messages of the local agent, which answer no task.
* `Reporting`: when the flag is down the client rests. Every letter keeps it, whatever the thread
  calls and when.
* **`sleeps_when_drained`**: whenever the thread goes to sleep, the client has rested and was then
  asked for its tunnel once. So what there is to pull was made by these last calls, and the thread
  knows of it iff the answer about the tunnel said so. The sleep ends no later than that answer asks
  for.
-/

namespace Protun

open Trace

/-- `Task`: `idle` stands for every task but `NeedPull`. -/
inductive Task where
  | needPull
  | idle
  deriving DecidableEq, Repr

/-- `PvpnReturn<T>`. -/
structure PvpnReturn (α : Type) where
  value : α
  task : Task
  wakeupDeadline : Option Duration

/-- `pvpnclient::Client`, one function of its state for each method that is called. The values that
`PvpnClientImpl` drops or only logs are left out. -/
structure Client (L : Type) where
  setTime : Duration → Duration → L → PvpnReturn Unit × L
  addPeer : Peer → L → PvpnReturn Unit × L
  removePeer : PeerAddr → L → PvpnReturn Unit × L
  pull : L → PvpnReturn (Option Action) × L
  pullLocalAgent : L → Option LocalAgentMessage × L
  pushLocalAgent : LocalAgentAction → L → PvpnReturn Unit × L
  push : Action → L → PvpnReturn Unit × L
  notifyNetworkChange : L → PvpnReturn Unit × L
  tunnelInfo : L → PvpnReturn (Option TunnelInfo) × L
  tunnelStats : L → PvpnReturn (Option TunnelStats) × L
  setSettings : Settings → L → PvpnReturn Unit × L
  capturePacket : L → PvpnReturn Unit × L
  stopCapturePacket : L → PvpnReturn Unit × L

/-- `PvpnClientImpl`. -/
structure PvpnClientImpl (L : Type) where
  c : L
  needPull : Bool
  wakeupDeadline : Option Duration

namespace PvpnClientImpl

variable {L α : Type}

/-- What `PvpnClientImpl::new` returns for the client it has built. -/
def new (c : L) : PvpnClientImpl L where
  c := c
  needPull := true
  wakeupDeadline := none

/-- `PvpnClientImpl::handle_result`. -/
def handleResult (result : PvpnReturn α) (i : PvpnClientImpl L) : PvpnClientImpl L :=
  { i with needPull := result.task = .needPull, wakeupDeadline := result.wakeupDeadline }

/-- `let result = self.c.f(..); self.handle_result(&result); result.value`. -/
def call (f : L → PvpnReturn α × L) (i : PvpnClientImpl L) : α × PvpnClientImpl L :=
  let r := f i.c
  (r.1.value, handleResult r.1 { i with c := r.2 })

end PvpnClientImpl

/-- The client, and everything else outside the thread. -/
structure Env (L W : Type) where
  client : PvpnClientImpl L
  world : W

namespace Env

variable {L W α : Type}

/-- A call of the client whose result is handled. -/
def tell (f : L → PvpnReturn α × L) (e : Env L W) : α × Env L W :=
  let r := e.client.call f
  (r.1, { e with client := r.2 })

/-- Everything but the client. -/
def outside : Lens (Env L W) W where
  get := Env.world
  set w e := { e with world := w }

theorem spares_outside : (outside : Lens (Env L W) W).Spares Env.client := fun _ _ => rfl

end Env

/-- `impl PvpnClient for PvpnClientImpl`. -/
def Client.toPvpnClient {L W : Type} (client : Client L)
    (monotonicFactory realtimeFactory : W → Duration × W) : PvpnClient (Env L W) where
  setCurrentTime e :=
    let monotonicNow := Env.outside.call monotonicFactory e
    let realtimeNow := Env.outside.call realtimeFactory monotonicNow.2
    (monotonicNow.1, (realtimeNow.2.tell (client.setTime monotonicNow.1 realtimeNow.1)).2)
  needPull e := (e.client.needPull, e)
  peerAdd peer e := (e.tell (client.addPeer peer)).2
  peerRemove peerAddr e := (e.tell (client.removePeer peerAddr)).2
  pull e := e.tell client.pull
  push action e := (e.tell (client.push action)).2
  -- `error_kind_to_socket_err` gives each named kind its `SystemError`, and `Unknown` to the rest
  pushError streamId errorKind e := (e.tell (client.push ⟨streamId, .error errorKind⟩)).2
  getTunnelInfo e := e.tell client.tunnelInfo
  wakeupDeadline e := (e.client.wakeupDeadline, e)
  notifyNetworkChange e := (e.tell client.notifyNetworkChange).2
  -- the client finds out from the errors of its sockets
  notifyNetworkDown e := e
  getStats e := e.tell client.tunnelStats
  monotonicNow := Env.outside.call monotonicFactory
  setPacketCaptureEnabled enabled e :=
    (e.tell (if enabled then client.capturePacket else client.stopCapturePacket)).2
  setSettings settings e := (e.tell (client.setSettings settings)).2
  pullLocalAgent e :=
    let r := client.pullLocalAgent e.client.c
    (r.1, { e with client := { e.client with c := r.2 } })
  pushLocalAgent action e := (e.tell (client.pushLocalAgent action)).2

/-- The dependencies of the thread other than the client, and the clocks of the client. -/
structure Platform (W S X F : Type) where
  streams : Streams W S X
  ids : ReservedIds
  fs : Fs W F
  android : Bool
  tryRecv : W → Option PvpnMessage × W
  onStateChanged : VpnState → W → W
  onEvent : Event → W → W
  cachePut : CacheKey → Bytes → W → W
  realtimeClock : W → Duration × W
  monotonicFactory : W → Duration × W

/-- The dependencies of a thread that runs with `client`. -/
def Platform.with {L W S X F : Type} (p : Platform W S X F) (client : Client L) :
    PvpnDependencies (Env L W) S X F where
  client := client.toPvpnClient p.monotonicFactory p.realtimeClock
  streams := p.streams.zoom Env.outside
  ids := p.ids
  fs := p.fs.zoom Env.outside
  android := p.android
  tryRecv := Env.outside.call p.tryRecv
  onStateChanged state := Env.outside.tell (p.onStateChanged state)
  onEvent event := Env.outside.tell (p.onEvent event)
  cachePut key data := Env.outside.tell (p.cachePut key data)
  realtimeClock := Env.outside.call p.realtimeClock

/-! ## What a client says about itself -/

namespace Client

variable {L : Type}

/-- The calls of `client` whose result is handled. -/
inductive Calls (client : Client L) : {α : Type} → (L → PvpnReturn α × L) → Prop where
  | setTime (monotonicNow realtimeNow : Duration) :
      Calls client (client.setTime monotonicNow realtimeNow)
  | addPeer (peer : Peer) : Calls client (client.addPeer peer)
  | removePeer (peerAddr : PeerAddr) : Calls client (client.removePeer peerAddr)
  | pull : Calls client client.pull
  | pushLocalAgent (action : LocalAgentAction) : Calls client (client.pushLocalAgent action)
  | push (action : Action) : Calls client (client.push action)
  | notifyNetworkChange : Calls client client.notifyNetworkChange
  | tunnelInfo : Calls client client.tunnelInfo
  | tunnelStats : Calls client client.tunnelStats
  | setSettings (settings : Settings) : Calls client (client.setSettings settings)
  | capturePacket : Calls client client.capturePacket
  | stopCapturePacket : Calls client client.stopCapturePacket

/-- One call of the client, of whatever kind. -/
inductive Step (client : Client L) : L → L → Prop where
  | call {α : Type} {f : L → PvpnReturn α × L} (hf : client.Calls f) (l : L) : Step client l (f l).2
  | pullLocalAgent (l : L) : Step client l (client.pullLocalAgent l).2

/-- Calls that began in the state `c` came to one that answered another task than `NeedPull` and
left the client in the state `l`. -/
def Drained (client : Client L) (c l : L) : Prop :=
  ∃ (α : Type) (f : L → PvpnReturn α × L) (l₀ : L), Relation.ReflTransGen client.Step c l₀ ∧
    client.Calls f ∧ (f l₀).1.task ≠ .needPull ∧ (f l₀).2 = l

/-- The client has been asked for messages of the local agent and for nothing else. -/
def AgentPulled (client : Client L) : L → L → Prop :=
  Relation.ReflTransGen fun l l' => (client.pullLocalAgent l).2 = l'

end Client

/-- The flag is down, and since the client was drained it was only asked for messages of the local
agent. -/
structure PvpnClientImpl.Rests {L : Type} (client : Client L) (c : L) (i : PvpnClientImpl L) :
    Prop where
  needPull : i.needPull = false
  drained : ∃ l, client.Drained c l ∧ client.AgentPulled l i.c

/-- The client rested and was asked for its tunnel. -/
def PvpnClientImpl.Informed {L : Type} (client : Client L) (c : L) (i : PvpnClientImpl L) : Prop :=
  ∃ i₀ : PvpnClientImpl L, i₀.Rests client c ∧ i = (i₀.call client.tunnelInfo).2

section Reports

variable {L : Type} {client : Client L} {c : L} {i : PvpnClientImpl L}

theorem Client.Calls.rests {α : Type} {f : L → PvpnReturn α × L} (hf : client.Calls f)
    (hi : Relation.ReflTransGen client.Step c i.c) (hflag : (i.call f).2.needPull = false) :
    (i.call f).2.Rests client c :=
  ⟨hflag, (f i.c).2, ⟨α, f, i.c, hi, hf, of_decide_eq_false hflag, rfl⟩, .refl⟩

theorem PvpnClientImpl.Rests.pullLocalAgent (hi : i.Rests client c) :
    ({ i with c := (client.pullLocalAgent i.c).2 } : PvpnClientImpl L).Rests client c := by
  obtain ⟨l, hl, hpulled⟩ := hi.drained
  exact ⟨hi.needPull, l, hl, hpulled.tail rfl⟩

end Reports

namespace PvpnConnection

open Conn

variable {L W S X F α : Type} {client : Client L} {c : L} {p : Platform W S X F}

/-! ## The letters and the client -/

/-- What one call of the thread does to its client. -/
inductive Touches (client : Client L) (i : PvpnClientImpl L) : PvpnClientImpl L → Prop where
  | same : Touches client i i
  | call {α : Type} {f : L → PvpnReturn α × L} (hf : client.Calls f) : Touches client i (i.call f).2
  | pullLocalAgent : Touches client i { i with c := (client.pullLocalAgent i.c).2 }

theorem touches_of_eq {i i' : PvpnClientImpl L} (h : i' = i) : Touches client i i' := h ▸ .same

theorem Queries.touches {f : Env L W → Env L W} (hf : Queries (p.with client) f) (e : Env L W) :
    Touches client e.client (f e).client := by
  cases hf with
  | needPull | wakeupDeadline | monotonicNow | realtimeClock => exact .same
  | setCurrentTime => exact .call (.setTime _ _)
  | getStats => exact .call .tunnelStats
  | pcapNew file => exact touches_of_eq (PcapStream.kept_new Env.spares_outside p.fs file e)
  | pcapWrite data stream =>
    exact touches_of_eq (PcapStream.kept_write Env.spares_outside p.fs data stream e)
  | pcapDrop stream =>
    exact touches_of_eq (PcapStream.kept_dropOld Env.spares_outside p.fs stream e)

theorem Asks.touches {f : Env L W → Obs × Env L W} (hf : Asks (p.with client) f) (e : Env L W) :
    Touches client e.client (f e).2.client := by
  cases hf with
  | recv => exact .same
  | tunnelInfo => exact .call .tunnelInfo
  | pulled => exact .call .pull
  | pulledLocalAgent => exact .pullLocalAgent

theorem Informs.touches {o : Obs} {f : Env L W → Env L W} (hf : Informs (p.with client) o f)
    (e : Env L W) : Touches client e.client (f e).client := by
  cases hf with
  | stateChanged | event | cachePut | notifyNetworkDown => exact .same
  | peerAdd peer => exact .call (.addPeer peer)
  | peerRemove addr => exact .call (.removePeer addr)
  | setSettings settings => exact .call (.setSettings settings)
  | notifyNetworkChange => exact .call .notifyNetworkChange
  | setPacketCaptureEnabled enabled =>
    cases enabled with
    | true => exact .call .capturePacket
    | false => exact .call .stopCapturePacket
  | pushLocalAgent action => exact .call (.pushLocalAgent action)
  | push action => exact .call (.push action)
  | pushError streamId kind => exact .call (.push _)

/-- A letter is at most one call of the client. -/
theorem Letter.touches {h h' : Hist (Sys (Env L W) S F) Obs} (hl : Letter (p.with client) h h') :
    Touches client h.now.env.client h'.now.env.client := by
  cases hl with
  | assign c => exact .same
  | mark ho => exact .same
  | query hf => exact hf.touches _
  | ask hf => exact hf.touches _
  | inform hf => exact hf.touches _
  | streams hf => exact touches_of_eq (hf.kept Env.spares_outside rfl _ _)
  | stream s hf hx => exact touches_of_eq (hf.kept Env.spares_outside rfl hx)

/-! ## Sleeping -/

/-- What holds when a sleep until `deadline` begins. -/
def WellSlept (client : Client L) (c : L) (deadline : Option Duration) (i : PvpnClientImpl L) :
    Prop :=
  i.Informed client c ∧ ∀ x, i.wakeupDeadline = some x → ∃ y, deadline = some y ∧ y ≤ x

/-- The invariant of the loop. -/
structure Reporting (client : Client L) (c : L) (h : Hist (Sys (Env L W) S F) Obs) : Prop where
  reached : Relation.ReflTransGen client.Step c h.now.env.client.c
  reported : h.now.env.client.needPull = false → h.now.env.client.Rests client c
  slept : ∀ deadline s, (Obs.polling deadline, s) ∈ h.past →
    WellSlept client c deadline s.env.client

section Sleeping

theorem Letter.reporting {h h' : Hist (Sys (Env L W) S F) Obs} (hl : Letter (p.with client) h h')
    (hh : Reporting client c h) : Reporting client c h' where
  reached := by
    have htouch := hl.touches
    revert htouch
    generalize h'.now.env.client = i'
    rintro (_ | hf | _)
    · exact hh.reached
    · exact hh.reached.tail (.call hf _)
    · exact hh.reached.tail (.pullLocalAgent _)
  reported := by
    have htouch := hl.touches
    revert htouch
    generalize h'.now.env.client = i'
    rintro (_ | hf | _)
    · exact hh.reported
    · exact hf.rests hh.reached
    · exact fun hflag => (hh.reported hflag).pullLocalAgent
  slept deadline s hmem := hh.slept deadline s (hl.mem_of_polling hmem)

theorem reporting_of_letters {x : Conn (Env L W) S F α}
    (hx : Prog.Rel (Letters (p.with client)) x) : Prog.Inv (Reporting client c) x :=
  inv_of_letters hx fun _ _ hl => hl.reporting

theorem triple_of_letters {x : Conn (Env L W) S F α} (hx : Prog.Rel (Letters (p.with client)) x) :
    Prog.Triple (Reporting client c) x (fun _ => Reporting client c) (Reporting client c) :=
  (reporting_of_letters hx).triple fun _ => id

/-- The client rests at the end of the history. -/
def AtRest (client : Client L) (c : L) (h : Hist (Sys (Env L W) S F) Obs) : Prop :=
  h.now.env.client.Rests client c

/-- The client rested and was asked for its tunnel. -/
def AtPoll (client : Client L) (c : L) (h : Hist (Sys (Env L W) S F) Obs) : Prop :=
  h.now.env.client.Informed client c

/-- The pull stops when the flag is down. -/
theorem rests_pullAction :
    Prog.Triple (Reporting client c) (pullAction (p.with client))
      (fun b (h : Hist (Sys (Env L W) S F) Obs) => if b then Reporting client c h else
        Reporting client c h ∧ AtRest client c h) (Reporting client c) := by
  refine Prog.triple_bind (R := fun b h => Reporting client c h ∧ h.now.env.client.needPull = b)
    (fun h hh => ⟨⟨hh.reached, hh.reported, hh.slept⟩, rfl⟩) fun b => ?_
  cases b with
  | false => exact Prog.triple_pure fun h hh => ⟨hh.1, hh.1.reported hh.2⟩
  | true =>
    refine Prog.triple_bind (Prog.Triple.pre (triple_of_letters (letters_ask .pulled))
      fun _ => And.left) fun a => ?_
    cases a with
    | none => exact Prog.triple_pure fun _ hh => hh
    | some action =>
      exact Prog.triple_bind (triple_of_letters (letters_handleAction _ action)) fun _ =>
        Prog.triple_pure fun _ hh => hh

theorem rests_emitEvent (event : Event) :
    Prog.Inv (AtRest client c) (emitEvent (p.with client) event : Conn (Env L W) S F Unit) :=
  fun _ hh => hh

theorem rests_pullLocalAgent :
    Prog.Inv (AtRest client c) (pullLocalAgent (p.with client) : Conn (Env L W) S F Bool) := by
  refine Prog.inv_bind (fun _ hh => PvpnClientImpl.Rests.pullLocalAgent hh) fun m => ?_
  cases m with
  | none => exact Prog.inv_pure false
  | some message =>
    refine Prog.inv_bind inv_conn fun conn => ?_
    cases conn.localAgentHandler with
    | none => exact Prog.inv_pure true
    | some handler =>
      refine Prog.inv_bind (fun _ hh => hh) fun _ => ?_
      exact Prog.inv_bind (Prog.inv_forEach rests_emitEvent _) fun _ => Prog.inv_pure true

/-- After `pull_from_client` the client rests. -/
theorem rests_pullFromClient (n : Nat) :
    Prog.Triple (Reporting client c) (pullFromClient (p.with client) n)
      (fun _ (h : Hist (Sys (Env L W) S F) Obs) => Reporting client c h ∧ AtRest client c h)
      (Reporting client c) := by
  refine Prog.triple_bind (Prog.triple_loop rests_pullAction (fun _ => id) n) fun _ => ?_
  refine Prog.Inv.triple ?_ fun _ => And.left
  refine Prog.inv_bind inv_conn fun conn => Prog.inv_when fun _ => Prog.inv_loop ?_ n
  exact (reporting_of_letters (letters_pullLocalAgent _)).and rests_pullLocalAgent

/-- `update_state` asks for the tunnel and then leaves the client alone. -/
theorem informed_updateState :
    Prog.Triple (AtRest client c) (updateState (p.with client) : Conn (Env L W) S F Unit)
      (fun _ => AtPoll client c) (fun _ => True) := by
  have hset (state : ConnectionState) : Prog.Inv (AtPoll client c)
      (setState (p.with client) state : Conn (Env L W) S F Unit) :=
    Prog.inv_bind inv_conn fun _ => Prog.inv_when fun _ _ hh => hh
  refine Prog.triple_bind (R := fun _ => AtPoll client c) (fun h hh => ⟨_, hh, rfl⟩) fun info => ?_
  refine Prog.Inv.triple ?_ fun _ _ => trivial
  refine Prog.inv_bind inv_conn fun conn => Prog.inv_bind (fun _ hh => hh) fun _ => ?_
  exact Prog.inv_bind (hset _) fun _ => Prog.inv_bind (fun _ hh => hh) fun _ _ hh => hh

theorem client_pollDeadline (h : Hist (Sys (Env L W) S F) Obs) :
    (pollDeadline (p.with client) h).2.now.env.client = h.now.env.client := by
  have hkept : Prog.Inv (fun h' => h'.now.env.client = h.now.env.client)
      (pollDeadline (p.with client)) := by
    refine Prog.inv_bind (fun _ hh => hh) fun delay => Prog.inv_bind inv_conn fun conn => ?_
    split
    · exact Prog.inv_bind (fun _ hh => hh) fun _ => Prog.inv_pure _
    · exact Prog.inv_pure _
  exact hkept h rfl

/-- The deadline of the poll is not later than the one the client answered last. -/
theorem wellSlept_pollDeadline :
    Prog.Triple (fun h => Reporting client c h ∧ AtPoll client c h) (pollDeadline (p.with client))
      (fun deadline (h : Hist (Sys (Env L W) S F) Obs) => Reporting client c h ∧
        WellSlept client c deadline h.now.env.client)
      (Reporting client c) := by
  intro h hh
  have hreporting := reporting_of_letters (letters_pollDeadline (p.with client)) h hh.1
  have hclient : (pollDeadline (p.with client) h).2.now.env.client = h.now.env.client :=
    client_pollDeadline h
  obtain ⟨deadline, hanswer, hearliest⟩ := pollDeadline_earliest (p.with client) h
  cases hpoll : pollDeadline (p.with client) h with
  | mk r h' =>
    rw [hpoll] at hreporting hclient hanswer
    cases hanswer
    refine ⟨hreporting, ?_, fun x hx => ?_⟩
    · rw [hclient]
      exact hh.2
    have hdelay : clientDelay (p.with client) h = some x := by
      rw [← hx, hclient]
      rfl
    cases deadline with
    | none => rw [hearliest.1] at hdelay; cases hdelay
    | some y => exact ⟨y, rfl, hearliest.2.1 x hdelay⟩

theorem reporting_waitForStreams :
    Prog.Triple (fun h => Reporting client c h ∧ AtPoll client c h) (waitForStreams (p.with client))
      (fun _ (h : Hist (Sys (Env L W) S F) Obs) => Reporting client c h)
      (Reporting client c) := by
  refine Prog.triple_bind wellSlept_pollDeadline fun deadline => ?_
  refine Prog.triple_bind (R := fun _ => Reporting client c) ?_ fun _ => ?_
  · rintro h ⟨hreporting, hslept⟩
    refine ⟨hreporting.reached, hreporting.reported, fun deadline' s hmem => ?_⟩
    obtain hmem | hmem := List.mem_append.mp hmem
    · exact hreporting.slept deadline' s hmem
    · cases List.mem_singleton.mp hmem
      exact hslept
  · refine Prog.triple_bind (R := fun _ => Reporting client c)
      (fun _ hh => ⟨hh.reached, hh.reported, hh.slept⟩) fun _ => ?_
    exact triple_of_letters (p := p) (Prog.rel_bind (letters_mark rfl) fun _ => Prog.rel_pure _)

/-- One round of the loop: whatever the messages made the client want to do is pulled before the
thread sleeps. -/
theorem reporting_iteration (n : Nat) :
    Prog.Inv (Reporting client c) (iteration (p.with client) n : Conn (Env L W) S F Bool) := by
  refine Prog.Triple.inv (Prog.triple_bind
    (triple_of_letters (letters_handleMessages _ n)) fun goOn => ?_)
  cases goOn with
  | false => exact Prog.triple_pure fun _ hh => hh
  | true =>
    refine Prog.triple_bind (triple_of_letters (letters_query .setCurrentTime)) fun _ => ?_
    refine Prog.triple_bind (rests_pullFromClient n) fun _ => ?_
    have hupdate : Prog.Triple (fun h => Reporting client c h ∧ AtRest client c h)
        (updateState (p.with client) : Conn (Env L W) S F Unit)
        (fun _ h => Reporting client c h ∧ AtPoll client c h) (Reporting client c) := by
      intro h hh
      have hreporting := reporting_of_letters (letters_updateState (p.with client)) h hh.1
      have hinformed := informed_updateState (p := p) h hh.2
      cases hupdated : updateState (p.with client) h with
      | mk r h' =>
        rw [hupdated] at hreporting hinformed
        cases r with
        | none => exact hreporting
        | some u => exact ⟨hreporting, hinformed⟩
    refine Prog.triple_bind hupdate fun _ => ?_
    refine Prog.triple_bind (R := fun _ => Reporting client c) ?_ fun _ =>
      Prog.triple_pure fun _ hh => hh
    refine Prog.triple_bind reporting_waitForStreams fun results => ?_
    refine Prog.triple_bind (triple_of_letters (letters_onResumed _)) fun _ => ?_
    cases results with
    | error e => exact Prog.triple_pure fun _ hh => hh
    | ok results => exact triple_of_letters (letters_handlePollResults _ n results)

end Sleeping

/-- **The thread sleeps when the client is drained.** For every client, in every run: whenever the
thread begins to wait for its streams, the calls of the client came to one that answered that there
is nothing to pull (`l`), then were for messages of the local agent only (`l'`), and then one for
the tunnel. The flag is up iff that last answer says `NeedPull`, and the thread waits no longer than
it asks for. -/
theorem sleeps_when_drained (client : Client L) (p : Platform W S X F) (cfg : InitialConfig)
    (streams : S) (c : L) (w : W) (n : Nat) (deadline : Option Duration) (s : Sys (Env L W) S F)
    (hsleep : (Obs.polling deadline, s) ∈
      (exec (p.with client) cfg streams ⟨.new c, w⟩ n).2.past) :
    ∃ l l', client.Drained c l ∧ client.AgentPulled l l' ∧
      s.env.client.c = (client.tunnelInfo l').2 ∧
      (s.env.client.needPull = true ↔ (client.tunnelInfo l').1.task = .needPull) ∧
      ∀ x, (client.tunnelInfo l').1.wakeupDeadline = some x → ∃ y, deadline = some y ∧ y ≤ x := by
  have hrun : Prog.Inv (Reporting client c) (run (p.with client) n : Conn (Env L W) S F Unit) :=
    Prog.inv_bind (Prog.inv_loop (reporting_iteration n) n) fun _ =>
      reporting_of_letters (letters_onConnectionLoopEnd _)
  have hinit : Reporting client c (Hist.init ⟨⟨.new c, w⟩, initial (p.with client) cfg streams⟩) :=
    ⟨.refl, fun hflag => Bool.noConfusion hflag, fun _ _ hmem => absurd hmem List.not_mem_nil⟩
  have hexec := Prog.inv_bind (reporting_of_letters (letters_new (p.with client) cfg))
    (fun _ => hrun) _ hinit
  obtain ⟨⟨i, hrests, hi⟩, hdeadline⟩ := hexec.slept deadline s hsleep
  obtain ⟨l, hl, hpulled⟩ := hrests.drained
  rw [hi] at hdeadline ⊢
  exact ⟨l, i.c, hl, hpulled, rfl, decide_eq_true_iff, hdeadline⟩

/-- The answer of a client with `l` actions to be pulled. -/
def backlogAnswer (value : α) (l : Nat) : PvpnReturn α × Nat :=
  (⟨value, if 0 < l then .needPull else .idle, some 5⟩, l)

/-- A client that hands out what is left to be pulled and wants to be woken every five
nanoseconds. When it is asked for its tunnel it finds something to do. -/
def backlog : Client Nat where
  setTime _ _ := backlogAnswer ()
  addPeer _ l := backlogAnswer () (l + 1)
  removePeer _ := backlogAnswer ()
  pull l := backlogAnswer none (l - 1)
  pullLocalAgent l := (none, l)
  pushLocalAgent _ := backlogAnswer ()
  push _ l := backlogAnswer () (l + 1)
  notifyNetworkChange l := backlogAnswer () (l + 1)
  tunnelInfo l := backlogAnswer none (l + 1)
  tunnelStats := backlogAnswer none
  setSettings _ := backlogAnswer ()
  capturePacket := backlogAnswer ()
  stopCapturePacket := backlogAnswer ()

/-- The world of a script around a client. -/
def scriptedPlatform : Platform Script Unit Unit Unit where
  streams := Script.streams
  ids := scripted.ids
  fs := Script.fs
  android := false
  tryRecv := Script.recv
  onStateChanged _ e := e
  onEvent _ e := e
  cachePut _ _ e := e
  realtimeClock e := (0, e)
  monotonicFactory e := (0, e)

/-- Three actions are pulled, and then the thread sleeps for five nanoseconds at most although the
last answer was `NeedPull`. -/
theorem backlog_sleeps :
    ∃ deadline s, (Obs.polling deadline, s) ∈ (exec (scriptedPlatform.with backlog)
        Script.plainConfig () ⟨.new 3, { messages := [none, some .disconnect] }⟩ 5).2.past ∧
      s.env.client.needPull = true ∧ ∃ y, deadline = some y ∧ y ≤ 5 := by
  have hpoll : ((exec (scriptedPlatform.with backlog) Script.plainConfig ()
      ⟨.new 3, { messages := [none, some .disconnect] }⟩ 5).2.past.any fun x =>
        x.1 matches .polling _) = true := by decide +kernel
  obtain ⟨⟨o, s⟩, hmem, ho⟩ := List.any_eq_true.mp hpoll
  cases o with
  | polling deadline =>
    obtain ⟨l, l', -, -, -, hflag, hdue⟩ := sleeps_when_drained backlog scriptedPlatform
      Script.plainConfig () 3 { messages := [none, some .disconnect] } 5 deadline s hmem
    have htask : (backlog.tunnelInfo l').1.task = .needPull := rfl
    exact ⟨deadline, s, hmem, hflag.mpr htask, hdue 5 rfl⟩
  | _ => cases ho

end PvpnConnection

end Protun
