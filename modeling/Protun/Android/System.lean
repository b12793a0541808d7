import Mathlib.Logic.Function.Basic
import Protun.Android.Lifecycle
import Protun.Recovery

/-!
# The manager and the native threads

The main thread takes its turns while the threads of the native connections run. `State.step` is one
step of either.

* **The main thread** does the actions of its turn one by one (`main` is the rest of them). Between
  two turns it starts the next call, or runs the first task of the main dispatcher. `join` waits for
  the thread. There is no step for a request of a connection whose thread has ended: `send` then
  fails, and the panic ends the process.
* **A native thread** builds its dependencies, reads its messages in order until it has read
  `Disconnect`, and reports states. A report is two steps: `weakManager.get()`, which finds the
  manager unless the callback has been cleared, and `launch`, which puts the task on the dispatcher.
* Of the connection loop the network flag is kept, with every operation of its
  `NetworkRecoveryHandler`. That the loop does nothing else to it is `exec_networkAvailable`.

Results:

* **`manager_sequential`**: the manager of an interleaving is that of a sequence of turns.
* **`sound_of_run`**: a native thread other than that of the connection opened last has ended, and
  the flag it will have once it has read its messages is the one the life cycle follows.
-/

namespace Protun.Android

open Trace

/-! ## Native threads -/

/-- Where a native thread is. -/
inductive NativeThread where
  /-- In `create_pvpn_dependencies`. -/
  | building
  | running
  /-- `Disconnect` has been read. -/
  | stopping
  | ended
  deriving DecidableEq, Repr

/-- A native connection: its callback, its channel and its thread. -/
structure Native where
  /-- `weakManager` has not been cleared. -/
  callback : Bool
  handler : NetworkRecoveryHandler
  queue : List PvpnMessage
  thread : NativeThread
  /-- A state that `onStateChanged` is about to hand to the manager it has got. -/
  reporting : Option Protun.VpnState

/-- A connection that has not been opened. -/
def Native.absent : Native := ⟨false, .new true false, [], .ended, none⟩

/-- A connection that `unixConnect` has opened. -/
def Native.opened (config : InitialConnectionConfig) : Native :=
  ⟨true, .new true config.networkAvailable, [], .building, none⟩

/-- What the loop does to the handler, apart from messages. -/
inductive Recovery where
  | resumed (now : Duration)
  | socketOpened
  | connected
  | streamError (kind : ErrorKind) (now : Duration)

def Recovery.apply (r : NetworkRecoveryHandler) : Recovery → NetworkRecoveryHandler
  | .resumed now => (r.onResumed now).2
  | .socketOpened => r.onSuccessfulSocketOpen
  | .connected => r.onConnected
  | .streamError kind now => r.onStreamError kind now

/-- The connectivity events among the messages `queue`, in order. -/
def queued (queue : List PvpnMessage) : List ConnectivityEvent :=
  queue.filterMap PvpnMessage.connectivity

/-- A step of a native thread. -/
inductive NativeEvent where
  | created
  | failed
  | handle
  | recover (r : Recovery)
  | report (state : Protun.VpnState)
  | exit

namespace Native

/-- The handler after a message. -/
def handleMessage (r : NetworkRecoveryHandler) (m : PvpnMessage) : NetworkRecoveryHandler :=
  match m.connectivity with
  | some event => r.onConnectivityChange event
  | none => r

def step (n : Native) : NativeEvent → Option Native
  | .created => if n.thread = .building then some { n with thread := .running } else none
  | .failed => if n.thread = .building then some { n with thread := .ended } else none
  | .handle =>
    match n.thread, n.queue with
    | .running, m :: queue => some { n with
        queue := queue
        handler := handleMessage n.handler m
        thread := if m = .disconnect then .stopping else .running }
    | _, _ => none
  | .recover r =>
    if n.thread = .running then some { n with handler := r.apply n.handler } else none
  | .report state =>
    if (n.thread = .running ∨ n.thread = .stopping) ∧ n.reporting = none then
      -- `weakManager.get()?`
      some (if n.callback then { n with reporting := some state } else n)
    else none
  | .exit =>
    if n.thread = .stopping ∧ n.reporting = none then some { n with thread := .ended } else none

end Native

/-! ## The system -/

structure State where
  manager : Manager
  /-- What is left of the turn of the main thread. -/
  main : List Action
  natives : Nat → Native
  /-- The main dispatcher. -/
  tasks : List Task

def State.initial : State := ⟨.initial, [], fun _ => .absent, []⟩

/-- A step of the system. -/
inductive Event where
  /-- The main thread starts a call. -/
  | call (c : Call)
  /-- The main thread runs the first task. -/
  | runTask
  /-- The main thread goes on with its turn. -/
  | act
  | native (connection : Nat) (e : NativeEvent)
  /-- The second half of a report: the task is put on the dispatcher. -/
  | launch (connection : Nat)

namespace State

/-- What an action does to the native connections. -/
def effect (s : State) : Action → Option (Nat → Native)
  | .setActive _ | .setState _ | .publish _ _ => some s.natives
  | .clearCallback i => some (Function.update s.natives i { s.natives i with callback := false })
  | .request i r =>
    if (s.natives i).thread ≠ .ended then
      some (Function.update s.natives i
        { s.natives i with queue := (s.natives i).queue ++ [r.toApi.message] })
    else none
  | .join i => if (s.natives i).thread = .ended then some s.natives else none
  | .unixConnect config _ =>
    some (Function.update s.natives s.manager.connections.length (.opened config))

def step (s : State) : Event → Option State
  | .call c =>
    match s.main with
    | [] => some { s with main := c.actions s.manager }
    | _ :: _ => none
  | .runTask =>
    match s.main, s.tasks with
    | [], t :: tasks => some { s with main := Turn.actions s.manager (.task t), tasks := tasks }
    | _, _ => none
  | .act =>
    match s.main with
    | [] => none
    | a :: main => (s.effect a).map fun natives =>
      { s with manager := s.manager.act a, main := main, natives := natives }
  | .native i e => ((s.natives i).step e).map fun n =>
    { s with natives := Function.update s.natives i n }
  | .launch i =>
    match (s.natives i).reporting with
    | none => none
    | some state => some { s with
        natives := Function.update s.natives i { s.natives i with reporting := none }
        tasks := s.tasks ++ [⟨i, state⟩] }

end State

/-- The steps, as a relation. -/
inductive Moves (s : State) : Event → State → Prop where
  | call (c : Call) (hidle : s.main = []) : Moves s (.call c) { s with main := c.actions s.manager }
  | runTask {t : Task} {tasks : List Task} (hidle : s.main = []) (htasks : s.tasks = t :: tasks) :
      Moves s .runTask { s with main := Turn.actions s.manager (.task t), tasks := tasks }
  | act {a : Action} {main : List Action} {natives : Nat → Native} (hmain : s.main = a :: main)
      (heffect : s.effect a = some natives) :
      Moves s .act { s with manager := s.manager.act a, main := main, natives := natives }
  | native {i : Nat} {e : NativeEvent} {n : Native} (hn : (s.natives i).step e = some n) :
      Moves s (.native i e) { s with natives := Function.update s.natives i n }
  | launch {i : Nat} {state : Protun.VpnState} (hr : (s.natives i).reporting = some state) :
      Moves s (.launch i) { s with
        natives := Function.update s.natives i { s.natives i with reporting := none }
        tasks := s.tasks ++ [⟨i, state⟩] }

theorem State.moves {s s' : State} {e : Event} (h : s.step e = some s') : Moves s e s' := by
  cases e with
  | call c =>
    simp only [step] at h
    split at h
    · next hidle =>
      cases h
      exact .call c hidle
    · cases h
  | runTask =>
    simp only [step] at h
    split at h
    · next hidle htasks =>
      cases h
      exact .runTask hidle htasks
    · cases h
  | act =>
    simp only [step] at h
    split at h
    · cases h
    · next hmain =>
      obtain ⟨natives, heffect, rfl⟩ := Option.map_eq_some_iff.mp h
      exact .act hmain heffect
  | native i e =>
    obtain ⟨n, hn, rfl⟩ := Option.map_eq_some_iff.mp h
    exact .native hn
  | launch i =>
    simp only [step] at h
    split at h
    · cases h
    · next hr =>
      cases h
      exact .launch hr

/-! ## The main thread alone -/

/-- **The manager of an interleaving is that of a sequence of turns**, once the turn under way is
complete. -/
theorem manager_sequential {l : List Event} {s : State}
    (h : after State.step .initial l = some s) :
    ∃ turns, s.manager.perform s.main = Manager.run turns := by
  -- a turn that starts is appended, and its actions are then done one by one
  have hturn : ∀ (s : State) (t : Turn) (turns : List Turn), s.main = [] →
      s.manager.perform s.main = Manager.run turns →
      s.manager.perform (t.actions s.manager) = Manager.run (turns ++ [t]) := by
    intro s t turns hidle hs
    rw [hidle] at hs
    rw [Manager.run_snoc, ← hs]
    rfl
  refine after_inv (I := fun s => ∃ turns, s.manager.perform s.main = Manager.run turns) h
    ⟨[], rfl⟩ fun s e s' hstep ⟨turns, hs⟩ => ?_
  cases State.moves hstep with
  | call c hidle => exact ⟨_, hturn s (.call c) turns hidle hs⟩
  | @runTask t tasks hidle htasks =>
    exact ⟨_, hturn s (.task t) turns hidle hs⟩
  | act hmain heffect =>
    rw [hmain] at hs
    exact ⟨turns, hs⟩
  | native hn => exact ⟨turns, hs⟩
  | launch hr => exact ⟨turns, hs⟩

/-! ## What holds of the native threads -/

@[simp] theorem Recovery.apply_networkAvailable (r : NetworkRecoveryHandler) (op : Recovery) :
    (op.apply r).networkAvailable = r.networkAvailable := by
  cases op with
  | resumed now => exact r.onResumed_networkAvailable now
  | streamError kind now => exact r.onStreamError_networkAvailable kind now
  | socketOpened | connected => rfl

/-- The flag of a native connection once it has read its messages. -/
def Native.flag (n : Native) : Bool := flagAfter n.handler.networkAvailable (queued n.queue)

/-- Reading a message applies its event. -/
theorem flagAfter_queued_cons (r : NetworkRecoveryHandler) (m : PvpnMessage)
    (queue : List PvpnMessage) :
    flagAfter (Native.handleMessage r m).networkAvailable (queued queue) =
      flagAfter r.networkAvailable (queued (m :: queue)) := by
  unfold Native.handleMessage queued
  rw [List.filterMap_cons]
  cases m.connectivity with
  | none => rfl
  | some event =>
    rw [NetworkRecoveryHandler.onConnectivityChange_networkAvailable]
    rfl

@[simp] theorem queued_snoc (queue : List PvpnMessage) (m : PvpnMessage) :
    queued (queue ++ [m]) = queued queue ++ m.connectivity.toList := by
  unfold queued
  rw [List.filterMap_append]
  cases h : m.connectivity <;> simp [h]

theorem connectivity_message (r : Request) : r.toApi.message.connectivity = r.connectivity := by
  cases r <;> rfl

/-- A thread that is not running its loop is not reporting a state. -/
def Native.Quiet (n : Native) : Prop :=
  n.thread = .building ∨ n.thread = .ended → n.reporting = none

/-- What a step of a native thread keeps. -/
theorem Native.step_keeps {n n' : Native} {e : NativeEvent} (h : n.step e = some n')
    (hq : n.Quiet) : n.thread ≠ .ended ∧ n'.flag = n.flag ∧ n'.Quiet := by
  cases e with
  | created =>
    obtain ⟨hthread, ⟨⟩⟩ := Option.ite_none_right_eq_some.mp h
    exact ⟨by simp [hthread], rfl, fun _ => hq (.inl hthread)⟩
  | failed =>
    obtain ⟨hthread, ⟨⟩⟩ := Option.ite_none_right_eq_some.mp h
    exact ⟨by simp [hthread], rfl, fun _ => hq (.inl hthread)⟩
  | handle =>
    simp only [step] at h
    split at h
    · next m queue hthread hqueue =>
      cases h
      refine ⟨by simp [hthread], ?_, ?_⟩
      · unfold flag
        rw [hqueue]
        exact flagAfter_queued_cons n.handler m queue
      · intro h
        split at h <;> simp at h
    · cases h
  | recover r =>
    obtain ⟨hthread, ⟨⟩⟩ := Option.ite_none_right_eq_some.mp h
    exact ⟨by simp [hthread], by simp [flag], hq⟩
  | report state =>
    obtain ⟨⟨hthread, hr⟩, h⟩ := Option.ite_none_right_eq_some.mp h
    have hne : n.thread ≠ .building ∧ n.thread ≠ .ended := by
      rcases hthread with hthread | hthread <;> simp [hthread]
    cases h
    refine ⟨hne.2, ?_, ?_⟩
    · split <;> rfl
    · split
      · exact fun h => (h.elim hne.1 hne.2).elim
      · exact hq
  | exit =>
    obtain ⟨⟨hthread, hr⟩, ⟨⟩⟩ := Option.ite_none_right_eq_some.mp h
    exact ⟨by simp [hthread], rfl, fun _ => hr⟩

/-- What a stage of the life cycle says of the native threads. -/
structure Stage.Natives (v : Stage) (natives : Nat → Native) : Prop where
  current : ∀ i, v.active = some i → i + 1 = v.opened
  /-- Only the thread of the connection opened last can be there. -/
  last : ∀ i, (natives i).thread ≠ .ended → i + 1 = v.opened
  joined : v.joined = true → ∀ i, (natives i).thread = .ended
  flag : ∀ i, i + 1 = v.opened → (natives i).flag = v.flag
  quiet : ∀ i, (natives i).Quiet

namespace Stage.Natives

variable {v v' : Stage} {natives : Nat → Native}

theorem initial : Stage.initial.Natives fun _ => .absent where
  current := by simp [Stage.initial]
  last i h := absurd rfl h
  joined _ _ := rfl
  flag _ _ := rfl
  quiet _ _ := rfl

/-- One native connection changes, and the stage with its flag. -/
theorem update {i : Nat} {n : Native} {flag : Bool} (h : v.Natives natives)
    (hthread : n.thread ≠ .ended → (natives i).thread ≠ .ended) (hquiet : n.Quiet)
    (hi : i + 1 = v.opened → n.flag = flag) (hother : i + 1 ≠ v.opened → flag = v.flag) :
    ({ v with flag := flag } : Stage).Natives (Function.update natives i n) where
  current := h.current
  last := (Function.forall_update_iff natives fun j n => n.thread ≠ .ended → j + 1 = v.opened).mpr
    ⟨fun hne => h.last i (hthread hne), fun j _ => h.last j⟩
  joined hjoined := by
    refine (Function.forall_update_iff natives fun _ n => n.thread = .ended).mpr
      ⟨?_, fun j _ => h.joined hjoined j⟩
    by_contra hne
    exact hthread hne (h.joined hjoined i)
  flag := by
    refine (Function.forall_update_iff natives fun j n => j + 1 = v.opened → n.flag = flag).mpr
      ⟨hi, fun j hji hj => ?_⟩
    rw [h.flag j hj, hother (by omega)]
  quiet := (Function.forall_update_iff natives fun _ n => n.Quiet).mpr
    ⟨hquiet, fun j _ => h.quiet j⟩

/-- One native connection changes and keeps its flag. -/
theorem update_same {i : Nat} {n : Native} (h : v.Natives natives)
    (hthread : n.thread ≠ .ended → (natives i).thread ≠ .ended) (hquiet : n.Quiet)
    (hflag : n.flag = (natives i).flag) : v.Natives (Function.update natives i n) :=
  h.update hthread hquiet (fun hi => hflag.trans (h.flag i hi)) fun _ => rfl

/-- The thread of the active connection has ended: it was the only one that could be there. -/
theorem join {i : Nat} (h : v.Natives natives) (hactive : v.active = some i)
    (hended : (natives i).thread = .ended) :
    ({ v with joined := true } : Stage).Natives natives := by
  refine ⟨h.current, h.last, fun _ j => ?_, h.flag, h.quiet⟩
  by_contra hj
  have hlast := h.last j hj
  have hcurrent := h.current i hactive
  obtain rfl : j = i := by omega
  exact hj hended

/-- A connection is opened when no thread is there. -/
theorem unixConnect (h : v.Natives natives) (hnone : v.active = none) (hjoined : v.joined = true)
    (config : InitialConnectionConfig) :
    ({ v with opened := v.opened + 1, flag := config.networkAvailable, joined := false } :
      Stage).Natives (Function.update natives v.opened (.opened config)) where
  current i hi := by cases hnone.symm.trans hi
  last := (Function.forall_update_iff natives
    fun i n => n.thread ≠ .ended → i + 1 = v.opened + 1).mpr
      ⟨fun _ => rfl, fun i _ hi => absurd (h.joined hjoined i) hi⟩
  joined := nofun
  flag := (Function.forall_update_iff natives
    fun i n => i + 1 = v.opened + 1 → n.flag = config.networkAvailable).mpr
      ⟨fun _ => rfl, fun i hne hi => absurd (Nat.succ.inj hi) hne⟩
  quiet := (Function.forall_update_iff natives fun _ n => n.Quiet).mpr
    ⟨fun _ => rfl, fun i _ => h.quiet i⟩

end Stage.Natives

/-- The stage that describes the state, and the rest of the turn, which completes from there. -/
structure Sound (s : State) (v : Stage) : Prop where
  describes : v.Describes s.manager
  natives : v.Natives s.natives
  completes : Completes v s.main

namespace Sound

variable {s s' : State} {v v' : Stage}

/-- An action of the main thread that respects the life cycle. -/
theorem effect {a : Action} {natives : Nat → Native} (h : Sound s v) (hn : v.next a = some v')
    (heffect : s.effect a = some natives) : v'.Natives natives := by
  have hv := h.natives
  cases a with
  | setActive active =>
    cases heffect
    cases active with
    | none =>
      obtain ⟨-, ⟨⟩⟩ := Option.ite_none_right_eq_some.mp hn
      exact ⟨nofun, hv.last, hv.joined, hv.flag, hv.quiet⟩
    | some active =>
      obtain ⟨⟨-, hopened⟩, ⟨⟩⟩ := Option.ite_none_right_eq_some.mp hn
      refine ⟨?_, hv.last, hv.joined, hv.flag, hv.quiet⟩
      rintro i ⟨⟩
      exact hopened
  | setState state | publish origin state =>
    cases heffect
    cases hn
    exact hv
  | clearCallback i =>
    cases heffect
    cases hn
    exact hv.update_same id (hv.quiet i) rfl
  | request i r =>
    obtain ⟨hactive, ⟨⟩⟩ := Option.ite_none_right_eq_some.mp hn
    obtain ⟨halive, ⟨⟩⟩ := Option.ite_none_right_eq_some.mp heffect
    refine hv.update id (hv.quiet i) (fun hi => ?_) fun hi => absurd (hv.current i hactive) hi
    -- the message is appended to the queue, its event to those still to be applied
    rw [← hv.flag i hi]
    simp [Native.flag, connectivity_message]
  | join i =>
    obtain ⟨hactive, ⟨⟩⟩ := Option.ite_none_right_eq_some.mp hn
    obtain ⟨hended, ⟨⟩⟩ := Option.ite_none_right_eq_some.mp heffect
    exact hv.join hactive hended
  | unixConnect config tunFd =>
    obtain ⟨⟨hnone, hjoined⟩, ⟨⟩⟩ := Option.ite_none_right_eq_some.mp hn
    cases heffect
    rw [← h.describes.opened]
    exact hv.unixConnect hnone hjoined config

theorem turn (h : Sound s v) (hidle : s.main = []) (t : Turn) :
    Completes v (t.actions s.manager) := by
  obtain ⟨v', hv', hr⟩ := h.completes
  rw [hidle] at hv'
  cases hv'
  exact t.lifecycle h.describes hr

theorem step {e : Event} (hm : Moves s e s') (h : Sound s v) : ∃ v', Sound s' v' := by
  cases hm with
  | call c hidle => exact ⟨v, h.describes, h.natives, h.turn hidle (.call c)⟩
  | runTask hidle htasks => exact ⟨v, h.describes, h.natives, h.turn hidle (.task _)⟩
  | act hmain heffect =>
    obtain ⟨v', hv', hr⟩ := h.completes
    rw [hmain] at hv'
    obtain ⟨u, hu, hv'⟩ := after_cons.mp hv'
    exact ⟨u, h.describes.act hu, h.effect hu heffect, v', hv', hr⟩
  | @native i e n hn =>
    obtain ⟨hthread, hflag, hquiet⟩ := Native.step_keeps hn (h.natives.quiet i)
    exact ⟨v, h.describes, h.natives.update_same (fun _ => hthread) hquiet hflag, h.completes⟩
  | launch hr => exact ⟨v, h.describes, h.natives.update_same id (fun _ => rfl) rfl, h.completes⟩

end Sound

theorem sound_initial : Sound .initial .initial :=
  ⟨Stage.describes_initial, .initial, Stage.rests_initial.completes_nil⟩

/-- **Every reachable state is at a stage of the life cycle.** -/
theorem sound_of_run {l : List Event} {s : State} (h : after State.step .initial l = some s) :
    ∃ v, Sound s v :=
  after_inv (I := fun s => ∃ v, Sound s v) h ⟨_, sound_initial⟩
    fun _ _ _ hstep ⟨_, hs⟩ => hs.step (State.moves hstep)

end Protun.Android
