import Mathlib.Logic.Function.Basic
import Protun.Api.Connect
import Protun.Connection.Control

/-!
# The threads of a connection

`start_pvpn_connection` starts the connection thread and hands out `send_msg`, which every call of
the API uses: it sends a message (`message_sender.send(message).unwrap()`) and then wakes the poll
(`poll_waker.wake()`). `Step` is the system of any number of callers `T` and the connection thread,
each step being one access to what they share.

* **The channel.** A message is appended to `queue` unless the receiver has been dropped; then
  `send` answers an error and `unwrap` panics. The connection thread drops the receiver when it
  ends (`exited`), whether `create_pvpn_dependencies` failed or `run` has returned.
* **The waker.** `wake` sets `signalled`. A wait in `poll` returns when the waker is signalled
  (`woken`) or for any other reason (`resumed`: a stream, a timeout, an interrupt, an error). The
  signal is consumed on `mio` with the event that reports it. On Windows the event is reset by
  hand, and only if the wait returned the waker's index, in a step of its own (`reset`).
* **The connection thread** follows `Phase`. That the code does so is `phase_exec`;
  **`exec_simulated`** concludes that every run of the code is a run of this system.
* With `panic = "abort"` in every profile, a failing `expect` in the connection thread stops the
  whole process (`aborted`).
-/

namespace Protun.Threads

open Trace

/-- The implementations of `PollWaker`. -/
inductive Waker where
  | mio
  | windows
  deriving DecidableEq, Repr

/-- Where a caller is in a call of the API. -/
inductive CallerPc where
  /-- Between two calls. -/
  | ready
  /-- The message is sent, `poll_waker.wake()` is next. -/
  | waking (call : ApiCall)
  /-- In `join_handle.join()`. -/
  | joining
  /-- `unwrap` met an error. -/
  | panicked
  deriving DecidableEq

/-- A caller and the calls it is going to make. -/
structure Caller where
  todo : List ApiCall
  pc : CallerPc
  deriving DecidableEq

/-- Where the connection thread is. -/
inductive Thread where
  /-- In `create_pvpn_dependencies`. -/
  | building
  /-- In the constructor, the loop or `on_connection_loop_end`. -/
  | running (phase : Phase)
  /-- Windows: the wait has returned the waker's index and the event is not reset yet. -/
  | resetting
  /-- The wait has returned, `poll` has not. -/
  | returned
  /-- Ended; the receiver is dropped. -/
  | exited
  /-- The process is gone. -/
  | aborted
  deriving DecidableEq, Repr

/-- Whether the channel has its receiver. -/
def Thread.holdsReceiver : Thread → Bool
  | .exited | .aborted => false
  | _ => true

structure State (T : Type) where
  callers : T → Caller
  queue : List PvpnMessage
  signalled : Bool
  thread : Thread

/-- The start: the callers have their calls before them. -/
def State.initial {T : Type} (calls : T → List ApiCall) : State T where
  callers t := ⟨calls t, .ready⟩
  queue := []
  signalled := false
  thread := .building

/-- What a step does. -/
inductive Event (T : Type) where
  | send (t : T) (call : ApiCall)
  | wake (t : T)
  | join (t : T)
  | build
  /-- A step of the connection thread that `Phase` knows. -/
  | thread (o : Obs)
  | woken
  | resumed
  | reset
  | exit

/-- What the connection thread observes in the step. -/
def Event.obs {T : Type} : Event T → Option Obs
  | .thread o => some o
  | _ => none

/-- Observations in which nothing shared is accessed: everything but reading the channel and
returning from `poll`. -/
def isPlain : Obs → Bool
  | .recv _ | .polled _ => false
  | _ => true

/-- Where `wake` leads: `disconnect_and_wait` goes on with `join`. -/
def pcAfterWake (call : ApiCall) : CallerPc :=
  if call = .disconnectAndWait then .joining else .ready

variable {T D L : Type} [DecidableEq T]

/-- The steps of the callers and of the connection thread. -/
inductive Step (waker : Waker) (created : Creation D L) : State T → Event T → State T → Prop where
  | send {s : State T} {t : T} {call : ApiCall} {todo : List ApiCall}
      (hcaller : s.callers t = ⟨call :: todo, .ready⟩) (halive : s.thread.holdsReceiver = true) :
      Step waker created s (.send t call) { s with
        queue := s.queue ++ [call.message]
        callers := Function.update s.callers t ⟨todo, .waking call⟩ }
  | sendPanics {s : State T} {t : T} {call : ApiCall} {todo : List ApiCall}
      (hcaller : s.callers t = ⟨call :: todo, .ready⟩) (hdropped : s.thread = .exited) :
      Step waker created s (.send t call) { s with
        callers := Function.update s.callers t ⟨todo, .panicked⟩ }
  | wake {s : State T} {t : T} {call : ApiCall} {todo : List ApiCall}
      (hcaller : s.callers t = ⟨todo, .waking call⟩) (halive : s.thread ≠ .aborted) :
      Step waker created s (.wake t) { s with
        signalled := true
        callers := Function.update s.callers t ⟨todo, pcAfterWake call⟩ }
  | join {s : State T} {t : T} {todo : List ApiCall} (hcaller : s.callers t = ⟨todo, .joining⟩)
      (hexited : s.thread = .exited) :
      Step waker created s (.join t) { s with
        callers := Function.update s.callers t ⟨todo, .ready⟩ }
  | created {s : State T} {streams : D} {client : L} (hbuilding : s.thread = .building)
      (hok : created = .ok streams client) :
      Step waker created s .build { s with thread := .running .draining }
  | failed {s : State T} {e : IoError} (hbuilding : s.thread = .building)
      (herr : created = .err e) :
      Step waker created s .build { s with thread := .exited }
  | aborts {s : State T} {e : IoError} (hbuilding : s.thread = .building)
      (hpanic : created = .panic e) :
      Step waker created s .build { s with thread := .aborted }
  | recv {s : State T} {m : PvpnMessage} {queue : List PvpnMessage} {p p' : Phase}
      (hthread : s.thread = .running p) (hqueue : s.queue = m :: queue)
      (hnext : p.next (.recv (some m)) = some p') :
      Step waker created s (.thread (.recv (some m))) { s with
        queue := queue
        thread := .running p' }
  | drained {s : State T} {p p' : Phase} (hthread : s.thread = .running p) (hqueue : s.queue = [])
      (hnext : p.next (.recv none) = some p') :
      Step waker created s (.thread (.recv none)) { s with thread := .running p' }
  | plain {s : State T} {o : Obs} {p p' : Phase} (hthread : s.thread = .running p)
      (hplain : isPlain o = true) (hnext : p.next o = some p') :
      Step waker created s (.thread o) { s with thread := .running p' }
  | wokenMio {s : State T} (hmio : waker = .mio) (hthread : s.thread = .running .waiting)
      (hsignalled : s.signalled = true) :
      Step waker created s .woken { s with signalled := false, thread := .returned }
  | wokenWindows {s : State T} (hwindows : waker = .windows)
      (hthread : s.thread = .running .waiting) (hsignalled : s.signalled = true) :
      Step waker created s .woken { s with thread := .resetting }
  | resumed {s : State T} (hthread : s.thread = .running .waiting) :
      Step waker created s .resumed { s with thread := .returned }
  | reset {s : State T} (hthread : s.thread = .resetting) :
      Step waker created s .reset { s with signalled := false, thread := .returned }
  | polled {s : State T} {r : Except IoError (List PollResult)} {p' : Phase}
      (hthread : s.thread = .returned) (hnext : Phase.next .waiting (.polled r) = some p') :
      Step waker created s (.thread (.polled r)) { s with thread := .running p' }
  | exit {s : State T} (hthread : s.thread = .running .ended) :
      Step waker created s .exit { s with thread := .exited }

/-! ## The code is one of the threads -/

/-- A call that sends `m`. -/
def callOf : PvpnMessage → ApiCall
  | .disconnect => .disconnect
  | .connectivityChange event => .onConnectivityChange event
  | .startPacketCapture file => .startPacketCapture file
  | .stopPacketCapture => .stopPacketCapture
  | .requestStats => .requestStats
  | .update u => .update u
  | .provideApiForkSelector info => .provideApiForkSelector info
  | .requestLocalAgentStats => .requestLocalAgentStats

theorem callOf_message (m : PvpnMessage) : (callOf m).message = m := by cases m <;> rfl

theorem pcAfterWake_callOf (m : PvpnMessage) : pcAfterWake (callOf m) = .ready := by
  cases m <;> rfl

/-- The message an observation reads. -/
def messageOf : Obs → Option PvpnMessage
  | .recv m => m
  | _ => none

/-- The calls that send what the observations `l` read. -/
def callsOf (l : List Obs) : List ApiCall := (l.filterMap messageOf).map callOf

/-- A system of one caller. -/
def solo (calls : List ApiCall) (pc : CallerPc) (queue : List PvpnMessage) (signalled : Bool)
    (thread : Thread) : State Unit where
  callers _ := ⟨calls, pc⟩
  queue := queue
  signalled := signalled
  thread := thread

theorem update_unit (f : Unit → Caller) (c : Caller) : Function.update f () c = fun _ => c := by
  funext u
  cases u
  exact Function.update_self ..

/-- A message is sent, the poll is woken, and the thread reads the message. -/
theorem run_message (waker : Waker) (created : Creation D L) {m : PvpnMessage} {p p' : Phase}
    (hnext : p.next (.recv (some m)) = some p') (calls : List ApiCall) (b : Bool) :
    Run (Step waker created) (solo (callOf m :: calls) .ready [] b (.running p))
      [.send () (callOf m), .wake (), .thread (.recv (some m))]
      (solo calls .ready [] true (.running p')) := by
  have hsend : Step waker created (solo (callOf m :: calls) .ready [] b (.running p))
      (.send () (callOf m)) (solo calls (.waking (callOf m)) [m] b (.running p)) := by
    have h : Step waker created (solo (callOf m :: calls) .ready [] b (.running p))
      (.send () (callOf m)) _ := .send rfl rfl
    simpa [solo, update_unit, callOf_message] using h
  have hwake : Step waker created (solo calls (.waking (callOf m)) [m] b (.running p)) (.wake ())
      (solo calls .ready [m] true (.running p)) := by
    have h : Step waker created (solo calls (.waking (callOf m)) [m] b (.running p)) (.wake ()) _ :=
      .wake rfl (by simp [solo])
    simpa [solo, update_unit, pcAfterWake_callOf] using h
  exact .cons hsend (.cons hwake (.cons (.recv rfl rfl hnext) (.nil _)))

/-- A word of the automaton is what the thread observes in a run: its messages are sent one by one,
each right before it is read, and every wait returns by itself. -/
theorem run_of_word (waker : Waker) (created : Creation D L) {l : List Obs} {p p' : Phase}
    (h : after Phase.next p l = some p') (b : Bool) :
    ∃ events s, Run (Step waker created) (solo (callsOf l) .ready [] b (.running p)) events s ∧
      events.filterMap Event.obs = l := by
  induction l generalizing p b with
  | nil => exact ⟨[], _, .nil _, rfl⟩
  | cons o l ih =>
    obtain ⟨u, hu, h⟩ := after_cons.mp h
    -- the steps for `o`, followed by those for the rest
    have hrest : ∀ {s : State Unit} {events : List (Event Unit)} (b' : Bool),
        Run (Step waker created) s events (solo (callsOf l) .ready [] b' (.running u)) →
        events.filterMap Event.obs = [o] →
        ∃ events s', Run (Step waker created) s events s' ∧
          events.filterMap Event.obs = o :: l := by
      intro s events b' hrun hobs
      obtain ⟨events', s', hrun', hobs'⟩ := ih h b'
      refine ⟨events ++ events', s', hrun.append hrun', ?_⟩
      rw [List.filterMap_append, hobs, hobs']
      rfl
    cases hplain : isPlain o with
    | true =>
      have hcalls : callsOf (o :: l) = callsOf l := by
        cases o <;> first | rfl | cases hplain
      rw [hcalls]
      exact hrest b (.cons (.plain rfl hplain hu) (.nil _)) rfl
    | false =>
      cases o with
      | recv m =>
        cases m with
        | none => exact hrest b (.cons (.drained rfl rfl hu) (.nil _)) rfl
        | some m => exact hrest true (run_message waker created hu _ b) rfl
      | polled r =>
        have hp : p = .waiting := by cases p <;> first | rfl | cases hu
        subst hp
        exact hrest b (.cons (.resumed rfl) (.cons (.polled rfl hu) (.nil _))) rfl
      | _ => cases hplain

/-- **Every run of the code is a run of this system**, in which the thread observes what it does in
the code. -/
theorem exec_simulated {E S X F : Type} (d : PvpnDependencies E S X F) (cfg : InitialConfig)
    (streams : S) (env : E) (n : Nat) (waker : Waker) (dependencies : D) (client : L) :
    ∃ calls events s,
      Run (Step waker (.ok dependencies client)) (State.initial fun _ : Unit => calls) events s ∧
        events.filterMap Event.obs =
          (PvpnConnection.exec d cfg streams env n).2.past.map Prod.fst := by
  obtain ⟨p, hp⟩ := (PvpnConnection.phase_exec d cfg streams env n).1
  obtain ⟨events, s, hrun, hobs⟩ := run_of_word waker (.ok dependencies client) hp false
  exact ⟨_, .build :: events, s, .cons (.created rfl rfl) hrun, hobs⟩

end Protun.Threads
