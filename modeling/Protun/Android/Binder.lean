import Protun.Android.App
import Protun.Android.Code

/-!
# `onRevoke` on a binder thread (`ProTunVpnServiceBinder.onTransact`)

The system tells the service that its VPN has been revoked by a transaction of its binder, and
`onTransact` calls `onRevoke` on a thread of the binder's pool. Everything else that touches the
manager is on the main thread, and nothing in the code keeps the two apart.

`Phone.step` puts the binder thread beside the world of `App.lean`. The main thread and the binder
thread run their code one access at a time, in any order; the observer, the app and the native
threads are as before. At most one transaction is handled at a time.

* `World.during`: a world with a turn under way, from the world as it is now and the code that is
  left.
* `Phone.serialStep`: the runs in which the main thread does nothing while `onRevoke` is run on the
  binder thread, and the other way round.
* **`Phone.simulates`**: such a phone does what the world does, where `onRevoke` is a turn of the
  main thread.

Results, for every serial run:

* **`service_invariant`**: a connection is active only while an instance is in the foreground, an
  instance that has gone leaves no native thread behind, and one that stays in the foreground
  without a connection shows the error that ended it.
* **`after_disconnect`**: from `disconnect` to the next `connect` the app shows that it is
  disconnected, and once the service has handled what was sent no connection is active and no native
  thread is left.

Neither holds of all runs: `overlap_leaves_foreground`, `overlap_loses_connection`.
-/

namespace Protun.Android

open Trace Kotlin

/-- The event is on the main thread. -/
def AppEvent.onMain : AppEvent → Bool
  | .host (.callback _) | .host (.system (.native _ _)) | .host (.system (.launch _)) => false
  | _ => true

namespace World

/-- An action of a thread. -/
def perform (w : World) (a : Action) : Option World :=
  let manager := w.host.system.manager.act a
  (w.host.system.effect a).map fun natives =>
    { w with
      host := { w.host with system := { w.host.system with manager, natives } }
      states := w.states.set manager.state }

/-- A thread that runs code of the instance `i` makes its next access. -/
def access (w : World) (i : Nat) : Code Unit → Option (World × Code Unit)
  | .done _ => none
  | .read next => some (w, next w.host.system.manager.activeConnection)
  | .act a _ next => (w.perform a).map fun w => (w, next)
  | .unixConnect config tunFd active next =>
    if active.validatedNetworks = w.host.networks.value then
      (w.perform (.unixConnect config tunFd)).map fun w' =>
        ({ w' with host := { w'.host with
            ahead := decide (w.host.networks.emitted ≠ some w.host.networks.value) } },
          .act (.setActive (some
            { active with connection := w.host.system.manager.connections.length })) rfl next)
    else none
  | .call c next =>
    -- a call of an instance that has gone does nothing
    some (if i = w.instances then { w with host := { w.host with
      service := c.apply w.host.service } } else w, next)

/-- A turn of the main thread starts. What the app does in its turns, and what `onCreate` does, is
one step. -/
def turn (w : World) : AppEvent → Option (World × Code Unit)
  | .deliver answers =>
    match w.intents, w.host.service with
    | action :: intents, some _ =>
      some ({ w with intents }, .onStartCommand answers (.vpnAction action))
    | _, _ => none
  | .host (.onStartCommand intent answers) =>
    if (HostEvent.onStartCommand intent answers).isAction then none
    else w.host.service.map fun _ => (w, .onStartCommand answers intent)
  | .host .onRevoke => w.host.service.map fun _ => (w, .onRevoke)
  | .host .onDestroy => w.host.service.map fun _ =>
    -- the scope of the collectors is used on the main thread only
    ({ w with
      host := { w.host with networks := w.host.networks.cancel, ahead := true }
      states := w.states.cancel
      attached := false
      ahead := true }, .onDestroy)
  | .host .collect =>
    match w.host.networks.resume with
    | none => none
    | some (none, networks) => some ({ w with host := { w.host with networks } }, .done ())
    | some (some validatedNetworks, networks) =>
      some ({ w with host := { w.host with networks, ahead := false } },
        .onValidatedNetworks validatedNetworks)
  | .host (.system .runTask) =>
    match w.host.system.tasks with
    | [] => none
    | t :: tasks => some ({ w with host := { w.host with
        system := { w.host.system with tasks } } }, .onProTunStateChange t)
  | e => (w.step e).map fun w => (w, .done ())

end World

structure Phone where
  /-- Without a turn under way (`host.system.main` is not used). -/
  world : World
  /-- What the main thread has left of its turn. -/
  main : Code Unit
  /-- What the binder thread has left of `onRevoke`. -/
  binder : Code Unit
  /-- The instance whose `onRevoke` that is. -/
  revoked : Nat

def Phone.initial : Phone := ⟨.initial, .done (), .done (), 0⟩

inductive PhoneEvent where
  /-- The main thread starts a turn, or something happens on another thread. -/
  | world (e : AppEvent)
  /-- `LAST_CALL_TRANSACTION` is received on a binder thread. -/
  | onTransact
  /-- The main thread goes on with its turn. -/
  | main
  /-- The binder thread goes on with `onRevoke`. -/
  | binder

namespace Phone

def step (p : Phone) : PhoneEvent → Option Phone
  | .world e =>
    if e.onMain then
      if p.main.isDone then (p.world.turn e).map fun (world, main) => { p with world, main }
      else none
    else (p.world.step e).map fun world => { p with world }
  | .onTransact =>
    -- `weakService.get()?.onRevoke()`
    if p.binder.isDone && p.world.host.service.isSome then
      some { p with binder := .onRevoke, revoked := p.world.instances }
    else none
  | .main =>
    (p.world.access p.world.instances p.main).map fun (world, main) => { p with world, main }
  | .binder =>
    (p.world.access p.revoked p.binder).map fun (world, binder) => { p with world, binder }

/-- The event puts one thread to work while the other is not done. -/
def overlaps (p : Phone) : PhoneEvent → Bool
  | .world e => e.onMain && !p.binder.isDone
  | .onTransact => !p.main.isDone
  | .main | .binder => false

/-- A step of a serial run. -/
def serialStep (p : Phone) (e : PhoneEvent) : Option Phone :=
  if p.overlaps e then none else p.step e

/-- Both threads are done. -/
def AtRest (p : Phone) : Prop := p.main.isDone = true ∧ p.binder.isDone = true

end Phone

/-! ## A turn under way -/

namespace World

/-- The world of `w` and a turn that has the code `c` left, run alone. -/
def during (w : World) (c : Code Unit) : World :=
  { w with host := { w.host with
    system := { w.host.system with main := c.actions w.host.system.manager }
    service := c.finish w.host.system.manager w.host.service } }

theorem during_done {w : World} (hidle : w.host.system.main = []) : w.during (.done ()) = w := by
  obtain ⟨⟨⟨manager, main, natives, tasks⟩, networks, service, ahead⟩, _⟩ := w
  obtain rfl : main = [] := hidle
  rfl

theorem reads_of_not_opens {a : Action} (ha : opens [a] = false) (l : List Action) :
    reads (a :: l) = none := by
  cases a with
  | unixConnect => cases ha
  | setActive | setState | publish | clearCallback | request | join => rfl

/-- A step of the main thread that opens nothing. -/
theorem step_act {w : World} {a : Action} {l : List Action} {natives : Nat → Native}
    (hmain : w.host.system.main = a :: l) (ha : opens [a] = false)
    (heffect : w.host.system.effect a = some natives) :
    w.step (.host (.system .act)) = some { w with
      host := { w.host with system := { w.host.system with
        manager := w.host.system.manager.act a
        main := l
        natives } }
      states := w.states.set (w.host.system.manager.act a).state } := by
  simp only [step, HostEvent.isAction, hosted, Host.step, State.step, hmain, heffect,
    reads_of_not_opens ha l, Option.map_some, Bool.false_eq_true, if_false]

/-- A step of the main thread that opens a connection. -/
theorem step_unixConnect {w : World} {config : InitialConnectionConfig}
    {tunFd : ParcelFileDescriptor} {active : ActiveConnection} {l : List Action}
    (hmain : w.host.system.main = .unixConnect config tunFd :: .setActive (some active) :: l)
    (hnetworks : active.validatedNetworks = w.host.networks.value) :
    w.step (.host (.system .act)) = some { w with
      host := { w.host with
        system := { w.host.system with
          manager := w.host.system.manager.act (.unixConnect config tunFd)
          main := .setActive (some active) :: l
          natives := Function.update w.host.system.natives
            w.host.system.manager.connections.length (.opened config) }
        ahead := decide (w.host.networks.emitted ≠ some w.host.networks.value) }
      states := w.states.set (w.host.system.manager.act (.unixConnect config tunFd)).state } := by
  simp only [step, HostEvent.isAction, hosted, Host.step, State.step, hmain, reads, hnetworks,
    State.effect, Option.map_some, Bool.false_eq_true, if_false, if_true]

/-- An access of a thread that runs alone is no step of the world, or a step of its turn. -/
theorem during_access {w w' : World} {c c' : Code Unit}
    (h : w.access w.instances c = some (w', c')) :
    w'.during c' = w.during c ∨ (w.during c).step (.host (.system .act)) = some (w'.during c') := by
  cases c with
  | done a => cases h
  | read next =>
    cases h
    exact .inl rfl
  | act a ha next =>
    obtain ⟨u, hu, heq⟩ := Option.map_eq_some_iff.mp h
    obtain ⟨natives, hnatives, rfl⟩ := Option.map_eq_some_iff.mp hu
    cases heq
    exact .inr (step_act rfl ha hnatives)
  | unixConnect config tunFd active next =>
    obtain ⟨hnetworks, h⟩ := Option.ite_none_right_eq_some.mp h
    cases h
    exact .inr (step_unixConnect rfl hnetworks)
  | call c next =>
    cases h
    refine .inl ?_
    rw [if_pos rfl]
    rfl

theorem set_states {w : World} (hvalue : w.states.value = w.host.system.manager.state) :
    w.states.set w.host.system.manager.state = w.states := by
  rw [← hvalue]
  exact if_pos rfl

/-- The event starts no turn of the main thread. -/
def startsNone : HostEvent → Bool
  | .callback _ | .onCreate => true
  | .system e =>
    match e with
    | .runTask => false
    | _ => true
  | _ => false

theorem main_of_startsNone {w w' : World} {e : HostEvent} (hidle : w.host.system.main = [])
    (he : startsNone e = true) (h : w.step (.host e) = some w') : w'.host.system.main = [] := by
  obtain ⟨host, hstep, hcases⟩ := hosted_cases (Option.ite_none_left_eq_some.mp h).2
  have hmain : host.system.main = [] := by
    cases Host.moves hstep with
    | callback | onCreate => exact hidle
    | onStartCommand | onRevoke | onDestroy | collect | collectNothing => cases he
    | unixConnect hreads hsystem =>
      rw [hidle] at hreads
      cases hreads
    | system hcall hreads hsystem =>
      cases State.moves hsystem with
      | call c => exact absurd rfl (hcall c)
      | runTask => cases he
      | act hmain heffect => cases hidle.symm.trans hmain
      | native | launch => exact hidle
  obtain ⟨-, rfl⟩ | ⟨-, rfl⟩ | ⟨-, rfl⟩ := hcases <;> exact hmain

section Turn

variable {w w' : World} {c : Code Unit}

/-- What is one step leaves the main thread between two turns. -/
theorem step_of_one {e : AppEvent}
    (hw : (w.step e).map (fun u => (u, Code.done ())) = some (w', c))
    (hkept : ∀ u, w.step e = some u → u.host.system.main = []) :
    w.step e = some (w'.during c) ∧ w'.host.system.main = [] := by
  obtain ⟨u, hu, heq⟩ := Option.map_eq_some_iff.mp hw
  cases heq
  rw [during_done (hkept _ hu)]
  exact ⟨hu, hkept _ hu⟩

variable (hidle : w.host.system.main = [])
  (hvalue : w.states.value = w.host.system.manager.state)

include hidle hvalue

theorem hosted_onStartCommand {service : ProTunVpnService} (hs : w.host.service = some service)
    (intent : Intent) (answers : Answers) :
    w.hosted (.onStartCommand intent answers) =
      some (w.during (.onStartCommand answers intent)) := by
  obtain ⟨hactions, hfinish⟩ :=
    Code.onStartCommand_alone w.host.system.manager service answers intent
  simp only [hosted, Host.step, hs, State.turn, hidle, Option.map_some, set_states hvalue, during,
    hactions, hfinish]

theorem hosted_onRevoke {service : ProTunVpnService} (hs : w.host.service = some service) :
    w.hosted .onRevoke = some (w.during .onRevoke) := by
  obtain ⟨hactions, hfinish⟩ := Code.onRevoke_alone w.host.system.manager service
  simp only [hosted, Host.step, hs, State.turn, hidle, Option.map_some, set_states hvalue, during,
    hactions, hfinish]

theorem hosted_onDestroy {service : ProTunVpnService} (hs : w.host.service = some service) :
    w.hosted .onDestroy = some (World.during { w with
      host := { w.host with networks := w.host.networks.cancel, ahead := true }
      states := w.states.cancel
      attached := false
      ahead := true } .onDestroy) := by
  obtain ⟨hactions, hfinish⟩ := Code.onDestroy_alone w.host.system.manager (some service)
  simp only [hosted, Host.step, hs, State.turn, hidle, Option.map_some, set_states hvalue, during,
    hactions, hfinish]

theorem hosted_of_resume {v : Option (Finset Network)} {networks : StateFlow (Finset Network)}
    (hr : w.host.networks.resume = some (v, networks)) :
    w.hosted .collect = some (World.during
      { w with host := { w.host with networks, ahead := v.isNone && w.host.ahead } }
      (v.elim (.done ()) .onValidatedNetworks)) := by
  cases v with
  | none =>
    simp only [hosted, Host.step, hr, State.turn, hidle, Option.map_some, set_states hvalue, during,
      Option.elim, Code.actions, Code.finish, Option.isNone_none, Bool.true_and]
  | some v =>
    have hdoes := Code.does_onValidatedNetworks v w.host.system.manager
    simp only [hosted, Host.step, hr, State.turn, hidle, Option.map_some, set_states hvalue, during,
      Option.elim, hdoes.actions, hdoes.finish, Option.isNone_some, Bool.false_and]

theorem hosted_runTask {t : Task} {tasks : List Task} (ht : w.host.system.tasks = t :: tasks) :
    w.hosted (.system .runTask) = some (World.during
      { w with host := { w.host with system := { w.host.system with tasks } } }
      (.onProTunStateChange t)) := by
  have hdoes := Code.does_onProTunStateChange t w.host.system.manager
  simp only [hosted, Host.step, State.step, hidle, ht, Option.map_some, set_states hvalue, during,
    hdoes.actions, hdoes.finish, Turn.actions]

theorem step_of_hostTurn {e : HostEvent} (h : w.turn (.host e) = some (w', c)) :
    w.step (.host e) = some (w'.during c) ∧ w'.host.system.main = [] := by
  cases e with
  | onStartCommand intent answers =>
    obtain ⟨haction, h⟩ := Option.ite_none_left_eq_some.mp h
    obtain ⟨service, hs, heq⟩ := Option.map_eq_some_iff.mp h
    cases heq
    have hhosted := hosted_onStartCommand hidle hvalue hs intent answers
    exact ⟨(if_neg haction).trans hhosted, hidle⟩
  | onRevoke =>
    obtain ⟨service, hs, heq⟩ := Option.map_eq_some_iff.mp h
    cases heq
    exact ⟨hosted_onRevoke hidle hvalue hs, hidle⟩
  | onDestroy =>
    obtain ⟨service, hs, heq⟩ := Option.map_eq_some_iff.mp h
    cases heq
    exact ⟨hosted_onDestroy hidle hvalue hs, hidle⟩
  | collect =>
    simp only [turn] at h
    split at h
    · cases h
    · next networks hr =>
      cases h
      exact ⟨hosted_of_resume hidle hvalue hr, hidle⟩
    · next v networks hr =>
      cases h
      exact ⟨hosted_of_resume hidle hvalue hr, hidle⟩
  | callback c => exact step_of_one h fun _ => main_of_startsNone hidle rfl
  | onCreate => exact step_of_one h fun _ => main_of_startsNone hidle rfl
  | system e =>
    cases e with
    | runTask =>
      simp only [turn] at h
      split at h
      · cases h
      · next t tasks ht =>
        cases h
        exact ⟨hosted_runTask hidle hvalue ht, hidle⟩
    | call | act | native | launch => exact step_of_one h fun _ => main_of_startsNone hidle rfl

/-- A turn starts as it does in the world where it is decided at once. -/
theorem step_of_turn {e : AppEvent} (h : w.turn e = some (w', c)) :
    w.step e = some (w'.during c) ∧ w'.host.system.main = [] := by
  cases e with
  | host e => exact step_of_hostTurn hidle hvalue h
  | deliver answers =>
    simp only [turn] at h
    split at h
    · next action intents service hi hs =>
      cases h
      refine ⟨?_, hidle⟩
      simp only [step, hi, hosted_onStartCommand hidle hvalue hs, Option.map_some]
      rfl
    · cases h
  | _ =>
    refine step_of_one h fun u hu => ?_
    cases World.moves hu <;> exact hidle

end Turn

/-- What happens on other threads does not depend on the turn under way. -/
theorem during_aside {w w' : World} {e : AppEvent} (he : e.onMain = false)
    (h : w.step e = some w') (c : Code Unit) :
    (w.during c).step e = some (w'.during c) ∧ w'.instances = w.instances ∧
      w'.host.system.main = w.host.system.main := by
  cases e with
  | host e =>
    cases e with
    | callback v =>
      cases h
      exact ⟨rfl, rfl, rfl⟩
    | system e =>
      cases e with
      | native i e =>
        have h : w.hosted (.system (.native i e)) = some w' := h
        obtain ⟨host, hhost, rfl⟩ := Option.map_eq_some_iff.mp h
        obtain ⟨system, hsystem, rfl⟩ := Option.map_eq_some_iff.mp hhost
        obtain ⟨n, hn, rfl⟩ := Option.map_eq_some_iff.mp hsystem
        refine ⟨?_, rfl, rfl⟩
        simp only [step, HostEvent.isAction, hosted, Host.step, State.step, during, hn,
          Option.map_some, Bool.false_eq_true, if_false]
      | launch i =>
        have h : w.hosted (.system (.launch i)) = some w' := h
        obtain ⟨host, hhost, rfl⟩ := Option.map_eq_some_iff.mp h
        obtain ⟨system, hsystem, rfl⟩ := Option.map_eq_some_iff.mp hhost
        cases hreporting : (w.host.system.natives i).reporting with
        | none =>
          simp only [State.step, hreporting] at hsystem
          cases hsystem
        | some state =>
          simp only [State.step, hreporting] at hsystem
          cases hsystem
          refine ⟨?_, rfl, rfl⟩
          simp only [step, HostEvent.isAction, hosted, Host.step, State.step, during, hreporting,
            Option.map_some, Bool.false_eq_true, if_false]
      | call | runTask | act => cases he
    | onCreate | onStartCommand | onRevoke | onDestroy | collect => cases he
  | connect | disconnect | update | onServiceConnected | onServiceDisconnected | onBindingDied
  | collect | deliver => cases he

theorem access_same {w w' : World} {i : Nat} {c c' : Code Unit}
    (h : w.access i c = some (w', c')) :
    w'.instances = w.instances ∧ w'.host.system.main = w.host.system.main := by
  cases c with
  | done a => cases h
  | read next =>
    cases h
    exact ⟨rfl, rfl⟩
  | act a ha next =>
    obtain ⟨u, hu, heq⟩ := Option.map_eq_some_iff.mp h
    obtain ⟨natives, hnatives, rfl⟩ := Option.map_eq_some_iff.mp hu
    cases heq
    exact ⟨rfl, rfl⟩
  | unixConnect config tunFd active next =>
    cases (Option.ite_none_right_eq_some.mp h).2
    exact ⟨rfl, rfl⟩
  | call c next =>
    cases h
    split <;> exact ⟨rfl, rfl⟩

end World

theorem Code.eq_done {c : Code Unit} (h : c.isDone = true) : c = .done () := by
  cases c with
  | done a => rfl
  | read | act | unixConnect | call => cases h

namespace Phone

/-- What holds of a phone in a serial run. -/
structure Serial (p : Phone) : Prop where
  idle : p.world.host.system.main = []
  alone : p.main.isDone = true ∨ p.binder.isDone = true
  revoked : p.binder.isDone = false → p.revoked = p.world.instances

/-- The world of a phone: the turn under way is that of the thread that is not done. -/
def view (p : Phone) : World := p.world.during (if p.main.isDone then p.binder else p.main)

theorem view_of_main {p : Phone} (h : p.main.isDone = true) : p.view = p.world.during p.binder := by
  rw [view, if_pos h]

theorem view_of_binder {p : Phone} (h : p.binder.isDone = true) :
    p.view = p.world.during p.main := by
  unfold view
  split
  · next hmain => rw [Code.eq_done h, Code.eq_done hmain]
  · rfl

theorem Serial.view_of_rest {p : Phone} (hp : p.Serial) (hmain : p.main.isDone = true)
    (hbinder : p.binder.isDone = true) : p.view = p.world := by
  rw [view_of_main hmain, Code.eq_done hbinder, World.during_done hp.idle]

section Step

variable {p p' : Phone} (hp : p.Serial)

include hp

theorem Serial.world (hvalue : p.view.states.value = p.view.host.system.manager.state)
    {e : AppEvent} (h : p.serialStep (.world e) = some p') :
    p'.Serial ∧ p.view.step e = some p'.view := by
  obtain ⟨hoverlap, h⟩ := Option.ite_none_left_eq_some.mp h
  cases he : e.onMain with
  | true =>
    simp only [step, he, if_true] at h
    obtain ⟨hmain, h⟩ := Option.ite_none_right_eq_some.mp h
    obtain ⟨⟨w, c⟩, hturn, rfl⟩ := Option.map_eq_some_iff.mp h
    have hbinder : p.binder.isDone = true := by simpa [overlaps, he] using hoverlap
    rw [hp.view_of_rest hmain hbinder] at hvalue ⊢
    obtain ⟨hstep, hidle⟩ := World.step_of_turn hp.idle hvalue hturn
    refine ⟨⟨hidle, .inr hbinder, fun hne => ?_⟩, ?_⟩
    · cases hbinder.symm.trans hne
    · rw [hstep]
      exact congrArg some (view_of_binder (p := ⟨w, c, p.binder, p.revoked⟩) hbinder).symm
  | false =>
    simp only [step, he, Bool.false_eq_true, if_false] at h
    obtain ⟨w, hw, rfl⟩ := Option.map_eq_some_iff.mp h
    obtain ⟨hstep, hinstances, hmain⟩ :=
      World.during_aside he hw (if p.main.isDone then p.binder else p.main)
    exact ⟨⟨hmain.trans hp.idle, hp.alone, fun hne => (hp.revoked hne).trans hinstances.symm⟩,
      hstep⟩

/-- The transaction is the start of a turn `onRevoke`. -/
theorem Serial.onTransact (hvalue : p.view.states.value = p.view.host.system.manager.state)
    (h : p.serialStep .onTransact = some p') :
    p'.Serial ∧ p.view.step (.host .onRevoke) = some p'.view := by
  obtain ⟨hoverlap, h⟩ := Option.ite_none_left_eq_some.mp h
  obtain ⟨hready, ⟨⟩⟩ := Option.ite_none_right_eq_some.mp h
  obtain ⟨hbinder, hservice⟩ := Bool.and_eq_true_iff.mp hready
  obtain ⟨service, hs⟩ := Option.isSome_iff_exists.mp hservice
  have hmain : p.main.isDone = true := by simpa [overlaps] using hoverlap
  rw [hp.view_of_rest hmain hbinder] at hvalue ⊢
  have hrevoke : p.world.step (.host .onRevoke) = some (p.world.during .onRevoke) :=
    World.hosted_onRevoke hp.idle hvalue hs
  refine ⟨⟨hp.idle, .inl hmain, fun _ => rfl⟩, ?_⟩
  rw [hrevoke]
  exact congrArg some
    (view_of_main (p := ⟨p.world, p.main, .onRevoke, p.world.instances⟩) hmain).symm

theorem Serial.main (h : p.serialStep .main = some p') :
    p'.Serial ∧ (p'.view = p.view ∨ p.view.step (.host (.system .act)) = some p'.view) := by
  obtain ⟨⟨w, c⟩, haccess, rfl⟩ := Option.map_eq_some_iff.mp h
  have hbinder : p.binder.isDone = true := by
    refine hp.alone.resolve_left fun hmain => ?_
    rw [Code.eq_done hmain] at haccess
    cases haccess
  obtain ⟨hinstances, hidle⟩ := World.access_same haccess
  have hafter := view_of_binder (p := ⟨w, c, p.binder, p.revoked⟩) hbinder
  refine ⟨⟨hidle.trans hp.idle, .inr hbinder, fun hne => ?_⟩, ?_⟩
  · cases hbinder.symm.trans hne
  · rw [hafter, view_of_binder hbinder]
    exact World.during_access haccess

theorem Serial.binder (h : p.serialStep .binder = some p') :
    p'.Serial ∧ (p'.view = p.view ∨ p.view.step (.host (.system .act)) = some p'.view) := by
  obtain ⟨⟨w, c⟩, haccess, rfl⟩ := Option.map_eq_some_iff.mp h
  have hbinder : p.binder.isDone = false := by
    refine eq_false_of_ne_true fun hbinder => ?_
    rw [Code.eq_done hbinder] at haccess
    cases haccess
  have hmain : p.main.isDone = true := by
    refine hp.alone.resolve_right fun hdone => ?_
    cases hdone.symm.trans hbinder
  obtain ⟨hinstances, hidle⟩ := World.access_same haccess
  have hafter := view_of_main (p := ⟨w, p.main, c, p.revoked⟩) hmain
  refine ⟨⟨hidle.trans hp.idle, .inl hmain, fun _ => ?_⟩, ?_⟩
  · exact (hp.revoked hbinder).trans hinstances.symm
  · rw [hafter, view_of_main hmain]
    rw [hp.revoked hbinder] at haccess
    exact World.during_access haccess

/-- **Without overlap** a step of the phone is no step of its world, or one of them: the one it is
named after, or one of the service. -/
theorem Serial.simulates {e : PhoneEvent}
    (hvalue : p.view.states.value = p.view.host.system.manager.state)
    (h : p.serialStep e = some p') :
    p'.Serial ∧ (p'.view = p.view ∨
      ∃ e', p.view.step e' = some p'.view ∧ (e = .world e' ∨ ∃ host, e' = .host host)) := by
  cases e with
  | world e => exact (hp.world hvalue h).imp_right fun hstep => .inr ⟨e, hstep, .inl rfl⟩
  | onTransact =>
    exact (hp.onTransact hvalue h).imp_right fun hstep => .inr ⟨_, hstep, .inr ⟨_, rfl⟩⟩
  | main =>
    exact (hp.main h).imp_right fun hcases => hcases.imp_right fun hstep =>
      ⟨_, hstep, .inr ⟨_, rfl⟩⟩
  | binder =>
    exact (hp.binder h).imp_right fun hcases => hcases.imp_right fun hstep =>
      ⟨_, hstep, .inr ⟨_, rfl⟩⟩

end Step

/-- The phone has come here by a serial run: its world is one that the world comes to. -/
structure Reached (p : Phone) : Prop where
  serial : p.Serial
  world : ∃ l, after World.step .initial l = some p.view

theorem Reached.value {p : Phone} (h : p.Reached) :
    p.view.states.value = p.view.host.system.manager.state := by
  obtain ⟨l, hl⟩ := h.world
  exact (World.wired_run hl).1.value

theorem Reached.step {p p' : Phone} {e : PhoneEvent} (hp : p.Reached)
    (h : p.serialStep e = some p') : p'.Reached := by
  obtain ⟨hserial, hview⟩ := hp.serial.simulates hp.value h
  refine ⟨hserial, ?_⟩
  obtain ⟨l, hl⟩ := hp.world
  rcases hview with heq | ⟨e', hstep, -⟩
  · exact ⟨l, heq ▸ hl⟩
  · exact ⟨l ++ [e'], after_snoc.mpr ⟨p.view, hl, hstep⟩⟩

theorem reached_of_run {l : List PhoneEvent} {p : Phone}
    (hrun : after Phone.serialStep .initial l = some p) : p.Reached :=
  after_inv (I := Reached) hrun ⟨⟨rfl, .inl rfl, fun h => Bool.noConfusion h⟩, [], rfl⟩
    fun _ _ _ hstep hp => hp.step hstep

theorem Reached.view_of_rest {p : Phone} (h : p.Reached) (hrest : p.AtRest) : p.view = p.world :=
  h.serial.view_of_rest hrest.1 hrest.2

/-- After `disconnect` the world keeps leaving the service until the next `connect`. -/
theorem Reached.leaves {p p' : Phone} {e : PhoneEvent} (hp : p.Reached) (hleaves : p.view.Leaves)
    (h : p.serialStep e = some p')
    (he : ∀ config bindService, e ≠ .world (.connect config bindService)) : p'.view.Leaves := by
  rcases (hp.serial.simulates hp.value h).2 with heq | ⟨e', hstep, rfl | ⟨host, rfl⟩⟩
  · exact heq ▸ hleaves
  · exact hleaves.step (World.moves hstep) fun config bindService heq =>
      he config bindService (heq ▸ rfl)
  · exact hleaves.step (World.moves hstep) fun config bindService heq => by cases heq

end Phone

/-- **The service and its connection.** Between two turns, in every run in which `onRevoke` on a
binder thread overlaps no turn of the main thread: a connection is active only while an instance is
in the foreground; when there is none, also because the instance is gone, every native thread has
ended and the state says disconnected; and an instance that is in the foreground without a
connection says why. -/
theorem service_invariant (l : List PhoneEvent) (p : Phone)
    (hrun : after Phone.serialStep .initial l = some p) (hrest : p.AtRest) :
    let manager := p.world.host.system.manager
    (manager.activeConnection ≠ none →
      ∃ s, p.world.host.service = some s ∧ s.foreground = true) ∧
    (manager.activeConnection = none →
      (∀ i, (p.world.host.system.natives i).thread = .ended) ∧
      ∃ error, manager.state = ⟨.down none, .disconnected error⟩) ∧
    (∀ s, p.world.host.service = some s → s.foreground = true →
      manager.activeConnection = none → ∃ reason, manager.state = .disconnectedWith reason) := by
  have hreached := Phone.reached_of_run hrun
  obtain ⟨l', hl'⟩ := hreached.world
  rw [hreached.view_of_rest hrest] at hl'
  obtain ⟨l'', hl''⟩ := World.host_run hl'
  exact Host.served_of_idle hl'' hreached.serial.idle

/-- The app connects and the service is created; the main thread is at the start of
`onStartCommand`. -/
def delivered : List PhoneEvent :=
  [.world (.connect withoutAgent true), .world (.host .onCreate), .world (.deliver ⟨.ok 3, ∅, 0⟩)]

/-- `onStartCommand` runs to its end. -/
def served : List PhoneEvent := delivered ++ [.main, .main, .main, .main, .main]

theorem served_in_foreground :
    ∃ p, after Phone.serialStep .initial served = some p ∧
      p.world.host.system.manager.activeConnection ≠ none ∧
      ∃ s, p.world.host.service = some s ∧ s.foreground = true := by
  have hrun : (after Phone.serialStep .initial served).map (fun p =>
      (p.main.isDone, p.binder.isDone, p.world.host.system.manager.activeConnection.isSome)) =
        some (true, true, true) := by
    decide +kernel
  obtain ⟨p, hp, hat⟩ := Option.map_eq_some_iff.mp hrun
  have hmain : p.main.isDone = true := congrArg Prod.fst hat
  have hbinder : p.binder.isDone = true := congrArg (fun x => x.2.1) hat
  have hsome : p.world.host.system.manager.activeConnection.isSome = true :=
    congrArg (fun x => x.2.2) hat
  have hne := Option.isSome_iff_ne_none.mp hsome
  exact ⟨p, hp, hne, (service_invariant served p hp ⟨hmain, hbinder⟩).1 hne⟩

/-- `onRevoke` runs while the main thread is in `onStartCommand`, before it opens the connection. -/
def revokedBefore : List PhoneEvent :=
  delivered ++ [.main, .onTransact, .binder, .binder, .binder, .binder, .binder] ++
    [.main, .main, .main, .main]

/-- With overlap a connection stays that no instance in the foreground serves. -/
theorem overlap_leaves_foreground :
    ∃ p, after Phone.step .initial revokedBefore = some p ∧ p.AtRest ∧
      p.world.host.system.manager.activeConnection ≠ none ∧
      ∃ s, p.world.host.service = some s ∧ s.foreground = false := by
  have hrun : (after Phone.step .initial revokedBefore).map (fun p =>
      (p.main.isDone, p.binder.isDone, p.world.host.system.manager.activeConnection.isSome,
        p.world.host.service.map ProTunVpnService.foreground)) =
        some (true, true, true, some false) := by
    decide +kernel
  obtain ⟨p, hp, hat⟩ := Option.map_eq_some_iff.mp hrun
  have hsome : p.world.host.system.manager.activeConnection.isSome = true :=
    congrArg (fun x => x.2.2.1) hat
  exact ⟨p, hp, ⟨congrArg Prod.fst hat, congrArg (fun x => x.2.1) hat⟩,
    Option.isSome_iff_ne_none.mp hsome,
    Option.map_eq_some_iff.mp (congrArg (fun x => x.2.2.2) hat)⟩

/-- **After `disconnect`.** In every run in which no `connect` follows a `disconnect` and `onRevoke`
on a binder thread overlaps no turn of the main thread, the app shows that it is disconnected; and
once the service has been given what was sent and both threads are done, no connection is active and
every native thread has ended. -/
theorem after_disconnect (l₁ l₂ : List PhoneEvent) (error : Option VpnDisconnectError) (p : Phone)
    (hrun : after Phone.serialStep .initial (l₁ ++ .world (.disconnect error) :: l₂) = some p)
    (hno : ∀ e ∈ l₂, ∀ config bindService, e ≠ .world (.connect config bindService)) :
    (∃ error, p.world.app.state = ⟨.down none, .disconnected error⟩) ∧
    (p.world.intents = [] → p.AtRest →
      p.world.host.system.manager.activeConnection = none ∧
      ∀ i, (p.world.host.system.natives i).thread = .ended) := by
  have hleaves : p.Reached ∧ p.view.Leaves := by
    obtain ⟨u, hu, hrest⟩ := after_append.mp hrun
    obtain ⟨u', hu', hrest⟩ := after_cons.mp hrest
    have hreached := Phone.reached_of_run hu
    have hstart : u'.view.Leaves :=
      World.leaves_disconnect (hreached.serial.world hreached.value hu').2
    exact after_inv_of_forall (I := fun p => p.Reached ∧ p.view.Leaves) hrest
      ⟨hreached.step hu', hstart⟩ hno
      fun _ _ _ hstep he hp => ⟨hp.1.step hstep, hp.1.leaves hp.2 hstep he⟩
  obtain ⟨l', hl'⟩ := hleaves.1.world
  obtain ⟨hshown, hleft⟩ := hleaves.2.left hl'
  refine ⟨hshown, fun hintents hrest => ?_⟩
  rw [hleaves.1.view_of_rest hrest] at hleft
  exact hleft hintents hleaves.1.serial.idle

/-- The app disconnects: the native thread starts, reads the message and ends. -/
def disconnected : List PhoneEvent :=
  [.world (.deliver ⟨.ok 3, ∅, 0⟩), .main, .main, .main, .main,
   .world (.host (.system (.native 0 .created))), .world (.host (.system (.native 0 .handle))),
   .world (.host (.system (.native 0 .exit))), .main, .main, .main, .main, .main, .main]

theorem after_served_disconnect :
    ∃ p, after Phone.serialStep .initial (served ++ .world (.disconnect none) :: disconnected) =
        some p ∧
      p.world.host.system.manager.connections.length = 1 ∧
      p.world.host.system.manager.activeConnection = none ∧
      ∀ i, (p.world.host.system.natives i).thread = .ended := by
  have hrun : (after Phone.serialStep .initial
      (served ++ .world (.disconnect none) :: disconnected)).map (fun p =>
        (p.world.intents.isEmpty, p.main.isDone, p.binder.isDone,
          p.world.host.system.manager.connections.length)) = some (true, true, true, 1) := by
    decide +kernel
  obtain ⟨p, hp, hat⟩ := Option.map_eq_some_iff.mp hrun
  have hintents : p.world.intents.isEmpty = true := congrArg Prod.fst hat
  have hrest : p.AtRest := ⟨congrArg (fun x => x.2.1) hat, congrArg (fun x => x.2.2.1) hat⟩
  have hone : p.world.host.system.manager.connections.length = 1 :=
    congrArg (fun x => x.2.2.2) hat
  exact ⟨p, hp, hone, (after_disconnect served disconnected none p hp
    (by simp [disconnected])).2 (List.isEmpty_iff.mp hintents) hrest⟩

/-- `onRevoke` looks for a connection before the main thread opens one, and forgets that one
afterwards. -/
def revokedAround : List PhoneEvent :=
  delivered ++ [.main, .onTransact, .binder] ++ [.main, .main, .main, .main] ++
    [.binder, .binder, .binder, .binder]

/-- `disconnect` finds nothing to clear. -/
def disconnectedNothing : List PhoneEvent :=
  [.world (.deliver ⟨.ok 3, ∅, 0⟩), .main, .main, .main, .main, .main, .main, .main]

/-- With overlap a native thread is left after `disconnect`. -/
theorem overlap_loses_connection :
    ∃ p, after Phone.step .initial
        (revokedAround ++ .world (.disconnect none) :: disconnectedNothing) = some p ∧
      p.world.intents = [] ∧ p.AtRest ∧ p.world.host.system.manager.activeConnection = none ∧
      (p.world.host.system.natives 0).thread ≠ .ended := by
  have hrun : (after Phone.step .initial
      (revokedAround ++ .world (.disconnect none) :: disconnectedNothing)).map (fun p =>
        (p.world.intents.isEmpty, p.main.isDone, p.binder.isDone,
          p.world.host.system.manager.activeConnection.isNone,
          (p.world.host.system.natives 0).thread)) = some (true, true, true, true, .building) := by
    decide +kernel
  obtain ⟨p, hp, hat⟩ := Option.map_eq_some_iff.mp hrun
  have hintents : p.world.intents.isEmpty = true := congrArg Prod.fst hat
  have hnone : p.world.host.system.manager.activeConnection.isNone = true :=
    congrArg (fun x => x.2.2.2.1) hat
  have hthread : (p.world.host.system.natives 0).thread = .building :=
    congrArg (fun x => x.2.2.2.2) hat
  exact ⟨p, hp, List.isEmpty_iff.mp hintents,
    ⟨congrArg (fun x => x.2.1) hat, congrArg (fun x => x.2.2.1) hat⟩,
    Option.isNone_iff_eq_none.mp hnone, by simp [hthread]⟩

end Protun.Android
