import Protun.Threads.Model

/-!
# No message waits for a poll that nobody ends

The race between `send_msg` (send, then wake) and the loop (drain, work, wait). Signals coalesce,
and on Windows the reset after a wait may erase the signal of a second caller. This is safe since a
caller sends before it wakes and the loop resets before it drains.

* `WakeupPending`: from the end of a drain that found the channel empty to the return of the next
  wait, a message in the channel is announced, or its sender is about to announce it.
* **`no_lost_wakeup`**: it holds in every state of every interleaving; a wait that finds a message
  in the channel can be ended by the waker, or a caller is about to wake it; and between a poll that
  consumes a signal and the next wait the channel is found empty.
-/

namespace Protun.Threads

open Trace

variable {T D L : Type} [DecidableEq T]

/-- The thread is between the end of a drain and the return of the next wait. -/
def Thread.isCommitted : Thread → Bool
  | .running .working | .running .waiting => true
  | _ => false

/-- Some caller has sent a message and not woken the poll yet. -/
def State.SomeoneWaking (s : State T) : Prop := ∃ t call, (s.callers t).pc = .waking call

/-- A message that the thread is not going to look for is announced, or about to be. -/
def WakeupPending (s : State T) : Prop :=
  s.thread.isCommitted = true → s.queue ≠ [] → s.signalled = true ∨ s.SomeoneWaking

/-- The thread commits itself to a wait only by finding the channel empty. -/
theorem committed_of_next {p p' : Phase} {o : Obs} (h : p.next o = some p')
    (hc : (Thread.running p').isCommitted = true) :
    (Thread.running p).isCommitted = true ∨ o = .recv none := by
  cases p with
  | working | waiting => exact Or.inl rfl
  | stopping | ended => cases o <;> cases h <;> cases hc
  | draining =>
    cases o with
    | recv m =>
      cases m with
      | none => exact Or.inr rfl
      | some m =>
        rw [Phase.next] at h
        split at h <;> cases h <;> cases hc
    | _ => cases h <;> cases hc

theorem WakeupPending.step {waker : Waker} {created : Creation D L} {s s' : State T} {e : Event T}
    (h : Step waker created s e s') (hI : WakeupPending s) : WakeupPending s' := by
  intro hc hq
  cases h with
  | @send t call todo hcaller halive => exact Or.inr ⟨t, call, by simp⟩
  | @sendPanics t call todo hcaller hdropped =>
    rw [hdropped] at hc
    cases hc
  | @wake t call todo hcaller halive => exact Or.inl rfl
  | @join t todo hcaller hexited =>
    rw [hexited] at hc
    cases hc
  | created | failed | aborts => cases hc
  | @recv m queue p p' hthread hqueue hnext =>
    rcases committed_of_next hnext hc with hp | hm
    · exact hI (by rw [hthread]; exact hp) (by simp [hqueue])
    · cases hm
  | @drained p p' hthread hqueue hnext => exact absurd hqueue hq
  | @plain o p p' hthread hplain hnext =>
    rcases committed_of_next hnext hc with hp | rfl
    · exact hI (by rw [hthread]; exact hp) hq
    · cases hplain
  | polled hthread hnext =>
    cases hnext
    cases hc
  | wokenMio | wokenWindows | resumed | reset | exit => cases hc

/-- The step consumes the signal: on `mio` the event that reports it, on Windows the reset. -/
def Event.consumes (waker : Waker) : Event T → Bool
  | .woken => waker = .mio
  | .reset => true
  | _ => false

/-- After a signal is consumed the thread is not committed to a wait. -/
theorem not_committed_of_consumes {waker : Waker} {created : Creation D L} {s s' : State T}
    {e : Event T} (h : Step waker created s e s') (he : e.consumes waker = true) :
    s'.thread.isCommitted = false := by
  cases h with
  | wokenMio | reset => rfl
  | wokenWindows hwindows =>
    subst hwindows
    cases he
  | _ => cases he

/-- A wait begins only when the thread is committed to it. -/
theorem committed_of_polling {waker : Waker} {created : Creation D L} {s s' : State T}
    {deadline : Option Duration} (h : Step waker created s (.thread (.polling deadline)) s') :
    s.thread.isCommitted = true := by
  cases h with
  | @plain o p p' hthread hplain hnext =>
    rw [hthread]
    cases p <;> first | rfl | cases hnext

/-- Only a drain commits the thread to a wait. -/
theorem drained_of_committing {waker : Waker} {created : Creation D L} {s s' : State T}
    {e : Event T} (h : Step waker created s e s') (hs : s.thread.isCommitted = false)
    (hs' : s'.thread.isCommitted = true) : e = .thread (.recv none) := by
  cases h with
  | @recv m queue p p' hthread hqueue hnext =>
    rw [hthread] at hs
    rcases committed_of_next hnext hs' with hp | hm
    · rw [hs] at hp
      cases hp
    · cases hm
  | drained => rfl
  | @plain o p p' hthread hplain hnext =>
    rw [hthread] at hs
    rcases committed_of_next hnext hs' with hp | rfl
    · rw [hs] at hp
      cases hp
    · cases hplain
  | polled hthread hnext =>
    cases hnext
    cases hs'
  | send | wake => exact absurd hs' (by simp [hs])
  | sendPanics | join => exact absurd hs' (by simp [hs])
  | _ => cases hs'

/-- Between a poll that consumes a signal and the next wait the channel is found empty. -/
theorem drained_between {waker : Waker} {created : Creation D L} {s s' : State T} {e : Event T}
    {b c : List (Event T)} {deadline : Option Duration} (he : e.consumes waker = true)
    (h : Run (Step waker created) s (e :: (b ++ .thread (.polling deadline) :: c)) s') :
    .thread (.recv none) ∈ b := by
  cases h with
  | cons head tail =>
    obtain ⟨u, hb, hc⟩ := tail.split
    cases hc with
    | cons polling rest =>
      obtain ⟨x, hx, v, v', hstep, hv, hv'⟩ := hb.crossing
        (I := fun s => s.thread.isCommitted = false) (not_committed_of_consumes head he)
        (by simp [committed_of_polling polling])
      rw [← drained_of_committing hstep hv (by simpa using hv')]
      exact hx

/-- A wait with a message in the channel is ended by the waker, or by a caller that is about to
wake. -/
theorem wakeup_enabled {waker : Waker} {created : Creation D L} {s : State T}
    (hI : WakeupPending s) (hthread : s.thread = .running .waiting) (hq : s.queue ≠ []) :
    (∃ s', Step waker created s .woken s') ∨ ∃ t s', Step waker created s (.wake t) s' := by
  rcases hI (by rw [hthread]; rfl) hq with hsig | ⟨t, call, hpc⟩
  · cases hw : waker with
    | mio => exact Or.inl ⟨_, .wokenMio rfl hthread hsig⟩
    | windows => exact Or.inl ⟨_, .wokenWindows rfl hthread hsig⟩
  · cases hcaller : s.callers t with
    | mk todo pc =>
      rw [hcaller] at hpc
      cases hpc
      exact Or.inr ⟨t, _, .wake hcaller (by simp [hthread])⟩

/-- **No wake-up is lost.** In every state that any interleaving of any callers with the loop
reaches: from the end of a drain that found the channel empty to the return of the next wait, a
message in the channel is announced or its sender is about to announce it, so a wait with a message
in the channel can be ended; and between every poll that consumes a signal and the next wait the
channel is found empty. -/
theorem no_lost_wakeup (waker : Waker) (created : Creation D L) (calls : T → List ApiCall)
    {events : List (Event T)} {s : State T}
    (hrun : Run (Step waker created) (State.initial calls) events s) :
    WakeupPending s ∧
      (s.thread = .running .waiting → s.queue ≠ [] →
        (∃ s', Step waker created s .woken s') ∨ ∃ t s', Step waker created s (.wake t) s') ∧
      ∀ a e b deadline c, events = a ++ e :: (b ++ .thread (.polling deadline) :: c) →
        e.consumes waker = true → .thread (.recv none) ∈ b := by
  have hI : WakeupPending s :=
    hrun.inv (fun hc => by cases hc) fun _ _ _ => WakeupPending.step
  refine ⟨hI, wakeup_enabled hI, ?_⟩
  rintro a e b deadline c rfl he
  obtain ⟨u, -, htail⟩ := hrun.split
  exact drained_between he htail

/-- On Windows the signal of a second caller is erased by the reset that answers the first. -/
def erasedSignal : List (Event Bool) :=
  [.build, .thread (.recv none), .thread (.polling none),
    .send false .requestStats, .wake false, .woken, .send true .stopPacketCapture, .wake true,
    .reset, .thread (.polled (.ok [])),
    .thread (.recv (some .requestStats)), .thread (.recv (some .stopPacketCapture)),
    .thread (.recv none), .thread (.polling none)]

/-- Its message is read all the same. -/
theorem erasedSignal_drained :
    ∃ s, Run (Step .windows (Creation.ok () ()))
        (State.initial fun t : Bool => if t then [.stopPacketCapture] else [.requestStats])
        erasedSignal s ∧
      s.signalled = false ∧ WakeupPending s := by
  have hrun : Run (Step .windows (Creation.ok () ()))
      (State.initial fun t : Bool => if t then [.stopPacketCapture] else [.requestStats])
      erasedSignal _ :=
    .cons (.created rfl rfl) <| .cons (.drained rfl rfl rfl) <| .cons (.plain rfl rfl rfl) <|
      .cons (.send rfl rfl) <| .cons (.wake rfl (by simp)) <|
      .cons (.wokenWindows rfl rfl rfl) <| .cons (.send rfl rfl) <| .cons (.wake rfl (by simp)) <|
      .cons (.reset rfl) <| .cons (.polled rfl rfl) <|
      .cons (.recv rfl rfl rfl) <| .cons (.recv rfl rfl rfl) <| .cons (.drained rfl rfl rfl) <|
      .cons (.plain rfl rfl rfl) <| .nil _
  exact ⟨_, hrun, rfl, (no_lost_wakeup .windows (Creation.ok () ()) _ hrun).1⟩

end Protun.Threads
