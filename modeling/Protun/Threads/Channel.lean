import Protun.Threads.Model

/-!
# Sending to a connection that may be gone

`send_msg` unwraps the answer of `message_sender.send`, so a call of the API panics when the
connection thread has dropped the receiver. A caller that makes no call after its first
`disconnect` or `disconnect_and_wait` (`StopsAtDisconnect`) never meets a receiver that was dropped
because the loop ended: the loop ends only after it has read `Disconnect`. But the thread also ends
when `create_pvpn_dependencies` fails, which it only logs.

* **`no_send_panics_iff`**: no interleaving makes a call panic iff there is no call, or the
  process aborts before (on Unix, the streams could not be opened), or the streams could be opened
  and everything the mode needs could be parsed (`Acceptable`).
* `unreadable_key_panics`: a cached private key that cannot be parsed, and one call.
-/

namespace Protun.Threads

open Trace

variable {K C A P L D : Type}

/-- No call is made after the first `disconnect` or `disconnect_and_wait`. -/
def StopsAtDisconnect (calls : List ApiCall) : Prop :=
  ∀ before call rest, calls = before ++ call :: rest → call.isDisconnect = true → rest = []

theorem StopsAtDisconnect.tail {call : ApiCall} {calls : List ApiCall}
    (h : StopsAtDisconnect (call :: calls)) : StopsAtDisconnect calls :=
  fun before c rest heq => h (call :: before) c rest (by rw [heq]; rfl)

/-- The loop is over: `Disconnect` has been read. -/
def Thread.isOver : Thread → Bool
  | .running p => p.stops
  | .exited => true
  | _ => false

/-- What holds of a single caller whose connection is not given up: `Disconnect` is on its way, or
read, only if the caller has no more calls to make. -/
structure Connected (s : State Unit) : Prop where
  notPanicked : (s.callers ()).pc ≠ .panicked
  stops : StopsAtDisconnect (s.callers ()).todo
  done : .disconnect ∈ s.queue ∨ s.thread.isOver = true → (s.callers ()).todo = []

/-- Only reading `Disconnect` makes an end. -/
theorem stops_of_next {p p' : Phase} {o : Obs} (h : p.next o = some p') (hs : p'.stops = true) :
    p.stops = true ∨ o = .recv (some .disconnect) := by
  cases p with
  | stopping | ended => exact Or.inl rfl
  | working | waiting => cases o <;> cases h <;> cases hs
  | draining =>
    cases o with
    | recv m =>
      cases m with
      | none => cases h; cases hs
      | some m =>
        by_cases hm : m = .disconnect
        · exact Or.inr (by rw [hm])
        · rw [Phase.next, if_neg hm] at h
          cases h
          cases hs
    | _ => cases h <;> cases hs

/-- A step of the connection thread. -/
theorem Connected.advance {s : State Unit} (hI : Connected s) (b : Bool) {queue : List PvpnMessage}
    {thread : Thread} (hqueue : queue ⊆ s.queue)
    (hover : thread.isOver = true → .disconnect ∈ s.queue ∨ s.thread.isOver = true) :
    Connected { s with queue := queue, signalled := b, thread := thread } where
  notPanicked := hI.notPanicked
  stops := hI.stops
  done
    | .inl hmem => hI.done (Or.inl (hqueue hmem))
    | .inr h => hI.done (hover h)

/-- A step of the caller that sends nothing. -/
theorem Connected.wait {s : State Unit} (hI : Connected s) {t : Unit} {todo : List ApiCall}
    {pc : CallerPc} (b : Bool) (htodo : (s.callers t).todo = todo) (hpc : pc ≠ .panicked) :
    Connected { s with signalled := b, callers := Function.update s.callers t ⟨todo, pc⟩ } where
  notPanicked := by simpa using hpc
  stops := by simpa [← htodo] using hI.stops
  done h := by simpa [← htodo] using hI.done h

/-- A step of the loop: it is over only after it has read `Disconnect`. -/
theorem Connected.advance_next {s : State Unit} (hI : Connected s) (b : Bool)
    {queue : List PvpnMessage} {p p' : Phase} {o : Obs} (hqueue : queue ⊆ s.queue)
    (hthread : s.thread = .running p) (hnext : p.next o = some p')
    (hread : o = .recv (some .disconnect) → .disconnect ∈ s.queue) :
    Connected { s with queue := queue, signalled := b, thread := .running p' } := by
  refine hI.advance b hqueue fun h => ?_
  rcases stops_of_next hnext h with hp | hm
  · exact Or.inr (by rw [hthread]; exact hp)
  · exact Or.inl (hread hm)

/-- The caller sends: there was a call to make, so no `Disconnect` was under way. -/
theorem Connected.send {s : State Unit} (hI : Connected s) {t : Unit} {call : ApiCall}
    {todo : List ApiCall} (hcaller : s.callers t = ⟨call :: todo, .ready⟩) :
    Connected { s with
      queue := s.queue ++ [call.message]
      callers := Function.update s.callers t ⟨todo, .waking call⟩ } := by
  have hnone : ¬ (.disconnect ∈ s.queue ∨ s.thread.isOver = true) := by
    intro hover
    have hdone := hI.done hover
    rw [hcaller] at hdone
    cases hdone
  have hstops := hI.stops
  rw [hcaller] at hstops
  refine ⟨by simp, by simpa using hstops.tail, ?_⟩
  rintro (hmem | hover)
  · rcases List.mem_append.mp hmem with hmem | hmem
    · exact absurd (Or.inl hmem) hnone
    · have hcall : call.isDisconnect = true := by
        simpa [ApiCall.isDisconnect] using (List.mem_singleton.mp hmem).symm
      simpa using hstops [] call todo rfl hcall
  · exact absurd (Or.inr hover) hnone

theorem Connected.step {waker : Waker} {created : Creation D L} (hc : ∀ e, created ≠ .err e)
    {s s' : State Unit} {e : Event Unit} (h : Step waker created s e s') (hI : Connected s) :
    Connected s' := by
  cases h with
  | send hcaller halive => exact hI.send hcaller
  | @sendPanics t call todo hcaller hdropped =>
    have hdone := hI.done (Or.inr (by rw [hdropped]; rfl))
    rw [hcaller] at hdone
    cases hdone
  | @wake t call todo hcaller halive =>
    refine hI.wait true (by rw [hcaller]) ?_
    unfold pcAfterWake
    split <;> simp
  | @join t todo hcaller hexited => exact hI.wait _ (by rw [hcaller]) (by simp)
  | created hbuilding hok => exact hI.advance _ (List.Subset.refl _) fun h => by cases h
  | failed hbuilding herr => exact absurd herr (hc _)
  | aborts hbuilding hpanic => exact hI.advance _ (List.Subset.refl _) fun h => by cases h
  | recv hthread hqueue hnext =>
    refine hI.advance_next _ (by simp [hqueue]) hthread hnext fun hm => ?_
    cases hm
    simp [hqueue]
  | drained hthread hqueue hnext =>
    exact hI.advance_next _ (List.Subset.refl _) hthread hnext fun hm => by cases hm
  | plain hthread hplain hnext =>
    refine hI.advance_next _ (List.Subset.refl _) hthread hnext fun hm => ?_
    subst hm
    cases hplain
  | polled hthread hnext =>
    cases hnext
    exact hI.advance _ (List.Subset.refl _) fun h => by cases h
  | exit hthread => exact hI.advance _ (List.Subset.refl _) fun _ => Or.inr (by rw [hthread]; rfl)
  | wokenMio | wokenWindows | resumed | reset =>
    exact hI.advance _ (List.Subset.refl _) fun h => by cases h

/-- A caller without calls stays without calls. -/
theorem idle_step {waker : Waker} {created : Creation D L} {s s' : State Unit} {e : Event Unit}
    (h : Step waker created s e s') (hI : s.callers () = ⟨[], .ready⟩) :
    s'.callers () = ⟨[], .ready⟩ := by
  cases h with
  | send hcaller | sendPanics hcaller | wake hcaller | join hcaller =>
    rw [hI] at hcaller
    cases hcaller
  | _ => exact hI

/-- The waker that goes with the streams. -/
def wakerOf : Opening D → Waker
  | .mio _ => .mio
  | .windows _ => .windows

/-- **When a call of the API can panic.** On both platforms and for every caller that makes no call
after its first disconnect: no interleaving of its calls with the connection thread makes a call
panic iff there is no call, or the process is aborted because the streams of Unix cannot be opened,
or the streams can be opened and everything the mode needs can be parsed. -/
theorem no_send_panics_iff (lib : ClientLibrary K C A P L) (opening : Opening D)
    (mode : ConnectionMode) (cache : CacheKey → Option Bytes) (calls : List ApiCall)
    (hcalls : StopsAtDisconnect calls) :
    (∀ events s, Run (Step (wakerOf opening) (createPvpnDependencies lib mode cache opening))
        (State.initial fun _ : Unit => calls) events s → (s.callers ()).pc ≠ .panicked) ↔
      calls = [] ∨ opening.Aborts ∨ opening.Succeeds ∧ Acceptable lib cache mode := by
  constructor
  · intro h
    by_contra hnot
    simp only [not_or] at hnot
    obtain ⟨hne, hstreams⟩ := hnot
    obtain ⟨call, todo, rfl⟩ := List.exists_cons_of_ne_nil hne
    obtain ⟨e, herr⟩ := (createPvpnDependencies_err lib mode cache opening).mpr hstreams
    -- the thread gives up, and then the call is made
    exact h [.build, .send () call] _
      (.cons (.failed rfl herr) (.cons (.sendPanics rfl rfl) (.nil _))) (by simp)
  · rintro h events s hrun
    rcases h with rfl | h
    · have hidle := hrun.inv (I := fun s => s.callers () = ⟨[], .ready⟩) rfl
        fun _ _ _ => idle_step
      rw [hidle]
      simp
    · have hcreated : ∀ e, createPvpnDependencies lib mode cache opening ≠ .err e := by
        intro e he
        obtain ⟨haborts, hnot⟩ := (createPvpnDependencies_err lib mode cache opening).mp ⟨e, he⟩
        exact h.elim haborts hnot
      have hinit : Connected (State.initial fun _ : Unit => calls) :=
        ⟨by simp [State.initial], hcalls, fun h => by simp [State.initial, Thread.isOver] at h⟩
      exact (hrun.inv hinit fun _ _ _ => Connected.step hcreated).notPanicked

/-! ## A cached key that cannot be parsed -/

/-- A parser that wants its data to start with a dash. -/
def pem (data : Bytes) : Except String Unit :=
  if data.head? = some 45 then .ok () else .error "MalformedPem"

def pemLibrary : ClientLibrary Unit Unit Unit Unit Unit where
  privateKeyFromPem := pem
  certificateFromPem := pem
  muonAuthTryFrom := pem
  newApp _ := .ok ()
  withUserAgent app _ := app
  withLocalAgent _ _ _ _ := ()
  withWgPrivateKey _ := ()

/-- A cache that holds only a private key. -/
def keyCache (key : Bytes) : CacheKey → Option Bytes
  | .privateKey => some key
  | _ => none

/-- How the dependencies are created on Unix in local-agent mode with that cache. -/
def creationWithKey (key : Bytes) : Creation Unit Unit :=
  createPvpnDependencies pemLibrary (.localAgent "agent" "app@1" {}) (keyCache key) (.mio (.ok ()))

theorem stopsAtDisconnect_statsThenDisconnect : StopsAtDisconnect [.requestStats, .disconnect] := by
  intro before call rest heq hcall
  rcases before with _ | ⟨c, before⟩
  · cases heq
    cases hcall
  · rcases before with _ | ⟨c', before⟩
    · cases heq
      rfl
    · simp at heq

/-- With a key that can be parsed no interleaving panics. -/
theorem readable_key_no_panic :
    StopsAtDisconnect [.requestStats, .disconnect] ∧
      ∀ events s, Run (Step .mio (creationWithKey [45]))
        (State.initial fun _ : Unit => [.requestStats, .disconnect]) events s →
          (s.callers ()).pc ≠ .panicked := by
  have hstops := stopsAtDisconnect_statsThenDisconnect
  refine ⟨hstops, (no_send_panics_iff pemLibrary (.mio (.ok ())) (.localAgent "agent" "app@1" {})
    (keyCache [45]) _ hstops).mpr ?_⟩
  refine Or.inr (Or.inr ⟨⟨(), .inl rfl⟩, ?_, by simp [Readable, keyCache],
    by simp [Readable, keyCache], (), rfl⟩)
  rintro data ⟨⟩
  exact ⟨(), rfl⟩

/-- With one that cannot, `request_stats` panics once the thread has given up. -/
theorem unreadable_key_panics :
    StopsAtDisconnect [.requestStats, .disconnect] ∧
      ∃ events s, Run (Step .mio (creationWithKey [0]))
        (State.initial fun _ : Unit => [.requestStats, .disconnect]) events s ∧
          (s.callers ()).pc = .panicked :=
  ⟨stopsAtDisconnect_statsThenDisconnect, [.build, .send () .requestStats], _,
    .cons (.failed rfl rfl) (.cons (.sendPanics rfl rfl) (.nil _)), rfl⟩

end Protun.Threads
