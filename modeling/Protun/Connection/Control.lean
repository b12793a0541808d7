import Protun.Connection.State
import Protun.Trace.Automaton

/-!
# The order of the connection thread's steps

What another thread can see of the connection thread is when it reads the message channel, when it
waits in `poll` and when it ends. `Phase` is the automaton of these steps: a drain of the channel
(`handle_messages`), work, a wait, and again; a drain that reads `Disconnect` is the last one.

**`phase_exec`**: the observations of every run are a word of the automaton, and a run that has
returned has ended there. So a system in which the connection thread is replaced by the automaton
has every interleaving that the real one has.
-/

namespace Protun

open Trace

/-! ## The automaton -/

/-- Where the connection thread is. -/
inductive Phase where
  /-- On the way to the end of the next drain of the channel. -/
  | draining
  /-- The drain found the channel empty and `poll` has not been entered yet. -/
  | working
  /-- In `poll`. -/
  | waiting
  /-- `Disconnect` was read. -/
  | stopping
  /-- In `on_connection_loop_end`. -/
  | ended
  deriving DecidableEq, Repr

namespace Phase

/-- The next phase, if the thread may make this observation. -/
def next : Phase → Obs → Option Phase
  | .draining, .recv none => some .working
  | .draining, .recv (some message) => some (if message = .disconnect then .stopping else .draining)
  | _, .recv _ => none
  | .working, .polling _ => some .waiting
  | _, .polling _ => none
  | .waiting, .polled _ => some .draining
  | _, .polled _ => none
  | .stopping, .loopEnd => some .ended
  | _, .loopEnd => none
  | p, _ => some p

/-- Whether `should_stop` is set. -/
def stops : Phase → Bool
  | .stopping | .ended => true
  | _ => false

end Phase

/-- Everything but messages, the poll and the end of the loop. -/
def Obs.isCalm : Obs → Bool
  | .recv _ | .polling _ | .polled _ | .loopEnd => false
  | _ => true

theorem Phase.next_of_isCalm (p : Phase) {o : Obs} (ho : o.isCalm = true) : p.next o = some p := by
  cases p <;> cases o <;> first | rfl | cases ho

theorem Obs.isCalm_of_isIo (o : Obs) (h : o.isIo = true) : o.isCalm = true := by
  cases o <;> first | rfl | cases h

theorem Obs.isCalm_of_isAside (o : Obs) (h : o.isAside = true) : o.isCalm = true := by
  cases o <;> first | rfl | cases h

theorem Obs.isCalm_of_isMessageIo (o : Obs) (h : o.isMessageIo = true) : o.isCalm = true := by
  cases o <;> first | rfl | cases h

namespace PvpnConnection

open Conn

variable {E S X F α : Type}

/-! ## Where a run is -/

/-- The phase a run has reached. -/
def phase (l : List (Obs × Sys E S F)) : Option Phase :=
  after Phase.next .draining (l.map Prod.fst)

theorem phase_snoc {l : List (Obs × Sys E S F)} {p p' : Phase} (hl : phase l = some p) {o : Obs}
    (ho : p.next o = some p') (s : Sys E S F) : phase (l ++ [(o, s)]) = some p' := by
  unfold phase at hl ⊢
  rw [List.map_append]
  exact after_snoc.mpr ⟨p, hl, ho⟩

/-- The run is in phase `p`. -/
structure At (p : Phase) (h : Hist (Sys E S F) Obs) : Prop where
  phase : phase h.past = some p
  shouldStop : h.now.conn.shouldStop = p.stops

/-- The observations so far are a word of the automaton. -/
def Follows (h : Hist (Sys E S F) Obs) : Prop := ∃ p, phase h.past = some p

theorem At.follows {p : Phase} {h : Hist (Sys E S F) Obs} (hp : At p h) : Follows h := ⟨p, hp.phase⟩

/-- `should_stop` is as before. -/
def SameStop (c c' : PvpnConnection S F) : Prop := c'.shouldStop = c.shouldStop

instance isPreorder_sameStop : IsPreorder (PvpnConnection S F) SameStop where
  refl _ := rfl
  trans _ _ _ h₁ h₂ := Eq.trans h₂ h₁

/-- Work between two steps of the automaton. -/
abbrev Calm (h h' : Hist (Sys E S F) Obs) : Prop := Step SameStop Obs.isCalm h h'

theorem At.calm {p : Phase} {h h' : Hist (Sys E S F) Obs} (hc : Calm h h') (hp : At p h) :
    At p h' := by
  refine ⟨?_, Eq.trans hc.core hp.shouldStop⟩
  obtain ⟨seg, hseg, hQ⟩ := hc.observed
  have hphase := hp.phase
  unfold PvpnConnection.phase at hphase ⊢
  rw [hseg, List.map_append]
  refine after_append.mpr ⟨p, hphase, after_ignored fun o ho => ?_⟩
  obtain ⟨x, hx, rfl⟩ := List.mem_map.mp ho
  exact p.next_of_isCalm (hQ x hx)

theorem inv_of_calm {p : Phase} {x : Conn E S F α} (hx : Prog.Rel Calm x) : Prog.Inv (At p) x :=
  hx.inv fun _ _ => At.calm

theorem triple_of_calm {p : Phase} {x : Conn E S F α} (hx : Prog.Rel Calm x) :
    Prog.Triple (At p) x (fun _ => At p) Follows :=
  (inv_of_calm hx).triple fun _ => At.follows

/-- A step of the automaton. -/
theorem triple_emit {p : Phase} (p' : Phase) {o : Obs} (ho : p.next o = some p')
    (hs : p'.stops = p.stops) :
    Prog.Triple (At p) (Prog.emit o : Conn E S F Unit) (fun _ => At p') Follows :=
  fun h hp => ⟨phase_snoc hp.phase ho h.now, hp.shouldStop.trans hs.symm⟩

theorem indifferent_sameStop : Indifferent (S := S) (F := F) SameStop where
  aside _ _ h := h.core.shouldStop
  connectionState _ _ := rfl
  peers _ _ := rfl
  localAgentSettings _ _ := rfl
  network _ _ := rfl

variable (d : PvpnDependencies E S X F)

theorem keptByIo_at (p : Phase) : KeptByIo d (At p) :=
  .of_frame (fun _ _ hf => At.calm (hf.mono (fun _ _ h => h.shouldStop) Obs.isCalm_of_isIo))
    (inv_of_calm (step_pullLocalAgent d (fun _ _ _ => rfl) (fun _ => rfl) fun _ _ => rfl))

/-! ## The parts of a round -/

/-- What is left of a drain after it has read a message. -/
def AfterDrain (h : Hist (Sys E S F) Obs) : Prop := At .working h ∨ At .stopping h

theorem triple_receiveMessage :
    Prog.Triple (At .draining) (receiveMessage d)
      (fun b h => if b then At .draining h else AfterDrain h) Follows := by
  -- what the drain is left with once the answer of `try_recv` is known
  have hrecv : Prog.Triple (At .draining) (ask .recv d.tryRecv : Conn E S F _)
      (fun m h => phase h.past = Phase.next .draining (.recv m) ∧ h.now.conn.shouldStop = false)
      Follows := by
    intro h hp
    obtain ⟨p', hp'⟩ : ∃ p', Phase.next .draining (.recv (d.tryRecv h.now.env).1) = some p' := by
      cases (d.tryRecv h.now.env).1 <;> exact ⟨_, rfl⟩
    exact ⟨(phase_snoc hp.phase hp' _).trans hp'.symm, hp.shouldStop⟩
  refine Prog.triple_bind hrecv fun m => ?_
  cases m with
  | none => exact Prog.triple_pure fun h hp => Or.inl ⟨hp.1, hp.2⟩
  | some m =>
    by_cases hm : m = .disconnect
    · subst hm
      refine Prog.triple_bind (R := fun _ => At .stopping) (fun h hp => ⟨hp.1, rfl⟩) fun _ => ?_
      exact Prog.triple_pure fun h hp => Or.inr hp
    · have hcalm : Prog.Rel Calm (handleMessage d m) := by
        refine indifferent_sameStop.handleMessage d Obs.isCalm_of_isMessageIo hm fun u _ => ?_
        refine indifferent_sameStop.handleUpdate d Obs.isCalm_of_isMessageIo (fun tun => ?_) u
        exact step_updateTun d (fun _ _ => rfl) (fun _ _ => rfl) (fun _ _ => rfl) tun
      have hpre : ∀ h : Hist (Sys E S F) Obs,
          phase h.past = Phase.next .draining (.recv (some m)) ∧ h.now.conn.shouldStop = false →
            At .draining h := by
        rintro h ⟨hp, hs⟩
        refine ⟨hp.trans ?_, hs⟩
        simp [Phase.next, hm]
      refine Prog.triple_bind (fun h hp => triple_of_calm hcalm h (hpre h hp)) fun _ => ?_
      exact Prog.triple_pure fun h hp => by simpa [hm] using hp

theorem triple_handleMessages (n : Nat) :
    Prog.Triple (At .draining) (handleMessages d n)
      (fun b h => if b then At .working h else At .stopping h) Follows := by
  refine Prog.triple_bind (Prog.triple_loop (triple_receiveMessage d) (fun _ => At.follows) n)
    fun _ => ?_
  intro h hp
  rcases hp with hp | hp
  · have hs : h.now.conn.shouldStop = false := hp.shouldStop
    simpa [Prog.bind_apply, conn, hs] using hp
  · have hs : h.now.conn.shouldStop = true := hp.shouldStop
    simpa [Prog.bind_apply, conn, hs] using hp

theorem triple_waitForStreams :
    Prog.Triple (At .working) (waitForStreams d) (fun _ => At .draining) Follows := by
  refine Prog.triple_bind (triple_of_calm (step_pollDeadline d)) fun deadline => ?_
  refine Prog.triple_bind (triple_emit .waiting rfl rfl) fun _ => ?_
  refine Prog.triple_bind (triple_of_calm (step_streamsDo (fun _ _ => rfl) _)) fun r => ?_
  refine Prog.triple_bind (triple_emit .draining rfl rfl) fun _ => ?_
  exact Prog.triple_pure fun _ h => h

theorem triple_iteration (n : Nat) :
    Prog.Triple (At .draining) (iteration d n)
      (fun b h => if b then At .draining h else At .stopping h) Follows := by
  refine Prog.triple_bind (triple_handleMessages d n) fun goOn => ?_
  cases goOn with
  | false => exact Prog.triple_pure fun _ h => h
  | true =>
    have hupdate : Prog.Rel Calm (updateState d) :=
      step_updateState d (fun _ _ _ => rfl) (fun _ _ => rfl) (fun _ _ _ => rfl) (fun _ => rfl)
        (fun _ => rfl) fun _ => rfl
    refine Prog.triple_bind (triple_of_calm (step_query _)) fun _ => ?_
    have hpull := inv_pullFromClient (keptByIo_at d .working).pull (keptByIo_at d .working).agent n
    refine Prog.triple_bind (hpull.triple fun _ => At.follows) fun _ => ?_
    refine Prog.triple_bind (triple_of_calm hupdate) fun _ => ?_
    refine Prog.triple_bind (R := fun _ => At .draining) ?_ fun _ => Prog.triple_pure fun _ h => h
    refine Prog.triple_bind (triple_waitForStreams d) fun results => ?_
    refine Prog.triple_bind (((keptByIo_at d .draining).of_aside (aside_onResumed d)).triple
      fun _ => At.follows) fun _ => ?_
    cases results with
    | error e => exact Prog.triple_pure fun _ h => h
    | ok results =>
      have hpoll := (keptByIo_at d .draining).keptByRounds.handlePollResults n results
      exact hpoll.triple fun _ => At.follows

theorem triple_onConnectionLoopEnd :
    Prog.Triple (At .stopping) (onConnectionLoopEnd d) (fun _ => At .ended) Follows := by
  refine Prog.triple_bind (triple_emit .ended rfl rfl) fun _ => triple_of_calm ?_
  refine Prog.rel_bind step_conn fun c => ?_
  refine Prog.rel_bind (Prog.rel_when fun _ => ?_) fun _ => Prog.rel_bind step_conn fun c => ?_
  · exact indifferent_sameStop.of_aside Obs.isCalm_of_isAside (aside_stopPacketCapture d _)
  split
  · exact Prog.rel_pure ()
  · exact indifferent_sameStop.setState d Obs.isCalm_of_isMessageIo _

/-- **Every run is a word of the automaton**, and a run that has returned has ended. -/
theorem phase_exec (cfg : InitialConfig) (streams : S) (env : E) (n : Nat) :
    Follows (exec d cfg streams env n).2 ∧
      ((exec d cfg streams env n).1 = some () →
        phase (exec d cfg streams env n).2.past = some .ended) := by
  have hnew : Prog.Rel Calm (new d cfg) := indifferent_sameStop.new d Obs.isCalm_of_isMessageIo cfg
  have hrun : Prog.Triple (At .draining) (run d n) (fun _ => At .ended) Follows :=
    Prog.triple_bind (Prog.triple_loop (triple_iteration d n) (fun _ => At.follows) n)
      fun _ => triple_onConnectionLoopEnd d
  have hexec : Prog.Triple (At .draining) (do new d cfg; run d n : Conn E S F Unit)
      (fun _ => At .ended) Follows :=
    Prog.triple_bind (triple_of_calm hnew) fun _ => hrun
  have hinit : At .draining (Hist.init ⟨env, initial d cfg streams⟩ : Hist (Sys E S F) Obs) :=
    ⟨rfl, rfl⟩
  exact ⟨hexec.leaves (fun _ _ => At.follows) hinit, fun hr => (hexec.returned hinit hr).phase⟩

end PvpnConnection

end Protun
