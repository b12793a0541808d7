import Protun.Connection.Invariant
import Protun.Connection.Letters

/-!
# Runs that stop inside a call

A write may never return (`write_loops_spin`), and then the run ends in the middle of an action.
What holds between actions does not hold there: the client has handed out data that no stream has
taken. `KeptOrStalled d I N` is the counterpart of `Kept d I` for an invariant `I` of that kind. A
function that returns restores `I`; one that does not return leaves `N`, which says what is known of
such a run.

* `KeptOrStalled.run`: then so does the loop, however long it runs.
* `Prog.Triple.assuming`: a triple may assume something of the whole history, like what the client
  has handed out, if it is the case of every shorter one as well.
-/

namespace Protun

open Trace

/-! ## Assumptions on the whole history -/

namespace Trace

variable {σ ο α : Type}

/-- `P`, if the past satisfies `C`. -/
def Assuming (C : List (ο × σ) → Prop) (P : Hist σ ο → Prop) (h : Hist σ ο) : Prop :=
  C h.past → P h

/-- A past satisfies `C` only if every shorter one does. -/
def Inherited (C : List (ο × σ) → Prop) : Prop := ∀ l seg, C (l ++ seg) → C l

variable {C : List (ο × σ) → Prop} {P N : Hist σ ο → Prop} {Q : α → Hist σ ο → Prop}

theorem Inherited.of_extends (hC : Inherited C) {R : ο → σ → Prop} {h h' : Hist σ ο}
    (hext : Extends R h h') (hC' : C h'.past) : C h.past := by
  obtain ⟨seg, hseg, -⟩ := hext
  exact hC h.past seg (hseg ▸ hC')

theorem Prog.Triple.assuming (hC : Inherited C) {x : Prog σ ο α} (hx : Prog.Triple P x Q N)
    {R : ο → σ → Prop} (hext : Prog.Rel (Extends R) x) :
    Prog.Triple (Assuming C P) x (fun a => Assuming C (Q a)) (Assuming C N) := by
  intro h hP
  have hpast := hext h
  have hxh := hx h
  cases hr : x h with
  | mk r h' =>
    rw [hr] at hpast hxh
    cases r with
    | none => exact fun hC' => hxh (hP (hC.of_extends hpast hC'))
    | some a => exact fun hC' => hxh (hP (hC.of_extends hpast hC'))

end Trace

namespace PvpnConnection

open Conn

variable {E S X F α : Type}

/-- What is made of letters only adds to the past. -/
theorem extends_of_letters {d : PvpnDependencies E S X F} {x : Conn E S F α}
    (hx : Prog.Rel (Letters d) x) : Prog.Rel (Extends fun _ _ => True) x := by
  intro h
  have hw := hx h
  generalize (x h).2 = h' at hw
  induction hw with
  | refl => exact refl_of (Extends _) h
  | tail _ hstep ih =>
    refine trans_of (Extends _) ih ?_
    cases hstep with
    | assign | query | streams | stream => exact extends_set _ _
    | mark | ask | inform => exact ⟨_, rfl, fun _ _ => trivial⟩

/-! ## The rule of the loop -/

section Loop

variable (d : PvpnDependencies E S X F)

/-- What has to be checked of an invariant `I` of the loop that a call that does not return may
break. -/
structure KeptOrStalled (I N : Hist (Sys E S F) Obs → Prop) : Prop where
  stalled : ∀ h, I h → N h
  aside : ∀ h h', Aside h h' → I h → I h'
  pull : Prog.Triple I (pullAction d) (fun _ => I) N
  read : ∀ streamId stream h, d.streams.getStream h.now.conn.streams streamId = some stream →
    I h → I (readInto d streamId stream h).2
  write : ∀ streamId,
    Prog.Triple I (writeStream d streamId d.streams.writeFromBuffer) (fun _ => I) N
  agent : Prog.Inv I (pullLocalAgent d)
  wait : Prog.Inv I (waitForStreams d)
  receive : Prog.Inv I (receiveMessage d)
  updateState : Prog.Inv I (updateState d)
  loopEnd : Prog.Inv I (onConnectionLoopEnd d)

namespace KeptOrStalled

variable {d} {I N : Hist (Sys E S F) Obs → Prop} (hk : KeptOrStalled d I N)
include hk

theorem of_inv {x : Conn E S F α} (hx : Prog.Inv I x) : Prog.Triple I x (fun _ => I) N :=
  hx.triple hk.stalled

theorem of_aside {x : Conn E S F α} (hx : Prog.Rel Aside x) : Prog.Triple I x (fun _ => I) N :=
  hk.of_inv (hx.inv hk.aside)

theorem pullFromClient (n : Nat) : Prog.Triple I (pullFromClient d n) (fun _ => I) N := by
  refine Prog.triple_bind (Prog.triple_loop_self hk.pull hk.stalled n) fun _ => ?_
  refine Prog.triple_bind (hk.of_inv inv_conn) fun c => Prog.triple_when fun _ => ?_
  exact hk.of_inv (Prog.inv_loop hk.agent n)

theorem handleReadResult (n : Nat) (streamId : StreamId) (res : StreamResult) :
    Prog.Triple I (handleReadResult d n streamId res) (fun _ => I) N := by
  have hdone : ∀ again, Prog.Triple I (pure again : Conn E S F Bool) (fun _ => I) N :=
    fun again => hk.of_inv (Prog.inv_pure again)
  cases res with
  | ok bytesRead startOffset wouldBlock pendingWrite =>
    refine Prog.triple_bind (hk.of_inv inv_conn) fun c => ?_
    refine Prog.triple_bind (Prog.triple_when fun _ => ?_) fun _ => hdone _
    exact Prog.triple_bind (hk.of_aside (aside_pushRead d _ _ _)) fun _ => hk.pullFromClient n
  | err e =>
    exact Prog.triple_bind (hk.of_aside (aside_handleStreamError d _ e)) fun _ => hdone _
  | streamClosed =>
    exact Prog.triple_bind (hk.of_aside (step_inform rfl _)) fun _ => hdone _

theorem readStream (n : Nat) (streamId : StreamId) :
    Prog.Triple I (readStream d n streamId) (fun _ => I) N := by
  refine triple_conn_bind fun c => ?_
  cases hg : d.streams.getStream c.streams streamId with
  | none => exact Prog.triple_pure fun _ h => h.1
  | some stream =>
    have hread : Prog.Triple (fun h => I h ∧ h.now.conn = c) (readInto d streamId stream)
        (fun _ => I) N := by
      refine Prog.triple_of_leaves (fun h hh => ?_) hk.stalled
      exact hk.read streamId stream h (hh.2 ▸ hg) hh.1
    refine Prog.triple_bind hread fun res => ?_
    refine Prog.triple_bind (hk.of_aside (step_noteTunResult d (fun _ _ => ⟨rfl, rfl⟩) streamId
      res)) fun _ => ?_
    exact hk.handleReadResult n streamId res

theorem readRound (n : Nat) (streamIds : List StreamId) :
    Prog.Triple I (readRound d n streamIds) (fun _ => I) N := by
  induction streamIds with
  | nil => exact hk.of_inv (Prog.inv_pure [])
  | cons streamId streamIds ih =>
    refine Prog.triple_bind (hk.readStream n streamId) fun _ => Prog.triple_bind ih fun _ => ?_
    exact hk.of_inv (Prog.inv_pure _)

theorem readRounds (n fuel : Nat) (streamIds : List StreamId) :
    Prog.Triple I (readRounds d n fuel streamIds) (fun _ => I) N := by
  induction fuel generalizing streamIds with
  | zero =>
    cases streamIds with
    | nil => exact hk.of_inv (Prog.inv_pure ())
    | cons streamId streamIds => exact hk.stalled
  | succ fuel ih =>
    cases streamIds with
    | nil => exact hk.of_inv (Prog.inv_pure ())
    | cons streamId streamIds => exact Prog.triple_bind (hk.readRound n _) fun next => ih next

theorem pollFromStreams (n : Nat) : Prog.Triple I (pollFromStreams d n) (fun _ => I) N := by
  refine Prog.triple_bind (hk.of_inv hk.wait) fun results => ?_
  refine Prog.triple_bind (hk.of_aside (aside_onResumed d)) fun _ => ?_
  cases results with
  | error e => exact hk.of_inv (Prog.inv_pure ())
  | ok results =>
    refine Prog.triple_bind (Prog.triple_forEach (fun res => ?_) results) fun _ =>
      hk.readRounds n n _
    exact Prog.triple_when fun _ => hk.write res.streamId

theorem iteration (n : Nat) : Prog.Triple I (iteration d n) (fun _ => I) N := by
  have hmessages : Prog.Inv I (handleMessages d n) :=
    Prog.inv_bind (Prog.inv_loop hk.receive n) fun _ => Prog.inv_bind inv_conn fun _ =>
      Prog.inv_pure _
  refine Prog.triple_bind (hk.of_inv hmessages) fun goOn => ?_
  cases goOn with
  | false => exact hk.of_inv (Prog.inv_pure false)
  | true =>
    refine Prog.triple_bind (hk.of_aside (step_query _)) fun _ => ?_
    refine Prog.triple_bind (hk.pullFromClient n) fun _ => ?_
    refine Prog.triple_bind (hk.of_inv hk.updateState) fun _ => ?_
    exact Prog.triple_bind (hk.pollFromStreams n) fun _ => hk.of_inv (Prog.inv_pure true)

/-- **A loop whose parts restore `I` or leave `N` restores `I` or leaves `N`.** -/
theorem run (n : Nat) : Prog.Triple I (run d n) (fun _ => I) N :=
  Prog.triple_bind (Prog.triple_loop_self (hk.iteration n) hk.stalled n) fun _ =>
    hk.of_inv hk.loopEnd

end KeptOrStalled

end Loop

end PvpnConnection

end Protun
