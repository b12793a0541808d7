import Protun.Connection.Script
import Protun.Connection.State

/-!
# What is read and what the client gets of it

`read_from_streams` hands what a stream returns to the client, as long as the network is available.
Two ledgers of a run are compared, stream by stream: the bytes its reads returned (`returned`) and
the bytes pushed to the client as `Action::read` (`pushed`).

* `pushed_eq_accepted`: in every run the client gets, in order, what was read while the network was
  available, and nothing else.
* `pushed_eq_returned_iff`: so it gets everything that was read iff no bytes were read while the
  network was unavailable. This is the same for every stream, the TUN device and the sockets.
* `socket_bytes_dropped`: a run in which a socket's bytes are lost.

The invariants here and those of the writes look at the observations alone. Everything but the
streams leaves them alone, whatever it does to the connection (`keptByLoop_of_offStream`).
-/

namespace Protun

open Trace

/-! ## Invariants of the observations -/

/-- What is neither the poll nor one of the streams' calls. -/
def Obs.isOffStream : Obs → Bool
  | .recv _ | .tunUpdated .. | .updated _ | .pulledLocalAgent _ | .event _ | .loopEnd => true
  | o => o.isMessageIo

theorem Obs.isOffStream_of_isMessageIo (o : Obs) (h : o.isMessageIo = true) :
    o.isOffStream = true := by
  cases o <;> first | rfl | exact h

namespace PvpnConnection

open Conn

variable {E S X F α : Type} (d : PvpnDependencies E S X F)

/-- Any change of the connection. -/
def Anyhow (_ _ : PvpnConnection S F) : Prop := True

instance isPreorder_anyhow : IsPreorder (PvpnConnection S F) Anyhow where
  refl _ := trivial
  trans _ _ _ _ _ := trivial

theorem indifferent_anyhow : Indifferent (S := S) (F := F) Anyhow :=
  ⟨fun _ _ _ => trivial, fun _ _ => trivial, fun _ _ => trivial, fun _ _ => trivial,
    fun _ _ => trivial⟩

theorem ignoresIo_anyhow : IgnoresIo (S := S) (F := F) Anyhow :=
  ⟨fun _ _ => trivial, fun _ _ => trivial, fun _ _ => trivial, fun _ _ _ => trivial⟩

section OffStream

variable {d} {Q : Obs → Bool} (hQ : ∀ o, Obs.isOffStream o = true → Q o = true)
include hQ

theorem offStream_messageIo (o : Obs) (h : o.isMessageIo = true) : Q o = true :=
  hQ o (o.isOffStream_of_isMessageIo h)

theorem step_writePcap_anyhow (data : Bytes) : Prog.Rel (Step Anyhow Q) (writePcap d data) :=
  step_writePcap d (fun _ _ => trivial)
    (fun o h => offStream_messageIo hQ o (o.isMessageIo_of_isCapture h)) data

theorem step_pullLocalAgent_anyhow : Prog.Rel (Step Anyhow Q) (pullLocalAgent d) :=
  step_pullLocalAgent d (fun _ _ _ => trivial) (fun _ => hQ _ rfl) fun _ _ => hQ _ rfl

theorem step_receiveMessage_anyhow : Prog.Rel (Step Anyhow Q) (receiveMessage d) := by
  refine Prog.rel_bind (step_ask (fun _ => hQ _ rfl) _) fun m => ?_
  cases m with
  | none => exact Prog.rel_pure _
  | some m =>
    refine Prog.rel_bind ?_ fun _ => Prog.rel_pure _
    by_cases hm : m = .disconnect
    · subst hm
      exact step_update fun _ => trivial
    · refine indifferent_anyhow.handleMessage d (offStream_messageIo hQ) hm fun u _ => ?_
      refine indifferent_anyhow.handleUpdate d (offStream_messageIo hQ) (fun tun => ?_) u
      exact step_updateTun d (fun _ _ => trivial) (fun _ _ => trivial) (fun _ _ => hQ _ rfl) tun

variable {I : Hist (Sys E S F) Obs → Prop} (hoff : ∀ h h', Step Anyhow Q h h' → I h → I h')
include hoff

/-- An invariant of the observations has to be checked of the rounds and of the poll only. -/
theorem keptByLoop_of_offStream (hrounds : KeptByRounds d I)
    (hwait : Prog.Inv I (waitForStreams d)) : KeptByLoop d I where
  toKeptByRounds := hrounds
  wait := hwait
  clock := Prog.Rel.inv (R := Step Anyhow Q) (step_query _) hoff
  resumed := (step_onResumed d (fun _ _ _ => trivial) (hQ _ rfl)).inv hoff
  receive := (step_receiveMessage_anyhow hQ).inv hoff
  updateState := (step_updateState d (fun _ _ _ => trivial) (fun _ _ => trivial)
    (fun _ _ _ => trivial) (fun _ => hQ _ rfl) (fun _ => hQ _ rfl) fun _ => hQ _ rfl).inv hoff
  loopEnd := (indifferent_anyhow.onConnectionLoopEnd d (offStream_messageIo hQ) (hQ _ rfl)).inv hoff

/-- The rule for whole runs. -/
theorem exec_of_offStream (hrounds : KeptByRounds d I) (hwait : Prog.Inv I (waitForStreams d))
    {cfg : InitialConfig} {streams : S} {env : E} (n : Nat)
    (hinit : I (Hist.init ⟨env, initial d cfg streams⟩)) : I (exec d cfg streams env n).2 := by
  have hnew : Prog.Inv I (new d cfg) :=
    (indifferent_anyhow.new d (offStream_messageIo hQ) cfg).inv hoff
  exact Prog.inv_bind hnew
    (fun _ => (keptByLoop_of_offStream hQ hoff hrounds hwait).keptByIterations.run n) _ hinit

end OffStream

end PvpnConnection

/-! ## The ledgers of a stream -/

/-- The bytes a read has left in the buffer. A result that points out of it is none: handling it
panics. -/
def StreamResult.bytesIn (buf : Bytes) : StreamResult → Bytes
  | .ok bytesRead startOffset _ _ => (slice? buf startOffset bytesRead).getD []
  | .err _ | .streamClosed => []

/-- The bytes that a read of the stream `id` returned; `s` is the state right after it. -/
def Obs.returned {E S F : Type} (id : StreamId) (o : Obs) (s : Sys E S F) : Bytes :=
  match o with
  | .read streamId res => if streamId = id then res.bytesIn s.conn.streamReadBuffer else []
  | _ => []

/-- The payload of an `Action::read` of the stream `id`. -/
def Obs.pushed (id : StreamId) : Obs → Bytes
  | .push ⟨streamId, .read data⟩ => if streamId = id then data else []
  | _ => []

/-- An `Action::read` of the stream `id`. -/
def Obs.IsPushOf (id : StreamId) (o : Obs) : Prop := ∃ data, o = .push ⟨id, .read data⟩

/-- Neither a read nor an `Action::read`. -/
def Obs.isDry : Obs → Bool
  | .read .. | .push ⟨_, .read _⟩ => false
  | _ => true

theorem Obs.isDry_of_isOffStream (o : Obs) (h : o.isOffStream = true) : o.isDry = true := by
  cases o <;> first | rfl | cases h

theorem Obs.isDry_of_isStreamIo (o : Obs) (h : o.isStreamIo = true) : o.isDry = true := by
  cases o with
  | push action =>
    obtain ⟨streamId, kind⟩ := action
    cases kind <;> first | rfl | cases h
  | _ => first | rfl | cases h

theorem Obs.pushed_of_isDry {o : Obs} (h : o.isDry = true) (id : StreamId) : o.pushed id = [] := by
  cases o with
  | push action =>
    obtain ⟨streamId, kind⟩ := action
    cases kind <;> first | rfl | cases h
  | _ => rfl

section Ledgers

variable {E S F : Type} {id : StreamId} {l : List (Obs × Sys E S F)}

/-- The network is available. -/
def Sys.networkAvailable (s : Sys E S F) : Bool := s.conn.networkRecoveryHandler.networkAvailable

/-- Everything that reads of the stream `id` returned. -/
def returned (id : StreamId) (l : List (Obs × Sys E S F)) : Bytes :=
  l.flatMap fun x => x.1.returned id x.2

/-- The bytes that a read returned with the network available. -/
def Obs.accepted (id : StreamId) (o : Obs) (s : Sys E S F) : Bytes :=
  if s.networkAvailable then o.returned id s else []

/-- Everything that reads of the stream `id` returned with the network available. -/
def accepted (id : StreamId) (l : List (Obs × Sys E S F)) : Bytes :=
  l.flatMap fun x => x.1.accepted id x.2

/-- Everything pushed to the client as read from the stream `id`. -/
def pushed (id : StreamId) (l : List (Obs × Sys E S F)) : Bytes := l.flatMap fun x => x.1.pushed id

/-- No read of the stream `id` returned bytes without a network. -/
def NoneDropped (id : StreamId) (l : List (Obs × Sys E S F)) : Prop :=
  ∀ x ∈ l, x.1.returned id x.2 ≠ [] → x.2.networkAvailable = true

theorem Obs.accepted_of_isDry {o : Obs} (h : o.isDry = true) (s : Sys E S F) :
    o.accepted id s = [] := by
  unfold Obs.accepted
  split
  · cases o <;> first | rfl | cases h
  · rfl

@[simp] theorem pushed_append (seg : List (Obs × Sys E S F)) :
    pushed id (l ++ seg) = pushed id l ++ pushed id seg := List.flatMap_append

@[simp] theorem accepted_append (seg : List (Obs × Sys E S F)) :
    accepted id (l ++ seg) = accepted id l ++ accepted id seg := List.flatMap_append

@[simp] theorem pushed_singleton (o : Obs) (s : Sys E S F) : pushed id [(o, s)] = o.pushed id := by
  simp [pushed]

@[simp] theorem accepted_singleton (o : Obs) (s : Sys E S F) :
    accepted id [(o, s)] = o.accepted id s := by
  simp [accepted]

theorem pushed_of_isDry (h : ∀ x ∈ l, x.1.isDry = true) : pushed id l = [] :=
  List.flatMap_eq_nil_iff.mpr fun x hx => Obs.pushed_of_isDry (h x hx) id

theorem accepted_of_isDry (h : ∀ x ∈ l, x.1.isDry = true) : accepted id l = [] :=
  List.flatMap_eq_nil_iff.mpr fun x hx => Obs.accepted_of_isDry (h x hx) x.2

theorem Obs.accepted_eq_returned_iff (o : Obs) (s : Sys E S F) :
    o.accepted id s = o.returned id s ↔ (o.returned id s ≠ [] → s.networkAvailable = true) := by
  unfold Obs.accepted
  by_cases hs : s.networkAvailable = true
  · simp [hs]
  · rw [if_neg hs]
    refine ⟨fun h hne => absurd h.symm hne, fun h => ?_⟩
    by_contra hne
    exact hs (h fun he => hne he.symm)

theorem length_accepted_le (l : List (Obs × Sys E S F)) :
    (accepted id l).length ≤ (returned id l).length := by
  induction l with
  | nil => exact Nat.le_refl 0
  | cons x l ih =>
    have hx : (x.1.accepted id x.2).length ≤ (x.1.returned id x.2).length := by
      unfold Obs.accepted
      split
      · exact Nat.le_refl _
      · exact Nat.zero_le _
    unfold accepted returned at ih ⊢
    rw [List.flatMap_cons, List.flatMap_cons, List.length_append, List.length_append]
    exact Nat.add_le_add hx ih

/-- Leaving out what came without a network leaves everything iff there was none of it. -/
theorem accepted_eq_returned_iff (l : List (Obs × Sys E S F)) :
    accepted id l = returned id l ↔ NoneDropped id l := by
  induction l with
  | nil => simp [NoneDropped, accepted, returned]
  | cons x l ih =>
    have hcons : NoneDropped id (x :: l) ↔
        (x.1.returned id x.2 ≠ [] → x.2.networkAvailable = true) ∧ NoneDropped id l :=
      List.forall_mem_cons
    rw [hcons, ← Obs.accepted_eq_returned_iff, ← ih]
    refine ⟨fun h => ?_, fun ⟨h₁, h₂⟩ => congrArg₂ (· ++ ·) h₁ h₂⟩
    have h' : x.1.accepted id x.2 ++ accepted id l = x.1.returned id x.2 ++ returned id l := h
    by_cases hs : x.2.networkAvailable = true
    · have hx : x.1.accepted id x.2 = x.1.returned id x.2 := if_pos hs
      exact ⟨hx, List.append_cancel_left (hx ▸ h')⟩
    · -- the rest is too short to make up for what is left out here
      have hx : x.1.accepted id x.2 = [] := if_neg hs
      have hlen := congrArg List.length h'
      rw [hx, List.nil_append, List.length_append] at hlen
      have hnil : x.1.returned id x.2 = [] := by
        rw [← List.length_eq_zero_iff]
        have hle : (accepted id l).length ≤ (returned id l).length := length_accepted_le l
        omega
      rw [hx, hnil] at h' ⊢
      exact ⟨rfl, h'⟩

end Ledgers

namespace PvpnConnection

open Conn

variable {E S X F : Type} (d : PvpnDependencies E S X F) (id : StreamId)

/-! ## The ledgers of a run -/

/-- The ledgers agree, except between a read and the `Action::read` that follows it. -/
def Agreed (pre : List (Obs × Sys E S F)) (o : Obs) : Prop :=
  ¬ o.IsPushOf id → pushed id pre = accepted id pre

/-- The client has what was accepted. -/
structure Balanced (h : Hist (Sys E S F) Obs) : Prop where
  settled : pushed id h.past = accepted id h.past
  always : Always (fun pre o _ => Agreed id pre o) h.past

/-- What a read with the result `res` owes to the client. -/
def owed (streamId : StreamId) (res : StreamResult) (s : Sys E S F) : Bytes :=
  (Obs.read streamId res).accepted id s

/-- A read has returned `res` and nothing has come of it yet. -/
structure Fetched (streamId : StreamId) (res : StreamResult) (h : Hist (Sys E S F) Obs) :
    Prop where
  settled : pushed id h.past ++ owed id streamId res h.now = accepted id h.past
  always : Always (fun pre o _ => Agreed id pre o) h.past

variable {id} {h h' : Hist (Sys E S F) Obs}

theorem Balanced.dry (hs : Step Anyhow Obs.isDry h h') (hb : Balanced id h) : Balanced id h' := by
  have hgrow : ∀ seg : List (Obs × Sys E S F), (∀ x ∈ seg, x.1.isDry = true) →
      pushed id (h.past ++ seg) = accepted id (h.past ++ seg) := by
    intro seg hseg
    rw [pushed_append, accepted_append, pushed_of_isDry hseg, accepted_of_isDry hseg, hb.settled]
  obtain ⟨seg, hpast, hseg⟩ := hs.observed
  refine ⟨by rw [hpast]; exact hgrow seg hseg, ?_⟩
  exact hs.observed.always (fun seg o _ hseg _ _ => hgrow seg hseg) hb.always

theorem inv_balanced_of_dry {α : Type} {x : Conn E S F α}
    (hx : Prog.Rel (Step Anyhow Obs.isDry) x) : Prog.Inv (Balanced id) x :=
  hx.inv fun _ _ => Balanced.dry

theorem Fetched.balanced {streamId : StreamId} {res : StreamResult} (hf : Fetched id streamId res h)
    (ho : owed id streamId res h.now = []) : Balanced id h :=
  ⟨by rw [← hf.settled, ho, List.append_nil], hf.always⟩

theorem owed_of_empty {streamId : StreamId} {res : StreamResult} {s : Sys E S F}
    (hres : res.bytesIn s.conn.streamReadBuffer = []) : owed id streamId res s = [] := by
  simp [owed, Obs.accepted, Obs.returned, hres]

theorem owed_of_unavailable {streamId : StreamId} {res : StreamResult} {s : Sys E S F}
    (hs : s.networkAvailable = false) : owed id streamId res s = [] := by
  simp [owed, Obs.accepted, hs]

theorem triple_readInto (streamId : StreamId) (stream : X) :
    Prog.Triple (Balanced id) (readInto d streamId stream) (Fetched id streamId) (Balanced id) := by
  intro h hb
  refine ⟨?_, always_snoc.mpr ⟨hb.always, fun _ => hb.settled⟩⟩
  simp only [Hist.emit_past, Hist.set_past, pushed_append, accepted_append, pushed_singleton,
    accepted_singleton, Obs.pushed, List.append_nil]
  rw [hb.settled]
  rfl

theorem triple_noteTunResult (streamId : StreamId) (res : StreamResult) :
    Prog.Triple (Fetched id streamId res) (noteTunResult d streamId res : Conn E S F Unit)
      (fun _ => Fetched id streamId res) (Balanced id) := by
  unfold noteTunResult
  by_cases hs : streamId = d.ids.tun
  · rw [Prog.when_pos hs]
    exact fun h hf => ⟨hf.settled, hf.always⟩
  · rw [Prog.when_neg hs]
    exact Prog.triple_pure fun _ hf => hf

theorem triple_pushRead (streamId : StreamId) {bytesRead startOffset : Nat}
    {wouldBlock : WouldBlock} {pendingWrite : PendingWrite} :
    Prog.Triple
      (fun h => Fetched id streamId (.ok bytesRead startOffset wouldBlock pendingWrite) h ∧
        h.now.networkAvailable = true)
      (pushRead d streamId startOffset bytesRead) (fun _ => Balanced id) (Balanced id) := by
  rintro h ⟨hf, hnet⟩
  have howed : owed id streamId (.ok bytesRead startOffset wouldBlock pendingWrite) h.now =
      if streamId = id then (slice? h.now.conn.streamReadBuffer startOffset bytesRead).getD []
      else [] := if_pos hnet
  unfold pushRead
  rw [conn_bind]
  cases hslice : slice? h.now.conn.streamReadBuffer startOffset bytesRead with
  | none =>
    refine hf.balanced ?_
    rw [howed, hslice]
    exact ite_self []
  | some data =>
    have hpushed : pushed id h.past ++ (Obs.push ⟨streamId, .read data⟩).pushed id =
        accepted id h.past := by
      rw [← hf.settled, howed, hslice]
      rfl
    refine ⟨?_, always_snoc.mpr ⟨hf.always, fun hne => ?_⟩⟩
    · simp only [Hist.set_past, Hist.emit_past, pushed_append, accepted_append, pushed_singleton,
        accepted_singleton]
      rw [hpushed]
      simp [Obs.accepted, Obs.returned]
    · -- it is another stream's
      have hid : streamId ≠ id := fun he => hne ⟨data, by rw [he]⟩
      rw [← hpushed]
      simp [Obs.pushed, hid]

theorem inv_pullAction_balanced : Prog.Inv (Balanced id) (pullAction d) :=
  ignoresIo_anyhow.inv_pullAction d (fun _ _ => Balanced.dry) Obs.isDry_of_isStreamIo
    fun data => inv_balanced_of_dry (step_writePcap_anyhow Obs.isDry_of_isOffStream data)

theorem inv_pullLocalAgent_balanced : Prog.Inv (Balanced id) (pullLocalAgent d) :=
  inv_balanced_of_dry (step_pullLocalAgent_anyhow Obs.isDry_of_isOffStream)

theorem triple_of_dry {α : Type} {x : Conn E S F α} (hx : Prog.Rel (Step Anyhow Obs.isDry) x) :
    Prog.Triple (Balanced id) x (fun _ => Balanced id) (Balanced id) :=
  (inv_balanced_of_dry hx).triple fun _ hb => hb

theorem triple_handleReadResult (n : Nat) (streamId : StreamId) (res : StreamResult) :
    Prog.Triple (Fetched id streamId res) (handleReadResult d n streamId res)
      (fun _ => Balanced id) (Balanced id) := by
  cases res with
  | err e =>
    refine Prog.triple_bind (Prog.Triple.pre (triple_of_dry ?_) fun h hf =>
      hf.balanced (owed_of_empty rfl)) fun _ => Prog.triple_pure fun _ hb => hb
    exact ignoresIo_anyhow.handleStreamError d
      (Obs.forall_isStreamIoOf Obs.isDry_of_isStreamIo streamId) e
  | streamClosed =>
    refine Prog.triple_bind (Prog.Triple.pre (triple_of_dry (step_inform rfl _)) fun h hf =>
      hf.balanced (owed_of_empty rfl)) fun _ => Prog.triple_pure fun _ hb => hb
  | ok bytesRead startOffset wouldBlock pendingWrite =>
    refine triple_conn_bind fun c => ?_
    refine Prog.triple_bind (R := fun _ => Balanced id) ?_ fun _ => Prog.triple_pure fun _ hb => hb
    by_cases hc : 0 < bytesRead ∧ c.networkRecoveryHandler.networkAvailable = true
    · rw [Prog.when_pos hc]
      refine Prog.triple_bind ((triple_pushRead d streamId).pre fun h ⟨hf, hnow⟩ => ⟨hf, ?_⟩)
        fun _ => ?_
      · unfold Sys.networkAvailable
        rw [hnow]
        exact hc.2
      · exact (inv_pullFromClient (inv_pullAction_balanced d) (inv_pullLocalAgent_balanced d)
          n).triple fun _ hb => hb
    · rw [Prog.when_neg hc]
      refine Prog.triple_pure fun h ⟨hf, hnow⟩ => hf.balanced ?_
      -- nothing was read, or it is dropped
      by_cases hnet : h.now.networkAvailable = true
      · refine owed_of_empty ?_
        have hzero : bytesRead = 0 := by
          unfold Sys.networkAvailable at hnet
          rw [hnow] at hnet
          by_contra hne
          exact hc ⟨Nat.pos_of_ne_zero hne, hnet⟩
        subst hzero
        simp only [StreamResult.bytesIn, slice?, List.take_zero]
        split <;> rfl
      · exact owed_of_unavailable (Bool.eq_false_iff.mpr hnet)

theorem inv_readStream_balanced (n : Nat) (streamId : StreamId) :
    Prog.Inv (Balanced id) (readStream d n streamId) := by
  refine Prog.inv_bind inv_conn fun c => ?_
  cases d.streams.getStream c.streams streamId with
  | none => exact Prog.inv_pure false
  | some stream =>
    have hfetch : Prog.Triple (Balanced id) (readInto d streamId stream) (Fetched id streamId)
        (Balanced id) := triple_readInto d streamId stream
    refine Prog.Triple.inv (Prog.triple_bind hfetch fun res => ?_)
    exact Prog.triple_bind (triple_noteTunResult d streamId res) fun _ =>
      triple_handleReadResult d n streamId res

theorem balanced_exec (cfg : InitialConfig) (streams : S) (env : E) (n : Nat) (id : StreamId) :
    Balanced id (exec d cfg streams env n).2 := by
  have hrounds : KeptByRounds d (Balanced id) := {
    pull := inv_pullAction_balanced d
    agent := inv_pullLocalAgent_balanced d
    readStream := inv_readStream_balanced d
    write := fun streamId => inv_balanced_of_dry
      (ignoresIo_anyhow.writeStream d
        (Obs.forall_isStreamIoOf Obs.isDry_of_isStreamIo streamId) _) }
  refine exec_of_offStream Obs.isDry_of_isOffStream (fun _ _ => Balanced.dry) hrounds ?_ n
    ⟨rfl, always_nil⟩
  exact inv_balanced_of_dry (step_waitForStreams d (fun _ _ => trivial) (fun _ => rfl) fun _ => rfl)

/-- **The client gets what is accepted.** In every run and for every stream, the bytes pushed to
the client are, in order, those that reads returned while the network was available. Only the
`Action::read` of the last read may still be to come. -/
theorem pushed_eq_accepted (cfg : InitialConfig) (streams : S) (env : E) (n : Nat)
    (id : StreamId) :
    pushed id (exec d cfg streams env n).2.past = accepted id (exec d cfg streams env n).2.past ∧
      Always (fun pre o _ => ¬ o.IsPushOf id → pushed id pre = accepted id pre)
        (exec d cfg streams env n).2.past :=
  ⟨(balanced_exec d cfg streams env n id).settled, (balanced_exec d cfg streams env n id).always⟩

/-- **When the client gets all that is read.** In every run and for every stream, the bytes pushed
to the client are exactly those that reads returned iff no read returned bytes while the network was
unavailable. It makes no difference whether the stream is the TUN device or a socket. -/
theorem pushed_eq_returned_iff (cfg : InitialConfig) (streams : S) (env : E) (n : Nat)
    (id : StreamId) :
    (pushed id (exec d cfg streams env n).2.past = returned id (exec d cfg streams env n).2.past ↔
        NoneDropped id (exec d cfg streams env n).2.past) ∧
      Always (fun pre o _ => ¬ o.IsPushOf id →
        (pushed id pre = returned id pre ↔ NoneDropped id pre))
        (exec d cfg streams env n).2.past := by
  obtain ⟨hlast, halways⟩ := pushed_eq_accepted d cfg streams env n id
  refine ⟨by rw [hlast, accepted_eq_returned_iff], halways.imp fun pre o _ hpre ho => ?_⟩
  rw [hpre ho, accepted_eq_returned_iff]

end PvpnConnection

namespace Script

/-- The network goes down, and then the socket 5 has three bytes. -/
def readWhileDown : Script where
  messages := [some (.connectivityChange .down), none, some .disconnect]
  polls := [[{ streamId := 5, isReadable := true, isWritable := false, isError := false }]]
  reads := [(.okAt0 3 .yes .no, [1, 2, 3])]

/-- The socket's bytes never reach the client. -/
theorem socket_bytes_dropped :
    scripted.ids.tun < 5 ∧ returned 5 (log plainConfig readWhileDown 3) = [1, 2, 3] ∧
      pushed 5 (log plainConfig readWhileDown 3) = [] := by
  decide +kernel

end Script

end Protun
