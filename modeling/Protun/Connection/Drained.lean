import Protun.Connection.Writable

/-!
# Reading until a stream would block

The poll of mio is edge-triggered: a source that is reported readable is not reported again before
it has been read until it blocks. `read_from_streams` reads the streams it is given in rounds, and
keeps a stream for the next round if a read returned bytes and did not block. Each read may be
followed by a pull from the client, which opens, writes to and closes streams.

* `Obs.fate`: a stream is read, or it is closed. What matters is the latest of the two.
* `Tracked`: a stream that is not found has been closed, or was not there in the first place. Every
  call on the streams keeps this, on any streams that are `Stable`.
* `settled_readFromStreams`: when `read_from_streams` returns, the last read of a stream did not
  return bytes without blocking, unless the stream was closed after it.
* **`streams_drained_iff`**: so every stream was read until it blocked, failed or was closed iff
  none was last read with no bytes and without blocking.
* `read_empty_iff`: on mio, that is an empty UDP datagram or a TUN packet that is only a header.
* `empty_datagram_stops_reading`: a datagram is left behind an empty one.
-/

namespace Protun

open Trace

/-- A read with these results is followed by another one. -/
def StreamResult.readsOn : StreamResult → Bool
  | .ok bytesRead _ wouldBlock _ => wouldBlock = .no && 0 < bytesRead
  | .err _ | .streamClosed => false

/-- After a read with these results nothing is left to be read for now. -/
def StreamResult.leavesNothing : StreamResult → Bool
  | .ok _ _ wouldBlock _ => wouldBlock = .yes
  | .err _ | .streamClosed => true

/-- Nothing was read, but the read did not block. -/
def StreamResult.isEmptyRead : StreamResult → Bool
  | .ok bytesRead _ wouldBlock _ => wouldBlock = .no && bytesRead = 0
  | .err _ | .streamClosed => false

theorem StreamResult.leavesNothing_iff {res : StreamResult} (h : res.readsOn = false) :
    res.leavesNothing = true ↔ res.isEmptyRead = false := by
  cases res with
  | err e | streamClosed => simp [leavesNothing, isEmptyRead]
  | ok bytesRead startOffset wouldBlock pendingWrite =>
    cases wouldBlock with
    | yes => simp [leavesNothing, isEmptyRead]
    | no =>
      have hzero : bytesRead = 0 := by simpa [readsOn] using h
      simp [leavesNothing, isEmptyRead, hzero]

/-- The stream `id` was read (`some`), or it was closed (`none`). -/
def Obs.fate (id : StreamId) : Obs → Option (Option StreamResult)
  | .read streamId res => if streamId = id then some (some res) else none
  | .closed streamId => if streamId = id then some none else none
  | _ => none

/-- It is not a read of the stream `id`. -/
def Obs.isNoRead (id : StreamId) : Obs → Bool
  | .read streamId _ => streamId ≠ id
  | _ => true

theorem Obs.fate_of_isNoRead {id : StreamId} {o : Obs} (h : o.isNoRead id = true) :
    o.fate id = none ∨ o.fate id = some none := by
  cases o with
  | read streamId res => exact .inl (if_neg (of_decide_eq_true h))
  | closed streamId =>
    unfold Obs.fate
    by_cases hid : streamId = id
    · exact .inr (if_pos hid)
    · exact .inl (if_neg hid)
  | _ => exact .inl rfl

theorem Obs.isNoRead_of_isStreamIo {id : StreamId} (o : Obs) (h : o.isStreamIo = true) :
    o.isNoRead id = true := by
  cases o <;> first | rfl | cases h

theorem Obs.isNoRead_of_isCapture {id : StreamId} (o : Obs) (h : o.isCapture = true) :
    o.isNoRead id = true := by
  cases o <;> first | rfl | cases h

namespace PvpnConnection

open Conn

variable {E S X F α : Type}

/-! ## What becomes of a stream -/

/-- If the stream `id` was found, it still is. -/
def StillFound (d : PvpnDependencies E S X F) (id : StreamId) (c c' : PvpnConnection S F) : Prop :=
  (d.streams.getStream c.streams id).isSome → (d.streams.getStream c'.streams id).isSome

section StillFound

variable {d : PvpnDependencies E S X F} {id : StreamId}

instance isPreorder_stillFound : IsPreorder (PvpnConnection S F) (StillFound d id) where
  refl _ := fun h => h
  trans _ _ _ h₁ h₂ := fun h => h₂ (h₁ h)

theorem stillFound_of_streams {c c' : PvpnConnection S F} (h : c'.streams = c.streams) :
    StillFound d id c c' := by
  unfold StillFound
  rw [h]
  exact fun hfound => hfound

/-- No call but the closing loses a stream. -/
theorem ignoresCalls_stillFound (ht : d.streams.Stable) (streamId : StreamId) :
    IgnoresCalls d streamId (StillFound d id) where
  setStream c x hfound := by
    by_cases hid : streamId = id
    · subst hid
      rw [ht.setStream_self _ _ hfound]
      rfl
    · rwa [ht.setStream _ _ hid]
  setPoll c wait e hfound := by rwa [ht.setPoll]
  openTcp c addr e hfound := by rwa [ht.openTcp _ _ _ (.inl hfound)]
  openUdp c addr e hfound := by rwa [ht.openUdp _ _ _ (.inl hfound)]
  currentTunError _ _ := stillFound_of_streams rfl
  readBuffer _ _ := stillFound_of_streams rfl
  network _ _ _ := stillFound_of_streams rfl

end StillFound

/-- If the stream `id` is not found, it was closed after it was last read, or it was not there in
the first place (`away`). What happened to it last satisfies `P`. -/
structure Tracked (d : PvpnDependencies E S X F) (id : StreamId) (away : Prop)
    (P : Option (Option StreamResult) → Prop) (h : Hist (Sys E S F) Obs) : Prop where
  found : (d.streams.getStream h.now.conn.streams id).isSome ∨
    lastOf (Obs.fate id) h.past = some none ∨ lastOf (Obs.fate id) h.past = none ∧ away
  fate : P (lastOf (Obs.fate id) h.past)

section Tracked

variable {d : PvpnDependencies E S X F} {id : StreamId} {away : Prop}
  {P P' : Option (Option StreamResult) → Prop} {h h' : Hist (Sys E S F) Obs}

theorem Tracked.imp (ht : Tracked d id away P h) (hP : ∀ f, P f → P' f) : Tracked d id away P' h :=
  ⟨ht.found, hP _ ht.fate⟩

/-- What is neither a read of the stream nor its closing keeps track of it. -/
theorem Tracked.step (hP : P (some none)) (hs : Step (StillFound d id) (Obs.isNoRead id) h h')
    (ht : Tracked d id away P h) : Tracked d id away P h' := by
  obtain ⟨seg, hpast, hseg⟩ := hs.observed
  have hlast := lastOf_append_of_or (fun x hx => Obs.fate_of_isNoRead (hseg x hx)) h.past
  rw [← hpast] at hlast
  rcases hlast with hsame | hclosed
  · refine ⟨?_, hsame ▸ ht.fate⟩
    rw [hsame]
    exact ht.found.imp_left hs.core
  · exact ⟨.inr (.inl hclosed), hclosed ▸ hP⟩

theorem inv_tracked (hP : P (some none)) {x : Conn E S F α}
    (hx : Prog.Rel (Step (StillFound d id) (Obs.isNoRead id)) x) :
    Prog.Inv (Tracked d id away P) x :=
  hx.inv fun _ _ => Tracked.step hP

theorem inv_closeStream_tracked (hstable : d.streams.Stable) (hP : P (some none))
    (streamId : StreamId) : Prog.Inv (Tracked d id away P) (closeStream d streamId) := by
  by_cases hid : streamId = id
  · subst hid
    intro h ht
    have hclosed : (Obs.closed streamId).fate streamId = some none := if_pos rfl
    have hlast : lastOf (Obs.fate streamId) (closeStream d streamId h).2.past = some none :=
      lastOf_snoc_some hclosed _ _
    exact ⟨.inr (.inl hlast), hlast ▸ hP⟩
  · refine inv_tracked hP (Prog.rel_bind (fun h => step_set ?_) fun _ => step_emit rfl)
    intro hfound
    rwa [hstable.close _ _ hid]

variable (hstable : d.streams.Stable)
include hstable

theorem inv_pullAction_tracked (hP : P (some none)) :
    Prog.Inv (Tracked d id away P) (pullAction d) :=
  IgnoresCalls.inv_pullAction (fun _ _ => Tracked.step hP) (ignoresCalls_stillFound hstable)
    Obs.isNoRead_of_isStreamIo
    (fun data => inv_tracked hP (step_writePcap d (fun _ _ => stillFound_of_streams rfl)
      Obs.isNoRead_of_isCapture data))
    (inv_closeStream_tracked hstable hP)

omit hstable in
theorem inv_pullLocalAgent_tracked (hP : P (some none)) :
    Prog.Inv (Tracked d id away P) (pullLocalAgent d) :=
  inv_tracked hP (step_pullLocalAgent d (fun _ _ _ => stillFound_of_streams rfl) (fun _ => rfl)
    fun _ _ => rfl)

/-- Reading another stream keeps track of this one. -/
theorem inv_readStream_ne (hP : P (some none)) {streamId : StreamId} (hne : streamId ≠ id)
    (n : Nat) : Prog.Inv (Tracked d id away P) (readStream d n streamId) :=
  ((ignoresCalls_stillFound hstable streamId).keptByReads (fun _ => decide_eq_true hne)
    (fun _ => rfl) rfl (fun _ => rfl) fun _ _ => Tracked.step hP).readStream
    (inv_pullAction_tracked hstable hP) (inv_pullLocalAgent_tracked hP) n

end Tracked

/-! ## Reading a stream -/

/-- The stream need not be read again: its last read did not ask for it, or it is gone. -/
def Settled (away : Prop) : Option (Option StreamResult) → Prop
  | some (some res) => res.readsOn = false
  | some none => True
  | none => away

/-- The stream was closed, or it was last read with the result `res`. -/
def WasRead (res : StreamResult) (f : Option (Option StreamResult)) : Prop :=
  f = some none ∨ f = some (some res)

theorem WasRead.settled {res : StreamResult} (hres : res.readsOn = false) (away : Prop)
    (f : Option (Option StreamResult)) (hf : WasRead res f) : Settled away f := by
  rcases hf with rfl | rfl
  · trivial
  · exact hres

section Reads

variable {d : PvpnDependencies E S X F} {id : StreamId} {away : Prop}
  (hstable : d.streams.Stable)
include hstable

theorem triple_readInto_tracked {c : PvpnConnection S F} {stream : X}
    (hstream : d.streams.getStream c.streams id = some stream)
    {P : Option (Option StreamResult) → Prop} {N : Hist (Sys E S F) Obs → Prop} :
    Prog.Triple (fun h => Tracked d id away P h ∧ h.now.conn = c) (readInto d id stream)
      (fun res => Tracked d id away (WasRead res)) N := by
  rintro h ⟨-, rfl⟩
  have hread : ∀ res, (Obs.read id res).fate id = some (some res) := fun _ => if_pos rfl
  refine ⟨.inl ?_, .inr (lastOf_snoc_some (hread _) _ _)⟩
  have hself := hstable.setStream_self h.now.conn.streams
    (d.streams.read stream h.now.conn.streamReadBuffer h.now.env).2.1
    (Option.isSome_iff_exists.mpr ⟨stream, hstream⟩)
  exact Option.isSome_iff_exists.mpr ⟨_, hself⟩

theorem triple_handleReadResult_tracked (n : Nat) (res : StreamResult) :
    Prog.Triple (Tracked d id away (WasRead res)) (handleReadResult d n id res)
      (fun again => Tracked d id away fun f => again = true ∨ Settled away f) fun _ => True := by
  have hP : WasRead res (some none) := .inl rfl
  have hcalls : IgnoresCalls d id (StillFound d id) := ignoresCalls_stillFound hstable id
  have hdone : ∀ {b : Bool}, (b = true ∨ res.readsOn = false) →
      Prog.Triple (Tracked d id away (WasRead res)) (pure b : Conn E S F Bool)
        (fun again => Tracked d id away fun f => again = true ∨ Settled away f) fun _ => True :=
    fun hb => Prog.triple_pure fun _ ht => ht.imp fun f hf =>
      hb.imp_right fun hres => hf.settled hres away
  cases res with
  | err e =>
    refine Prog.triple_bind ((inv_tracked hP ?_).triple fun _ _ => trivial) fun _ =>
      hdone (.inr rfl)
    exact hcalls.handleStreamError (Obs.forall_isStreamIoOf Obs.isNoRead_of_isStreamIo id) e
  | streamClosed =>
    exact Prog.triple_bind ((inv_tracked hP (step_inform rfl _)).triple fun _ _ => trivial)
      fun _ => hdone (.inr rfl)
  | ok bytesRead startOffset wouldBlock pendingWrite =>
    refine Prog.triple_bind (inv_conn.triple fun _ _ => trivial) fun c => ?_
    refine Prog.triple_bind (Prog.Inv.triple (Prog.inv_when fun _ => ?_) fun _ _ => trivial)
      fun _ => hdone ?_
    · refine Prog.inv_bind (inv_tracked hP ?_) fun _ =>
        inv_pullFromClient (inv_pullAction_tracked hstable hP) (inv_pullLocalAgent_tracked hP) n
      refine Prog.rel_bind step_conn fun c => ?_
      cases slice? c.streamReadBuffer startOffset bytesRead with
      | none => exact Prog.rel_stall
      | some data => exact step_inform rfl _
    · exact (Bool.eq_false_or_eq_true _)

/-- Reading the stream settles it, or it is to be read again. -/
theorem triple_readStream_self (n : Nat) :
    Prog.Triple (Tracked d id away fun _ => True) (readStream d n id)
      (fun again => Tracked d id away fun f => again = true ∨ Settled away f) fun _ => True := by
  refine triple_conn_bind fun c => ?_
  cases hstream : d.streams.getStream c.streams id with
  | none =>
    refine Prog.triple_pure fun h ⟨ht, hc⟩ => ⟨ht.found, .inr ?_⟩
    rcases ht.found with hfound | hclosed | ⟨hnever, haway⟩
    · rw [hc, hstream] at hfound
      cases hfound
    · rw [hclosed]
      trivial
    · rw [hnever]
      exact haway
  | some stream =>
    refine Prog.triple_bind (triple_readInto_tracked hstable hstream) fun res => ?_
    refine Prog.triple_bind ((inv_tracked (.inl rfl) (step_noteTunResult d
      (fun _ _ => stillFound_of_streams rfl) id res)).triple fun _ _ => trivial) fun _ => ?_
    exact triple_handleReadResult_tracked hstable n res

/-! ## Rounds -/

/-- The stream is settled, or it is due to be read. -/
abbrev SettledOr (d : PvpnDependencies E S X F) (id : StreamId) (away due : Prop) :
    Hist (Sys E S F) Obs → Prop :=
  Tracked d id away fun f => Settled away f ∨ due

/-- A stream that was due, in this round (`id ∈ streamIds`) or in the next (`due`), is settled or
due in the next. -/
theorem triple_readRound (n : Nat) (streamIds : List StreamId) (due : Prop) :
    Prog.Triple (SettledOr d id away (id ∈ streamIds ∨ due)) (readRound d n streamIds)
      (fun next => SettledOr d id away (id ∈ next ∨ due)) fun _ => True := by
  induction streamIds generalizing due with
  | nil => exact Prog.triple_pure fun _ ht => ht
  | cons streamId streamIds ih =>
    by_cases hid : streamId = id
    · subst hid
      refine Prog.triple_bind ((triple_readStream_self hstable n).pre fun _ ht =>
        ht.imp fun _ _ => trivial) fun again => ?_
      cases again with
      | true =>
        refine Prog.triple_bind ((ih True).pre fun _ ht => ht.imp fun _ _ => .inr (.inr trivial))
          fun next => Prog.triple_pure fun _ ht => ht.imp fun _ _ => ?_
        exact .inr (.inl List.mem_cons_self)
      | false =>
        refine Prog.triple_bind ((ih due).pre fun _ ht => ht.imp fun f hf => .inl ?_) fun next =>
          Prog.triple_pure fun _ ht => ht
        exact hf.resolve_left Bool.false_ne_true
    · have hother : Prog.Inv (SettledOr d id away (id ∈ streamIds ∨ due))
          (readStream d n streamId) := inv_readStream_ne hstable (.inl trivial) hid n
      refine Prog.triple_bind ((hother.triple fun _ _ => trivial).pre fun _ ht => ht.imp
        fun f hf => ?_) fun again => Prog.triple_bind (ih due) fun next =>
          Prog.triple_pure fun _ ht => ht.imp fun f hf => ?_
      · simpa [Ne.symm hid] using hf
      · cases again with
        | true => simpa [Ne.symm hid] using hf
        | false => exact hf

/-- The loop goes on until nothing is due. -/
theorem triple_readRounds (n fuel : Nat) (streamIds : List StreamId) :
    Prog.Triple (SettledOr d id away (id ∈ streamIds)) (readRounds d n fuel streamIds)
      (fun _ => Tracked d id away (Settled away)) fun _ => True := by
  induction fuel generalizing streamIds with
  | zero =>
    cases streamIds with
    | nil => exact Prog.triple_pure fun _ ht => ht.imp fun f hf => by simpa using hf
    | cons streamId streamIds => exact fun _ _ => trivial
  | succ fuel ih =>
    cases streamIds with
    | nil => exact Prog.triple_pure fun _ ht => ht.imp fun f hf => by simpa using hf
    | cons streamId streamIds =>
      refine Prog.triple_bind ((triple_readRound hstable n (streamId :: streamIds) False).pre
        fun _ ht => ht.imp fun f hf => hf.imp_right .inl) fun next => (ih next).pre fun _ ht => ?_
      exact ht.imp fun f hf => by simpa using hf

end Reads

/-! ## The theorem -/

/-- What is observed while the streams are read, from the state `s`. -/
def readLog (d : PvpnDependencies E S X F) (n : Nat) (streamIds : List StreamId) (s : Sys E S F) :
    List (Obs × Sys E S F) :=
  (readFromStreams d n streamIds (Hist.init s)).2.past

/-- The stream `id` is not there. -/
def Absent (d : PvpnDependencies E S X F) (id : StreamId) (s : Sys E S F) : Prop :=
  d.streams.getStream s.conn.streams id = none

/-- **When `read_from_streams` returns, no stream is to be read again**: the last read of each did
not return bytes without blocking, unless the stream was closed since or was not there at all. -/
theorem settled_readFromStreams {d : PvpnDependencies E S X F} (hstable : d.streams.Stable)
    {n : Nat} {streamIds : List StreamId} {s : Sys E S F}
    (hreturns : (readFromStreams d n streamIds (Hist.init s)).1 = some ()) {id : StreamId}
    (hid : id ∈ streamIds) :
    Settled (Absent d id s) (lastOf (Obs.fate id) (readLog d n streamIds s)) := by
  have hinit : SettledOr d id (Absent d id s) (id ∈ streamIds) (Hist.init s) := by
    refine ⟨?_, .inr hid⟩
    cases hstream : d.streams.getStream s.conn.streams id with
    | none => exact .inr (.inr ⟨rfl, hstream⟩)
    | some stream => exact .inl (by simp [hstream])
  exact ((triple_readRounds hstable n n streamIds).returned hinit hreturns).fate

/-- The stream `id` was last read until it blocked, failed or was closed, or it was removed after
that, or it was not there in the state `s`. -/
def Drained (d : PvpnDependencies E S X F) (id : StreamId) (s : Sys E S F)
    (l : List (Obs × Sys E S F)) : Prop :=
  match lastOf (Obs.fate id) l with
  | some (some res) => res.leavesNothing = true
  | some none => True
  | none => Absent d id s

theorem drained_iff {d : PvpnDependencies E S X F} {id : StreamId} {s : Sys E S F}
    {l : List (Obs × Sys E S F)} (h : Settled (Absent d id s) (lastOf (Obs.fate id) l)) :
    Drained d id s l ↔
      ∀ res, lastOf (Obs.fate id) l = some (some res) → res.isEmptyRead = false := by
  unfold Drained
  cases hfate : lastOf (Obs.fate id) l with
  | none =>
    rw [hfate] at h
    exact iff_of_true h nofun
  | some f =>
    rw [hfate] at h
    cases f with
    | none => simp
    | some res => simpa using StreamResult.leavesNothing_iff h

/-- **When every stream is drained.** On the streams of mio, whatever they and the client do: when
`read_from_streams` returns, every stream it was given was last read until it blocked, failed or was
closed, or has been removed, iff none of them was last read with no bytes and without blocking. -/
theorem streams_drained_iff
    {d : PvpnDependencies E (Mio.MioStreams Mio.MioStream) Mio.MioStream F} {os : Mio.UnixOs E}
    {registry : Mio.Registry E} {tunId : StreamId} {m : Nat}
    (hd : d.streams = Mio.streams os registry tunId m) {n : Nat} {streamIds : List StreamId}
    {s : Sys E (Mio.MioStreams Mio.MioStream) F}
    (hreturns : (readFromStreams d n streamIds (Hist.init s)).1 = some ()) :
    (∀ id ∈ streamIds, Drained d id s (readLog d n streamIds s)) ↔
      ∀ id ∈ streamIds, ∀ res, lastOf (Obs.fate id) (readLog d n streamIds s) = some (some res) →
        res.isEmptyRead = false := by
  have hstable : d.streams.Stable := hd ▸ Mio.stable_streams os registry tunId m
  constructor
  · intro h id hid
    exact (drained_iff (settled_readFromStreams hstable hreturns hid)).mp (h id hid)
  · intro h id hid
    exact (drained_iff (settled_readFromStreams hstable hreturns hid)).mpr (h id hid)

end PvpnConnection

/-! ## Reads that bring nothing -/

namespace Mio

variable {E : Type}

/-- The number of bytes that a read of at most `len` bytes gets, if it succeeds. -/
def readCount (os : FdOs E) (len : Nat) (e : E) : Option Nat :=
  match (os.read len e).1 with
  | .ok data => some data.1.length
  | .error _ => none

/-- What comes is an empty datagram, or a packet that is only a header. -/
def MioStream.receivesNothing (os : UnixOs E) (len : Nat) (e : E) : MioStream → Prop
  | .udp _ => readCount os.udp len e = some 0
  | .tunApple _ => readCount os.tun len e = some appleTunPacketHeaderLen
  | .tcp _ | .tunUnix _ => False

theorem isEmptyRead_readFd (os : FdOs E) (pendingWrite : PendingWrite)
    (onRead : Nat → StreamResult) (buf : Bytes) (e : E) :
    (readFd os pendingWrite onRead buf e).1.1.isEmptyRead = true ↔
      ∃ count, readCount os buf.length e = some count ∧ (onRead count).isEmptyRead = true := by
  unfold readFd readCount
  cases os.read buf.length e with
  | mk answer e' =>
    cases answer with
    | ok data => simp
    | error err =>
      dsimp only
      split <;> simp [StreamResult.isEmptyRead, StreamResult.okAt0]

/-- A stream that answers a read of no bytes in its own way. -/
theorem not_isEmptyRead_of_zero {onZero : StreamResult} (hzero : onZero.isEmptyRead = false)
    {os : FdOs E} {len : Nat} {e : E} {pendingWrite : PendingWrite} :
    ¬ ∃ count, readCount os len e = some count ∧
      (if count = 0 then onZero else .okAt0 count .no pendingWrite).isEmptyRead = true := by
  rintro ⟨count, -, hempty⟩
  by_cases hcount : count = 0
  · rw [if_pos hcount, hzero] at hempty
    cases hempty
  · simp [hcount, StreamResult.isEmptyRead, StreamResult.okAt0] at hempty

/-- **A read of mio brings nothing without blocking** for an empty datagram and for a TUN packet of
Apple's that is only a header. A TCP stream takes it for the end, and the other TUN device for an
error. -/
theorem read_empty_iff (os : UnixOs E) (stream : MioStream) (buf : Bytes) (e : E) :
    (stream.read os buf e).1.1.isEmptyRead = true ↔ stream.receivesNothing os buf.length e := by
  cases stream with
  | udp stream =>
    dsimp only [MioStream.read, UdpSocketStream.read]
    rw [isEmptyRead_readFd]
    simp [MioStream.receivesNothing, StreamResult.isEmptyRead, StreamResult.okAt0]
  | tcp stream =>
    dsimp only [MioStream.read, TcpSocketStream.read]
    rw [isEmptyRead_readFd]
    exact iff_of_false (not_isEmptyRead_of_zero rfl) not_false
  | tunUnix stream =>
    dsimp only [MioStream.read, TunStreamUnix.read]
    rw [isEmptyRead_readFd]
    exact iff_of_false (not_isEmptyRead_of_zero rfl) not_false
  | tunApple stream =>
    dsimp only [MioStream.read, TunStreamApple.read]
    rw [isEmptyRead_readFd]
    constructor
    · rintro ⟨count, hcount, hempty⟩
      by_cases hheader : appleTunPacketHeaderLen ≤ count
      · rw [if_pos hheader] at hempty
        have hlen : count = appleTunPacketHeaderLen := by
          simp only [StreamResult.isEmptyRead, decide_true, Bool.true_and, decide_eq_true_eq]
            at hempty
          omega
        exact hcount.trans (congrArg some hlen)
      · rw [if_neg hheader] at hempty
        cases hempty
    · intro hcount
      exact ⟨_, hcount, by decide⟩

end Mio

/-! ## Datagrams -/

namespace Script

open Mio

/-- The UDP sockets receive the datagrams of the script and then block. -/
def datagramOs : UnixOs Script := { mioOs with
  udp := { mioOs.udp with
    read := fun len e =>
      match e.reads with
      | (_, data) :: reads =>
        (.ok ⟨data.take len, by rw [List.length_take]; exact Nat.min_le_left ..⟩, { e with reads })
      | [] => (.error { kind := .wouldBlock, message := "" }, e) } }

@[inherit_doc datagramOs]
def receiving : PvpnDependencies Script (MioStreams MioStream) MioStream Unit :=
  { scripted with streams := Mio.streams datagramOs mioRegistry 0 4 }

/-- The UDP stream 5 is open, and the datagrams wait for it. -/
def received (datagrams : List Bytes) : Sys Script (MioStreams MioStream) Unit where
  env := { reads := datagrams.map fun data => (.okAt0 data.length .no .no, data) }
  conn := { PvpnConnection.initial receiving plainConfig
      { streams := [⟨5, .udp {}, 1, .readable, .readable⟩]
        nextToken := 2
        registrations := [1] } with
    streamReadBuffer := List.replicate 8 0 }

/-- A datagram is read, and then the socket blocks. -/
theorem streams_drained_datagram :
    PvpnConnection.Drained receiving 5 (received [[1, 2, 3]])
      (PvpnConnection.readLog receiving 3 [5] (received [[1, 2, 3]])) := by
  have hfate : lastOf (Obs.fate 5) (PvpnConnection.readLog receiving 3 [5] (received [[1, 2, 3]])) =
      some (some (.okAt0 0 .yes .no)) := by decide +kernel
  refine (PvpnConnection.streams_drained_iff (d := receiving) rfl (by decide +kernel)).mpr ?_ 5
    List.mem_cons_self
  intro id hid res hres
  obtain rfl : id = 5 := List.mem_singleton.mp hid
  obtain rfl : .okAt0 0 .yes .no = res := by simpa [hfate] using hres
  rfl

/-- Behind an empty datagram another one is left unread. -/
theorem empty_datagram_stops_reading :
    (PvpnConnection.readFromStreams receiving 3 [5] (Hist.init (received [[], [1, 2, 3]]))).1 =
        some () ∧
      ¬ PvpnConnection.Drained receiving 5 (received [[], [1, 2, 3]])
        (PvpnConnection.readLog receiving 3 [5] (received [[], [1, 2, 3]])) ∧
      (PvpnConnection.readFromStreams receiving 3 [5]
        (Hist.init (received [[], [1, 2, 3]]))).2.now.env.reads.map (·.2) = [[1, 2, 3]] := by
  have hfate : lastOf (Obs.fate 5)
      (PvpnConnection.readLog receiving 3 [5] (received [[], [1, 2, 3]])) =
        some (some (.okAt0 0 .no .no)) := by decide +kernel
  refine ⟨by decide +kernel, ?_, by decide +kernel⟩
  unfold PvpnConnection.Drained
  rw [hfate]
  decide

end Script

end Protun
