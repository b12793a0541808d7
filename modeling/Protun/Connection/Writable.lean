import Protun.Connection.Script
import Protun.Connection.State
import Protun.Streams.Interest

/-!
# Data that waits is sent

Over mio, data that a TCP socket does not take at once waits in the stream's write buffer until the
poll reports the socket writable. Three layers have to agree for that: the buffer, the interest
registered with the poll, and `handle_stream_write_result`, which sets the interest by the result of
the write.

* `WriteInv`: every stream whose last write did not fail waits for write if its buffer is not empty,
  and only a stream that the loop waits for (`Waited`) is registered for `WRITABLE`.
* **`backlog_waits_for_write`**: it holds throughout every run in which the client opens no stream
  under an id that is still open.

The state at the observation `wrote` is in the middle of `handle_stream_write_result`, where the
interest has not been set yet; there the stream just written to is left out.
-/

namespace Protun

open Trace Mio

/-! ## The last write -/

/-- What is known of the last write on the stream `id` from an observation on: a new stream has
none. -/
def Obs.lastWrite (id : StreamId) : Obs → Option (Option StreamResult)
  | .opened streamId _ (.ok ()) => if streamId = id then some none else none
  | .wrote streamId res => if streamId = id then some (some res) else none
  | _ => none

/-- Whether the loop waits for the stream `id` to become writable, from an observation on. -/
def Obs.waits (id : StreamId) : Obs → Option Bool
  -- `handle_open` waits for a TCP stream to connect
  | .opened streamId target (.ok ()) => if streamId = id then some (target.kind ≠ .udp) else none
  | .wrote streamId (.ok _ _ _ pendingWrite) =>
    if streamId = id then some (pendingWrite = .yes) else none
  | _ => none

/-- An observation that says nothing about writes. -/
def Obs.isPlain : Obs → Bool
  | .opened .. | .wrote .. | .handled .. | .push ⟨_, .done⟩ => false
  | _ => true

theorem Obs.lastWrite_of_isPlain {o : Obs} (h : o.isPlain = true) (id : StreamId) :
    o.lastWrite id = none := by
  cases o <;> first | rfl | cases h

theorem Obs.waits_of_isPlain {o : Obs} (h : o.isPlain = true) (id : StreamId) :
    o.waits id = none := by
  cases o <;> first | rfl | cases h

/-- A write says nothing about other streams. -/
theorem Obs.waits_wrote_ne {id id' : StreamId} (h : id ≠ id') (res : StreamResult) :
    (Obs.wrote id res).waits id' = none := by
  cases res <;> first | rfl | exact if_neg h

theorem Obs.isPlain_of_isAside (o : Obs) (h : o.isAside = true) : o.isPlain = true := by
  cases o with
  | push action =>
    obtain ⟨streamId, kind⟩ := action
    cases kind <;> first | rfl | cases h
  | _ => first | rfl | cases h

theorem Obs.isPlain_of_isMessageIo (o : Obs) (h : o.isMessageIo = true) : o.isPlain = true := by
  cases o <;> first | rfl | cases h

section WriteFailed

variable {σ : Type} {l seg : List (Obs × σ)} {id : StreamId}

/-- The last write on the stream `id` returned an error. -/
def WriteFailed (l : List (Obs × σ)) (id : StreamId) : Prop :=
  ∃ e, lastOf (Obs.lastWrite id) l = some (some (.err e))

theorem writeFailed_append (h : ∀ x ∈ seg, x.1.isPlain = true) :
    WriteFailed (l ++ seg) id ↔ WriteFailed l id := by
  unfold WriteFailed
  rw [lastOf_append_of_none (fun x hx => Obs.lastWrite_of_isPlain (h x hx) id)]

theorem writeFailed_snoc_none {o : Obs} (h : o.lastWrite id = none) (s : σ) :
    WriteFailed (l ++ [(o, s)]) id ↔ WriteFailed l id := by
  unfold WriteFailed
  rw [lastOf_snoc_none h]

/-- The loop waits for the stream `id` to become writable. -/
def Waited (l : List (Obs × σ)) (id : StreamId) : Prop := lastOf (Obs.waits id) l = some true

theorem waited_append (h : ∀ x ∈ seg, x.1.isPlain = true) : Waited (l ++ seg) id ↔ Waited l id := by
  unfold Waited
  rw [lastOf_append_of_none (fun x hx => Obs.waits_of_isPlain (h x hx) id)]

theorem waited_snoc_none {o : Obs} (h : o.waits id = none) (s : σ) :
    Waited (l ++ [(o, s)]) id ↔ Waited l id := by
  unfold Waited
  rw [lastOf_snoc_none h]

theorem waited_snoc_some {o : Obs} {b : Bool} (h : o.waits id = some b) (s : σ) :
    Waited (l ++ [(o, s)]) id ↔ b = true := by
  unfold Waited
  rw [lastOf_snoc_some h, Option.some_inj]

end WriteFailed

namespace PvpnConnection

open Conn

variable {E F α : Type}

/-! ## The invariant -/

/-- What is right about the streams when `o` is observed. -/
structure WriteChecked (pre : List (Obs × Sys E (MioStreams MioStream) F)) (o : Obs)
    (s : Sys E (MioStreams MioStream) F) : Prop where
  armed : Armed (fun id => (∃ res, o = .wrote id res) ∨ WriteFailed (pre ++ [(o, s)]) id)
    (fun id => (∃ res, o = .wrote id res) ∨ Waited (pre ++ [(o, s)]) id) s.conn.streams
  handled : ∀ id bytesCount startOffset wouldBlock pendingWrite,
    o = .handled id (.ok bytesCount startOffset wouldBlock pendingWrite) →
      ∀ info ∈ s.conn.streams.streams, info.streamId = id →
        (info.registered.isWritable = true ↔ info.stream.backlog ≠ [])
  done : ∀ id, o = .push ⟨id, .done⟩ → ∀ info ∈ s.conn.streams.streams, info.streamId = id →
    info.stream.backlog = []

/-- Streams with a backlog wait for write, and did so throughout. -/
structure WriteInv (h : Hist (Sys E (MioStreams MioStream) F) Obs) : Prop where
  armed : Armed (WriteFailed h.past) (Waited h.past) h.now.conn.streams
  checked : Always WriteChecked h.past

/-- The streams are as before. -/
def SameStreams (c c' : PvpnConnection (MioStreams MioStream) F) : Prop := c'.streams = c.streams

instance isPreorder_sameStreams :
    IsPreorder (PvpnConnection (MioStreams MioStream) F) SameStreams where
  refl _ := rfl
  trans _ _ _ h₁ h₂ := Eq.trans h₂ h₁

/-- Work that leaves the streams alone. -/
abbrev Elsewhere (h h' : Hist (Sys E (MioStreams MioStream) F) Obs) : Prop :=
  Step SameStreams Obs.isPlain h h'

theorem indifferent_sameStreams : Indifferent (F := F) SameStreams where
  aside _ _ h := h.streams
  connectionState _ _ := rfl
  peers _ _ := rfl
  localAgentSettings _ _ := rfl
  network _ _ := rfl

section Checked

variable {pre : List (Obs × Sys E (MioStreams MioStream) F)} {o : Obs}
  {s : Sys E (MioStreams MioStream) F}

theorem writeChecked_of_isPlain (ho : o.isPlain = true)
    (h : Armed (WriteFailed pre) (Waited pre) s.conn.streams) : WriteChecked pre o s where
  armed := h.mono
    (fun id hid => .inr ((writeFailed_snoc_none (Obs.lastWrite_of_isPlain ho id) s).mpr hid))
    fun id hid => .inr ((waited_snoc_none (Obs.waits_of_isPlain ho id) s).mpr hid)
  handled id _ _ _ _ hh := by
    rw [hh] at ho
    cases ho
  done id hd := by
    rw [hd] at ho
    cases ho

end Checked

variable {h h' : Hist (Sys E (MioStreams MioStream) F) Obs}

theorem WriteInv.elsewhere (hs : Elsewhere h h') (hI : WriteInv h) : WriteInv h' where
  armed := by
    obtain ⟨seg, hseg, hq⟩ := hs.observed
    rw [show h'.now.conn.streams = h.now.conn.streams from hs.core, hseg]
    exact hI.armed.mono (fun id => (writeFailed_append hq).mpr) fun id => (waited_append hq).mpr
  checked := by
    refine hs.trace.always (fun seg o s hq ho => writeChecked_of_isPlain ho.1 ?_) hI.checked
    rw [show s.conn.streams = h.now.conn.streams from ho.2]
    exact hI.armed.mono (fun id => (writeFailed_append fun x hx => (hq x hx).1).mpr)
      fun id => (waited_append fun x hx => (hq x hx).1).mpr

theorem waited_elsewhere (hs : Elsewhere h h') {id : StreamId} (hw : Waited h.past id) :
    Waited h'.past id := by
  obtain ⟨seg, hseg, hq⟩ := hs.observed
  rw [hseg]
  exact (waited_append hq).mpr hw

theorem inv_of_elsewhere {x : Conn E (MioStreams MioStream) F α} (hx : Prog.Rel Elsewhere x) :
    Prog.Inv WriteInv x :=
  hx.inv fun _ _ => WriteInv.elsewhere

theorem elsewhere_of_aside {x : Conn E (MioStreams MioStream) F α} (hx : Prog.Rel Aside x) :
    Prog.Rel Elsewhere x :=
  indifferent_sameStreams.of_aside Obs.isPlain_of_isAside hx

theorem WriteInv.emit (hI : WriteInv h) {o : Obs} (ho : o.isPlain = true) : WriteInv (h.emit o) :=
  hI.elsewhere (step_emit ho h)

theorem WriteInv.set (hI : WriteInv h) {s : Sys E (MioStreams MioStream) F}
    (hs : Armed (WriteFailed h.past) (Waited h.past) s.conn.streams) : WriteInv (h.set s) :=
  ⟨hs, hI.checked⟩

/-! ## Writes -/

variable {id : StreamId} {res : StreamResult}

/-- After a write on the stream `id`, before its result has been dispatched. -/
structure Written (id : StreamId) (res : StreamResult)
    (h : Hist (Sys E (MioStreams MioStream) F) Obs) : Prop where
  armed : Armed (fun i => i = id ∨ WriteFailed h.past i)
    (fun i => (Obs.wrote id res).waits i ≠ none ∨ Waited h.past i) h.now.conn.streams
  checked : Always WriteChecked h.past
  last : lastOf (Obs.lastWrite id) h.past = some (some res)
  waited : ∀ bytesCount startOffset wouldBlock, res = .ok bytesCount startOffset wouldBlock .yes →
    Waited h.past id
  reports : ∀ info ∈ h.now.conn.streams.streams, info.streamId = id →
    MioStream.Reports res info.stream.backlog
  notClosed : res ≠ .streamClosed

/-- After the result of a write on the stream `id` has been dispatched. -/
structure Dispatched (id : StreamId) (res : StreamResult)
    (h : Hist (Sys E (MioStreams MioStream) F) Obs) : Prop extends WriteInv h where
  settled : ∀ bytesCount startOffset wouldBlock pendingWrite,
    res = .ok bytesCount startOffset wouldBlock pendingWrite →
      ∀ info ∈ h.now.conn.streams.streams, info.streamId = id →
        (info.registered.isWritable = true ↔ info.stream.backlog ≠ []) ∧
          (pendingWrite = .yes ↔ info.stream.backlog ≠ [])

/-- The stream that was written to is excused until its interest is settled. -/
theorem WriteInv.armed_wrote (hI : WriteInv h) (res : StreamResult) (stream : MioStream)
    (s : Sys E (MioStreams MioStream) F) :
    Armed (fun i => i = id ∨ WriteFailed (h.past ++ [(.wrote id res, s)]) i)
      (fun i => (Obs.wrote id res).waits i ≠ none ∨ Waited (h.past ++ [(.wrote id res, s)]) i)
      (h.now.conn.streams.setStream id stream) := by
  refine (hI.armed.setStream id stream).mono (fun i hi => ?_) fun i hi => ?_
  · by_cases hid : i = id
    · exact .inl hid
    · have hnone : (Obs.wrote id res).lastWrite i = none := if_neg (Ne.symm hid)
      exact .inr ((writeFailed_snoc_none hnone _).mpr (hi.resolve_left hid))
  · by_cases hnone : (Obs.wrote id res).waits i = none
    · exact .inr ((waited_snoc_none hnone _).mpr hi)
    · exact .inl hnone

theorem WriteInv.written (hI : WriteInv h) {stream : MioStream}
    (hr : MioStream.Reports res stream.backlog) (env : E) :
    Written id res ((h.set ⟨env, { h.now.conn with
      streams := h.now.conn.streams.setStream id stream }⟩).emit (.wrote id res)) := by
  have hlast : (Obs.wrote id res).lastWrite id = some (some res) := if_pos rfl
  refine ⟨hI.armed_wrote res stream _, ?_, lastOf_snoc_some hlast _ _, ?_, ?_, hr.notClosed⟩
  · refine always_snoc.mpr ⟨hI.checked, (hI.armed_wrote res stream _).mono
      (fun i hi => hi.imp_left ?_) fun i hi => hi.imp_left ?_, ?_, ?_⟩
    · rintro rfl
      exact ⟨res, rfl⟩
    · intro hwaits
      by_cases hid : id = i
      · exact ⟨res, hid ▸ rfl⟩
      · exact absurd (Obs.waits_wrote_ne hid res) hwaits
    · intro _ _ _ _ _ hh
      cases hh
    · intro _ hd
      cases hd
  · rintro count offset block rfl
    have hwaits : (Obs.wrote id (.ok count offset block .yes)).waits id = some true := if_pos rfl
    exact (waited_snoc_some hwaits _).mpr rfl
  · intro info' hi' hid
    obtain ⟨info, hi, rfl⟩ := mem_setStream hI.armed.distinct hi'
    by_cases hinfo : info.streamId = id
    · rw [if_pos hinfo]
      exact hr
    · rw [if_neg hinfo] at hid
      exact absurd hid hinfo

/-- A new stream has nothing to send, so it needs no excuse, and is waited for as its target
says. -/
theorem writeInv_opened {target : OpenStream} {result : Except IoError Unit}
    (ha : Armed (fun i => i ≠ id ∧ WriteFailed h.past i)
      (fun i => i ≠ id ∧ Waited h.past i ∨ (Obs.opened id target result).waits i = some true)
      h.now.conn.streams)
    (hc : Always WriteChecked h.past) : WriteInv (h.emit (.opened id target result)) := by
  have harmed : Armed (WriteFailed (h.past ++ [(.opened id target result, h.now)]))
      (Waited (h.past ++ [(.opened id target result, h.now)])) h.now.conn.streams := by
    refine ha.mono (fun i hi => (writeFailed_snoc_none ?_ _).mpr hi.2) fun i hi => ?_
    · cases result with
      | error e => rfl
      | ok u => exact if_neg (Ne.symm hi.1)
    · rcases hi with ⟨hne, hi⟩ | hi
      · refine (waited_snoc_none ?_ _).mpr hi
        cases result with
        | error e => rfl
        | ok u => exact if_neg (Ne.symm hne)
      · exact (waited_snoc_some hi _).mpr rfl
  refine ⟨harmed, always_snoc.mpr ⟨hc, harmed.mono (fun _ => .inr) fun _ => .inr, ?_, ?_⟩⟩
  · intro _ _ _ _ _ hh
    cases hh
  · intro _ hd
    cases hd

theorem Written.congr (hW : Written id res h) (hpast : h'.past = h.past)
    (hstreams : h'.now.conn.streams = h.now.conn.streams) : Written id res h' where
  armed := by
    rw [hpast, hstreams]
    exact hW.armed
  checked := hpast ▸ hW.checked
  last := hpast ▸ hW.last
  waited := hpast ▸ hW.waited
  reports := hstreams ▸ hW.reports
  notClosed := hW.notClosed

/-- A stream whose write failed is excused. -/
theorem Written.writeInv {e : IoError} (hW : Written id (.err e) h) : WriteInv h where
  armed := hW.armed.mono (fun _ hi => hi.elim (fun hid => hid ▸ ⟨e, hW.last⟩) fun hi => hi)
    fun _ hi => hi.resolve_left fun hwaits => hwaits rfl
  checked := hW.checked

/-- A stream that was told to wait for write iff a write is pending has settled. -/
theorem Written.setPoll {registry : Registry E}
    (hrereg : ∀ token interest e, (registry.reregister token interest e).1 = .ok ())
    {bytesCount startOffset : Nat} {wouldBlock : WouldBlock} {pendingWrite : PendingWrite}
    (hW : Written id (.ok bytesCount startOffset wouldBlock pendingWrite) h) (e env : E) :
    Dispatched id (.ok bytesCount startOffset wouldBlock pendingWrite)
      (h.set ⟨env, { h.now.conn with
        streams := (h.now.conn.streams.setPollEnableWaitForWrite registry id
          (pendingWrite = .yes) e).1 }⟩) := by
  have hreports : ∀ info ∈ h.now.conn.streams.streams, info.streamId = id →
      (pendingWrite = .yes ↔ info.stream.backlog ≠ []) :=
    fun info hi hid => (hW.reports info hi hid).ok _ _ _ _ rfl
  refine ⟨⟨?_, hW.checked⟩, ?_⟩
  · have hwait : ∀ info ∈ h.now.conn.streams.streams, info.streamId = id →
        info.stream.backlog ≠ [] → decide (pendingWrite = .yes) = true :=
      fun info hi hid hne => decide_eq_true ((hreports info hi hid).mpr hne)
    refine (hW.armed.setPollEnableWaitForWrite hrereg id hwait e).mono
      (fun _ hi => hi.2.resolve_left hi.1) fun i hi => ?_
    split at hi
    · rename_i hid
      obtain rfl := of_decide_eq_true hi
      exact hid ▸ hW.waited _ _ _ rfl
    · rename_i hid
      exact hi.resolve_left fun hwaits => hwaits (Obs.waits_wrote_ne (Ne.symm hid) _)
  · rintro _ _ _ _ ⟨⟩ info' hi' hid
    obtain ⟨info, hi, rfl⟩ := mem_setPollEnableWaitForWrite hrereg hW.armed hi'
    by_cases hinfo : info.streamId = id
    · rw [if_pos hinfo, isWritable_wanted, decide_eq_true_iff]
      exact ⟨hreports info hi hinfo, hreports info hi hinfo⟩
    · rw [if_neg hinfo] at hid
      exact absurd hid hinfo

theorem Dispatched.set_env (hD : Dispatched id res h) (env : E) :
    Dispatched id res (h.set { h.now with env }) :=
  ⟨hD.toWriteInv.set hD.armed, hD.settled⟩

theorem Dispatched.emit_done (hD : Dispatched id res h)
    (hempty : ∀ info ∈ h.now.conn.streams.streams, info.streamId = id → info.stream.backlog = []) :
    Dispatched id res (h.emit (.push ⟨id, .done⟩)) := by
  have harmed : Armed (WriteFailed (h.past ++ [(.push ⟨id, .done⟩, h.now)]))
      (Waited (h.past ++ [(.push ⟨id, .done⟩, h.now)])) h.now.conn.streams :=
    hD.armed.mono (fun _ => (writeFailed_snoc_none rfl _).mpr) fun _ => (waited_snoc_none rfl _).mpr
  refine ⟨⟨harmed, always_snoc.mpr ⟨hD.checked, harmed.mono (fun _ => .inr) fun _ => .inr, ?_, ?_⟩⟩,
    hD.settled⟩
  · intro _ _ _ _ _ hh
    cases hh
  · rintro _ ⟨⟩
    exact hempty

theorem Dispatched.emit_handled (hD : Dispatched id res h) :
    WriteInv (h.emit (.handled id res)) := by
  have harmed : Armed (WriteFailed (h.past ++ [(.handled id res, h.now)]))
      (Waited (h.past ++ [(.handled id res, h.now)])) h.now.conn.streams :=
    hD.armed.mono (fun _ => (writeFailed_snoc_none rfl _).mpr) fun _ => (waited_snoc_none rfl _).mpr
  refine ⟨harmed, always_snoc.mpr ⟨hD.checked, harmed.mono (fun _ => .inr) fun _ => .inr, ?_, ?_⟩⟩
  · rintro _ bytesCount startOffset wouldBlock pendingWrite ⟨⟩
    exact fun info hi hid => (hD.settled _ _ _ _ rfl info hi hid).1
  · intro _ hd
    cases hd

/-! ## The functions that touch the streams -/

section Functions

variable (d : PvpnDependencies E (MioStreams MioStream) MioStream F) {os : UnixOs E}
  {registry : Registry E} {m : Nat}

theorem dispatchWriteResult_ok (bytesCount startOffset : Nat) (wouldBlock : WouldBlock)
    (pendingWrite : PendingWrite) (h : Hist (Sys E (MioStreams MioStream) F) Obs) :
    dispatchWriteResult d id (.ok bytesCount startOffset wouldBlock pendingWrite) h =
      Prog.when (pendingWrite = .no ∧ d.ids.tun < id) (push d ⟨id, .done⟩)
        (setPollEnableWaitForWrite d id (pendingWrite = .yes) h).2 := rfl

/-- Taking note of a TUN error is not observed and leaves the streams alone. -/
theorem noteTunResult_eq (res : StreamResult) (h : Hist (Sys E (MioStreams MioStream) F) Obs) :
    ∃ h', noteTunResult d id res h = (some (), h') ∧ h'.past = h.past ∧
      h'.now.conn.streams = h.now.conn.streams := by
  unfold noteTunResult Prog.when
  split
  · exact ⟨_, rfl, rfl, rfl⟩
  · exact ⟨_, rfl, rfl, rfl⟩

variable (hd : d.streams = Mio.streams os registry d.ids.tun m)
include hd

theorem armed_openStream {excused waited : StreamId → Prop} {target : OpenStream}
    (ha : Armed excused waited h.now.conn.streams)
    (hfree : ∀ info ∈ h.now.conn.streams.streams, info.streamId ≠ id)
    (hwaited : (openStream d id target h).1 = some (.ok ()) → target.kind ≠ .udp → waited id) :
    Armed excused waited (openStream d id target h).2.now.conn.streams := by
  unfold openStream at hwaited ⊢
  rw [hd] at hwaited ⊢
  by_cases hudp : target.kind = .udp
  · simp only [streamsDo, hudp, if_true]
    refine ha.openNewStream registry (fun _ _ _ => MioStream.newUdpSocket_backlog) hfree
      h.now.env ?_
    intro _ hw
    cases hw
  · simp only [streamsDo, hudp, if_false] at hwaited ⊢
    refine ha.openNewStream registry (fun _ _ _ => MioStream.newTcpSocket_backlog) hfree
      h.now.env ?_
    exact fun hok _ => hwaited (congrArg some hok) hudp

section Reregister

variable (hrereg : ∀ token interest e, (registry.reregister token interest e).1 = .ok ())
include hrereg

theorem Written.dispatchWriteResult (hW : Written id res h) :
    Dispatched id res (dispatchWriteResult d id res h).2 := by
  cases res with
  | err e =>
    have hI := inv_of_elsewhere (elsewhere_of_aside (aside_handleStreamError d id e)) h hW.writeInv
    refine ⟨hI, ?_⟩
    intro _ _ _ _ hres
    cases hres
  | streamClosed => exact absurd rfl hW.notClosed
  | ok bytesCount startOffset wouldBlock pendingWrite =>
    rw [dispatchWriteResult_ok]
    unfold setPollEnableWaitForWrite
    rw [hd]
    have hset := hW.setPoll hrereg h.now.env (h.now.conn.streams.setPollEnableWaitForWrite registry
      id (pendingWrite = .yes) h.now.env).2
    by_cases hdone : pendingWrite = .no ∧ d.ids.tun < id
    · rw [Prog.when_pos hdone]
      refine (hset.emit_done fun info hi hid => ?_).set_env _
      have hpending := (hset.settled _ _ _ _ rfl info hi hid).2
      simpa [hdone.1] using hpending
    · rw [Prog.when_neg hdone]
      exact hset

/-- The rest of `handle_stream_write_result`, from its first observation on. -/
theorem Written.handleStreamWriteResult (hW : Written id res (h.emit (.wrote id res))) :
    WriteInv (handleStreamWriteResult d id res h).2 := by
  obtain ⟨h', hnote, hpast, hstreams⟩ := noteTunResult_eq d res (h.emit (.wrote id res))
  have hD := (hW.congr hpast hstreams).dispatchWriteResult d hd hrereg
  have heq : PvpnConnection.handleStreamWriteResult d id res h =
      (PvpnConnection.dispatchWriteResult d id res >>= fun _ => Prog.emit (.handled id res)) h' :=
    Prog.bind_of_some (x := noteTunResult d id res) hnote
  rw [heq, Prog.bind_apply]
  cases hr : PvpnConnection.dispatchWriteResult d id res h' with
  | mk r h'' =>
    rw [hr] at hD
    cases r with
    | none => exact hD.toWriteInv
    | some u => exact hD.emit_handled

theorem inv_writeStream {write : MioStream → E → Option (StreamResult × MioStream × E)}
    (hwrite : ∀ x e res x' e', write x e = some (res, x', e') →
      MioStream.Reports res x'.backlog) :
    Prog.Inv WriteInv (writeStream d id write) := by
  intro h hI
  unfold writeStream
  rw [conn_bind]
  cases hg : d.streams.getStream h.now.conn.streams id with
  | none => exact hI
  | some stream =>
    dsimp only
    rw [Prog.bind_apply]
    unfold streamDo
    cases hw : write stream h.now.env with
    | none => exact hI
    | some r =>
      obtain ⟨res, stream', env⟩ := r
      have hW : Written id res _ := hI.written (hwrite _ _ _ _ _ hw) env
      rw [hd]
      exact hW.handleStreamWriteResult d hd hrereg

theorem inv_handleWrite (data : Bytes) : Prog.Inv WriteInv (handleWrite d id data) := by
  rcases handleWrite_cases d id data with heq | ⟨key, heq⟩ | heq
  · exact heq ▸ inv_of_elsewhere (elsewhere_of_aside (aside_writePcap d data))
  · exact heq ▸ inv_of_elsewhere (step_inform rfl _)
  · rw [heq]
    refine inv_writeStream d hd hrereg fun x e res x' e' hw => ?_
    rw [hd] at hw
    exact MioStream.write_reports hw

theorem inv_pollWrite : Prog.Inv WriteInv (writeStream d id d.streams.writeFromBuffer) := by
  refine inv_writeStream d hd hrereg fun x e res x' e' hw => ?_
  rw [hd] at hw
  exact MioStream.writeFromBuffer_reports hw

theorem WriteInv.waitForWrite (hI : WriteInv h) (hw : Waited h.past id) :
    WriteInv (setPollEnableWaitForWrite d id true h).2 := by
  have hset := hI.armed.setPollEnableWaitForWrite hrereg id (fun _ _ _ _ => rfl) h.now.env
  unfold setPollEnableWaitForWrite
  rw [hd]
  refine hI.set (s := ⟨_, { h.now.conn with streams := _ }⟩) (hset.mono (fun _ => And.right) ?_)
  intro i hi
  split at hi
  · rename_i hid
    exact hid ▸ hw
  · exact hi

theorem WriteInv.handleOpen (hI : WriteInv h)
    (hfree : ∀ info ∈ h.now.conn.streams.streams, info.streamId ≠ id) (target : OpenStream) :
    WriteInv (handleOpen d id target h).2 := by
  obtain ⟨result, hopen⟩ : ∃ result, openStream d id target h =
      (some result, (openStream d id target h).2) := ⟨_, rfl⟩
  unfold PvpnConnection.handleOpen
  rw [Prog.bind_of_some hopen]
  have hwaits : target.kind ≠ .udp → (Obs.opened id target (.ok ())).waits id = some true :=
    fun hkind => (if_pos rfl).trans (congrArg some (decide_eq_true hkind))
  have hopened : WriteInv ((openStream d id target h).2.emit (.opened id target result)) := by
    refine writeInv_opened (armed_openStream d hd ?_ hfree fun hok hkind => .inr ?_) hI.checked
    · exact (hI.armed.of_free hfree).mono (fun _ hi => hi) fun _ => .inl
    · rw [hopen] at hok
      obtain rfl := Option.some_inj.mp hok
      exact hwaits hkind
  -- from here on the stream is waited for, if it is to be
  let Opened := fun h : Hist (Sys E (MioStreams MioStream) F) Obs =>
    WriteInv h ∧ ((Obs.opened id target result).waits id = some true → Waited h.past id)
  have helsewhere : ∀ {x : Conn E (MioStreams MioStream) F Unit}, Prog.Rel Elsewhere x →
      Prog.Inv Opened x :=
    fun hx h hO => ⟨hO.1.elsewhere (hx h), fun hw => waited_elsewhere (hx h) (hO.2 hw)⟩
  refine (Prog.leaves_bind (I := Opened)
    ⟨hopened, fun hw => (waited_snoc_some hw _).mpr rfl⟩ fun _ => ?_).1
  cases result with
  | error e => exact helsewhere (elsewhere_of_aside (aside_handleStreamError d id e))
  | ok u =>
    refine Prog.inv_bind (helsewhere (step_update fun _ => rfl)) fun _ => ?_
    refine Prog.inv_when fun hkind h hO => ⟨?_, hO.2⟩
    exact hO.1.waitForWrite d hd hrereg (hO.2 (hwaits hkind))

end Reregister

theorem inv_closeStream : Prog.Inv WriteInv (closeStream d id) := by
  intro h hI
  have hclose := hI.armed.closeStream registry id h.now.env
  unfold closeStream
  rw [hd]
  exact (hI.set (s := ⟨_, { h.now.conn with streams := _ }⟩) hclose).emit rfl

/-- A stream that is used without a write keeps its backlog. -/
theorem WriteInv.setStream (hI : WriteInv h) {stream stream' : MioStream}
    (hg : d.streams.getStream h.now.conn.streams id = some stream)
    (hb : stream'.backlog = stream.backlog) (env : E) :
    WriteInv (h.set ⟨env, { h.now.conn with
      streams := d.streams.setStream h.now.conn.streams id stream' }⟩) := by
  rw [hd] at hg ⊢
  obtain ⟨info, hinfo, rfl⟩ := Option.map_eq_some_iff.mp hg
  obtain ⟨hi, rfl⟩ := getStreamById_eq_some hinfo
  exact hI.set (hI.armed.setStream_of_backlog_eq hi hb)

theorem inv_shutdownWrite : Prog.Inv WriteInv (shutdownWrite d id) := by
  intro h hI
  unfold shutdownWrite
  rw [conn_bind]
  cases hg : d.streams.getStream h.now.conn.streams id with
  | none => exact hI
  | some stream =>
    have hb : (d.streams.shutdownWrite stream h.now.env).1.backlog = stream.backlog := by
      rw [hd]
      exact MioStream.shutdownWrite_backlog stream h.now.env
    exact (hI.setStream d hd hg hb _).emit rfl

theorem WriteInv.readInto (hI : WriteInv h) {stream : MioStream}
    (hg : d.streams.getStream h.now.conn.streams id = some stream) :
    WriteInv (readInto d id stream h).2 := by
  have hb : (d.streams.read stream h.now.conn.streamReadBuffer h.now.env).2.1.backlog =
      stream.backlog := by
    rw [hd]
    exact MioStream.read_backlog stream _ h.now.env
  unfold PvpnConnection.readInto
  rw [conn_bind]
  refine Prog.leaves_bind (hI.setStream d hd hg hb _) fun r => inv_of_elsewhere ?_
  refine Prog.rel_bind (step_update fun _ => rfl) fun _ => ?_
  exact Prog.rel_bind (step_emit rfl) fun _ => Prog.rel_pure r.1

theorem inv_updateTun (tunInfo : TunStreamInfo) : Prog.Inv WriteInv (updateTun d tunInfo) := by
  intro h hI
  have htun := hI.armed.updateTun registry os d.ids.tun tunInfo h.now.env
  unfold updateTun
  refine Prog.leaves_bind ?_ fun result => ?_
  · rw [hd]
    exact hI.set (s := ⟨_, { h.now.conn with streams := _ }⟩) htun
  · refine inv_of_elsewhere (Prog.rel_bind (step_emit rfl) fun _ => ?_)
    cases result with
    | error e => exact Prog.rel_pure ()
    | ok u => exact step_update fun _ => rfl

theorem elsewhere_waitForStreams : Prog.Rel Elsewhere (waitForStreams d) := by
  refine Prog.rel_bind (step_pollDeadline d) fun deadline => ?_
  refine Prog.rel_bind (step_emit rfl) fun _ => ?_
  refine Prog.rel_bind (fun h => ?_) fun r => Prog.rel_bind (step_emit rfl) fun _ => Prog.rel_pure r
  refine step_set ?_
  rw [hd]
  -- the poll only looks up streams
  show (MioStreams.poll registry deadline h.now.conn.streams h.now.env).2.1 = h.now.conn.streams
  unfold MioStreams.poll
  split <;> rfl

theorem inv_handleMessage_streams (message : PvpnMessage) :
    Prog.Inv WriteInv (handleMessage d message) := by
  by_cases hupdate : ∃ u, message = .update u
  · obtain ⟨u, rfl⟩ := hupdate
    refine Prog.inv_bind (inv_of_elsewhere (step_ifSome fun peers => ?_)) fun _ => ?_
    · exact step_updatePeers d (fun _ _ => rfl) (fun _ => rfl) (fun _ => rfl) _
    refine Prog.inv_bind (inv_of_elsewhere (step_ifSome fun settings => ?_)) fun _ => ?_
    · exact step_updateLocalAgentSettings d (fun _ _ => rfl) (fun _ => rfl) settings
    cases u.tun with
    | none => exact Prog.inv_pure ()
    | some tun => exact inv_updateTun d hd tun
  · refine inv_of_elsewhere ?_
    by_cases hdisconnect : message = .disconnect
    · subst hdisconnect
      exact step_update fun _ => rfl
    · exact indifferent_sameStreams.handleMessage d Obs.isPlain_of_isMessageIo hdisconnect
        fun u hu => absurd ⟨u, hu⟩ hupdate

theorem inv_receiveMessage_streams : Prog.Inv WriteInv (receiveMessage d) := by
  refine Prog.inv_bind (inv_of_elsewhere (step_ask (fun _ => rfl) _)) fun message => ?_
  cases message with
  | none => exact Prog.inv_pure _
  | some message =>
    exact Prog.inv_bind (inv_handleMessage_streams d hd message) fun _ => Prog.inv_pure _

end Functions

/-! ## Runs -/

/-- The client is not handing out an open under an id that is still open. -/
def opensUnused (x : Obs × Sys E (MioStreams MioStream) F) : Bool :=
  match x.1 with
  | .pulled (some ⟨id, .openStream ..⟩) => x.2.conn.streams.streams.all (·.streamId ≠ id)
  | _ => true

/-- The client never opens an id that is still open. -/
def OpensUnused (l : List (Obs × Sys E (MioStreams MioStream) F)) : Prop :=
  ∀ x ∈ l, opensUnused x = true

/-- The invariant, as long as the client opens unused ids only. -/
def WriteInvIf (h : Hist (Sys E (MioStreams MioStream) F) Obs) : Prop :=
  OpensUnused h.past → WriteInv h

theorem OpensUnused.of_extends {Q : Obs → Sys E (MioStreams MioStream) F → Prop}
    (hext : Extends Q h h') (hopens : OpensUnused h'.past) : OpensUnused h.past := by
  obtain ⟨seg, hseg, -⟩ := hext
  intro x hx
  exact hopens x (hseg ▸ List.mem_append_left seg hx)

theorem WriteInvIf.elsewhere (hs : Elsewhere h h') (hI : WriteInvIf h) : WriteInvIf h' :=
  fun hopens => (hI (hopens.of_extends hs.observed)).elsewhere hs

section Runs

variable (d : PvpnDependencies E (MioStreams MioStream) MioStream F) {os : UnixOs E}
  {registry : Registry E} {m : Nat} (hd : d.streams = Mio.streams os registry d.ids.tun m)
  (hrereg : ∀ token interest e, (registry.reregister token interest e).1 = .ok ())
include hd hrereg

theorem WriteInv.handleAction (hI : WriteInv h) {action : Action}
    (hopens : opensUnused (.pulled (some action), h.now) = true) :
    WriteInv (handleAction d action h).2 := by
  obtain ⟨id, kind⟩ := action
  cases kind with
  | openStream target firstWrite =>
    have hfree : ∀ info ∈ h.now.conn.streams.streams, info.streamId ≠ id := by
      simpa [opensUnused] using hopens
    refine Prog.leaves_bind (hI.handleOpen d hd hrereg hfree target) fun _ => ?_
    cases firstWrite with
    | none => exact Prog.inv_pure ()
    | some data => exact inv_handleWrite d hd hrereg data
  | write data => exact inv_handleWrite d hd hrereg data h hI
  | close => exact inv_closeStream d hd h hI
  | shutdown => exact inv_shutdownWrite d hd h hI
  | setOption | read _ | error _ | done => exact hI

theorem inv_pullAction_streams : Prog.Inv WriteInvIf (pullAction d) := by
  refine Prog.inv_bind (fun h => WriteInvIf.elsewhere (step_query _ h)) fun b => ?_
  cases b with
  | false => exact Prog.inv_pure false
  | true =>
    intro h hI
    obtain ⟨a, h₁, hask, hmem⟩ : ∃ a h₁, ask .pulled d.client.pull h = (some a, h₁) ∧
        (.pulled a, h₁.now) ∈ h₁.past := ⟨_, _, rfl, by simp⟩
    have hI₁ : WriteInvIf h₁ := by
      have hs : Elsewhere h (ask .pulled d.client.pull h).2 := step_ask (fun _ => rfl) _ h
      rw [hask] at hs
      exact hI.elsewhere hs
    simp only [if_true]
    rw [Prog.bind_of_some hask]
    cases a with
    | none => exact hI₁
    | some action =>
      intro hopens
      have hframe : Prog.Rel (Frame Obs.isIo) (do handleAction d action; pure true) :=
        Prog.rel_bind (frame_handleAction d action) fun _ => Prog.rel_pure true
      have hopens₁ : OpensUnused h₁.past := hopens.of_extends (hframe h₁).observed
      exact Prog.leaves_bind ((hI₁ hopens₁).handleAction d hd hrereg (hopens₁ _ hmem))
        fun _ => Prog.inv_pure true

theorem kept_writeInvIf : Kept d WriteInvIf where
  aside _ _ ha :=
    WriteInvIf.elsewhere (ha.mono (fun _ _ => Untouched.streams) Obs.isPlain_of_isAside)
  pull := inv_pullAction_streams d hd hrereg
  read streamId stream h hg hI hopens :=
    (hI (hopens.of_extends (frame_readInto d streamId stream h).observed)).readInto d hd hg
  write streamId h hI hopens :=
    inv_pollWrite d hd hrereg h (hI (hopens.of_extends (frame_writeStream d streamId _ h).observed))
  agent h := WriteInvIf.elsewhere
    (step_pullLocalAgent d (fun _ _ _ => rfl) (fun _ => rfl) (fun _ _ => rfl) h)
  wait h := WriteInvIf.elsewhere (elsewhere_waitForStreams d hd h)
  receive h hI hopens :=
    inv_receiveMessage_streams d hd h (hI (hopens.of_extends (api_receiveMessage d h).observed))
  updateState h := WriteInvIf.elsewhere (step_updateState d (fun _ _ _ => rfl) (fun _ _ => rfl)
    (fun _ _ _ => rfl) (fun _ => rfl) (fun _ => rfl) (fun _ => rfl) h)
  loopEnd h := WriteInvIf.elsewhere
    (indifferent_sameStreams.onConnectionLoopEnd d Obs.isPlain_of_isMessageIo rfl h)

theorem writeInv_exec {tun : Option Int} {streams : MioStreams MioStream} {e₀ e₁ : E}
    (hnew : MioStreams.new registry d.ids.tun (tun.map (MioStream.newTun os)) e₀ =
      (.ok streams, e₁))
    (cfg : InitialConfig) (env : E) (n : Nat)
    (hopens : OpensUnused (exec d cfg streams env n).2.past) :
    WriteInv (exec d cfg streams env n).2 := by
  have hinit : WriteInv (Hist.init ⟨env, initial d cfg streams⟩) := by
    refine ⟨armed_new (fun stream hs => ?_) hnew, always_nil⟩
    obtain ⟨fd, -, rfl⟩ := Option.map_eq_some_iff.mp hs
    exact MioStream.newTun_backlog fd
  have hexec : Prog.Inv WriteInvIf (do new d cfg; run d n) := by
    refine Prog.inv_bind (fun h => WriteInvIf.elsewhere ?_)
      fun _ => (kept_writeInvIf d hd hrereg).run n
    exact indifferent_sameStreams.new d Obs.isPlain_of_isMessageIo cfg h
  exact hexec _ (fun _ => hinit) hopens

/-- **Data that waits is sent.** The streams are those of mio, `reregister` succeeds, and the client
opens no stream under an id that is still open. Then throughout every run and after it, a stream
whose last write did not fail waits for write if its buffer is not empty; after every write that
returned `Ok` it waits for write iff its buffer is not empty; and `Action::done` is pushed only
when the buffer is empty. -/
theorem backlog_waits_for_write {tun : Option Int} {streams : MioStreams MioStream} {e₀ e₁ : E}
    (hnew : MioStreams.new registry d.ids.tun (tun.map (MioStream.newTun os)) e₀ =
      (.ok streams, e₁))
    (cfg : InitialConfig) (env : E) (n : Nat)
    (hopens : OpensUnused (exec d cfg streams env n).2.past) :
    (∀ info ∈ (exec d cfg streams env n).2.now.conn.streams.streams,
      ¬ WriteFailed (exec d cfg streams env n).2.past info.streamId →
        info.stream.backlog ≠ [] → info.registered.isWritable = true) ∧
    Always (fun pre o s =>
      (∀ info ∈ s.conn.streams.streams, (∀ res, o ≠ .wrote info.streamId res) →
        ¬ WriteFailed (pre ++ [(o, s)]) info.streamId →
          info.stream.backlog ≠ [] → info.registered.isWritable = true) ∧
      (∀ id bytesCount startOffset wouldBlock pendingWrite,
        o = .handled id (.ok bytesCount startOffset wouldBlock pendingWrite) →
          ∀ info ∈ s.conn.streams.streams, info.streamId = id →
            (info.registered.isWritable = true ↔ info.stream.backlog ≠ [])) ∧
      (∀ id, o = .push ⟨id, .done⟩ → ∀ info ∈ s.conn.streams.streams, info.streamId = id →
        info.stream.backlog = []))
      (exec d cfg streams env n).2.past := by
  have hI := writeInv_exec d hd hrereg hnew cfg env n hopens
  refine ⟨hI.armed.armed, hI.checked.imp fun pre o s hc => ⟨fun info hi hwrote hfailed => ?_,
    hc.handled, hc.done⟩⟩
  refine hc.armed.armed info hi ?_
  rintro (⟨res, ho⟩ | hf)
  · exact hwrote res ho
  · exact hfailed hf

end Runs

end PvpnConnection

/-! ## A run -/

namespace Script

/-- A socket that takes as many bytes as the script says, or all of them. -/
def socket : FdOs Script where
  write data e :=
    match e.writes with
    | .ok count _ _ _ :: writes =>
      (.ok ⟨min count data.length, Nat.lt_succ_of_le (Nat.min_le_right ..)⟩, { e with writes })
    | .err err :: writes => (.error err, { e with writes })
    | _ => (.ok (Fin.last data.length), e)
  read _ e := (.error { kind := .wouldBlock, message := "" }, e)

/-- Every socket can be opened. -/
def mioOs : UnixOs Script where
  tcp := { socket with shutdown := fun e => e }
  udp := socket
  tun := socket
  apple := false
  connectTcp _ e := (.ok (), e)
  connectUdp _ e := (.ok (), e)

/-- A poll whose events have the tokens that the script gives as stream ids. -/
def mioRegistry : Registry Script where
  register _ _ e := (.ok (), e)
  reregister _ _ e := (.ok (), e)
  deregister _ e := e
  poll _ e :=
    let event := fun r : PollResult =>
      { token := UInt64.ofNat r.streamId.toNat, isReadable := r.isReadable
        isWritable := r.isWritable, isError := r.isError }
    (.ok ((pop [] e.polls).1.map event), { e with polls := (pop [] e.polls).2 })

/-- The world of a script with the streams of mio. -/
def scriptedMio : PvpnDependencies Script (MioStreams MioStream) MioStream Unit :=
  { scripted with streams := Mio.streams mioOs mioRegistry 0 4 }

/-- No TUN device and no sockets yet. -/
def noStreams : MioStreams MioStream := { streams := [], nextToken := 1, registrations := [] }

/-- What is observed in the run of a script with the streams of mio. -/
abbrev mioLog (script : Script) (n : Nat) : List (Obs × Sys Script (MioStreams MioStream) Unit) :=
  (PvpnConnection.exec scriptedMio plainConfig noStreams script n).2.past

/-- The socket takes one byte of three and then blocks; a poll reports it writable. -/
def partialWrite : Script where
  messages := [none, some .disconnect]
  actions := [some ⟨5, .openStream ⟨.tcp, ⟨.v4 0x01020304, 443⟩⟩ (some [1, 2, 3])⟩, none]
  writes := [.okAt0 1 .no .no, .err { kind := .wouldBlock, message := "" }]
  polls := [[{ streamId := 1, isReadable := false, isWritable := true, isError := false }]]

/-- The backlogs and the interest after each write of a run. -/
def afterWrites (l : List (Obs × Sys Script (MioStreams MioStream) Unit)) :
    List (List (List Bytes × Bool)) :=
  l.filterMap fun x =>
    match x.1 with
    | .handled _ _ => some <| x.2.conn.streams.streams.map fun info =>
        (info.stream.backlog, info.registered.isWritable)
    | _ => none

/-- The streams that `Action::done` is pushed for. -/
def dones (l : List (Obs × Sys Script (MioStreams MioStream) Unit)) : List StreamId :=
  l.filterMap fun x =>
    match x.1 with
    | .push ⟨id, .done⟩ => some id
    | _ => none

/-- The two bytes left wait for write until the poll has sent them, and then `Action::done` is
pushed. -/
theorem partialWrite_waits :
    afterWrites (mioLog partialWrite 3) = [[([[2, 3]], true)], [([], false)]] ∧
    dones (mioLog partialWrite 3) = [5] ∧
    Always (fun _ o s => ∀ id, o = .push ⟨id, .done⟩ → ∀ info ∈ s.conn.streams.streams,
      info.streamId = id → info.stream.backlog = []) (mioLog partialWrite 3) := by
  have hnew : MioStreams.new mioRegistry scriptedMio.ids.tun
      ((none : Option Int).map (MioStream.newTun mioOs)) partialWrite =
        (.ok noStreams, partialWrite) := rfl
  have hopens : PvpnConnection.OpensUnused (mioLog partialWrite 3) := by
    unfold PvpnConnection.OpensUnused
    decide +kernel
  have hwaits := (PvpnConnection.backlog_waits_for_write scriptedMio rfl (fun _ _ _ => rfl) hnew
    plainConfig partialWrite 3 hopens).2
  exact ⟨by decide +kernel, by decide +kernel, hwaits.imp fun _ _ _ h => h.2.2⟩

end Script

end Protun
