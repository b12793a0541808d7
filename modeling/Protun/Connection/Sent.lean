import Protun.Connection.Acks
import Protun.Connection.Stalled
import Protun.Streams.Carried

/-!
# Every byte of the client reaches its socket

The client writes to a TCP stream with `Action::write`, and with the first write of the action that
opens it. On its way to the socket the data passes through `pull_from_client`, `handle_write` and
the stream's write buffer, which `handle_poll_results` empties as the socket gets ready. In between
the thread may open, close, read and shut down streams, replace the TUN, poll and fail.

`submitted id` is what the client has written to the stream `id` since it last opened it, read off
the history. `Conveyed id` says that the outbox of the stream is accounted for when something is
observed: what the socket has accepted, followed by what waits in the write buffer, is what has been
submitted, and if `Action::done` is pushed for the stream, the socket has accepted all of it. The
moment at which the stream has just been opened and the first write is yet to come is the only one
at which this is not so.

* The client must not open a stream under an id that is still open (`OpensClosed`): the new stream
  would not be found. The ids under which `handle_write` stores data are no streams.
* The sets of streams enter by their contract `Streams.Carries`, which both have.
* A write that never returns ends the run with the data not yet in the buffer, so the invariant is
  one of those that a call may break by not returning (`KeptOrStalled`).
* **`bytes_reach_sockets`**: with the streams of mio and with those of Windows, in every run, every
  TCP stream is accounted for at every observation.
-/

namespace Protun

open Trace

/-- The ids under which `handle_write` stores data. -/
def ReservedIds.stored (ids : ReservedIds) : List StreamId :=
  [ids.pcap, ids.privkey, ids.cert, ids.muonAuth]

/-! ## What the client has submitted -/

/-- What `o` makes of the bytes `sent` so far to the stream `id`. -/
def Obs.feed (id : StreamId) (sent : Bytes) : Obs → Bytes
  | .pulled (some ⟨streamId, .openStream _ firstWrite⟩) =>
    if streamId = id then firstWrite.getD [] else sent
  | .pulled (some ⟨streamId, .write data⟩) => if streamId = id then sent ++ data else sent
  | _ => sent

/-- The bytes that the client has written to the stream `id` since it last opened it. -/
def submitted {σ : Type} (id : StreamId) (l : List (Obs × σ)) : Bytes :=
  l.foldl (fun sent x => x.1.feed id sent) []

/-- An observation that neither opens or feeds the stream `id` nor acknowledges a write on it. -/
def Obs.isIdle (id : StreamId) : Obs → Bool
  | .pulled (some ⟨streamId, .openStream ..⟩) | .pulled (some ⟨streamId, .write _⟩)
  | .push ⟨streamId, .done⟩ => streamId ≠ id
  | _ => true

section Submitted

variable {σ : Type} {id : StreamId} {l seg : List (Obs × σ)}

theorem Obs.feed_of_isIdle {o : Obs} (h : o.isIdle id = true) (sent : Bytes) :
    o.feed id sent = sent := by
  unfold Obs.feed
  split
  · exact if_neg (of_decide_eq_true h)
  · exact if_neg (of_decide_eq_true h)
  · rfl

theorem Obs.not_done_of_isIdle {o : Obs} (h : o.isIdle id = true) : o ≠ .push ⟨id, .done⟩ := by
  rintro rfl
  exact absurd rfl (of_decide_eq_true h)

theorem Obs.isIdle_of_isAside (o : Obs) (h : o.isAside = true) : o.isIdle id = true := by
  cases o with
  | push action =>
    obtain ⟨streamId, kind⟩ := action
    cases kind <;> first | rfl | cases h
  | _ => first | rfl | cases h

theorem Obs.isIdle_of_isMessageIo (o : Obs) (h : o.isMessageIo = true) : o.isIdle id = true := by
  cases o <;> first | rfl | cases h

/-- The actions on another stream. -/
theorem Obs.isIdle_of_isStreamIoOf {streamId : StreamId} (hne : streamId ≠ id) (o : Obs)
    (h : o.isStreamIoOf streamId = true) : o.isIdle id = true := by
  cases o with
  | push action =>
    obtain ⟨streamId', kind⟩ := action
    cases kind with
    | done =>
      obtain rfl : streamId' = streamId := of_decide_eq_true h
      exact decide_eq_true hne
    | _ => rfl
  | pulled action => cases h
  | _ => rfl

@[simp] theorem submitted_snoc (o : Obs) (s : σ) :
    submitted id (l ++ [(o, s)]) = o.feed id (submitted id l) := by
  simp [submitted]

theorem submitted_append (h : ∀ x ∈ seg, x.1.isIdle id = true) :
    submitted id (l ++ seg) = submitted id l := by
  induction seg generalizing l with
  | nil => rw [List.append_nil]
  | cons x seg ih =>
    rw [List.append_cons, ih fun y hy => h y (List.mem_cons_of_mem x hy), submitted_snoc,
      Obs.feed_of_isIdle (h x List.mem_cons_self)]

end Submitted

namespace PvpnConnection

open Conn

variable {E S X F α : Type}

/-! ## The invariant -/

section Definitions

variable (d : PvpnDependencies E S X F) (outbox : X → Option (Outbox UInt8)) (id : StreamId)

/-- The outbox of the stream `id`, if it is open and has one. -/
def outboxAt (c : PvpnConnection S F) : Option (Outbox UInt8) :=
  d.streams.outboxOf outbox c.streams id

/-- The outbox of the stream is as it was, or it is gone. -/
def SameOrGone (c c' : PvpnConnection S F) : Prop :=
  ∀ box, outboxAt d outbox id c' = some box → outboxAt d outbox id c = some box

/-- The stream `id` is accounted for when `o` is observed. -/
structure Conveyed (pre : List (Obs × Sys E S F)) (o : Obs) (s : Sys E S F) : Prop where
  /-- Nothing is lost, doubled or reordered. -/
  total : (∀ target result, o ≠ .opened id target result) →
    ∀ box, outboxAt d outbox id s.conn = some box →
      box.taken ++ box.waiting.flatten = submitted id pre
  /-- What is acknowledged has been accepted. -/
  done : o = .push ⟨id, .done⟩ → ∀ box, outboxAt d outbox id s.conn = some box →
    box.taken = submitted id pre

/-- The stream `id` has been accounted for so far. -/
def AllConveyed (h : Hist (Sys E S F) Obs) : Prop := Always (Conveyed d outbox id) h.past

/-- The outbox of the stream `id` still lacks `owed`. -/
structure Lacking (owed : Bytes) (h : Hist (Sys E S F) Obs) : Prop where
  total : ∀ box, outboxAt d outbox id h.now.conn = some box →
    box.total ++ owed = submitted id h.past
  conveyed : AllConveyed d outbox id h

/-- The stream `id` is open only if its buffer is empty, if `res` says so. -/
def Reported (res : StreamResult) (h : Hist (Sys E S F) Obs) : Prop :=
  ∀ bytesCount startOffset wouldBlock, res = .ok bytesCount startOffset wouldBlock .no →
    ∀ box, outboxAt d outbox id h.now.conn = some box → box.waiting = []

/-- Work that neither feeds the stream `id` nor acknowledges a write on it. -/
abbrev Idle (h h' : Hist (Sys E S F) Obs) : Prop :=
  Step (SameOrGone d outbox id) (Obs.isIdle id) h h'

/-- The client opens no stream under an id that is still open. -/
def opensClosed (x : Obs × Sys E S F) : Bool :=
  match x.1 with
  | .pulled (some ⟨streamId, .openStream ..⟩) =>
    (d.streams.getStream x.2.conn.streams streamId).isNone
  | _ => true

/-- The client never opened a stream under an id that was still open. -/
def OpensClosed (l : List (Obs × Sys E S F)) : Prop := ∀ x ∈ l, opensClosed d x = true

end Definitions

theorem inherited_opensClosed (d : PvpnDependencies E S X F) : Inherited (OpensClosed d) :=
  fun _ seg h x hx => h x (List.mem_append_left seg hx)

section Steps

variable {d : PvpnDependencies E S X F} {outbox : X → Option (Outbox UInt8)} {id : StreamId}
  {owed : Bytes} {res : StreamResult} {h h' : Hist (Sys E S F) Obs}

instance isPreorder_sameOrGone : IsPreorder (PvpnConnection S F) (SameOrGone d outbox id) where
  refl _ _ hbox := hbox
  trans _ _ _ h₁ h₂ box hbox := h₁ box (h₂ box hbox)

theorem sameOrGone_of_streams {c c' : PvpnConnection S F} (h : c'.streams = c.streams) :
    SameOrGone d outbox id c c' := by
  intro box hbox
  unfold outboxAt at hbox ⊢
  rwa [h] at hbox

theorem indifferent_sameOrGone : Indifferent (F := F) (SameOrGone d outbox id) where
  aside _ _ h := sameOrGone_of_streams h.streams
  connectionState _ _ := sameOrGone_of_streams rfl
  peers _ _ := sameOrGone_of_streams rfl
  localAgentSettings _ _ := sameOrGone_of_streams rfl
  network _ _ := sameOrGone_of_streams rfl

/-- A stream that is not open owes nothing that it could not. -/
theorem lacking_of_gone (hgone : outboxAt d outbox id h.now.conn = none)
    (hall : AllConveyed d outbox id h) : Lacking d outbox id owed h where
  total box hbox := by
    rw [hgone] at hbox
    cases hbox
  conveyed := hall

/-- What is owed stays owed while nothing is observed. -/
theorem Lacking.quiet (hO : Lacking d outbox id owed h) (hpast : h'.past = h.past)
    (hK : SameOrGone d outbox id h.now.conn h'.now.conn) : Lacking d outbox id owed h' where
  total box hbox := hpast ▸ hO.total box (hK box hbox)
  conveyed := by
    unfold AllConveyed
    rw [hpast]
    exact hO.conveyed

theorem Lacking.idle (hs : Idle d outbox id h h') (hO : Lacking d outbox id [] h) :
    Lacking d outbox id [] h' where
  total box hbox := by
    obtain ⟨seg, hseg, hq⟩ := hs.observed
    rw [hseg, submitted_append hq]
    exact hO.total box (hs.core box hbox)
  conveyed := by
    refine hs.trace.always (fun seg o s hq ho => ?_) hO.conveyed
    have hsent : submitted id (h.past ++ seg) = submitted id h.past :=
      submitted_append fun x hx => (hq x hx).1
    refine ⟨fun _ box hbox => ?_, fun hdone => absurd hdone (Obs.not_done_of_isIdle ho.1)⟩
    rw [hsent, ← hO.total box (ho.2 box hbox), List.append_nil]
    rfl

theorem Reported.idle (hs : Idle d outbox id h h') (hR : Reported d outbox id res h) :
    Reported d outbox id res h' :=
  fun bytesCount startOffset wouldBlock hres box hbox =>
    hR bytesCount startOffset wouldBlock hres box (hs.core box hbox)

theorem inv_of_idle {x : Conn E S F α} (hx : Prog.Rel (Idle d outbox id) x) :
    Prog.Inv (Lacking d outbox id []) x :=
  hx.inv fun _ _ => Lacking.idle

theorem idle_of_aside {x : Conn E S F α} (hx : Prog.Rel Aside x) :
    Prog.Rel (Idle d outbox id) x :=
  indifferent_sameOrGone.of_aside Obs.isIdle_of_isAside hx

end Steps

/-! ## The functions that touch the streams -/

section Functions

variable {d : PvpnDependencies E S X F} {outbox : X → Option (Outbox UInt8)} {id : StreamId}
  {owed : Bytes} (hd : d.streams.Carries outbox)
include hd

theorem outboxAt_setStream_self {c : PvpnConnection S F} {x : X} (x' : X)
    (hg : d.streams.getStream c.streams id = some x) :
    outboxAt d outbox id { c with streams := d.streams.setStream c.streams id x' } =
      outbox x' := by
  unfold outboxAt Streams.outboxOf
  rw [hd.setStream_self _ _ (by rw [hg]; rfl)]
  rfl

theorem sameOrGone_setPoll (streamId : StreamId) (wait : Bool) (c : PvpnConnection S F) (e : E) :
    SameOrGone d outbox id c { c with
      streams := (d.streams.setPollEnableWaitForWrite streamId wait c.streams e).1 } := by
  intro box hbox
  unfold outboxAt Streams.outboxOf at hbox ⊢
  rwa [hd.setPoll] at hbox

/-- The calls on another stream. -/
theorem ignoresCalls_sameOrGone {streamId : StreamId} (hne : streamId ≠ id) :
    IgnoresCalls d streamId (SameOrGone d outbox id) where
  setStream c x box hbox := by
    unfold outboxAt Streams.outboxOf at hbox ⊢
    rwa [hd.setStream _ _ hne] at hbox
  setPoll c wait e := sameOrGone_setPoll hd streamId wait c e
  openTcp c addr e box hbox := by
    unfold outboxAt Streams.outboxOf at hbox ⊢
    rwa [hd.openTcp _ _ _ (.inr hne)] at hbox
  openUdp c addr e box hbox := by
    unfold outboxAt Streams.outboxOf at hbox ⊢
    rwa [hd.openUdp _ _ _ (.inr hne)] at hbox
  currentTunError _ _ := sameOrGone_of_streams rfl
  readBuffer _ _ := sameOrGone_of_streams rfl
  network _ _ _ := sameOrGone_of_streams rfl

theorem idle_closeStream (streamId : StreamId) :
    Prog.Rel (Idle d outbox id) (closeStream d streamId) := by
  refine Prog.rel_bind (fun h => step_set fun box hbox => ?_) fun _ => step_emit rfl
  unfold outboxAt Streams.outboxOf at hbox ⊢
  by_cases hid : streamId = id
  · subst hid
    rw [hd.closes] at hbox
    cases hbox
  · rwa [hd.close _ _ hid] at hbox

/-- A stream that is used without a write keeps its outbox. -/
theorem idle_setStream {h : Hist (Sys E S F) Obs} {streamId : StreamId} {x x' : X}
    (hg : d.streams.getStream h.now.conn.streams streamId = some x)
    (hx : outbox x' = outbox x) (env : E) :
    Idle d outbox id h (h.set ⟨env, { h.now.conn with
      streams := d.streams.setStream h.now.conn.streams streamId x' }⟩) := by
  refine step_set ?_
  by_cases hid : streamId = id
  · subst hid
    intro box hbox
    have hself := outboxAt_setStream_self hd x' hg
    rw [hself, hx] at hbox
    exact Option.bind_eq_some_iff.mpr ⟨x, hg, hbox⟩
  · exact (ignoresCalls_sameOrGone hd hid).setStream _ x'

theorem idle_shutdownWrite (streamId : StreamId) :
    Prog.Rel (Idle d outbox id) (shutdownWrite d streamId) := by
  intro h
  unfold shutdownWrite
  rw [conn_bind]
  cases hg : d.streams.getStream h.now.conn.streams streamId with
  | none => exact refl_of (Idle d outbox id) h
  | some stream =>
    exact trans_of (Idle d outbox id) (idle_setStream hd hg (hd.shutdownWrite stream h.now.env) _)
      (step_emit rfl _)

theorem idle_readInto {h : Hist (Sys E S F) Obs} {streamId : StreamId} {stream : X}
    (hg : d.streams.getStream h.now.conn.streams streamId = some stream) :
    Idle d outbox id h (readInto d streamId stream h).2 := by
  unfold readInto
  rw [conn_bind]
  refine Prog.leaves_bind (I := Idle d outbox id h) (idle_setStream hd hg (hd.read stream _ _) _)
    fun r => Prog.Rel.inv (R := Idle d outbox id) ?_ fun _ _ hs hR => trans_of (Idle _ _ _) hR hs
  refine Prog.rel_bind (step_update fun _ => sameOrGone_of_streams rfl) fun _ => ?_
  exact Prog.rel_bind (step_emit rfl) fun _ => Prog.rel_pure r.1

theorem idle_waitForStreams : Prog.Rel (Idle d outbox id) (waitForStreams d) := by
  refine Prog.rel_bind (step_pollDeadline d) fun deadline => ?_
  refine Prog.rel_bind (step_emit rfl) fun _ => ?_
  refine Prog.rel_bind (fun h => step_set fun box hbox => ?_) fun r =>
    Prog.rel_bind (step_emit rfl) fun _ => Prog.rel_pure r
  exact (hd.poll deadline h.now.conn.streams h.now.env id).symm.trans hbox

theorem idle_updateTun (tunInfo : TunStreamInfo) :
    Prog.Rel (Idle d outbox id) (updateTun d tunInfo) := by
  refine Prog.rel_bind (fun h => step_set fun box hbox => ?_) fun result => ?_
  · exact hd.updateTun tunInfo h.now.conn.streams h.now.env hbox
  · refine Prog.rel_bind (step_emit rfl) fun _ => ?_
    cases result with
    | error e => exact Prog.rel_pure ()
    | ok u => exact step_update fun _ => sameOrGone_of_streams rfl

theorem idle_receiveMessage : Prog.Rel (Idle d outbox id) (receiveMessage d) := by
  refine Prog.rel_bind (step_ask (fun _ => rfl) _) fun message => ?_
  cases message with
  | none => exact Prog.rel_pure _
  | some message =>
    refine Prog.rel_bind ?_ fun _ => Prog.rel_pure _
    by_cases hdisconnect : message = .disconnect
    · subst hdisconnect
      exact step_update fun _ => sameOrGone_of_streams rfl
    · refine indifferent_sameOrGone.handleMessage d Obs.isIdle_of_isMessageIo hdisconnect
        fun u _ => ?_
      exact indifferent_sameOrGone.handleUpdate d Obs.isIdle_of_isMessageIo (idle_updateTun hd) u

/-! ### Writes -/

/-- The result of a write is reported while nothing is owed; it is acknowledged only if the buffer
is empty. -/
theorem settles_dispatchWriteResult (res : StreamResult) :
    Prog.Triple (fun h => Lacking d outbox id [] h ∧ Reported d outbox id res h)
      (dispatchWriteResult d id res) (fun _ => Lacking d outbox id [])
      (AllConveyed d outbox id) := by
  have hidle : ∀ {x : Conn E S F Unit}, Prog.Rel (Idle d outbox id) x →
      Prog.Triple (fun h => Lacking d outbox id [] h ∧ Reported d outbox id res h) x
        (fun _ => Lacking d outbox id []) (AllConveyed d outbox id) := fun hx =>
    ((inv_of_idle hx).triple fun _ => Lacking.conveyed).pre fun _ => And.left
  cases res with
  | err e => exact hidle (idle_of_aside (aside_handleStreamError d id e))
  | streamClosed => exact hidle (step_inform rfl _)
  | ok bytesCount startOffset wouldBlock pendingWrite =>
    have hpoll : Prog.Rel (Idle d outbox id)
        (setPollEnableWaitForWrite d id (pendingWrite = .yes) : Conn E S F Unit) :=
      fun h => step_set (sameOrGone_setPoll hd id _ _ _)
    refine Prog.triple_bind (Prog.Inv.triple (hpoll.inv fun h h' hs hh => ?_)
      fun _ hh => hh.1.conveyed) fun _ => ?_
    · exact ⟨hh.1.idle hs, hh.2.idle hs⟩
    by_cases hdone : pendingWrite = .no ∧ d.ids.tun < id
    · rw [Prog.when_pos hdone]
      rintro h ⟨hO, hR⟩
      have hempty := hR bytesCount startOffset wouldBlock (by rw [hdone.1])
      refine ⟨fun box hbox => ?_, ?_⟩
      · simpa [Obs.feed] using hO.total box hbox
      · refine always_snoc.mpr ⟨hO.conveyed, fun _ box hbox => ?_, fun _ box hbox => ?_⟩
        · rw [← hO.total box hbox, List.append_nil]
          rfl
        · rw [← hO.total box hbox, List.append_nil, Outbox.total, hempty box hbox]
          simp
    · rw [Prog.when_neg hdone]
      exact Prog.triple_pure fun _ hh => hh.1

theorem settles_handleStreamWriteResult (res : StreamResult) :
    Prog.Triple (fun h => Lacking d outbox id [] h ∧ Reported d outbox id res h)
      (handleStreamWriteResult d id res) (fun _ => Lacking d outbox id [])
      (AllConveyed d outbox id) := by
  have hidle : ∀ {x : Conn E S F Unit}, Prog.Rel (Idle d outbox id) x →
      Prog.Triple (fun h => Lacking d outbox id [] h ∧ Reported d outbox id res h) x
        (fun _ h => Lacking d outbox id [] h ∧ Reported d outbox id res h)
        (AllConveyed d outbox id) := fun hx =>
    (hx.inv fun _ _ hs hh => ⟨hh.1.idle hs, hh.2.idle hs⟩ : Prog.Inv _ _).triple
      fun _ hh => hh.1.conveyed
  refine Prog.triple_bind (hidle (step_emit rfl)) fun _ => ?_
  refine Prog.triple_bind (hidle (step_noteTunResult d (fun _ _ => sameOrGone_of_streams rfl) id
    res)) fun _ => ?_
  refine Prog.triple_bind (settles_dispatchWriteResult hd res) fun _ => ?_
  exact (inv_of_idle (step_emit rfl)).triple fun _ => Lacking.conveyed

/-- A write that puts what is owed into the outbox settles the stream. -/
theorem settles_writeStream {write : X → E → Option (StreamResult × X × E)}
    (hwrite : ∀ {x x' e e' res o'}, write x e = some (res, x', e') → outbox x' = some o' →
      ∃ o o₁, outbox x = some o ∧ o₁.total = o.total ++ owed ∧ Sends o₁ res o') :
    Prog.Triple (Lacking d outbox id owed) (writeStream d id write)
      (fun _ => Lacking d outbox id []) (AllConveyed d outbox id) := by
  intro h hO
  unfold writeStream
  rw [conn_bind]
  cases hg : d.streams.getStream h.now.conn.streams id with
  | none =>
    refine lacking_of_gone ?_ hO.conveyed
    unfold outboxAt Streams.outboxOf
    rw [hg]
    rfl
  | some stream =>
    dsimp only
    rw [Prog.bind_apply]
    unfold streamDo
    cases hw : write stream h.now.env with
    | none => exact hO.conveyed
    | some r =>
      obtain ⟨res, stream', env⟩ := r
      have hself := outboxAt_setStream_self hd stream' hg
      refine settles_handleStreamWriteResult hd res _ ⟨⟨fun box hbox => ?_, hO.conveyed⟩, ?_⟩
      · obtain ⟨o, o₁, hstream, htotal, hsends⟩ := hwrite hw (hself.symm.trans hbox)
        have howed := hO.total o (Option.bind_eq_some_iff.mpr ⟨stream, hg, hstream⟩)
        rw [List.append_nil, hsends.total, htotal]
        exact howed
      · intro bytesCount startOffset wouldBlock hres box hbox
        obtain ⟨o, o₁, -, -, hsends⟩ := hwrite hw (hself.symm.trans hbox)
        have hpending := (hsends.ok _ _ _ _ hres).1
        simpa using hpending

theorem settles_handleWrite (hid : id ∉ d.ids.stored) (data : Bytes) :
    Prog.Triple (Lacking d outbox id data) (handleWrite d id data)
      (fun _ => Lacking d outbox id []) (AllConveyed d outbox id) := by
  have heq : handleWrite d id data =
      writeStream d id fun stream => d.streams.write stream data := by
    simp only [ReservedIds.stored, List.mem_cons, List.not_mem_nil, or_false, not_or] at hid
    simp only [handleWrite, hid, if_false]
  rw [heq]
  refine settles_writeStream hd fun hw ho => ?_
  obtain ⟨o, hx, hsends⟩ := hd.write hw ho
  exact ⟨o, o.put data, hx, Outbox.total_put o data, hsends⟩

theorem settles_pollWrite (streamId : StreamId) :
    Prog.Triple (Lacking d outbox id []) (writeStream d streamId d.streams.writeFromBuffer)
      (fun _ => Lacking d outbox id []) (AllConveyed d outbox id) := by
  by_cases hid : streamId = id
  · subst hid
    refine settles_writeStream hd fun hw ho => ?_
    obtain ⟨o, hx, hsends⟩ := hd.writeFromBuffer hw ho
    exact ⟨o, o, hx, (List.append_nil _).symm, hsends⟩
  · refine (inv_of_idle ?_).triple fun _ => Lacking.conveyed
    exact (ignoresCalls_sameOrGone hd hid).writeStream (Obs.isIdle_of_isStreamIoOf hid) _

/-! ### Opening -/

/-- The client is about to open the stream `id`, which is not open, and to write `owed` to it. -/
structure ToOpen (d : PvpnDependencies E S X F) (outbox : X → Option (Outbox UInt8))
    (id : StreamId) (owed : Bytes) (h : Hist (Sys E S F) Obs) : Prop where
  unused : d.streams.getStream h.now.conn.streams id = none
  submitted : submitted id h.past = owed
  conveyed : AllConveyed d outbox id h

/-- The call that opens the stream has answered `result`. -/
structure HasOpened (d : PvpnDependencies E S X F) (outbox : X → Option (Outbox UInt8))
    (id : StreamId) (owed : Bytes) (result : Except IoError Unit) (h : Hist (Sys E S F) Obs) :
    Prop where
  new : ∀ box, outboxAt d outbox id h.now.conn = some box → result = .ok () ∧ box.total = []
  submitted : Protun.submitted id h.past = owed
  conveyed : AllConveyed d outbox id h

theorem ToOpen.openStream {h : Hist (Sys E S F) Obs} (hT : ToOpen d outbox id owed h)
    (target : OpenStream) {result : Except IoError Unit} {h' : Hist (Sys E S F) Obs}
    (hopen : openStream d id target h = (some result, h')) :
    HasOpened d outbox id owed result h' := by
  unfold PvpnConnection.openStream streamsDo at hopen
  by_cases hudp : target.kind = .udp
  · simp only [if_pos hudp] at hopen
    cases hopen
    exact ⟨fun box hbox => hd.opensUdp _ _ hT.unused hbox, hT.submitted, hT.conveyed⟩
  · simp only [if_neg hudp] at hopen
    cases hopen
    exact ⟨fun box hbox => hd.opensTcp _ _ hT.unused hbox, hT.submitted, hT.conveyed⟩

omit hd in
theorem HasOpened.emit {h : Hist (Sys E S F) Obs} {result : Except IoError Unit}
    (hO : HasOpened d outbox id owed result h) (target : OpenStream) :
    HasOpened d outbox id owed result (h.emit (.opened id target result)) where
  new := hO.new
  submitted := by simpa [Obs.feed] using hO.submitted
  conveyed := by
    refine always_snoc.mpr ⟨hO.conveyed, fun hne => absurd rfl (hne target result), ?_⟩
    intro hdone
    cases hdone

theorem owes_handleOpen (target : OpenStream) :
    Prog.Triple (ToOpen d outbox id owed) (handleOpen d id target)
      (fun _ => Lacking d outbox id owed) (AllConveyed d outbox id) := by
  intro h hT
  obtain ⟨result, h₁, hopen⟩ : ∃ result h₁, PvpnConnection.openStream d id target h =
      (some result, h₁) := ⟨_, _, rfl⟩
  have hO := (hT.openStream hd target hopen).emit target
  unfold handleOpen
  rw [Prog.bind_of_some hopen, Prog.bind_of_some (Prog.emit_apply _ h₁)]
  cases result with
  | error e =>
    have hgone : outboxAt d outbox id (h₁.emit (.opened id target (.error e))).now.conn = none := by
      cases hbox : outboxAt d outbox id (h₁.emit (.opened id target (.error e))).now.conn with
      | none => rfl
      | some box => cases (hO.new box hbox).1
    have hfail : Prog.Rel (Idle d outbox id) (handleStreamError d id e) :=
      idle_of_aside (aside_handleStreamError d id e)
    have hstays : Prog.Inv (fun h => outboxAt d outbox id h.now.conn = none ∧
        Lacking d outbox id [] h) (handleStreamError d id e) := by
      refine hfail.inv fun h h' hs hh => ⟨?_, hh.2.idle hs⟩
      cases hbox : outboxAt d outbox id h'.now.conn with
      | none => rfl
      | some box => exact absurd (hh.1.symm.trans (hs.core box hbox)) (by simp)
    exact ((hstays.triple (N := AllConveyed d outbox id) fun _ hh => hh.2.conveyed).post
      fun _ _ hh => lacking_of_gone hh.1 hh.2.conveyed) _ ⟨hgone, lacking_of_gone hgone hO.conveyed⟩
  | ok u =>
    have hlacks : Lacking d outbox id owed (h₁.emit (.opened id target (.ok u))) := by
      refine ⟨fun box hbox => ?_, hO.conveyed⟩
      rw [(hO.new box hbox).2, hO.submitted, List.nil_append]
    refine Prog.triple_bind (R := fun _ => Lacking d outbox id owed) ?_ (fun _ => ?_) _ hlacks
    · exact Prog.triple_of_leaves (fun h hO => hO.quiet rfl (sameOrGone_of_streams rfl))
        fun _ => Lacking.conveyed
    · refine Prog.triple_when fun _ => Prog.triple_of_leaves (fun h hO => hO.quiet rfl ?_)
        fun _ => Lacking.conveyed
      exact sameOrGone_setPoll hd id true _ _

/-! ### Actions -/

/-- An action of the client has been pulled. -/
structure Pulled (d : PvpnDependencies E S X F) (outbox : X → Option (Outbox UInt8))
    (id : StreamId) (action : Action) (h : Hist (Sys E S F) Obs) : Prop where
  opens : ∀ target firstWrite, action = ⟨id, .openStream target firstWrite⟩ →
    ToOpen d outbox id (firstWrite.getD []) h
  writes : ∀ data, action = ⟨id, .write data⟩ → Lacking d outbox id data h
  other : (Obs.pulled (some action)).isIdle id = true → Lacking d outbox id [] h

theorem settles_handleAction (hid : id ∉ d.ids.stored) (action : Action) :
    Prog.Triple (Pulled d outbox id action) (handleAction d action)
      (fun _ => Lacking d outbox id []) (AllConveyed d outbox id) := by
  obtain ⟨streamId, kind⟩ := action
  by_cases hne : streamId = id
  · subst hne
    have hidle : ∀ {x : Conn E S F Unit}, (Obs.pulled (some ⟨streamId, kind⟩)).isIdle streamId =
        true → Prog.Rel (Idle d outbox streamId) x →
        Prog.Triple (Pulled d outbox streamId ⟨streamId, kind⟩) x
          (fun _ => Lacking d outbox streamId []) (AllConveyed d outbox streamId) := fun ho hx =>
      ((inv_of_idle hx).triple fun _ => Lacking.conveyed).pre fun _ hP => hP.other ho
    cases kind with
    | openStream target firstWrite =>
      refine Prog.triple_bind ((owes_handleOpen hd target).pre fun _ hP =>
        hP.opens target firstWrite rfl) fun _ => ?_
      cases firstWrite with
      | none => exact Prog.triple_pure fun _ hO => hO
      | some data => exact settles_handleWrite hd hid data
    | write data => exact (settles_handleWrite hd hid data).pre fun _ hP => hP.writes data rfl
    | close => exact hidle rfl (idle_closeStream hd streamId)
    | shutdown => exact hidle rfl (idle_shutdownWrite hd streamId)
    | setOption | read _ | error _ | done => exact hidle rfl (Prog.rel_pure ())
  · have hother : (Obs.pulled (some ⟨streamId, kind⟩)).isIdle id = true := by
      cases kind <;> first | rfl | exact decide_eq_true hne
    have hkept : KeptByActions d streamId (Lacking d outbox id []) :=
      (ignoresCalls_sameOrGone hd hne).keptByActions (Obs.isIdle_of_isStreamIoOf hne)
        (fun _ _ => Lacking.idle)
        (fun data => inv_of_idle (idle_of_aside (aside_writePcap d data)))
        (inv_of_idle (idle_closeStream hd streamId))
    exact ((hkept.handleAction kind).triple fun _ => Lacking.conveyed).pre fun _ hP =>
      hP.other hother

omit hd in
/-- What is known once the client has handed out an action. -/
theorem Lacking.pulled {h : Hist (Sys E S F) Obs} (hO : Lacking d outbox id [] h) {action : Action}
    (hopens : OpensClosed d (h.emit (.pulled (some action))).past) :
    Pulled d outbox id action (h.emit (.pulled (some action))) := by
  have hall : AllConveyed d outbox id (h.emit (.pulled (some action))) := by
    refine always_snoc.mpr ⟨hO.conveyed, fun _ box hbox => ?_, fun hdone => by cases hdone⟩
    rw [← hO.total box hbox, List.append_nil]
    rfl
  refine ⟨?_, ?_, fun ho => ?_⟩
  · rintro target firstWrite rfl
    have hunused : opensClosed d (.pulled (some ⟨id, .openStream target firstWrite⟩), h.now) =
        true := hopens _ (by simp)
    exact ⟨Option.isNone_iff_eq_none.mp hunused, by simp [Obs.feed], hall⟩
  · rintro data rfl
    refine ⟨fun box hbox => ?_, hall⟩
    have htotal := hO.total box hbox
    rw [List.append_nil] at htotal
    simp [Obs.feed, htotal]
  · exact hO.idle (step_emit ho h)

/-- A round of `pull_from_client`, if the client opens closed ids only. -/
theorem settles_pullAction (hid : id ∉ d.ids.stored) :
    Prog.Triple (Assuming (OpensClosed d) (Lacking d outbox id [])) (pullAction d)
      (fun _ => Assuming (OpensClosed d) (Lacking d outbox id []))
      (Assuming (OpensClosed d) (AllConveyed d outbox id)) := by
  have hC : Inherited (OpensClosed d) := inherited_opensClosed d
  have hneed : Prog.Inv (Lacking d outbox id []) (query d.client.needPull : Conn E S F Bool) :=
    inv_of_idle (step_query _)
  refine Prog.triple_bind ((hneed.triple fun _ => Lacking.conveyed).assuming hC
    (extends_of_letters (letters_query (d := d) .needPull))) fun b => ?_
  cases b with
  | false => exact Prog.triple_pure fun _ hO => hO
  | true =>
    intro h hO
    simp only [if_true]
    rw [Prog.bind_of_some (ask_eq .pulled d.client.pull h)]
    have hO₁ : Assuming (OpensClosed d) (Lacking d outbox id [])
        (h.set { h.now with env := (d.client.pull h.now.env).2 }) :=
      fun hopens => (hO hopens).quiet rfl (sameOrGone_of_streams rfl)
    cases ha : (d.client.pull h.now.env).1 with
    | none =>
      refine fun hopens => Lacking.idle (step_emit rfl _) (hO₁ ?_)
      exact hC _ _ hopens
    | some action =>
      have hreturn : Prog.Triple (Pulled d outbox id action)
          (do handleAction d action; pure true : Conn E S F Bool)
          (fun _ => Lacking d outbox id []) (AllConveyed d outbox id) :=
        Prog.triple_bind (settles_handleAction hd hid action) fun _ =>
          Prog.triple_pure fun _ hO => hO
      have hext : Prog.Rel (Extends fun _ _ => True)
          (do handleAction d action; pure true : Conn E S F Bool) :=
        extends_of_letters (Prog.rel_bind (letters_handleAction d action) fun _ =>
          Prog.rel_pure true)
      refine hreturn.assuming hC hext _ fun hopens => ?_
      exact (hO₁ (hC _ _ hopens)).pulled hopens

end Functions

/-! ## Runs -/

section Runs

variable (d : PvpnDependencies E S X F) (outbox : X → Option (Outbox UInt8))

theorem keptOrStalled_lacking (hd : d.streams.Carries outbox) {id : StreamId}
    (hid : id ∉ d.ids.stored) :
    KeptOrStalled d (Assuming (OpensClosed d) (Lacking d outbox id []))
      (Assuming (OpensClosed d) (AllConveyed d outbox id)) := by
  have hC : Inherited (OpensClosed d) := inherited_opensClosed d
  have hidle : ∀ {h h' : Hist (Sys E S F) Obs}, Idle d outbox id h h' →
      Assuming (OpensClosed d) (Lacking d outbox id []) h →
        Assuming (OpensClosed d) (Lacking d outbox id []) h' :=
    fun hs hO hopens => (hO (hC.of_extends hs.observed hopens)).idle hs
  refine ⟨fun h hO hopens => (hO hopens).conveyed, ?_, settles_pullAction hd hid, ?_, ?_, ?_, ?_,
    ?_, ?_, ?_⟩
  · exact fun h h' ha => hidle (ha.mono indifferent_sameOrGone.aside Obs.isIdle_of_isAside)
  · exact fun streamId stream h hg => hidle (idle_readInto hd hg)
  · exact fun streamId => (settles_pollWrite hd streamId).assuming hC
      (extends_of_letters (letters_writeStream d streamId .writeFromBuffer))
  · exact fun h => hidle (step_pullLocalAgent d (fun _ _ _ => sameOrGone_of_streams rfl)
      (fun _ => rfl) (fun _ _ => rfl) h)
  · exact fun h => hidle (idle_waitForStreams hd h)
  · exact fun h => hidle (idle_receiveMessage hd h)
  · exact fun h => hidle (step_updateState d (fun _ _ _ => sameOrGone_of_streams rfl)
      (fun _ _ => sameOrGone_of_streams rfl) (fun _ _ _ => sameOrGone_of_streams rfl)
      (fun _ => rfl) (fun _ => rfl) (fun _ => rfl) h)
  · exact fun h => hidle
      (indifferent_sameOrGone.onConnectionLoopEnd d Obs.isIdle_of_isMessageIo rfl h)

/-- Every run of the connection from the streams `streams` accounts for every TCP stream. -/
def AccountsForBytes (streams : S) : Prop :=
  ∀ (cfg : InitialConfig) (env : E) (n : Nat) (id : StreamId), id ∉ d.ids.stored →
    OpensClosed d (exec d cfg streams env n).2.past →
      Always (Conveyed d outbox id) (exec d cfg streams env n).2.past

/-- On streams that carry bytes, none of which has an outbox at the start. -/
theorem accountsForBytes (hd : d.streams.Carries outbox) {streams : S}
    (hnew : ∀ id, d.streams.outboxOf outbox streams id = none) :
    AccountsForBytes d outbox streams := by
  intro cfg env n id hid hopens
  have hinit : Lacking d outbox id [] (Hist.init ⟨env, initial d cfg streams⟩) :=
    lacking_of_gone (hnew id) always_nil
  have hstart : Prog.Inv (Assuming (OpensClosed d) (Lacking d outbox id []))
      (new d cfg : Conn E S F Unit) := by
    intro h hO hopens'
    have hs : Idle d outbox id h (new d cfg h).2 :=
      indifferent_sameOrGone.new d Obs.isIdle_of_isMessageIo cfg h
    exact (hO ((inherited_opensClosed d).of_extends hs.observed hopens')).idle hs
  have hk := keptOrStalled_lacking d outbox hd hid
  have hexec := Prog.triple_bind (hstart.triple hk.stalled) fun _ => hk.run n
  exact hexec.leaves (fun _ => hk.stalled) (fun _ => hinit) hopens

end Runs

/-- **Every byte the client submits reaches its socket.** With the streams of mio and with those of
Windows, in every run in which the client opens no id that is still open, at every observation and
for every TCP stream that is open then, other than under an id whose writes are stored: what its
socket has accepted, followed by what waits, is what the client has written to it since it opened
it; and when `Action::done` is pushed for it, the socket has accepted all of that. -/
theorem bytes_reach_sockets (unix : Mio.UnixOs E) (registry : Mio.Registry E)
    (windows : Windows.WindowsOs E) (m : Nat) :
    (∀ (d : PvpnDependencies E (Mio.MioStreams Mio.MioStream) Mio.MioStream F)
        (tun : Option Int) (streams : Mio.MioStreams Mio.MioStream) (e₀ e₁ : E),
      d.streams = Mio.streams unix registry d.ids.tun m →
      Mio.MioStreams.new registry d.ids.tun (tun.map (Mio.MioStream.newTun unix)) e₀ =
        (.ok streams, e₁) →
      AccountsForBytes d Mio.MioStream.outbox streams) ∧
    (∀ d : PvpnDependencies E Windows.WindowsStreams Windows.WindowsStream F,
      d.streams = Windows.streams windows d.ids.tun m →
      AccountsForBytes d Windows.WindowsStream.outbox
        (Windows.WindowsStreams.new d.ids.tun {})) := by
  refine ⟨fun d tun streams e₀ e₁ hd hnew => ?_, fun d hd => ?_⟩
  · refine accountsForBytes d _ (hd ▸ Mio.carries_streams unix registry _ m) fun id => ?_
    rw [hd]
    exact Mio.outboxOf_new hnew id
  · refine accountsForBytes d _ (hd ▸ Windows.carries_streams windows _ m) fun id => ?_
    rw [hd]
    exact Windows.outboxOf_new id

end PvpnConnection

/-! ## Two runs -/

namespace Script

open Mio Windows

/-- A TCP stream is opened with a first write and written to once more. -/
def writesTwice : Script where
  messages := [none, some .disconnect]
  actions := [some ⟨5, .openStream ⟨.tcp, ⟨.v4 0x01020304, 443⟩⟩ (some [1])⟩,
    some ⟨5, .write [2, 3]⟩, none]

/-- What the socket of a stream has accepted each time `Action::done` is pushed for it. -/
def acknowledged {S X : Type} (d : PvpnDependencies Script S X Unit)
    (outbox : X → Option (Outbox UInt8)) (l : List (Obs × Sys Script S Unit)) :
    List (Option Bytes) :=
  l.filterMap fun x =>
    match x.1 with
    | .push ⟨id, .done⟩ => some ((d.streams.outboxOf outbox x.2.conn.streams id).map (·.taken))
    | _ => none

/-- The three bytes of `partialWrite`, of which the socket takes one at first, are acknowledged when
all have been accepted. On Windows each of two writes is acknowledged. -/
theorem writes_reach_sockets :
    acknowledged scriptedMio MioStream.outbox (mioLog partialWrite 3) = [some [1, 2, 3]] ∧
      Always (PvpnConnection.Conveyed scriptedMio MioStream.outbox 5) (mioLog partialWrite 3) ∧
      acknowledged scriptedWindows WindowsStream.outbox (windowsLog writesTwice 4) =
        [some [1], some [1, 2, 3]] ∧
      Always (PvpnConnection.Conveyed scriptedWindows WindowsStream.outbox 5)
        (windowsLog writesTwice 4) := by
  have hmio : PvpnConnection.OpensClosed scriptedMio (mioLog partialWrite 3) := by
    unfold PvpnConnection.OpensClosed
    decide +kernel
  have hwindows : PvpnConnection.OpensClosed scriptedWindows (windowsLog writesTwice 4) := by
    unfold PvpnConnection.OpensClosed
    decide +kernel
  have hreach := PvpnConnection.bytes_reach_sockets (F := Unit) mioOs mioRegistry windowsOs 4
  refine ⟨by decide +kernel, ?_, by decide +kernel, ?_⟩
  · have hnew : MioStreams.new mioRegistry scriptedMio.ids.tun
        ((none : Option Int).map (MioStream.newTun mioOs)) partialWrite =
          (.ok noStreams, partialWrite) := rfl
    have h := hreach.1 scriptedMio none noStreams partialWrite partialWrite rfl hnew
    exact h plainConfig partialWrite 3 5 (by decide) hmio
  · have h : PvpnConnection.AccountsForBytes scriptedWindows WindowsStream.outbox
        (WindowsStreams.new 0 {}) := hreach.2 scriptedWindows rfl
    exact h plainConfig writesTwice 4 5 (by decide) hwindows

end Script

end Protun
