import Mathlib.Data.List.Induction
import Protun.Connection.Traffic
import Protun.Connection.Writable
import Protun.Streams.Windows

/-!
# Writes and their acknowledgements

`Action::done` tells the client that a stream has taken everything written to it. It follows a
`Write` whose data the stream took at once, and a wake-up of the poll that found the stream
writable. `Tally` counts, from the opening of a stream on, the writes of the client and the `done`s,
and notes whether the loop waits for the stream to become writable, as last told to
`set_poll_enable_wait_for_write`.

* `Credit`: every `done` is paid for by a write or by the opening, and so is the one that a stream
  that is waited for may still bring.
* **`dones_le_writes`**: on any streams, there are at most as many `done`s as writes plus one, as
  long as the poll reports a stream writable only while it is waited for, once at a time
  (`Warranted`).
* `warranted_mio`: the streams of mio are polled so, if the poll reports a stream writable at most
  once, and only while it is registered for `WRITABLE`.
* `windows_done_twice`: the streams of Windows report a socket writable at every wake-up, and a
  socket nothing was written to is acknowledged twice.
-/

namespace Protun

open Trace

/-! ## The tally of a stream -/

/-- The writes and acknowledgements of a stream since it was opened, and whether it is waited
for. -/
structure Tally where
  writes : Nat := 0
  dones : Nat := 0
  waiting : Bool := false
  deriving DecidableEq, Repr

namespace Tally

/-- What an observation says about the stream `id`. -/
def next (id : StreamId) (t : Tally) : Obs → Tally
  | .pulled (some ⟨streamId, .openStream _ firstWrite⟩) =>
    if streamId = id then { t with writes := firstWrite.toList.length, dones := 0 } else t
  | .pulled (some ⟨streamId, .write _⟩) =>
    if streamId = id then { t with writes := t.writes + 1 } else t
  | .push ⟨streamId, .done⟩ => if streamId = id then { t with dones := t.dones + 1 } else t
  -- `handle_open` waits for a TCP stream to connect
  | .opened streamId target (.ok ()) =>
    if streamId = id then { t with waiting := target.kind ≠ .udp } else t
  | .wrote streamId (.ok _ _ _ pendingWrite) =>
    if streamId = id then { t with waiting := pendingWrite = .yes } else t
  | _ => t

/-- No more acknowledgements than writes, but for that of the opening. -/
def Bounded (t : Tally) : Prop := t.dones ≤ t.writes + 1

/-- And the one that is waited for is paid for. -/
def Credit (t : Tally) : Prop := t.dones + t.waiting.toNat ≤ t.writes + 1

/-- There is a write to acknowledge. -/
def Ready (t : Tally) : Prop := t.dones ≤ t.writes

theorem Credit.bounded {t : Tally} (h : t.Credit) : t.Bounded := by
  unfold Credit at h
  unfold Bounded
  omega

theorem Ready.credit {t : Tally} (h : t.Ready) : t.Credit := by
  unfold Ready at h
  unfold Credit
  have := Bool.toNat_le t.waiting
  omega

theorem Credit.ready_of_waiting {t : Tally} (h : t.Credit) (hw : t.waiting = true) : t.Ready := by
  unfold Credit at h
  rw [hw] at h
  unfold Ready
  simpa using h

theorem ready_of_zero {t : Tally} (h : t.dones = 0) : t.Ready := by
  unfold Ready
  omega

/-- After the action `a` was pulled. -/
structure Fits (id : StreamId) (a : Option Action) (t : Tally) : Prop where
  credit : t.Credit
  write : ∀ data, a = some ⟨id, .write data⟩ → t.Ready
  opening : ∀ target firstWrite, a = some ⟨id, .openStream target firstWrite⟩ → t.dones = 0

theorem Credit.fits {t : Tally} (h : t.Credit) {id : StreamId} (a : Option Action) :
    (t.next id (.pulled a)).Fits id a := by
  unfold Credit at h
  have hwaiting := Bool.toNat_le t.waiting
  cases a with
  | none => exact ⟨h, nofun, nofun⟩
  | some action =>
    obtain ⟨streamId, kind⟩ := action
    cases kind with
    | openStream target firstWrite =>
      dsimp only [next]
      split
      · exact ⟨by unfold Credit; dsimp only; omega, nofun, fun _ _ _ => rfl⟩
      · rename_i hne
        refine ⟨h, nofun, fun _ _ ha => absurd ?_ hne⟩
        cases ha
        rfl
    | write data =>
      dsimp only [next]
      split
      · refine ⟨by unfold Credit; dsimp only; omega, fun _ _ => ?_, nofun⟩
        unfold Ready
        dsimp only
        omega
      · rename_i hne
        refine ⟨h, fun _ ha => absurd ?_ hne, nofun⟩
        cases ha
        rfl
    | _ => exact ⟨h, nofun, nofun⟩

/-- After a write with the result `res`. -/
def Wrote (res : StreamResult) (t : Tally) : Prop :=
  t.Ready ∧ ∀ bytesCount startOffset wouldBlock pendingWrite,
    res = .ok bytesCount startOffset wouldBlock pendingWrite →
      t.waiting = decide (pendingWrite = .yes)

theorem Ready.wrote {t : Tally} (h : t.Ready) {id : StreamId} (res : StreamResult) :
    (t.next id (.wrote id res)).Wrote res := by
  cases res with
  | ok bytesCount startOffset wouldBlock pendingWrite =>
    have hnext : t.next id (.wrote id (.ok bytesCount startOffset wouldBlock pendingWrite)) =
        { t with waiting := pendingWrite = .yes } := if_pos rfl
    rw [hnext]
    refine ⟨h, fun _ _ _ _ hres => ?_⟩
    cases hres
    rfl
  | err e => exact ⟨h, nofun⟩
  | streamClosed => exact ⟨h, nofun⟩

theorem next_waiting (id : StreamId) (t : Tally) (o : Obs) :
    (t.next id o).waiting = (o.waits id).getD t.waiting := by
  unfold next
  split
  case h_6 => simp [Obs.waits]
  all_goals
    by_cases hid : ‹StreamId› = id <;> simp [Obs.waits, hid]

theorem next_done {t : Tally} {id : StreamId} :
    t.next id (.push ⟨id, .done⟩) = { t with dones := t.dones + 1 } := if_pos rfl

/-- A `done` takes the place of the one that was waited for. -/
theorem Wrote.done {t : Tally} {id : StreamId} {bytesCount startOffset : Nat}
    {wouldBlock : WouldBlock} (h : t.Wrote (.ok bytesCount startOffset wouldBlock .no)) :
    (t.next id (.push ⟨id, .done⟩)).Credit := by
  have hwaiting : t.waiting = false := h.2 _ _ _ _ rfl
  have hready : t.dones ≤ t.writes := h.1
  rw [next_done]
  unfold Credit
  simpa [hwaiting] using hready

end Tally

/-- The tally of the stream `id`. -/
def tally {σ : Type} (id : StreamId) (l : List (Obs × σ)) : Tally :=
  l.foldl (fun t x => t.next id x.1) {}

theorem tally_snoc {σ : Type} (id : StreamId) (l : List (Obs × σ)) (o : Obs) (s : σ) :
    tally id (l ++ [(o, s)]) = (tally id l).next id o := by
  simp [tally]

theorem tally_waiting {σ : Type} (id : StreamId) (l : List (Obs × σ)) :
    (tally id l).waiting = (lastOf (Obs.waits id) l).getD false := by
  induction l using List.reverseRecOn with
  | nil => rfl
  | append_singleton l x ih =>
    rw [tally_snoc, Tally.next_waiting, ih, lastOf_snoc, Option.getD_or]

theorem tally_of_waited {σ : Type} {id : StreamId} {l : List (Obs × σ)} (h : Waited l id) :
    (tally id l).waiting = true := by
  rw [tally_waiting, h]
  rfl

/-- The number of results that report the stream `id` writable. -/
def writables (id : StreamId) (results : List PollResult) : Nat :=
  results.countP fun r => r.isWritable && r.streamId = id

/-- What a poll has reported. -/
def Obs.pollResults : Obs → List PollResult
  | .polled (.ok results) => results
  | _ => []

/-- Every poll reports the stream `id` writable at most once, and only if it is waited for. -/
def Warranted {σ : Type} (id : StreamId) (l : List (Obs × σ)) : Prop :=
  Always (fun pre o _ => writables id o.pollResults ≤ (tally id pre).waiting.toNat) l

/-- It says nothing about the stream `id`. -/
def Obs.isBesides (id : StreamId) : Obs → Bool
  | .pulled (some ⟨streamId, .openStream ..⟩) | .pulled (some ⟨streamId, .write _⟩)
  | .push ⟨streamId, .done⟩ | .opened streamId .. | .wrote streamId _ => streamId ≠ id
  | .polled _ => false
  | _ => true

theorem Tally.next_of_isBesides {id : StreamId} {o : Obs} (h : o.isBesides id = true) (t : Tally) :
    t.next id o = t := by
  unfold Tally.next
  split <;> first | rfl | exact if_neg (of_decide_eq_true h)

theorem tally_of_isBesides {σ : Type} {id : StreamId} {seg : List (Obs × σ)}
    (h : ∀ x ∈ seg, x.1.isBesides id = true) (l : List (Obs × σ)) :
    tally id (l ++ seg) = tally id l := by
  induction seg generalizing l with
  | nil => rw [List.append_nil]
  | cons x seg ih =>
    rw [List.append_cons, ih (fun y hy => h y (List.mem_cons_of_mem x hy)), tally_snoc,
      Tally.next_of_isBesides (h x List.mem_cons_self)]

theorem Obs.isBesides_of_isOffStream {id : StreamId} (o : Obs) (h : o.isOffStream = true) :
    o.isBesides id = true := by
  cases o <;> first | rfl | cases h

theorem Obs.isBesides_of_isStreamIoOf {id streamId : StreamId} (hne : streamId ≠ id) (o : Obs)
    (h : o.isStreamIoOf streamId = true) : o.isBesides id = true := by
  cases o with
  | push action =>
    obtain ⟨streamId', kind⟩ := action
    cases kind with
    | done => exact decide_eq_true ((of_decide_eq_true h).trans_ne hne)
    | _ => rfl
  | opened streamId' target result => exact decide_eq_true ((of_decide_eq_true h).trans_ne hne)
  | wrote streamId' res => exact decide_eq_true ((of_decide_eq_true h).trans_ne hne)
  | pulled action | polled result => cases h
  | _ => rfl

theorem Warranted.of_extends {σ : Type} {id : StreamId} {h h' : Hist σ Obs} {Q : Obs → σ → Prop}
    (hext : Extends Q h h') (hw : Warranted id h'.past) : Warranted id h.past := by
  obtain ⟨seg, hpast, -⟩ := hext
  rw [hpast] at hw
  exact Always.of_append hw

namespace PvpnConnection

open Conn

variable {E S X F α : Type}

/-! ## The invariant -/

/-- The tally of the stream `id` satisfies `P`, and it has been bounded throughout. -/
structure Acked (id : StreamId) (P : Tally → Prop) (h : Hist (Sys E S F) Obs) : Prop where
  now : P (tally id h.past)
  always : Always (fun pre o s => (tally id (pre ++ [(o, s)])).Bounded) h.past

/-- Work that says nothing about the stream `id`. -/
abbrev Besides (id : StreamId) (h h' : Hist (Sys E S F) Obs) : Prop :=
  Step Anyhow (Obs.isBesides id) h h'

/-- As long as the polls are warranted, the acknowledgements are paid for. -/
def Owed (id : StreamId) (h : Hist (Sys E S F) Obs) : Prop :=
  Warranted id h.past → Acked id Tally.Credit h

section Acked

variable {id : StreamId} {P P' : Tally → Prop} {h h' : Hist (Sys E S F) Obs}

theorem Acked.imp (ha : Acked id P h) (hP : ∀ t, P t → P' t) : Acked id P' h :=
  ⟨hP _ ha.now, ha.always⟩

theorem Acked.besides (hP : ∀ t, P t → t.Credit) (hs : Besides id h h') (ha : Acked id P h) :
    Acked id P h' := by
  obtain ⟨seg, hpast, hseg⟩ := hs.observed
  refine ⟨by rw [hpast, tally_of_isBesides hseg]; exact ha.now, ?_⟩
  refine hs.observed.always (fun seg o s hseg ho => ?_) ha.always
  rw [tally_snoc, tally_of_isBesides hseg, Tally.next_of_isBesides ho]
  exact (hP _ ha.now).bounded

theorem Acked.emit (ha : Acked id P h) {o : Obs} (ho : ∀ t, P t → P' (t.next id o))
    (hP' : ∀ t, P' t → t.Credit) : Acked id P' (h.emit o) := by
  have hnow : P' (tally id (h.past ++ [(o, h.now)])) := by
    rw [tally_snoc]
    exact ho _ ha.now
  exact ⟨hnow, always_snoc.mpr ⟨ha.always, (hP' _ hnow).bounded⟩⟩

theorem inv_of_besides (hP : ∀ t, P t → t.Credit) {x : Conn E S F α}
    (hx : Prog.Rel (Besides id) x) : Prog.Inv (Acked id P) x :=
  hx.inv fun _ _ => Acked.besides hP

theorem triple_of_besides (hP : ∀ t, P t → t.Credit) {x : Conn E S F α}
    (hx : Prog.Rel (Besides id) x) :
    Prog.Triple (Acked id P) x (fun _ => Acked id P) (Acked id Tally.Credit) :=
  (inv_of_besides hP hx).triple fun _ ha => ha.imp hP

theorem triple_emit_acked {o : Obs} (ho : ∀ t, P t → P' (t.next id o))
    (hP' : ∀ t, P' t → t.Credit) :
    Prog.Triple (Acked id P) (Prog.emit o : Conn E S F Unit) (fun _ => Acked id P')
      (Acked id Tally.Credit) :=
  fun _ ha => ha.emit ho hP'

theorem Owed.besides (hs : Besides id h h') (hI : Owed id h) : Owed id h' :=
  fun hw => (hI (hw.of_extends hs.observed)).besides (fun _ ht => ht) hs

/-- What keeps the credit keeps it under the condition as well. -/
theorem inv_owed {x : Conn E S F α} {Q : Obs → Sys E S F → Prop}
    (hext : Prog.Rel (Extends Q) x) (hx : Prog.Inv (Acked id Tally.Credit) x) :
    Prog.Inv (Owed id) x :=
  fun h hI hw => hx h (hI (hw.of_extends (hext h)))

end Acked

variable (d : PvpnDependencies E S X F) {id : StreamId}

/-! ## Writes -/

theorem triple_dispatchWriteResult (res : StreamResult) :
    Prog.Triple (Acked id (Tally.Wrote res)) (dispatchWriteResult d id res : Conn E S F Unit)
      (fun _ => Acked id Tally.Credit) (Acked id Tally.Credit) := by
  have hwrote : ∀ t, Tally.Wrote res t → t.Credit := fun t ht => ht.1.credit
  cases res with
  | ok bytesCount startOffset wouldBlock pendingWrite =>
    refine Prog.triple_bind (triple_of_besides hwrote (step_streamsDo (fun _ _ => trivial) _))
      fun _ => ?_
    by_cases hc : pendingWrite = .no ∧ d.ids.tun < id
    · rw [Prog.when_pos hc]
      refine Prog.triple_bind (triple_emit_acked (fun t ht => ?_) fun _ ht => ht) fun _ => ?_
      · rw [hc.1] at ht
        exact ht.done
      · exact fun h ha => ⟨ha.now, ha.always⟩
    · rw [Prog.when_neg hc]
      exact Prog.triple_pure fun _ ha => ha.imp hwrote
  | err e =>
    have herr : Prog.Rel (Besides id) (handleStreamError d id e) :=
      step_handleStreamError d (fun _ _ _ => trivial) (fun _ => rfl) e
    exact (triple_of_besides (fun _ ht => ht) herr).pre fun _ ha => ha.imp hwrote
  | streamClosed =>
    have hclose : Prog.Rel (Besides id) (push d ⟨id, .close⟩ : Conn E S F Unit) := step_inform rfl _
    exact (triple_of_besides (fun _ ht => ht) hclose).pre fun _ ha => ha.imp hwrote

/-- A write with something to acknowledge. -/
theorem triple_writeStream (write : X → E → Option (StreamResult × X × E)) :
    Prog.Triple (Acked id Tally.Ready) (writeStream d id write) (fun _ => Acked id Tally.Credit)
      (Acked id Tally.Credit) := by
  have hready : ∀ t : Tally, t.Ready → t.Credit := fun _ ht => ht.credit
  refine triple_conn_bind fun c => ?_
  cases d.streams.getStream c.streams id with
  | none => exact Prog.triple_pure fun _ ha => ha.1.imp hready
  | some stream =>
    refine Prog.Triple.pre ?_ fun h ha => ha.1
    refine Prog.triple_bind (triple_of_besides hready (ignoresIo_anyhow.streamDo d stream write))
      fun res => ?_
    refine Prog.triple_bind (triple_emit_acked (fun t ht => ht.wrote res) fun _ ht => ht.1.credit)
      fun _ => ?_
    refine Prog.triple_bind (triple_of_besides (fun _ ht => ht.1.credit)
      (step_noteTunResult d (fun _ _ => trivial) id res)) fun _ => ?_
    refine Prog.triple_bind (triple_dispatchWriteResult d res) fun _ => ?_
    exact triple_of_besides (fun _ ht => ht) (step_emit rfl)

theorem besides_writePcap (data : Bytes) : Prog.Rel (Besides id) (writePcap d data) :=
  step_writePcap_anyhow Obs.isBesides_of_isOffStream data

theorem triple_handleWrite (data : Bytes) :
    Prog.Triple (Acked id Tally.Ready) (handleWrite d id data) (fun _ => Acked id Tally.Credit)
      (Acked id Tally.Credit) := by
  -- the reserved streams have nothing to acknowledge
  have hother : ∀ {x : Conn E S F Unit}, Prog.Rel (Besides id) x →
      Prog.Triple (Acked id Tally.Ready) x (fun _ => Acked id Tally.Credit)
        (Acked id Tally.Credit) :=
    fun hx => (triple_of_besides (fun _ ht => ht) hx).pre fun _ ha => ha.imp fun _ ht => ht.credit
  rcases handleWrite_cases d id data with heq | ⟨key, heq⟩ | heq
  · exact heq ▸ hother (besides_writePcap d data)
  · exact heq ▸ hother (step_inform rfl _)
  · exact heq ▸ triple_writeStream d _

/-! ## Actions -/

/-- Opening a stream leaves a new tally without acknowledgements. -/
theorem triple_handleOpen (target : OpenStream) :
    Prog.Triple (Acked id fun t => t.dones = 0) (handleOpen d id target)
      (fun _ => Acked id fun t => t.dones = 0) (Acked id Tally.Credit) := by
  have hzero : ∀ t : Tally, t.dones = 0 → t.Credit := fun t ht => (Tally.ready_of_zero ht).credit
  refine Prog.triple_bind (triple_of_besides hzero (step_streamsDo (fun _ _ => trivial) _))
    fun result => ?_
  refine Prog.triple_bind (triple_emit_acked (fun t ht => ?_) hzero) fun _ => ?_
  · unfold Tally.next
    cases result with
    | error e => exact ht
    | ok u =>
      dsimp only
      rw [if_pos rfl]
      exact ht
  cases result with
  | error e =>
    exact triple_of_besides hzero
      (step_handleStreamError d (fun _ _ _ => trivial) (fun _ => rfl) e)
  | ok u =>
    refine Prog.triple_bind (triple_of_besides hzero (step_update fun _ => trivial)) fun _ => ?_
    exact triple_of_besides hzero
      (Prog.rel_when fun _ => step_streamsDo (fun _ _ => trivial) _)

theorem triple_handleAction (action : Action) :
    Prog.Triple (Acked id (Tally.Fits id (some action))) (handleAction d action)
      (fun _ => Acked id Tally.Credit) (Acked id Tally.Credit) := by
  obtain ⟨streamId, kind⟩ := action
  by_cases hid : streamId = id
  · subst hid
    have hother : ∀ {x : Conn E S F Unit}, Prog.Rel (Besides streamId) x →
        Prog.Triple (Acked streamId (Tally.Fits streamId (some ⟨streamId, kind⟩)))
          x (fun _ => Acked streamId Tally.Credit) (Acked streamId Tally.Credit) :=
      fun hx => (triple_of_besides (fun _ ht => ht) hx).pre fun _ ha => ha.imp fun _ ht => ht.credit
    cases kind with
    | openStream target firstWrite =>
      refine Prog.triple_bind ((triple_handleOpen d target).pre fun h ha =>
        ha.imp fun t ht => ht.opening _ _ rfl) fun _ => ?_
      cases firstWrite with
      | none =>
        exact Prog.triple_pure fun _ ha => ha.imp fun t ht => (Tally.ready_of_zero ht).credit
      | some data =>
        exact (triple_handleWrite d data).pre fun _ ha => ha.imp fun t => Tally.ready_of_zero
    | write data =>
      exact (triple_handleWrite d data).pre fun _ ha => ha.imp fun t ht => ht.write _ rfl
    | close =>
      exact hother (Prog.rel_bind (step_streamsDo (fun _ _ => trivial) _) fun _ => step_emit rfl)
    | shutdown =>
      refine hother (Prog.rel_bind step_conn fun c => ?_)
      cases d.streams.getStream c.streams streamId with
      | none => exact Prog.rel_pure ()
      | some stream =>
        exact Prog.rel_bind (ignoresIo_anyhow.streamDo d stream _) fun _ => step_emit rfl
    | setOption | read _ | error _ | done => exact hother (Prog.rel_pure ())
  · have hinv : Prog.Inv (Acked id Tally.Credit) (handleAction d ⟨streamId, kind⟩) :=
      ignoresIo_anyhow.inv_handleAction d (Obs.isBesides_of_isStreamIoOf hid)
        (fun _ _ => Acked.besides fun _ ht => ht)
        (fun data => inv_of_besides (fun _ ht => ht) (besides_writePcap d data)) kind
    exact (hinv.triple fun _ ha => ha).pre fun _ ha => ha.imp fun _ ht => ht.credit

theorem inv_pullAction_acked : Prog.Inv (Acked id Tally.Credit) (pullAction d) := by
  refine Prog.inv_bind (inv_of_besides (fun _ ht => ht) (step_query _)) fun b => ?_
  cases b with
  | false => exact Prog.inv_pure false
  | true =>
    have hask : Prog.Triple (Acked id Tally.Credit) (ask .pulled d.client.pull : Conn E S F _)
        (fun a => Acked id (Tally.Fits id a)) (Acked id Tally.Credit) :=
      Prog.triple_bind (triple_of_besides (fun _ ht => ht) (step_query _)) fun a =>
        Prog.triple_bind (triple_emit_acked (fun t ht => ht.fits a) fun _ ht => ht.credit) fun _ =>
          Prog.triple_pure fun _ ha => ha
    refine Prog.Triple.inv (Prog.triple_bind hask fun a => ?_)
    cases a with
    | none => exact Prog.triple_pure fun _ ha => ha.imp fun _ ht => ht.credit
    | some action =>
      exact Prog.triple_bind (triple_handleAction d action) fun _ => Prog.triple_pure fun _ ha => ha

/-! ## The poll -/

/-- The results `results` are still to be handled. -/
def Due (id : StreamId) (results : List PollResult) (h : Hist (Sys E S F) Obs) : Prop :=
  Warranted id h.past → Acked id Tally.Credit h ∧
    writables id results ≤ (tally id h.past).waiting.toNat

theorem Due.besides {results : List PollResult} {h h' : Hist (Sys E S F) Obs}
    (hs : Besides id h h') (hd : Due id results h) : Due id results h' := by
  intro hw
  obtain ⟨ha, hle⟩ := hd (hw.of_extends hs.observed)
  obtain ⟨seg, hpast, hseg⟩ := hs.observed
  refine ⟨ha.besides (fun _ ht => ht) hs, ?_⟩
  rw [hpast, tally_of_isBesides hseg]
  exact hle

theorem inv_owed_of_besides {x : Conn E S F α} (hx : Prog.Rel (Besides id) x) :
    Prog.Inv (Owed id) x :=
  hx.inv fun _ _ => Owed.besides

theorem Due.owed {results : List PollResult} {h : Hist (Sys E S F) Obs} (hd : Due id results h) :
    Owed id h :=
  fun hw => (hd hw).1

theorem triple_waitForStreams_owed :
    Prog.Triple (Owed id) (waitForStreams d)
      (fun r h => Owed id h ∧ ∀ results, r = .ok results → Due id results h) (Owed id) := by
  have howed : ∀ {α : Type} {x : Conn E S F α}, Prog.Rel (Besides id) x →
      Prog.Triple (Owed id) x (fun _ => Owed id) (Owed id) :=
    fun hx => (inv_owed_of_besides hx).triple fun _ hI => hI
  refine Prog.triple_bind (howed (step_pollDeadline d)) fun deadline => ?_
  refine Prog.triple_bind (howed (step_emit rfl)) fun _ => ?_
  refine Prog.triple_bind (howed (step_streamsDo (fun _ _ => trivial) _)) fun r => ?_
  refine Prog.triple_bind (R := fun _ h => Owed id h ∧ ∀ results, r = .ok results →
    Due id results h) ?_ fun _ => Prog.triple_pure fun _ hI => hI
  intro h hI
  have hacked : Warranted id (h.emit (.polled r)).past →
      Acked id Tally.Credit (h.emit (.polled r)) :=
    fun hw => (hI (Always.of_append hw)).emit (fun _ ht => ht) fun _ ht => ht
  refine ⟨hacked, fun results hr hw => ⟨hacked hw, ?_⟩⟩
  have hlast := (always_snoc.mp hw).2
  rw [hr] at hlast ⊢
  rw [Hist.emit_past, tally_snoc]
  exact hlast

/-- One result. -/
theorem due_pollWrite (r : PollResult) (results : List PollResult) (h : Hist (Sys E S F) Obs)
    (hd : Due id (r :: results) h) :
    Due id results (Prog.when (r.isWritable = true)
      (writeStream d r.streamId d.streams.writeFromBuffer) h).2 := by
  by_cases hr : r.isWritable = true
  · rw [Prog.when_pos hr]
    by_cases hid : r.streamId = id
    · intro hw
      obtain ⟨ha, hle⟩ := hd (hw.of_extends (frame_writeStream d r.streamId _ h).observed)
      have hcount : writables id (r :: results) = writables id results + 1 :=
        List.countP_cons_of_pos (by simp [hr, hid])
      have hwaiting : (tally id h.past).waiting = true := by
        by_contra hf
        rw [Bool.eq_false_iff.mpr hf, hcount] at hle
        simp at hle
      have hready : Acked id Tally.Ready h := ⟨ha.now.ready_of_waiting hwaiting, ha.always⟩
      rw [hcount, hwaiting] at hle
      refine ⟨?_, ?_⟩
      · rw [hid]
        exact (triple_writeStream d _).leaves (fun _ _ ha => ha) hready
      · have hzero : writables id results = 0 := by
          simp only [Bool.toNat_true] at hle
          omega
        rw [hzero]
        exact Nat.zero_le _
    · have hs : Besides id h (writeStream d r.streamId d.streams.writeFromBuffer h).2 :=
        ignoresIo_anyhow.writeStream d (Obs.isBesides_of_isStreamIoOf hid) _ h
      have hcount : writables id (r :: results) = writables id results :=
        List.countP_cons_of_neg (by simp [hid])
      unfold Due at hd
      rw [hcount] at hd
      exact Due.besides hs hd
  · rw [Prog.when_neg hr]
    intro hw
    have hcount : writables id (r :: results) = writables id results :=
      List.countP_cons_of_neg (by simp [hr])
    have := hd hw
    rwa [hcount] at this

theorem triple_pollWrites (results : List PollResult) :
    Prog.Triple (Due id results)
      (Prog.forEach results fun r =>
        Prog.when (r.isWritable = true) (writeStream d r.streamId d.streams.writeFromBuffer))
      (fun _ => Owed id) (Owed id) := by
  induction results with
  | nil => exact Prog.triple_pure fun _ hd => hd.owed
  | cons r results ih =>
    exact Prog.triple_bind
      (Prog.triple_of_leaves (due_pollWrite d r results) fun _ hd => hd.owed) fun _ => ih

theorem inv_pullAction_owed : Prog.Inv (Owed id) (pullAction d) :=
  inv_owed (fun h => (frame_pullAction d h).observed) (inv_pullAction_acked d)

theorem inv_pullLocalAgent_owed : Prog.Inv (Owed id) (pullLocalAgent d) :=
  inv_owed_of_besides (step_pullLocalAgent_anyhow Obs.isBesides_of_isOffStream)

theorem inv_pollFromStreams_owed (n : Nat) : Prog.Inv (Owed id) (pollFromStreams d n) := by
  have hresumed : Prog.Rel (Besides id) (onResumed d) :=
    step_onResumed d (fun _ _ _ => trivial) rfl
  have hreads : ∀ streamIds, Prog.Inv (Owed id) (readRounds d n n streamIds) :=
    inv_readRounds (fun n streamId => ((ignoresIo_anyhow.calls d streamId).keptByReads
      (fun _ => rfl) (fun _ => rfl) rfl (fun _ => rfl) fun _ _ => Owed.besides).readStream
      (inv_pullAction_owed d) (inv_pullLocalAgent_owed d) n) n n
  refine Prog.Triple.inv (Prog.triple_bind (triple_waitForStreams_owed d) fun r => ?_)
  refine Prog.triple_bind (Prog.triple_of_leaves (Q := fun h => Owed id h ∧ ∀ results,
    r = .ok results → Due id results h) (fun h hI => ?_) fun _ hI => hI.1) fun _ => ?_
  · exact ⟨hI.1.besides (hresumed h), fun results hr => (hI.2 results hr).besides (hresumed h)⟩
  cases r with
  | error e => exact Prog.triple_pure fun _ hI => hI.1
  | ok results =>
    refine Prog.triple_bind ((triple_pollWrites d results).pre fun _ hI => hI.2 results rfl)
      fun _ => ?_
    exact (hreads _).triple fun _ hI => hI

/-! ## Whole runs -/

theorem owed_exec (cfg : InitialConfig) (streams : S) (env : E) (n : Nat) :
    Owed id (exec d cfg streams env n).2 := by
  have hmessage : ∀ o : Obs, o.isMessageIo = true → o.isBesides id = true :=
    offStream_messageIo Obs.isBesides_of_isOffStream
  have hk : KeptByIterations d (Owed id) := {
    pull := inv_pullAction_owed d
    agent := inv_pullLocalAgent_owed d
    clock := inv_owed_of_besides (step_query _)
    receive := inv_owed_of_besides (step_receiveMessage_anyhow Obs.isBesides_of_isOffStream)
    updateState := inv_owed_of_besides (step_updateState d (fun _ _ _ => trivial)
      (fun _ _ => trivial) (fun _ _ _ => trivial) (fun _ => rfl) (fun _ => rfl) fun _ => rfl)
    poll := inv_pollFromStreams_owed d
    loopEnd := inv_owed_of_besides (indifferent_anyhow.onConnectionLoopEnd d hmessage rfl) }
  refine Prog.inv_bind (inv_owed_of_besides (indifferent_anyhow.new d hmessage cfg))
    (fun _ => hk.run n) _ fun _ => ⟨?_, always_nil⟩
  exact Nat.zero_le 1

/-- **Acknowledgements are paid for.** In every run, on any streams, there are at no time more
`Action::done`s for a stream than writes since it was opened, plus one, if every poll reports the
stream writable only while it is waited for, and once. -/
theorem dones_le_writes (cfg : InitialConfig) (streams : S) (env : E) (n : Nat) (id : StreamId)
    (hw : Warranted id (exec d cfg streams env n).2.past) :
    Always (fun pre o s => (tally id (pre ++ [(o, s)])).dones ≤
      (tally id (pre ++ [(o, s)])).writes + 1) (exec d cfg streams env n).2.past :=
  (owed_exec d cfg streams env n hw).always

/-! ## The streams of mio -/

section Mio

open Mio

variable {E F : Type}

/-- The poll has the stream `id` registered for `WRITABLE`. -/
def registeredWritable (s : MioStreams MioStream) (id : StreamId) : Bool :=
  s.streams.any fun info => info.streamId = id && info.registered.isWritable

/-- Every poll reports the stream `id` writable at most once, and only if it is registered for
`WRITABLE`. -/
def ReportsRegistered (id : StreamId) (l : List (Obs × Sys E (MioStreams MioStream) F)) : Prop :=
  Always (fun _ o s =>
    writables id o.pollResults ≤ (registeredWritable s.conn.streams id).toNat) l

variable (d : PvpnDependencies E (MioStreams MioStream) MioStream F) {os : UnixOs E}
  {registry : Registry E} {m : Nat} (hd : d.streams = Mio.streams os registry d.ids.tun m)
  (hrereg : ∀ token interest e, (registry.reregister token interest e).1 = .ok ())
include hd hrereg

/-- **On mio, only what is waited for is reported.** The interest registered for a stream contains
`WRITABLE` only while the loop waits for it, so a poll that reports what is registered is
warranted. -/
theorem warranted_mio {tun : Option Int} {streams : MioStreams MioStream} {e₀ e₁ : E}
    (hnew : MioStreams.new registry d.ids.tun (tun.map (MioStream.newTun os)) e₀ =
      (.ok streams, e₁))
    (cfg : InitialConfig) (env : E) (n : Nat) (id : StreamId)
    (hopens : OpensUnused (exec d cfg streams env n).2.past)
    (hpolls : ReportsRegistered id (exec d cfg streams env n).2.past) :
    Warranted id (exec d cfg streams env n).2.past := by
  have hI := writeInv_exec d hd hrereg hnew cfg env n hopens
  intro pre o s post hpast
  cases o with
  | polled result =>
    refine (hpolls pre _ s post hpast).trans (Bool.toNat_le_toNat fun hregistered => ?_)
    obtain ⟨info, hi, hinfo⟩ := List.any_eq_true.mp hregistered
    obtain ⟨rfl, hwritable⟩ : info.streamId = id ∧ info.registered.isWritable = true := by
      simpa using hinfo
    rcases (hI.checked pre _ s post hpast).armed.asked info hi hwritable with ⟨res, ho⟩ | hw
    · cases ho
    · exact tally_of_waited ((waited_snoc_none rfl s).mp hw)
  | _ => exact Nat.zero_le _

end Mio

end PvpnConnection

namespace Script

open Windows

/-- A Windows socket. Every entry of `polls` is a wake-up, with the event of the socket that was
opened last. -/
def windowsOs : WindowsOs Script where
  tcp := {
    write := fun data e => (.ok (Fin.last data.length), e)
    read := fun _ e => (.error { kind := .wouldBlock, message := "" }, e)
    shutdown := fun e => e }
  udp := {
    write := fun data e => (.ok (Fin.last data.length), e)
    read := fun _ e => (.error { kind := .wouldBlock, message := "" }, e) }
  tun := {
    tryReceive := fun e => (.ok none, e)
    allocateSendPacket := fun _ e => (.ok (), e)
    sendPacket := fun _ e => e }
  connectTcp _ e := (.ok (), e)
  connectUdp _ e := (.ok (), e)
  getEvents e :=
    let event := (pop [] e.polls).1.head?
    (⟨event.any (·.isReadable), event.any (·.isWritable)⟩, { e with polls := (pop [] e.polls).2 })
  takeError e := (false, e)
  wait _ e := (if e.polls.isEmpty then timeoutEvent else 2, e)
  resetWaker e := e

/-- The world of a script with the streams of Windows. -/
def scriptedWindows : PvpnDependencies Script WindowsStreams WindowsStream Unit :=
  { scripted with streams := Windows.streams windowsOs 0 4 }

/-- What is observed in the run of a script with the streams of Windows. -/
abbrev windowsLog (script : Script) (n : Nat) : List (Obs × Sys Script WindowsStreams Unit) :=
  (PvpnConnection.exec scriptedWindows plainConfig (WindowsStreams.new 0 {}) script n).2.past

/-- A TCP socket is opened and connects; then there is something to read. -/
def connectThenRead : Script where
  messages := [none, none, some .disconnect]
  actions := [some ⟨5, .openStream ⟨.tcp, ⟨.v4 0x01020304, 443⟩⟩ none⟩, none]
  polls := [[{ streamId := 5, isReadable := false, isWritable := true, isError := false }],
    [{ streamId := 5, isReadable := true, isWritable := false, isError := false }]]

/-- On mio the socket is reported writable while it is waited for, and only then. -/
theorem partialWrite_dones_le_writes :
    tally 5 (mioLog partialWrite 3) = { writes := 1, dones := 1, waiting := false } ∧
      Always (fun pre o s => (tally 5 (pre ++ [(o, s)])).dones ≤
        (tally 5 (pre ++ [(o, s)])).writes + 1) (mioLog partialWrite 3) := by
  have hnew : Mio.MioStreams.new mioRegistry scriptedMio.ids.tun
      ((none : Option Int).map (Mio.MioStream.newTun mioOs)) partialWrite =
        (.ok noStreams, partialWrite) := rfl
  have hopens : PvpnConnection.OpensUnused (mioLog partialWrite 3) := by
    unfold PvpnConnection.OpensUnused
    decide +kernel
  have hpolls : PvpnConnection.ReportsRegistered 5 (mioLog partialWrite 3) :=
    always_of_forall_lt (by decide +kernel)
  have hw := PvpnConnection.warranted_mio scriptedMio rfl (fun _ _ _ => rfl) hnew plainConfig
    partialWrite 3 5 hopens hpolls
  exact ⟨by decide +kernel,
    PvpnConnection.dones_le_writes scriptedMio plainConfig noStreams partialWrite 3 5 hw⟩

/-- Nothing was written to the socket, and it is acknowledged at both wake-ups. -/
theorem windows_done_twice :
    tally 5 (windowsLog connectThenRead 4) = { writes := 0, dones := 2, waiting := false } := by
  decide +kernel

end Script

end Protun
