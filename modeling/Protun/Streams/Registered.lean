import Protun.Streams.Mio

/-!
# The recorded interest as a cache (`mio/streams.rs`)

`MioStreamInfo.interest` records the interest that a stream was last registered with, and
`set_poll_enable_wait_for_write` does nothing when it already records what is wanted. It is written
before `reregister` is called and stays when that fails: from then on the record says what the poll
does not have, and the call that would set it right is skipped.

* `recorded_perform_iff`: an operation keeps the record right iff it makes no call of `reregister`
  that fails. A `register` that fails leaves no entry behind.
* **`interest_recorded_iff`**: so the record is right in every state of a run iff no `reregister` of
  the run fails.
* `wanted_interest_skipped`: after one failure the poll keeps the old interest however often the new
  one is asked for.
-/

namespace Protun.Mio

open Trace MioStreams

variable {E X : Type} {s : MioStreams X}

/-- The interest recorded for every stream is the one the poll has. -/
def Recorded (s : MioStreams X) : Prop := ∀ info ∈ s.streams, info.interest = info.registered

/-- A call of `set_poll_enable_wait_for_write` is skipped only if the poll has what it asks for. -/
def SkipsRightly (s : MioStreams X) : Prop :=
  ∀ streamId waitForWrite info, getStreamById s.streams streamId = some info →
    info.interest = wanted waitForWrite → info.registered = wanted waitForWrite

/-- If the operation calls `reregister`, that succeeds. -/
def MioOp.ReregistersOk (w : MioWorld E X) (s : MioStreams X × E) : MioOp → Prop
  | .setPollEnableWaitForWrite streamId waitForWrite =>
    ∀ info, getStreamById s.1.streams streamId = some info → info.interest ≠ wanted waitForWrite →
      (w.registry.reregister info.token (wanted waitForWrite) s.2).1.isOk = true
  | _ => True

theorem Recorded.skipsRightly (h : Recorded s) : SkipsRightly s := by
  intro streamId waitForWrite info hinfo hwanted
  rw [← h info (List.mem_of_find?_eq_some hinfo), hwanted]

/-! ## One operation -/

theorem recorded_registerStream (h : Recorded s) (registry : Registry E) (streamId : StreamId)
    (stream : X) (interest : Interest) (e : E) :
    Recorded (s.registerStream registry streamId stream interest e).2.1 := by
  unfold registerStream
  dsimp only
  split
  · intro info hi
    rcases List.mem_append.mp hi with hi | hi
    · exact h info hi
    · rw [List.mem_singleton.mp hi]
  · exact h

theorem recorded_openNewStream (h : Recorded s) (registry : Registry E)
    (newSocket : E → Except IoError X × E) (interest : Interest) (streamId : StreamId) (e : E) :
    Recorded (s.openNewStream registry newSocket interest streamId e).2.1 := by
  rcases openNewStream_cases registry newSocket interest streamId s e with
    ⟨err, -, heq⟩ | ⟨stream, e', heq⟩
  · rw [heq]
    exact h
  · rw [heq]
    exact recorded_registerStream h registry streamId stream interest e'

theorem recorded_closeStream (h : Recorded s) (registry : Registry E) (streamId : StreamId)
    (e : E) : Recorded (s.closeStream registry streamId e).1 :=
  fun info hi => h info (List.mem_filter.mp hi).1

/-- The entry found under an id is the one that is changed. -/
theorem mem_updateStreamById_found {f : MioStreamInfo X → MioStreamInfo X} {streamId : StreamId}
    {l : List (MioStreamInfo X)} {info : MioStreamInfo X}
    (h : getStreamById l streamId = some info) : f info ∈ updateStreamById f streamId l := by
  induction l with
  | nil => cases h
  | cons a l ih =>
    unfold getStreamById at h
    rw [List.find?_cons] at h
    unfold updateStreamById
    by_cases hid : a.streamId = streamId
    · rw [if_pos hid]
      simp only [hid, decide_true, Option.some.injEq] at h
      rw [h]
      exact List.mem_cons_self
    · rw [if_neg hid]
      simp only [hid, decide_false] at h
      exact List.mem_cons_of_mem a (ih h)

/-- A change of an entry is the only change. -/
theorem forall_mem_updateStreamById {P : MioStreamInfo X → Prop}
    {f : MioStreamInfo X → MioStreamInfo X} {streamId : StreamId} {l : List (MioStreamInfo X)}
    (hl : ∀ info ∈ l, P info) (hf : ∀ info, P (f info)) :
    ∀ info ∈ updateStreamById f streamId l, P info := by
  induction l with
  | nil => exact hl
  | cons a l ih =>
    unfold updateStreamById
    rw [List.forall_mem_cons] at hl
    split
    · exact List.forall_mem_cons.mpr ⟨hf a, hl.2⟩
    · exact List.forall_mem_cons.mpr ⟨hl.1, ih hl.2⟩

theorem recorded_setPollEnableWaitForWrite_iff (w : MioWorld E X) (h : Recorded s)
    (streamId : StreamId) (waitForWrite : Bool) (e : E) :
    Recorded (s.setPollEnableWaitForWrite w.registry streamId waitForWrite e).1 ↔
      (MioOp.setPollEnableWaitForWrite streamId waitForWrite).ReregistersOk w (s, e) := by
  unfold setPollEnableWaitForWrite MioOp.ReregistersOk
  cases hinfo : getStreamById s.streams streamId with
  | none =>
    refine iff_of_true h ?_
    intro info heq
    rw [hinfo] at heq
    cases heq
  | some info =>
    dsimp only
    by_cases hwanted : info.interest = wanted waitForWrite
    · rw [if_neg (not_not.mpr hwanted)]
      refine iff_of_true h ?_
      intro info' heq hne
      rw [hinfo] at heq
      cases heq
      exact absurd hwanted hne
    · rw [if_pos hwanted]
      constructor
      · intro hrec info' heq _
        rw [hinfo] at heq
        cases heq
        by_contra hfail
        -- the entry keeps its registration, which is what was recorded before
        have hsame := hrec _ (mem_updateStreamById_found hinfo)
        dsimp only at hsame
        rw [if_neg hfail, ← h info (List.mem_of_find?_eq_some hinfo)] at hsame
        exact hwanted hsame.symm
      · intro hok
        have hok' := hok info hinfo hwanted
        refine forall_mem_updateStreamById h ?_
        intro info'
        rw [if_pos hok']

/-- **An operation keeps the record right iff no `reregister` of it fails.** -/
theorem recorded_perform_iff (w : MioWorld E X) (h : Recorded s) (e : E) (op : MioOp) :
    Recorded (op.perform w s e).2.1 ↔ op.ReregistersOk w (s, e) := by
  cases op with
  | openNewTcpStream streamId addr =>
    exact iff_of_true (recorded_openNewStream h w.registry _ _ streamId e) trivial
  | openNewUdpStream streamId addr =>
    exact iff_of_true (recorded_openNewStream h w.registry _ _ streamId e) trivial
  | closeStream streamId =>
    exact iff_of_true (recorded_closeStream h w.registry streamId e) trivial
  | setPollEnableWaitForWrite streamId waitForWrite =>
    exact recorded_setPollEnableWaitForWrite_iff w h streamId waitForWrite e
  | updateTun tunInfo =>
    refine iff_of_true ?_ trivial
    have hclose := recorded_closeStream h w.registry w.tunId e
    cases tunInfo with
    | noTun => exact hclose
    | tunFd fd => exact recorded_registerStream hclose w.registry w.tunId _ .readable _

theorem recorded_new {registry : Registry E} {tunId : StreamId} {tun : Option X} {e e' : E}
    (h : MioStreams.new registry tunId tun e = (.ok s, e')) : Recorded s := by
  have hinit : Recorded { streams := [], nextToken := pollWakerToken + 1, registrations := [] }
      (X := X) := nofun
  unfold MioStreams.new at h
  cases tun with
  | none =>
    cases h
    exact hinit
  | some tun =>
    have hreg := recorded_registerStream hinit registry tunId tun .readable e
    dsimp only at h
    split at h
    · rename_i heq
      rw [heq] at hreg
      cases h
      exact hreg
    · cases h

/-! ## Runs -/

/-- **The record is right in every state of a run iff no `reregister` of the run fails**, whatever
`register` answers. Where it is right, no call is skipped while the poll has the other interest. -/
theorem interest_recorded_iff {w : MioWorld E X} {tun : Option X} {e₀ : E} {s₀ : MioStreams X × E}
    (hnew : MioStreams.new w.registry w.tunId tun e₀ = (.ok s₀.1, s₀.2)) (ops : List MioOp) :
    (∀ l l' u, ops = l ++ l' → Run (MioOp.Step w) s₀ l u → Recorded u.1 ∧ SkipsRightly u.1) ↔
      Throughout (MioOp.Step w) (fun u op => op.ReregistersOk w u) s₀ ops := by
  have hstep : ∀ (u : MioStreams X × E) (op : MioOp) (u' : MioStreams X × E),
      MioOp.Step w u op u' → Recorded u.1 → (Recorded u'.1 ↔ op.ReregistersOk w u) := by
    rintro u op _ rfl hu
    exact recorded_perform_iff w hu u.2 op
  have htotal : ∀ u op, ∃ u', MioOp.Step w u op u' := fun u op => ⟨_, rfl⟩
  refine Iff.trans ?_ (forall_reached_iff (recorded_new hnew) htotal hstep)
  constructor
  · intro h l l' u hops hrun
    exact (h l l' u hops hrun).1
  · intro h l l' u hops hrun
    have hu := h l l' u hops hrun
    exact ⟨hu, hu.skipsRightly⟩

/-- A stream is opened and no longer waits for write: its record is right. -/
theorem interest_recorded_permissive :
    Recorded (⟨[⟨5, (), 1, .readable, .readable⟩], 2, [1]⟩ : MioStreams Unit) := by
  have hnew : MioStreams.new permissive.registry permissive.tunId (none : Option Unit) () =
      (.ok ⟨[], 1, []⟩, ()) := rfl
  have hrun : Run (MioOp.Step permissive) (⟨[], 1, []⟩, ())
      [.openNewTcpStream 5 ⟨.v4 1, 443⟩, .setPollEnableWaitForWrite 5 false]
      (⟨[⟨5, (), 1, .readable, .readable⟩], 2, [1]⟩, ()) :=
    .cons rfl (.cons rfl (.nil _))
  refine ((interest_recorded_iff hnew _).mpr ?_ _ [] _ rfl hrun).1
  intro l op l' u _ _
  cases op with
  | setPollEnableWaitForWrite streamId waitForWrite => exact fun _ _ _ => rfl
  | openNewTcpStream | openNewUdpStream | closeStream | updateTun => exact trivial

/-- A poll whose calls of `reregister` are answered from a list. -/
def answering : MioWorld (List Bool) Unit where
  registry :=
    { register := fun _ _ e => (.ok (), e)
      reregister := fun _ _ e =>
        (if e.head? = some true then .ok () else .error { kind := .other, message := "" }, e.tail)
      deregister := fun _ e => e
      poll := fun _ e => (.ok [], e) }
  factory :=
    { newTcpSocket := fun _ e => (.ok (), e)
      newUdpSocket := fun _ e => (.ok (), e)
      newTun := fun _ => () }
  tunId := 0

/-- The stream 5 stops to wait for write, the call that is to make it wait again fails, and the
next one is skipped: the poll would have answered it. -/
theorem wanted_interest_skipped :
    Run (MioOp.Step answering) (⟨[], 1, []⟩, [true, false, true])
      [.openNewTcpStream 5 ⟨.v4 1, 443⟩, .setPollEnableWaitForWrite 5 false,
        .setPollEnableWaitForWrite 5 true]
      (⟨[⟨5, (), 1, .readableWritable, .readable⟩], 2, [1]⟩, [true]) ∧
    MioOp.Step answering (⟨[⟨5, (), 1, .readableWritable, .readable⟩], 2, [1]⟩, [true])
      (.setPollEnableWaitForWrite 5 true)
      (⟨[⟨5, (), 1, .readableWritable, .readable⟩], 2, [1]⟩, [true]) :=
  ⟨.cons rfl (.cons rfl (.cons rfl (.nil _))), rfl⟩

end Protun.Mio
