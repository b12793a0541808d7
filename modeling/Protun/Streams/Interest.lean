import Protun.Streams.Mio

/-!
# Streams with a backlog wait for write

A stream of the mio backend whose write buffer is not empty has to be registered for `WRITABLE`, or
the rest of its data is never sent. `Armed excused waited s` says so of all streams of `s`, except
those whose ids are excused, and that only streams that are waited for are registered so. Opening,
closing and reading streams keep it. A write excuses its stream, and the call of
`set_poll_enable_wait_for_write` that follows ends the excuse, if its argument is right about the
backlog.

`reregister` is assumed to succeed. A `register` that fails adds no stream, so nothing is assumed of
it.
-/

namespace Protun.Mio

variable {E : Type} {excused excused' waited waited' : StreamId → Prop} {s : MioStreams MioStream}

/-- Every stream with a backlog waits for write, unless its id is excused, and only streams that are
waited for do. -/
structure Armed (excused waited : StreamId → Prop) (s : MioStreams MioStream) : Prop where
  distinct : DistinctIds s
  /-- What is recorded is what the poll has registered. -/
  registered : ∀ info ∈ s.streams, info.registered = info.interest
  armed : ∀ info ∈ s.streams, ¬ excused info.streamId → info.stream.backlog ≠ [] →
    info.registered.isWritable = true
  asked : ∀ info ∈ s.streams, info.registered.isWritable = true → waited info.streamId

theorem Armed.mono (h : Armed excused waited s) (himp : ∀ id, excused id → excused' id)
    (hwaited : ∀ id, waited id → waited' id) : Armed excused' waited' s where
  distinct := h.distinct
  registered := h.registered
  armed info hi hex := h.armed info hi fun hx => hex (himp _ hx)
  asked info hi hw := hwaited _ (h.asked info hi hw)

/-! ## Entries by id -/

theorem eq_of_streamId_eq (h : DistinctIds s) {info info' : MioStreamInfo MioStream}
    (hi : info ∈ s.streams) (hi' : info' ∈ s.streams) (hid : info.streamId = info'.streamId) :
    info = info' :=
  List.inj_on_of_nodup_map h hi hi' hid

theorem getStreamById_eq_some {streamId : StreamId} {info : MioStreamInfo MioStream}
    (h : getStreamById s.streams streamId = some info) :
    info ∈ s.streams ∧ info.streamId = streamId :=
  ⟨List.mem_of_find?_eq_some h, by simpa using List.find?_some h⟩

theorem getStreamById_eq_none {streamId : StreamId} (h : getStreamById s.streams streamId = none) :
    ∀ info ∈ s.streams, info.streamId ≠ streamId := by
  intro info hi
  simpa using List.find?_eq_none.mp h info hi

/-- With distinct ids, one entry is changed. -/
theorem mem_updateStreamById {f : MioStreamInfo MioStream → MioStreamInfo MioStream}
    {streamId : StreamId} {l : List (MioStreamInfo MioStream)}
    (hl : (l.map (·.streamId)).Nodup) {info' : MioStreamInfo MioStream}
    (h : info' ∈ updateStreamById f streamId l) :
    ∃ info ∈ l, info' = if info.streamId = streamId then f info else info := by
  induction l with
  | nil => cases h
  | cons info l ih =>
    obtain ⟨hfirst, hl⟩ := List.nodup_cons.mp hl
    unfold updateStreamById at h
    by_cases hid : info.streamId = streamId
    · rw [if_pos hid] at h
      rcases List.mem_cons.mp h with rfl | h
      · exact ⟨info, List.mem_cons_self, (if_pos hid).symm⟩
      · -- the rest of the list has no entry of that id
        have hne : info'.streamId ≠ streamId := fun heq =>
          hfirst (List.mem_map.mpr ⟨info', h, heq.trans hid.symm⟩)
        exact ⟨info', List.mem_cons_of_mem _ h, (if_neg hne).symm⟩
    · rw [if_neg hid] at h
      rcases List.mem_cons.mp h with rfl | h
      · exact ⟨info', List.mem_cons_self, (if_neg hid).symm⟩
      · obtain ⟨info₀, hi₀, heq⟩ := ih hl h
        exact ⟨info₀, List.mem_cons_of_mem _ hi₀, heq⟩

/-! ## Opening and closing -/

/-- An id that is not in use needs no excuse and is not waited for. -/
theorem Armed.of_free (h : Armed excused waited s) {streamId : StreamId}
    (hfree : ∀ info ∈ s.streams, info.streamId ≠ streamId) :
    Armed (fun id => id ≠ streamId ∧ excused id) (fun id => id ≠ streamId ∧ waited id) s where
  distinct := h.distinct
  registered := h.registered
  armed info hi hex := h.armed info hi fun hx => hex ⟨hfree info hi, hx⟩
  asked info hi hw := ⟨hfree info hi, h.asked info hi hw⟩

theorem Armed.registerStream (h : Armed excused waited s) (registry : Registry E)
    {streamId : StreamId} (hfree : ∀ info ∈ s.streams, info.streamId ≠ streamId)
    {stream : MioStream} (hstream : stream.backlog = []) {interest : Interest}
    (hinterest : interest.isWritable = true → waited streamId) (e : E) :
    Armed excused waited (s.registerStream registry streamId stream interest e).2.1 := by
  refine ⟨distinctIds_registerStream h.distinct registry hfree stream interest e, ?_, ?_, ?_⟩
  all_goals
    unfold MioStreams.registerStream
    dsimp only
    split
  · intro info hi
    rcases List.mem_append.mp hi with hi | hi
    · exact h.registered info hi
    · rw [List.mem_singleton.mp hi]
  · exact h.registered
  · intro info hi hex hne
    rcases List.mem_append.mp hi with hi | hi
    · exact h.armed info hi hex hne
    · rw [List.mem_singleton.mp hi] at hne
      exact absurd hstream hne
  · exact h.armed
  · intro info hi hw
    rcases List.mem_append.mp hi with hi | hi
    · exact h.asked info hi hw
    · rw [List.mem_singleton.mp hi] at hw ⊢
      exact hinterest hw
  · exact h.asked

/-- A new stream is waited for if it is opened with `WRITABLE`, and then only if that succeeds. -/
theorem Armed.openNewStream (h : Armed excused waited s) (registry : Registry E)
    {newSocket : E → Except IoError MioStream × E}
    (hsocket : ∀ e stream e', newSocket e = (.ok stream, e') → stream.backlog = [])
    {interest : Interest} {streamId : StreamId}
    (hfree : ∀ info ∈ s.streams, info.streamId ≠ streamId) (e : E)
    (hinterest : (s.openNewStream registry newSocket interest streamId e).1 = .ok () →
      interest.isWritable = true → waited streamId) :
    Armed excused waited (s.openNewStream registry newSocket interest streamId e).2.1 := by
  cases hr : (s.openNewStream registry newSocket interest streamId e).1 with
  | error err =>
    obtain ⟨hdistinct, hregistered, harmed, hasked⟩ := h
    unfold DistinctIds at hdistinct
    rw [← openNewStream_error hr] at hdistinct hregistered harmed hasked
    exact ⟨hdistinct, hregistered, harmed, hasked⟩
  | ok u =>
    unfold MioStreams.openNewStream
    cases hs : newSocket e with
    | mk r e' =>
      cases r with
      | error err => exact h
      | ok stream =>
        exact h.registerStream registry hfree (hsocket e stream e' hs) (hinterest hr) e'

theorem Armed.closeStream (h : Armed excused waited s) (registry : Registry E)
    (streamId : StreamId) (e : E) : Armed excused waited (s.closeStream registry streamId e).1 where
  distinct := distinctIds_closeStream h.distinct registry streamId e
  registered info hi := h.registered info (List.mem_filter.mp hi).1
  armed info hi := h.armed info (List.mem_filter.mp hi).1
  asked info hi := h.asked info (List.mem_filter.mp hi).1

theorem Armed.updateTun (h : Armed excused waited s) (registry : Registry E) (os : UnixOs E)
    (tunId : StreamId) (tunInfo : TunStreamInfo) (e : E) :
    Armed excused waited (s.updateTun registry (socketFactoryUnix os) tunId tunInfo e).2.1 := by
  have hclose := h.closeStream registry tunId e
  cases tunInfo with
  | noTun => exact hclose
  | tunFd fd =>
    refine hclose.registerStream registry (fun info hi => ?_) (MioStream.newTun_backlog fd) ?_ _
    · simpa using (List.mem_filter.mp hi).2
    · intro hw
      cases hw

theorem armed_new {registry : Registry E} {tunId : StreamId} {tun : Option MioStream}
    (htun : ∀ stream ∈ tun, stream.backlog = []) {e e' : E}
    (h : MioStreams.new registry tunId tun e = (.ok s, e')) : Armed excused waited s := by
  have hinit : Armed excused waited
      { streams := [], nextToken := pollWakerToken + 1, registrations := [] } :=
    ⟨List.nodup_nil, by simp, by simp, by simp⟩
  unfold MioStreams.new at h
  cases tun with
  | none =>
    cases h
    exact hinit
  | some tun =>
    have hfree : ∀ info ∈ ([] : List (MioStreamInfo MioStream)), info.streamId ≠ tunId := by simp
    have hreadable : Interest.readable.isWritable = true → waited tunId := by
      intro hw
      cases hw
    have hreg := hinit.registerStream registry hfree (htun tun rfl) hreadable e
    dsimp only at h
    split at h
    · rename_i heq
      rw [heq] at hreg
      cases h
      exact hreg
    · cases h

/-! ## Reading and writing -/

theorem mem_setStream (h : DistinctIds s) {streamId : StreamId} {stream : MioStream}
    {info' : MioStreamInfo MioStream} (hi : info' ∈ (s.setStream streamId stream).streams) :
    ∃ info ∈ s.streams, info' = if info.streamId = streamId then { info with stream } else info :=
  mem_updateStreamById h hi

theorem distinctIds_setStream (h : DistinctIds s) (streamId : StreamId) (stream : MioStream) :
    DistinctIds (s.setStream streamId stream) := by
  refine Eq.mpr (congrArg List.Nodup (map_updateStreamById ?_ _)) h
  exact fun _ => rfl

/-- A stream that was written to is excused. -/
theorem Armed.setStream (h : Armed excused waited s) (streamId : StreamId) (stream : MioStream) :
    Armed (fun id => id = streamId ∨ excused id) waited (s.setStream streamId stream) := by
  refine ⟨distinctIds_setStream h.distinct streamId stream, fun info' hi' => ?_,
    fun info' hi' hex hne => ?_, fun info' hi' hw => ?_⟩
  all_goals
    obtain ⟨info, hi, rfl⟩ := mem_setStream h.distinct hi'
    by_cases hid : info.streamId = streamId
  · rw [if_pos hid]
    exact h.registered info hi
  · rw [if_neg hid]
    exact h.registered info hi
  · rw [if_pos hid] at hex
    exact absurd (.inl hid) hex
  · rw [if_neg hid] at hex hne ⊢
    exact h.armed info hi (fun hx => hex (.inr hx)) hne
  · rw [if_pos hid] at hw ⊢
    exact h.asked info hi hw
  · rw [if_neg hid] at hw ⊢
    exact h.asked info hi hw

/-- A stream whose backlog did not change is not excused. -/
theorem Armed.setStream_of_backlog_eq (h : Armed excused waited s) {info : MioStreamInfo MioStream}
    (hi : info ∈ s.streams) {stream : MioStream} (hb : stream.backlog = info.stream.backlog) :
    Armed excused waited (s.setStream info.streamId stream) := by
  have hset := h.setStream info.streamId stream
  refine ⟨hset.distinct, hset.registered, fun info' hi' hex hne => ?_, hset.asked⟩
  obtain ⟨info₀, hi₀, rfl⟩ := mem_setStream h.distinct hi'
  by_cases hid : info₀.streamId = info.streamId
  · obtain rfl := eq_of_streamId_eq h.distinct hi₀ hi hid
    rw [if_pos rfl] at hex hne ⊢
    exact h.armed info₀ hi hex (hb ▸ hne)
  · rw [if_neg hid] at hex hne ⊢
    exact h.armed info₀ hi₀ hex hne

@[simp] theorem isWritable_wanted (wait : Bool) : (MioStreams.wanted wait).isWritable = wait := by
  cases wait <;> rfl

section SetPoll

variable {registry : Registry E}
  (hrereg : ∀ token interest e, (registry.reregister token interest e).1 = .ok ())
include hrereg

/-- The stream has the interest that was asked for, also if it had it before. -/
theorem mem_setPollEnableWaitForWrite (h : Armed excused waited s) {streamId : StreamId}
    {wait : Bool} {e : E} {info' : MioStreamInfo MioStream}
    (hi' : info' ∈ (s.setPollEnableWaitForWrite registry streamId wait e).1.streams) :
    ∃ info ∈ s.streams, info' = if info.streamId = streamId then
      { info with interest := MioStreams.wanted wait, registered := MioStreams.wanted wait }
      else info := by
  unfold MioStreams.setPollEnableWaitForWrite at hi'
  cases hg : getStreamById s.streams streamId with
  | none =>
    rw [hg] at hi'
    exact ⟨info', hi', (if_neg (getStreamById_eq_none hg info' hi')).symm⟩
  | some info =>
    rw [hg] at hi'
    dsimp only at hi'
    obtain ⟨hi, hid⟩ := getStreamById_eq_some hg
    by_cases hint : info.interest = MioStreams.wanted wait
    · rw [if_neg (not_not.mpr hint)] at hi'
      refine ⟨info', hi', ?_⟩
      by_cases hid' : info'.streamId = streamId
      · obtain rfl := eq_of_streamId_eq h.distinct hi' hi (hid'.trans hid.symm)
        have hreg := (h.registered info' hi').trans hint
        rw [if_pos hid']
        cases info'
        cases hint
        cases hreg
        rfl
      · rw [if_neg hid']
    · rw [if_pos hint] at hi'
      rw [hrereg] at hi'
      exact mem_updateStreamById h.distinct hi'

/-- **The interest follows the backlog**: a stream that is told to wait for write if it has a
backlog is not excused any more, and is waited for only if it was told to. -/
theorem Armed.setPollEnableWaitForWrite (h : Armed excused waited s) (streamId : StreamId)
    {wait : Bool}
    (hwait : ∀ info ∈ s.streams, info.streamId = streamId → info.stream.backlog ≠ [] → wait = true)
    (e : E) : Armed (fun id => id ≠ streamId ∧ excused id)
      (fun id => if id = streamId then wait = true else waited id)
      (s.setPollEnableWaitForWrite registry streamId wait e).1 := by
  refine ⟨distinctIds_setPollEnableWaitForWrite h.distinct registry streamId wait e,
    fun info' hi' => ?_, fun info' hi' hex hne => ?_, fun info' hi' hw => ?_⟩
  all_goals
    obtain ⟨info, hi, rfl⟩ := mem_setPollEnableWaitForWrite hrereg h hi'
    by_cases hid : info.streamId = streamId
  · rw [if_pos hid]
  · rw [if_neg hid]
    exact h.registered info hi
  · rw [if_pos hid] at hne ⊢
    obtain rfl := hwait info hi hid hne
    rfl
  · rw [if_neg hid] at hex hne ⊢
    exact h.armed info hi (fun hx => hex ⟨hid, hx⟩) hne
  · rw [if_pos hid] at hw ⊢
    rw [isWritable_wanted] at hw
    exact (if_pos hid).symm ▸ hw
  · rw [if_neg hid] at hw ⊢
    exact (if_neg hid).symm ▸ h.asked info hi hw

end SetPoll

end Protun.Mio
