import Protun.Streams.Mio
import Protun.Streams.Windows

/-!
# TCP streams in a set of streams

A stream that has a write buffer carries bytes: what its socket has accepted and what waits for it
are its `Outbox`. `Streams.Carries` says what each method of the traits `Stream` and `Streams` does
to the outbox of each stream that is open. The set may look its streams up and change what it knows
about them as it likes, but only a write puts anything into an outbox, and only opening a stream
makes a new one, which is empty.

* **`Mio.carries_streams`**, **`Windows.carries_streams`**: so do both sets of streams. On Windows a
  poll writes the readiness flags of every stream, and nothing else.
-/

namespace Protun

variable {E S X : Type}

/-- The outbox of the stream `id`, if it is open and has one. -/
def Streams.outboxOf (t : Streams E S X) (outbox : X → Option (Outbox UInt8)) (s : S)
    (id : StreamId) : Option (Outbox UInt8) :=
  (t.getStream s id).bind outbox

/-- What the methods do to the outboxes of the open streams. -/
structure Streams.Carries (t : Streams E S X) (outbox : X → Option (Outbox UInt8)) : Prop
    extends t.Stable where
  write : ∀ {x x' data e e' res o'}, t.write x data e = some (res, x', e') →
    outbox x' = some o' → ∃ o, outbox x = some o ∧ Sends (o.put data) res o'
  writeFromBuffer : ∀ {x x' e e' res o'}, t.writeFromBuffer x e = some (res, x', e') →
    outbox x' = some o' → ∃ o, outbox x = some o ∧ Sends o res o'
  read : ∀ x buf e, outbox (t.read x buf e).2.1 = outbox x
  shutdownWrite : ∀ x e, outbox (t.shutdownWrite x e).1 = outbox x
  opensTcp : ∀ {s id} addr e {o}, t.getStream s id = none →
    t.outboxOf outbox (t.openNewTcpStream id addr s e).2.1 id = some o →
      (t.openNewTcpStream id addr s e).1 = .ok () ∧ o.total = []
  opensUdp : ∀ {s id} addr e {o}, t.getStream s id = none →
    t.outboxOf outbox (t.openNewUdpStream id addr s e).2.1 id = some o →
      (t.openNewUdpStream id addr s e).1 = .ok () ∧ o.total = []
  closes : ∀ s e id, t.getStream (t.closeStream id s e).1 id = none
  poll : ∀ deadline s e id, t.outboxOf outbox (t.poll deadline s e).2.1 id = t.outboxOf outbox s id
  updateTun : ∀ info s e {id o}, t.outboxOf outbox (t.updateTun info s e).2.1 id = some o →
    t.outboxOf outbox s id = some o

/-- A call on the TCP stream inside a stream. -/
theorem sends_of_wrapped {T X : Type} (wrap : T → X) {outbox : X → Option (Outbox UInt8)}
    (inner : T → Outbox UInt8) (hwrap : ∀ t, outbox (wrap t) = some (inner t))
    {r : Option (StreamResult × T × E)} {o o' : Outbox UInt8} {res : StreamResult} {x : X} {e : E}
    (h : r.map (fun r => (r.1, wrap r.2.1, r.2.2)) = some (res, x, e)) (ho : outbox x = some o')
    (hr : ∀ {res t e}, r = some (res, t, e) → Sends o res (inner t)) : Sends o res o' := by
  obtain ⟨⟨res₁, t, e₁⟩, hcall, heq⟩ := Option.map_eq_some_iff.mp h
  cases heq
  cases (hwrap t).symm.trans ho
  exact hr hcall

/-! ## mio -/

namespace Mio

/-- The outbox of a TCP stream. -/
def MioStream.outbox : MioStream → Option (Outbox UInt8)
  | .tcp s => some s.outbox
  | _ => none

section Stream

variable {os : UnixOs E} {n : Nat} {s s' : MioStream} {e e' : E} {res : StreamResult}
  {o' : Outbox UInt8}

theorem MioStream.write_carries {data : Bytes} (h : s.write os n data e = some (res, s', e'))
    (ho : s'.outbox = some o') : ∃ o, s.outbox = some o ∧ Sends (o.put data) res o' := by
  cases s with
  | tcp s =>
    exact ⟨_, rfl, sends_of_wrapped tcp TcpSocketStream.outbox (fun _ => rfl) h ho
      TcpSocketStream.writeFromBuffer_sends⟩
  | udp s =>
    cases h
    cases ho
  | tunUnix s | tunApple s =>
    obtain ⟨_, _, heq⟩ := Option.map_eq_some_iff.mp h
    cases heq
    cases ho

theorem MioStream.writeFromBuffer_carries (h : s.writeFromBuffer os n e = some (res, s', e'))
    (ho : s'.outbox = some o') : ∃ o, s.outbox = some o ∧ Sends o res o' := by
  cases s with
  | tcp s =>
    exact ⟨_, rfl, sends_of_wrapped tcp TcpSocketStream.outbox (fun _ => rfl) h ho
      TcpSocketStream.writeFromBuffer_sends⟩
  | udp s | tunUnix s | tunApple s =>
    cases h
    cases ho

theorem MioStream.newTcpSocket_outbox {addr : SocketAddr}
    (h : newTcpSocket os addr e = (.ok s, e')) : s.outbox = some ⟨[], []⟩ := by
  obtain ⟨hr, -⟩ := Prod.mk.inj h
  cases hc : (os.connectTcp addr e).1 with
  | error err => simp [hc, Except.map] at hr
  | ok u =>
    simp only [hc, Except.map, Except.ok.injEq] at hr
    rw [← hr]
    rfl

theorem MioStream.newUdpSocket_outbox {addr : SocketAddr}
    (h : newUdpSocket os addr e = (.ok s, e')) : s.outbox = none := by
  obtain ⟨hr, -⟩ := Prod.mk.inj h
  cases hc : (os.connectUdp addr e).1 with
  | error err => simp [hc, Except.map] at hr
  | ok u =>
    simp only [hc, Except.map, Except.ok.injEq] at hr
    rw [← hr]
    rfl

theorem MioStream.newTun_outbox (fd : Int) : (newTun os fd).outbox = none := by
  unfold newTun
  split <;> rfl

end Stream

section Set

variable {registry : Registry E} {s : MioStreams X} {id streamId : StreamId}

/-- What is found under an id that was not there is the stream just opened. -/
theorem getStreamById_openNewStream_self (hid : getStreamById s.streams id = none)
    {newSocket : E → Except IoError X × E} {interest : Interest} {e : E} {info : MioStreamInfo X}
    (h : getStreamById (s.openNewStream registry newSocket interest id e).2.1.streams id =
      some info) :
    (s.openNewStream registry newSocket interest id e).1 = .ok () ∧
      ∃ e', newSocket e = (.ok info.stream, e') := by
  unfold MioStreams.openNewStream at h ⊢
  split at h
  · next stream e' hnew =>
    unfold MioStreams.registerStream at h ⊢
    dsimp only at h ⊢
    split at h
    · next e'' hreg =>
      unfold getStreamById at h hid
      rw [List.find?_append, hid] at h
      simp only [List.find?_singleton, decide_true, if_true, Option.none_or,
        Option.some.injEq] at h
      rw [← h]
      exact ⟨rfl, e', hnew⟩
    · exact absurd (hid.symm.trans h) (by simp)
  · exact absurd (hid.symm.trans h) (by simp)

/-- What is found after an update of the TUN is the new TUN or was there before. -/
theorem getStreamById_updateTun {factory : MioSocketFactory E X} {tunId : StreamId}
    {tunInfo : TunStreamInfo} {e : E} {info : MioStreamInfo X}
    (h : getStreamById (s.updateTun registry factory tunId tunInfo e).2.1.streams id = some info) :
    getStreamById s.streams id = some info ∨ ∃ fd, info.stream = factory.newTun fd := by
  have hclosed : ∀ info, getStreamById (s.closeStream registry tunId e).1.streams id = some info →
      getStreamById s.streams id = some info := by
    intro info hinfo
    by_cases hid : tunId = id
    · subst hid
      rw [getStreamById_closeStream_self] at hinfo
      cases hinfo
    · rwa [getStreamById_closeStream hid] at hinfo
  unfold MioStreams.updateTun at h
  cases tunInfo with
  | noTun => exact .inl (hclosed info h)
  | tunFd fd =>
    unfold MioStreams.registerStream at h
    dsimp only at h
    split at h
    · unfold getStreamById at h
      rw [List.find?_append, Option.or_eq_some_iff] at h
      rcases h with hold | ⟨-, hnew⟩
      · exact .inl (hclosed info hold)
      · have hinfo := List.mem_of_find?_eq_some hnew
        rw [List.mem_singleton.mp hinfo]
        exact .inr ⟨fd, rfl⟩
    · exact .inl (hclosed info h)

end Set

/-- The streams of mio carry bytes. -/
theorem carries_streams (os : UnixOs E) (registry : Registry E) (tunId : StreamId) (n : Nat) :
    (streams os registry tunId n).Carries MioStream.outbox where
  toStable := stable_streams os registry tunId n
  write := MioStream.write_carries
  writeFromBuffer := MioStream.writeFromBuffer_carries
  read x _ _ := by cases x <;> rfl
  shutdownWrite x _ := by cases x <;> rfl
  opensTcp addr e o hid ho := by
    obtain ⟨stream, hg, hout⟩ := Option.bind_eq_some_iff.mp ho
    obtain ⟨info, hinfo, rfl⟩ := Option.map_eq_some_iff.mp hg
    obtain ⟨hok, e', hnew⟩ := getStreamById_openNewStream_self (Option.map_eq_none_iff.mp hid) hinfo
    rw [MioStream.newTcpSocket_outbox hnew] at hout
    cases hout
    exact ⟨hok, rfl⟩
  opensUdp addr e o hid ho := by
    obtain ⟨stream, hg, hout⟩ := Option.bind_eq_some_iff.mp ho
    obtain ⟨info, hinfo, rfl⟩ := Option.map_eq_some_iff.mp hg
    obtain ⟨-, e', hnew⟩ := getStreamById_openNewStream_self (Option.map_eq_none_iff.mp hid) hinfo
    rw [MioStream.newUdpSocket_outbox hnew] at hout
    cases hout
  closes s e id := congrArg (Option.map _) (getStreamById_closeStream_self e)
  poll deadline s e id := by
    dsimp only [streams, Streams.outboxOf, MioStreams.poll]
    split <;> rfl
  updateTun info s e id o ho := by
    obtain ⟨stream, hg, hout⟩ := Option.bind_eq_some_iff.mp ho
    obtain ⟨info, hinfo, rfl⟩ := Option.map_eq_some_iff.mp hg
    rcases getStreamById_updateTun hinfo with hold | ⟨fd, hnew⟩
    · exact Option.bind_eq_some_iff.mpr ⟨_, Option.map_eq_some_iff.mpr ⟨info, hold, rfl⟩, hout⟩
    · rw [hnew] at hout
      exact absurd ((MioStream.newTun_outbox fd).symm.trans hout) (by simp)

/-- At the start there is the TUN at most. -/
theorem outboxOf_new {os : UnixOs E} {registry : Registry E} {tunId : StreamId} {n : Nat}
    {tun : Option Int} {s : MioStreams MioStream} {e e' : E}
    (h : MioStreams.new registry tunId (tun.map (MioStream.newTun os)) e = (.ok s, e'))
    (id : StreamId) : (streams os registry tunId n).outboxOf MioStream.outbox s id = none := by
  have hall : ∀ info ∈ s.streams, info.stream.outbox = none := by
    unfold MioStreams.new at h
    cases tun with
    | none =>
      cases h
      exact fun info hi => absurd hi (by simp)
    | some fd =>
      unfold MioStreams.registerStream at h
      dsimp only [Option.map_some] at h
      cases hreg : registry.register (pollWakerToken + 1) .readable e with
      | mk result e'' =>
        rw [hreg] at h
        cases result with
        | error err => cases h
        | ok u =>
          cases h
          intro info hi
          rw [List.nil_append, List.mem_singleton] at hi
          rw [hi]
          exact MioStream.newTun_outbox fd
  unfold Streams.outboxOf
  rw [Option.bind_eq_none_iff]
  intro stream hg
  obtain ⟨info, hinfo, rfl⟩ := Option.map_eq_some_iff.mp hg
  exact hall info (List.mem_of_find?_eq_some hinfo)

end Mio

/-! ## Windows -/

namespace Windows

/-- The outbox of a TCP stream. -/
def WindowsStream.outbox : WindowsStream → Option (Outbox UInt8)
  | .tcp s => some s.outbox
  | _ => none

section Stream

variable {os : WindowsOs E} {n : Nat} {s s' : WindowsStream} {e e' : E} {res : StreamResult}
  {o' : Outbox UInt8}

theorem WindowsStream.write_carries {data : Bytes} (h : s.write os n data e = some (res, s', e'))
    (ho : s'.outbox = some o') : ∃ o, s.outbox = some o ∧ Sends (o.put data) res o' := by
  cases s with
  | tcp s =>
    exact ⟨_, rfl, sends_of_wrapped tcp TcpSocketStream.outbox (fun _ => rfl) h ho
      TcpSocketStream.writeFromBuffer_sends⟩
  | udp s | tun s =>
    cases h
    cases ho

theorem WindowsStream.writeFromBuffer_carries (h : s.writeFromBuffer os n e = some (res, s', e'))
    (ho : s'.outbox = some o') : ∃ o, s.outbox = some o ∧ Sends o res o' := by
  cases s with
  | tcp s =>
    exact ⟨_, rfl, sends_of_wrapped tcp TcpSocketStream.outbox (fun _ => rfl) h ho
      TcpSocketStream.writeFromBuffer_sends⟩
  | udp s | tun s =>
    cases h
    cases ho

/-- Reading changes a flag of the stream. -/
theorem WindowsStream.read_outbox (s : WindowsStream) (buf : Bytes) (e : E) :
    (s.read os buf e).2.1.outbox = s.outbox := by
  cases s with
  | tcp s =>
    dsimp only [WindowsStream.read, TcpSocketStream.read]
    split
    · split <;> rfl
    · split <;> rfl
  | udp s | tun s => rfl

/-- Events change the flags of the stream. -/
theorem WindowsStream.getState_outbox (s : WindowsStream) (e : E) :
    (s.getState os e).2.1.outbox = s.outbox := by
  cases s <;> rfl

end Stream

namespace WindowsStreams

variable {os : WindowsOs E} {s : WindowsStreams} {id streamId : StreamId}

theorem find?_setFirst_self {stream : WindowsStream} {infos : List WindowsStreamInfo}
    (h : (infos.find? (·.streamId = id)).isSome) :
    ((setFirst id stream infos).find? (·.streamId = id)).map (·.stream) = some stream := by
  induction infos with
  | nil => cases h
  | cons info infos ih =>
    unfold setFirst
    by_cases hid : info.streamId = id
    · rw [if_pos hid, List.find?_cons_of_pos (by simpa using hid)]
      rfl
    · rw [if_neg hid, List.find?_cons_of_neg (by simpa using hid)]
      rw [List.find?_cons_of_neg (by simpa using hid)] at h
      exact ih h

theorem find?_setFirst_ne (hne : streamId ≠ id) (stream : WindowsStream)
    (infos : List WindowsStreamInfo) :
    (setFirst streamId stream infos).find? (·.streamId = id) =
      infos.find? (·.streamId = id) := by
  induction infos with
  | nil => rfl
  | cons info infos ih =>
    unfold setFirst
    by_cases hid : info.streamId = streamId
    · have hother : ¬ info.streamId = id := fun h => hne (hid.symm.trans h)
      rw [if_pos hid, List.find?_cons_of_neg (by simpa using hother),
        List.find?_cons_of_neg (by simpa using hother)]
    · rw [if_neg hid, List.find?_cons, List.find?_cons, ih]

theorem getStream_registerStream (h : (s.getStream id).isSome ∨ streamId ≠ id)
    (stream : WindowsStream) :
    (s.registerStream streamId stream).getStream id = s.getStream id := by
  unfold getStream registerStream at *
  dsimp only
  rw [List.find?_append]
  rcases h with hsome | hne
  · obtain ⟨info, hinfo⟩ := Option.isSome_iff_exists.mp (Option.isSome_map ▸ hsome)
    rw [hinfo]
    rfl
  · rw [List.find?_singleton, if_neg (by simpa using hne), Option.or_none]

theorem getStream_registerStream_self (h : s.getStream id = none) (stream : WindowsStream) :
    (s.registerStream id stream).getStream id = some stream := by
  unfold getStream registerStream at *
  rw [List.find?_append, Option.map_eq_none_iff.mp h]
  simp

theorem getStream_closeStream_ne (hne : streamId ≠ id) :
    (s.closeStream streamId).getStream id = s.getStream id := by
  unfold getStream closeStream
  rw [List.find?_filter]
  refine congrArg (fun p => (s.streams.find? p).map (·.stream)) (funext fun info => ?_)
  by_cases hid : info.streamId = id
  · simp [hid, hne.symm]
  · simp [hid]

theorem getStream_closeStream_self (s : WindowsStreams) (id : StreamId) :
    (s.closeStream id).getStream id = none := by
  unfold getStream closeStream
  refine Option.map_eq_none_iff.mpr (List.find?_eq_none.mpr fun info hi => ?_)
  simpa using (List.mem_filter.mp hi).2

/-- Reporting all streams leaves every outbox under its id. -/
theorem find?_getAllStreamsAsPollResults (infos : List WindowsStreamInfo) (e : E) :
    ((getAllStreamsAsPollResults os infos e).2.1.find? (·.streamId = id)).bind
        (·.stream.outbox) =
      (infos.find? (·.streamId = id)).bind (·.stream.outbox) := by
  induction infos generalizing e with
  | nil => rfl
  | cons info infos ih =>
    by_cases hid : info.streamId = id
    · rw [List.find?_cons_of_pos (by simpa using hid), getAllStreamsAsPollResults,
        List.find?_cons_of_pos (by exact decide_eq_true hid)]
      exact WindowsStream.getState_outbox info.stream _
    · rw [List.find?_cons_of_neg (by simpa using hid), getAllStreamsAsPollResults,
        List.find?_cons_of_neg (by exact fun h => hid (of_decide_eq_true h))]
      exact ih e

theorem openNewTcpStream_cases (os : WindowsOs E) (streamId : StreamId) (addr : SocketAddr)
    (s : WindowsStreams) (e : E) :
    (s.openNewTcpStream os streamId addr e).2.1 = s ∨
      (s.openNewTcpStream os streamId addr e).1 = .ok () ∧
        (s.openNewTcpStream os streamId addr e).2.1 =
          s.registerStream streamId (.tcp (.new {})) := by
  unfold openNewTcpStream
  split
  · exact .inr ⟨rfl, rfl⟩
  · exact .inl rfl

theorem openNewUdpStream_cases (os : WindowsOs E) (streamId : StreamId) (addr : SocketAddr)
    (s : WindowsStreams) (e : E) :
    (s.openNewUdpStream os streamId addr e).2.1 = s ∨
      (s.openNewUdpStream os streamId addr e).2.1 = s.registerStream streamId (.udp .new) := by
  unfold openNewUdpStream
  split
  · exact .inr rfl
  · exact .inl rfl

end WindowsStreams

open WindowsStreams

/-- The streams of Windows are found under their ids. -/
theorem stable_streams (os : WindowsOs E) (tunId : StreamId) (n : Nat) :
    (streams os tunId n).Stable where
  setStream_self s _ x hid := find?_setFirst_self (Option.isSome_map ▸ hid)
  setStream s _ _ x hne := congrArg (Option.map _) (find?_setFirst_ne hne x s.streams)
  setPoll _ _ _ _ _ := rfl
  openTcp s e id streamId addr hid := by
    rcases openNewTcpStream_cases os streamId addr s e with hsame | ⟨-, hnew⟩
    · exact congrArg (fun s => getStream s id) hsame
    · exact (congrArg (fun s => getStream s id) hnew).trans (getStream_registerStream hid _)
  openUdp s e id streamId addr hid := by
    rcases openNewUdpStream_cases os streamId addr s e with hsame | hnew
    · exact congrArg (fun s => getStream s id) hsame
    · exact (congrArg (fun s => getStream s id) hnew).trans (getStream_registerStream hid _)
  close _ _ _ _ hne := getStream_closeStream_ne hne

/-- The streams of Windows carry bytes. -/
theorem carries_streams (os : WindowsOs E) (tunId : StreamId) (n : Nat) :
    (streams os tunId n).Carries WindowsStream.outbox where
  toStable := stable_streams os tunId n
  write := WindowsStream.write_carries
  writeFromBuffer := WindowsStream.writeFromBuffer_carries
  read := WindowsStream.read_outbox
  shutdownWrite x _ := by cases x <;> rfl
  opensTcp {s id} addr e o hid ho := by
    obtain ⟨stream, hg, hout⟩ := Option.bind_eq_some_iff.mp ho
    rcases openNewTcpStream_cases os id addr s e with hsame | ⟨hok, hnew⟩
    · have hnone := (congrArg (fun s => getStream s id) hsame).trans hid
      exact absurd (hnone.symm.trans hg) (by simp)
    · have hsome := (congrArg (fun s => getStream s id) hnew).trans
        (getStream_registerStream_self hid _)
      obtain rfl := Option.some.inj (hsome.symm.trans hg)
      cases hout
      exact ⟨hok, rfl⟩
  opensUdp {s id} addr e o hid ho := by
    obtain ⟨stream, hg, hout⟩ := Option.bind_eq_some_iff.mp ho
    rcases openNewUdpStream_cases os id addr s e with hsame | hnew
    · have hnone := (congrArg (fun s => getStream s id) hsame).trans hid
      exact absurd (hnone.symm.trans hg) (by simp)
    · have hsome := (congrArg (fun s => getStream s id) hnew).trans
        (getStream_registerStream_self hid _)
      obtain rfl := Option.some.inj (hsome.symm.trans hg)
      cases hout
  closes s _ id := getStream_closeStream_self s id
  poll deadline s e id := by
    dsimp only [streams, Streams.outboxOf, WindowsStreams.poll]
    split
    · rfl
    split
    · rfl
    · unfold getStream
      rw [Option.bind_map, Option.bind_map]
      exact find?_getAllStreamsAsPollResults s.streams _
  updateTun _ _ _ _ _ ho := ho

/-- At the start there is the TUN. -/
theorem outboxOf_new {os : WindowsOs E} {tunId : StreamId} {n : Nat} {tun : TunStreamWindows}
    (id : StreamId) :
    (streams os tunId n).outboxOf WindowsStream.outbox (WindowsStreams.new tunId tun) id =
      none := by
  unfold Streams.outboxOf
  rw [Option.bind_eq_none_iff]
  intro stream hg
  obtain ⟨info, hinfo, rfl⟩ := Option.map_eq_some_iff.mp hg
  have hmem := List.mem_of_find?_eq_some hinfo
  rw [WindowsStreams.new, registerStream, List.nil_append, List.mem_singleton] at hmem
  rw [hmem]
  rfl

end Windows

end Protun
