import Protun.Streams.Unix

/-!
# Do the write loops end? (`mio/tcp.rs`, `windows/tcp.rs`, `mio/tun_unix.rs`, `mio/tun_apple.rs`)

Four loops offer what is pending to a socket or to the TUN device until all of it is taken:
`write_from_buffer` of the two TCP streams, and `write` of the two kinds of TUN devices. The first
three count a 0 that the device accepts like any other number and offer the rest again.
`TunStreamApple` makes it the error `WriteZero`, as `write_all` of the standard library does.

* `TunStreamUnix.writeLoop_eq_drain`: the loop of `TunStreamUnix::write` is `Outbox.drain` too, of a
  queue with one chunk.
* **`write_loops_end_iff`**: each of the first three ends iff the device does not come to accept
  nothing for ever (`Outbox.Starves`), and the fourth always ends.
* `write_loops_spin`: a device that accepts nothing keeps the three busy whatever their fuel.
-/

namespace Protun

variable {E : Type}

namespace Mio

namespace TunStreamUnix

variable {os : FdOs E} {data : Bytes}

/-- What is left to write after `bytesWritten` bytes, as a queue. -/
def pending (data : Bytes) (bytesWritten : Nat) : List Bytes :=
  if bytesWritten < data.length then [data.drop bytesWritten] else []

/-- What `write` returns: `error` is what made its loop stop early. -/
def writeLoopResult (bytesWritten : Nat) : Option IoError → StreamResult
  | none => .okAt0 bytesWritten .no .no
  | some err => writeFailed bytesWritten err

theorem left_drop {bytesWritten : Nat} (h : bytesWritten < data.length) (count : Nat) :
    Outbox.left (data.drop bytesWritten) [] count = pending data (bytesWritten + count) := by
  unfold Outbox.left pending
  rw [List.length_drop, List.drop_drop]
  by_cases hlt : bytesWritten + count < data.length
  · rw [if_pos hlt, if_pos (by omega)]
  · rw [if_neg hlt, if_neg (by omega)]

/-- The loop is a drain of what is left, whatever the device took before. -/
theorem writeLoop_eq_drain (fuel bytesWritten : Nat) (taken : Bytes) (e : E) :
    writeLoop os data fuel bytesWritten e =
      (Outbox.drain os.write fuel bytesWritten ⟨taken, pending data bytesWritten⟩ e).map
        fun ((count, err), _, e) => (writeLoopResult count err, e) := by
  induction fuel generalizing bytesWritten taken e with
  | zero => rfl
  | succ fuel ih =>
    unfold writeLoop Outbox.drain
    by_cases hlt : bytesWritten < data.length
    · have hp : pending data bytesWritten = [data.drop bytesWritten] := if_pos hlt
      rw [if_pos hlt, hp]
      dsimp only
      cases ha : os.write (data.drop bytesWritten) e with
      | mk answer e₁ =>
        cases answer with
        | error err => rfl
        | ok count =>
          dsimp only
          rw [ih, ← left_drop hlt count]
          rfl
    · have hp : pending data bytesWritten = [] := if_neg hlt
      rw [if_neg hlt, hp]
      rfl

/-- An empty packet is not offered to the device, and an empty chunk would not starve it. -/
theorem starves_pending (write : Outbox.Device UInt8 IoError E) (data : Bytes) (e : E) :
    Outbox.Starves write (pending data 0) e ↔ Outbox.Starves write [data] e := by
  by_cases hne : data = []
  · subst hne
    constructor
    · intro h
      cases h
    · intro h
      cases h with
      | stuck hne hs => exact absurd rfl hne
      | later ha hs =>
        have hleft : ∀ count, Outbox.left ([] : Bytes) [] count = [] :=
          fun count => if_neg (Nat.not_lt_zero count)
        rw [hleft] at hs
        cases hs
  · have hp : pending data 0 = [data] := if_pos (List.length_pos_iff.mpr hne)
    rw [hp]

theorem write_ends_iff (os : FdOs E) (s : TunStreamUnix) (data : Bytes) (e : E) :
    (∃ n, (write os n s data e).isSome) ↔ ¬ Outbox.Starves os.write [data] e := by
  rw [← starves_pending, ← Outbox.drain_stops_iff 0 ⟨[], pending data 0⟩ e]
  unfold write
  simp only [writeLoop_eq_drain _ _ [], Option.isSome_map]

end TunStreamUnix

namespace TunStreamApple

theorem writeLoop_isSome {os : FdOs E} {writeBuffer : Bytes} {len fuel bytesWritten : Nat} {e : E}
    (hfuel : writeBuffer.length - bytesWritten < fuel) :
    (writeLoop os writeBuffer len fuel bytesWritten e).isSome := by
  induction fuel generalizing bytesWritten e with
  | zero => omega
  | succ fuel ih =>
    unfold writeLoop
    by_cases hlt : bytesWritten < writeBuffer.length
    · rw [if_pos hlt]
      cases ha : os.write (writeBuffer.drop bytesWritten) e with
      | mk answer e₁ =>
        cases answer with
        | ok count =>
          dsimp only
          by_cases hzero : count.val = 0
          · rw [if_pos hzero]
            rfl
          · rw [if_neg hzero]
            refine ih ?_
            omega
        | error err =>
          dsimp only
          split
          · split <;> rfl
          · rfl
    · rw [if_neg hlt]
      rfl

theorem write_ends (os : FdOs E) (s : TunStreamApple) (data : Bytes) (e : E) :
    ∃ n, (write os n s data e).isSome := by
  refine ⟨data.length + 5, ?_⟩
  unfold write
  split
  · rfl
  · split
    · rfl
    · rw [Option.isSome_map]
      refine writeLoop_isSome ?_
      simp

end TunStreamApple

theorem TcpSocketStream.writeFromBuffer_ends_iff (os : TcpOs E) (s : TcpSocketStream) (e : E) :
    (∃ n, (s.writeFromBuffer os n e).isSome) ↔ ¬ Outbox.Starves os.write s.writeBuffer e := by
  unfold writeFromBuffer
  simp only [Option.isSome_map]
  exact Outbox.drain_stops_iff 0 s.outbox e

end Mio

theorem Windows.TcpSocketStream.writeFromBuffer_ends_iff (os : TcpOs E) (s : TcpSocketStream)
    (e : E) :
    (∃ n, (s.writeFromBuffer os n e).isSome) ↔ ¬ Outbox.Starves os.write s.writeBuffer e := by
  unfold writeFromBuffer
  simp only [Option.isSome_map]
  exact Outbox.drain_stops_iff 0 s.outbox e

/-- **Which write loops end.** For every queue, packet and behaviour of the socket or device, the
loops of the TCP streams and of `TunStreamUnix` end iff the device does not come to accept nothing
of the data offered for ever. The loop of `TunStreamApple` always ends. -/
theorem write_loops_end_iff (socket : TcpOs E) (tun : FdOs E) (e : E) :
    (∀ s : Mio.TcpSocketStream, (∃ n, (s.writeFromBuffer socket n e).isSome) ↔
      ¬ Outbox.Starves socket.write s.writeBuffer e) ∧
    (∀ s : Windows.TcpSocketStream, (∃ n, (s.writeFromBuffer socket n e).isSome) ↔
      ¬ Outbox.Starves socket.write s.writeBuffer e) ∧
    (∀ (s : Mio.TunStreamUnix) (data : Bytes), (∃ n, (s.write tun n data e).isSome) ↔
      ¬ Outbox.Starves tun.write [data] e) ∧
    (∀ (s : Mio.TunStreamApple) (data : Bytes), ∃ n, (s.write tun n data e).isSome) := by
  refine ⟨fun s => ?_, fun s => ?_, fun s data => ?_, fun s data => ?_⟩
  · exact Mio.TcpSocketStream.writeFromBuffer_ends_iff socket s e
  · exact Windows.TcpSocketStream.writeFromBuffer_ends_iff socket s e
  · exact Mio.TunStreamUnix.write_ends_iff tun s data e
  · exact Mio.TunStreamApple.write_ends tun s data e

/-- A device that accepts nothing of what it is offered, without an error. -/
def deafOs : TcpOs Unit where
  write _ e := (.ok 0, e)
  read _ e := (.ok ⟨[], Nat.zero_le _⟩, e)
  shutdown e := e

/-- One byte keeps the three loops busy for ever. -/
theorem write_loops_spin :
    (∀ n, (Mio.TcpSocketStream.mk {} [[0]]).writeFromBuffer deafOs n () = none) ∧
    (∀ n, (Windows.TcpSocketStream.mk {} [[0]] false true).writeFromBuffer deafOs n () = none) ∧
    (∀ n, (Mio.TunStreamUnix.mk 3).write deafOs.toFdOs n [0] () = none) ∧
    (Mio.TunStreamApple.new 3).write deafOs.toFdOs 9 [0x45] () =
      some (.err { kind := .writeZero, message := "Failed to write packet to TUN device" },
        ⟨3, [0, 0, 0, 2, 0x45]⟩, ()) := by
  have hstarves : Outbox.Starves deafOs.write [[0]] () :=
    .stuck (List.cons_ne_nil _ _) fun _ => rfl
  refine ⟨fun n => ?_, fun n => ?_, fun n => ?_, rfl⟩
  · unfold Mio.TcpSocketStream.writeFromBuffer
    rw [hstarves.drain_eq_none]
    rfl
  · unfold Windows.TcpSocketStream.writeFromBuffer
    rw [hstarves.drain_eq_none]
    rfl
  · unfold Mio.TunStreamUnix.write
    rw [Mio.TunStreamUnix.writeLoop_eq_drain n 0 [], hstarves.drain_eq_none]
    rfl

end Protun
