import Protun.Streams.Tcp

/-!
# The streams of the mio backend (`mio/udp.rs`, `mio/tun_unix.rs`, `mio/tun_apple.rs`)

UDP sockets and the two kinds of TUN devices, which have no write buffer, and `MioStream`, one of
these or a TCP socket. The write loops of the TUN devices take fuel. The `TunSourceFd` is left out:
it passes on the file descriptor.

`MioStream.backlog` is the write buffer of a TCP stream and empty for all others.
`write_reports` says of every kind of stream that a write which returns `Ok` reports a pending write
exactly if it leaves a backlog; reads and shutdowns do not touch the backlog.
-/

namespace Protun.Mio

variable {E : Type}

/-- What `write` returns for an error after `count` bytes, on a stream without write buffer. -/
def writeFailed (count : Nat) (err : IoError) : StreamResult :=
  if err.kind = .wouldBlock then .okAt0 count .yes .no else .err err

/-! ## UDP -/

/-- `UdpSocketStream`: the socket is the operating system's. -/
structure UdpSocketStream where

namespace UdpSocketStream

/-- `UdpSocketStream::read`. -/
def read (os : FdOs E) (_ : UdpSocketStream) (buf : Bytes) (e : E) : (StreamResult × Bytes) × E :=
  readFd os .no (fun count => .okAt0 count .no .no) buf e

/-- `UdpSocketStream::write`: what does not fit is cut off. -/
def write (os : FdOs E) (_ : UdpSocketStream) (data : Bytes) (e : E) : StreamResult × E :=
  match os.write data e with
  | (.ok size, e) => (.okAt0 size .no .no, e)
  | (.error err, e) => (writeFailed 0 err, e)

end UdpSocketStream

/-! ## TUN devices -/

/-- `TunStreamUnix`. -/
structure TunStreamUnix where
  fd : Int

namespace TunStreamUnix

/-- `TunStreamUnix::read`. -/
def read (os : FdOs E) (_ : TunStreamUnix) (buf : Bytes) (e : E) : (StreamResult × Bytes) × E :=
  readFd os .no (fun count =>
    if count = 0 then .err { kind := .unexpectedEof, message := "tun read: unexpected EOF" }
    else .okAt0 count .no .no) buf e

/-- The loop of `TunStreamUnix::write`. -/
def writeLoop (os : FdOs E) (data : Bytes) : Nat → Nat → E → Option (StreamResult × E)
  | 0, _, _ => none
  | fuel + 1, bytesWritten, e =>
    if bytesWritten < data.length then
      match os.write (data.drop bytesWritten) e with
      | (.ok count, e) => writeLoop os data fuel (bytesWritten + count) e
      | (.error err, e) => some (writeFailed bytesWritten err, e)
    else some (.okAt0 bytesWritten .no .no, e)

/-- `TunStreamUnix::write`. -/
def write (os : FdOs E) (n : Nat) (_ : TunStreamUnix) (data : Bytes) (e : E) :
    Option (StreamResult × E) :=
  writeLoop os data n 0 e

end TunStreamUnix

/-- `APPLE_TUN_PACKET_HEADER_LEN`. -/
def appleTunPacketHeaderLen : Nat := 4

/-- `address_family`: `AF_INET` is 2 and `AF_INET6` is 30 on Apple systems. -/
def addressFamily (byte : UInt8) : Except IoError UInt8 :=
  let ipVersion := byte >>> 4
  if ipVersion = 4 then .ok 2
  else if ipVersion = 6 then .ok 30
  else .error { kind := .invalidData, message := s!"Invalid IP version: {ipVersion}" }

/-- `TunStreamApple`. -/
structure TunStreamApple where
  fd : Int
  writeBuffer : Bytes

namespace TunStreamApple

/-- `TunStreamApple::new`. -/
def new (fd : Int) : TunStreamApple := { fd, writeBuffer := [] }

/-- `TunStreamApple::read`: the payload starts behind the header. -/
def read (os : FdOs E) (_ : TunStreamApple) (buf : Bytes) (e : E) : (StreamResult × Bytes) × E :=
  readFd os .no (fun count =>
    if appleTunPacketHeaderLen ≤ count then
      .ok (count - appleTunPacketHeaderLen) appleTunPacketHeaderLen .no .no
    else .err {
      kind := .invalidData
      message :=
        s!"Invalid packet: expected at least {appleTunPacketHeaderLen} bytes, got {count}" })
    buf e

/-- The loop of `TunStreamApple::write` over `write_buffer`; `len` is the length of the packet. -/
def writeLoop (os : FdOs E) (writeBuffer : Bytes) (len : Nat) :
    Nat → Nat → E → Option (StreamResult × E)
  | 0, _, _ => none
  | fuel + 1, bytesWritten, e =>
    if bytesWritten < writeBuffer.length then
      match os.write (writeBuffer.drop bytesWritten) e with
      | (.ok count, e) =>
        if count.val = 0 then
          some (.err { kind := .writeZero, message := "Failed to write packet to TUN device" }, e)
        else writeLoop os writeBuffer len fuel (bytesWritten + count) e
      | (.error err, e) =>
        if err.kind = .wouldBlock then
          if appleTunPacketHeaderLen ≤ bytesWritten then
            some (.okAt0 (bytesWritten - appleTunPacketHeaderLen) .yes .no, e)
          else
            some (.err {
              kind := .other
              message := s!"Partial header write ({bytesWritten} bytes) before would-block" }, e)
        else some (.err err, e)
    else some (.okAt0 len .no .no, e)

/-- `TunStreamApple::write`. -/
def write (os : FdOs E) (n : Nat) (s : TunStreamApple) (data : Bytes) (e : E) :
    Option (StreamResult × TunStreamApple × E) :=
  match data with
  | [] => some (.err { kind := .invalidData, message := "Empty packet" }, s, e)
  | byte :: _ =>
    match addressFamily byte with
    | .error err => some (.err err, s, e)
    | .ok af =>
      let writeBuffer := [0, 0, 0, af] ++ data
      (writeLoop os writeBuffer data.length n 0 e).map fun (res, e) =>
        (res, { s with writeBuffer }, e)

end TunStreamApple

/-! ## Any stream -/

/-- `Box<dyn MioStream>`. -/
inductive MioStream where
  | tcp (stream : TcpSocketStream)
  | udp (stream : UdpSocketStream)
  | tunUnix (stream : TunStreamUnix)
  | tunApple (stream : TunStreamApple)

/-- The operating system's side of all streams. -/
structure UnixOs (E : Type) where
  tcp : TcpOs E
  udp : FdOs E
  tun : FdOs E
  /-- The `apple` feature. -/
  apple : Bool
  /-- Whether `SocketFactoryUnix::new_tcp_socket` succeeds. -/
  connectTcp : SocketAddr → E → Except IoError Unit × E
  /-- Whether `SocketFactoryUnix::new_udp_socket` succeeds. -/
  connectUdp : SocketAddr → E → Except IoError Unit × E

namespace MioStream

variable (os : UnixOs E)

/-- `Stream::read`. -/
def read : MioStream → Bytes → E → (StreamResult × Bytes) × MioStream × E
  | .tcp s, buf, e => let (r, e) := s.read os.tcp buf e; (r, .tcp s, e)
  | .udp s, buf, e => let (r, e) := s.read os.udp buf e; (r, .udp s, e)
  | .tunUnix s, buf, e => let (r, e) := s.read os.tun buf e; (r, .tunUnix s, e)
  | .tunApple s, buf, e => let (r, e) := s.read os.tun buf e; (r, .tunApple s, e)

/-- `Stream::write`. -/
def write (n : Nat) : MioStream → Bytes → E → Option (StreamResult × MioStream × E)
  | .tcp s, data, e => (s.write os.tcp n data e).map fun (res, s, e) => (res, .tcp s, e)
  | .udp s, data, e => let (res, e) := s.write os.udp data e; some (res, .udp s, e)
  | .tunUnix s, data, e => (s.write os.tun n data e).map fun (res, e) => (res, .tunUnix s, e)
  | .tunApple s, data, e => (s.write os.tun n data e).map fun (res, s, e) => (res, .tunApple s, e)

/-- `Stream::write_from_buffer`: only TCP streams have a write buffer. -/
def writeFromBuffer (n : Nat) : MioStream → E → Option (StreamResult × MioStream × E)
  | .tcp s, e => (s.writeFromBuffer os.tcp n e).map fun (res, s, e) => (res, .tcp s, e)
  | s, e => some (.okAt0 0 .no .no, s, e)

/-- `Stream::shutdown_write`, which does nothing by default. -/
def shutdownWrite : MioStream → E → MioStream × E
  | .tcp s, e => let (s, e) := s.shutdownWrite os.tcp e; (.tcp s, e)
  | s, e => (s, e)

/-- `SocketFactoryUnix::new_tcp_socket`. -/
def newTcpSocket (addr : SocketAddr) (e : E) : Except IoError MioStream × E :=
  let (r, e) := os.connectTcp addr e
  (r.map fun _ => .tcp (TcpSocketStream.new {}), e)

/-- `SocketFactoryUnix::new_udp_socket`. -/
def newUdpSocket (addr : SocketAddr) (e : E) : Except IoError MioStream × E :=
  let (r, e) := os.connectUdp addr e
  (r.map fun _ => .udp {}, e)

/-- `TunStreamUnixType::new`. -/
def newTun (fd : Int) : MioStream :=
  if os.apple then .tunApple (.new fd) else .tunUnix { fd }

/-! ## The backlog -/

/-- What waits in the stream's write buffer. -/
def backlog : MioStream → List Bytes
  | .tcp s => s.writeBuffer
  | _ => []

variable {os}

theorem read_backlog (s : MioStream) (buf : Bytes) (e : E) :
    (s.read os buf e).2.1.backlog = s.backlog := by
  cases s <;> rfl

theorem shutdownWrite_backlog (s : MioStream) (e : E) :
    (s.shutdownWrite os e).1.backlog = s.backlog := by
  cases s <;> rfl

theorem newTcpSocket_backlog {addr : SocketAddr} {e e' : E} {s : MioStream}
    (h : newTcpSocket os addr e = (.ok s, e')) : s.backlog = [] := by
  obtain ⟨hr, -⟩ := Prod.mk.inj h
  cases hc : (os.connectTcp addr e).1 with
  | error err => simp [hc, Except.map] at hr
  | ok u =>
    simp only [hc, Except.map, Except.ok.injEq] at hr
    rw [← hr]
    rfl

theorem newUdpSocket_backlog {addr : SocketAddr} {e e' : E} {s : MioStream}
    (h : newUdpSocket os addr e = (.ok s, e')) : s.backlog = [] := by
  obtain ⟨hr, -⟩ := Prod.mk.inj h
  cases hc : (os.connectUdp addr e).1 with
  | error err => simp [hc, Except.map] at hr
  | ok u =>
    simp only [hc, Except.map, Except.ok.injEq] at hr
    rw [← hr]
    rfl

theorem newTun_backlog (fd : Int) : (newTun os fd).backlog = [] := by
  unfold newTun
  split <;> rfl

/-- With nothing in the buffer, `write_from_buffer` succeeds without asking the operating system. -/
theorem writeFromBuffer_of_backlog_nil {s : MioStream} (h : s.backlog = []) {n : Nat} (hn : 0 < n)
    (e : E) : writeFromBuffer os n s e = some (.okAt0 0 .no .no, s, e) := by
  obtain ⟨n, rfl⟩ := Nat.exists_eq_succ_of_ne_zero (Nat.ne_of_gt hn)
  cases s with
  | tcp s =>
    obtain ⟨sock, writeBuffer⟩ := s
    obtain rfl : writeBuffer = [] := h
    rfl
  | udp s | tunUnix s | tunApple s => rfl

/-- The result of a write that leaves `backlog`: if it is `Ok`, it reports a pending write iff there
is a backlog. A write never finds the stream closed. -/
structure Reports (res : StreamResult) (backlog : List Bytes) : Prop where
  ok : ∀ bytesCount startOffset wouldBlock pendingWrite,
    res = .ok bytesCount startOffset wouldBlock pendingWrite →
      (pendingWrite = .yes ↔ backlog ≠ [])
  notClosed : res ≠ .streamClosed

theorem reports_ok (count : Nat) (wouldBlock : WouldBlock) :
    Reports (.okAt0 count wouldBlock .no) [] := by
  refine ⟨?_, StreamResult.noConfusion⟩
  rintro _ _ _ _ ⟨⟩
  simp

theorem reports_err (err : IoError) : Reports (.err err) [] := by
  refine ⟨?_, StreamResult.noConfusion⟩
  rintro _ _ _ _ ⟨⟩

theorem reports_writeFailed (count : Nat) (err : IoError) : Reports (writeFailed count err) [] := by
  unfold writeFailed
  split
  · exact reports_ok count .yes
  · exact reports_err err

theorem reports_tcp {o : Outbox UInt8} {s : TcpSocketStream} {res : StreamResult}
    (h : Sends o res s.outbox) : Reports res (backlog (.tcp s)) where
  ok bytesCount startOffset wouldBlock pendingWrite hres :=
    (h.ok bytesCount startOffset wouldBlock pendingWrite hres).1
  notClosed := h.notClosed

end MioStream

open MioStream

theorem UdpSocketStream.write_reports (os : FdOs E) (s : UdpSocketStream) (data : Bytes) (e : E) :
    Reports (s.write os data e).1 [] := by
  unfold write
  split
  · exact reports_ok _ .no
  · exact reports_writeFailed 0 _

theorem TunStreamUnix.writeLoop_reports {os : FdOs E} {data : Bytes} {fuel bytesWritten : Nat}
    {e e' : E} {res : StreamResult}
    (h : writeLoop os data fuel bytesWritten e = some (res, e')) : Reports res [] := by
  induction fuel generalizing bytesWritten e with
  | zero => cases h
  | succ fuel ih =>
    unfold writeLoop at h
    by_cases hlt : bytesWritten < data.length
    · rw [if_pos hlt] at h
      cases ha : os.write (data.drop bytesWritten) e with
      | mk answer e₁ =>
        rw [ha] at h
        cases answer with
        | ok count => exact ih h
        | error err =>
          cases h
          exact reports_writeFailed bytesWritten err
    · rw [if_neg hlt] at h
      cases h
      exact reports_ok bytesWritten .no

theorem TunStreamApple.writeLoop_reports {os : FdOs E} {writeBuffer : Bytes}
    {len fuel bytesWritten : Nat} {e e' : E} {res : StreamResult}
    (h : writeLoop os writeBuffer len fuel bytesWritten e = some (res, e')) : Reports res [] := by
  induction fuel generalizing bytesWritten e with
  | zero => cases h
  | succ fuel ih =>
    unfold writeLoop at h
    by_cases hlt : bytesWritten < writeBuffer.length
    · rw [if_pos hlt] at h
      cases ha : os.write (writeBuffer.drop bytesWritten) e with
      | mk answer e₁ =>
        rw [ha] at h
        cases answer with
        | ok count =>
          dsimp only at h
          split at h
          · cases h
            exact reports_err _
          · exact ih h
        | error err =>
          dsimp only at h
          -- the three ways out on an error: after the header, inside it, and a real error
          split at h
          · split at h
            · cases h
              exact reports_ok _ .yes
            · cases h
              exact reports_err _
          · cases h
            exact reports_err err
    · rw [if_neg hlt] at h
      cases h
      exact reports_ok len .no

theorem TunStreamApple.write_reports {os : FdOs E} {n : Nat} {s s' : TunStreamApple} {data : Bytes}
    {e e' : E} {res : StreamResult} (h : write os n s data e = some (res, s', e')) :
    Reports res [] := by
  unfold write at h
  cases data with
  | nil =>
    cases h
    exact reports_err _
  | cons byte rest =>
    cases haf : addressFamily byte with
    | error err =>
      simp only [haf] at h
      cases h
      exact reports_err err
    | ok af =>
      simp only [haf] at h
      obtain ⟨⟨res', e₁⟩, hloop, heq⟩ := Option.map_eq_some_iff.mp h
      cases heq
      exact writeLoop_reports hloop

namespace MioStream

/-- **Results tell the backlog**: a write that returns `Ok` reports a pending write iff something
waits in the stream's write buffer. -/
theorem write_reports {os : UnixOs E} {n : Nat} {s s' : MioStream} {data : Bytes} {e e' : E}
    {res : StreamResult} (h : s.write os n data e = some (res, s', e')) :
    Reports res s'.backlog := by
  cases s with
  | tcp s =>
    obtain ⟨⟨res', s₁, e₁⟩, hw, heq⟩ := Option.map_eq_some_iff.mp h
    cases heq
    exact reports_tcp (TcpSocketStream.writeFromBuffer_sends hw)
  | udp s =>
    cases h
    exact UdpSocketStream.write_reports os.udp s data e
  | tunUnix s =>
    obtain ⟨⟨res', e₁⟩, hw, heq⟩ := Option.map_eq_some_iff.mp h
    cases heq
    exact TunStreamUnix.writeLoop_reports hw
  | tunApple s =>
    obtain ⟨⟨res', s₁, e₁⟩, hw, heq⟩ := Option.map_eq_some_iff.mp h
    cases heq
    exact TunStreamApple.write_reports hw

theorem writeFromBuffer_reports {os : UnixOs E} {n : Nat} {s s' : MioStream} {e e' : E}
    {res : StreamResult} (h : s.writeFromBuffer os n e = some (res, s', e')) :
    Reports res s'.backlog := by
  cases s with
  | tcp s =>
    obtain ⟨⟨res', s₁, e₁⟩, hw, heq⟩ := Option.map_eq_some_iff.mp h
    cases heq
    exact reports_tcp (TcpSocketStream.writeFromBuffer_sends hw)
  | udp s | tunUnix s | tunApple s =>
    cases h
    exact reports_ok 0 .no

end MioStream

end Protun.Mio
