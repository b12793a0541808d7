import Protun.Data.Outbox
import Protun.Streams.Trait

/-!
# TCP streams (`mio/tcp.rs`, `windows/tcp.rs`, `utils/windows/io_error.rs`)

Both implementations of `TcpSocketStream` keep the data their socket has not accepted in
`write_buffer`, a queue of chunks, and empty it in the same loop, which is `Outbox.drain`. They
differ in which errors count as would-block, and the Windows one keeps the two readiness flags that
its poll reports.

The operating system answers each call on the socket (`FdOs`): a `write` accepts any number of the
bytes offered or fails, as documented for `std::io::Write::write`. What the socket has accepted so
far is recorded in `TcpStream`, and so is how much that was when the write side was shut down. The
`SocketHandle` of the Windows stream is left out.

* **`tcp_keeps_bytes`**: what the socket has accepted, followed by the buffer, is what was written,
  after every call of either implementation.
-/

namespace Protun

/-- A socket as its peer sees it. -/
structure TcpStream where
  /-- The bytes accepted so far. -/
  accepted : Bytes := []
  /-- How many they were when the write side was shut down. -/
  shutdownAt : Option Nat := none

/-- The operating system's side of a socket or device. -/
structure FdOs (E : Type) where
  /-- `write(&data)`, on a UDP socket `send(&data)`. -/
  write : Outbox.Device UInt8 IoError E
  /-- `read(buf)`, on a UDP socket `recv(buf)`, for a buffer of length `len`. -/
  read : (len : Nat) → E → Except IoError { data : Bytes // data.length ≤ len } × E

/-- The operating system's side of a TCP socket. -/
structure TcpOs (E : Type) extends FdOs E where
  /-- `sock.shutdown(Shutdown::Write)`, whose answer is ignored. -/
  shutdown : E → E

/-- `buf` after `data` was read into it. -/
def fillBuffer (buf data : Bytes) : Bytes := data ++ buf.drop data.length

/-- `sock.shutdown(Shutdown::Write)`: the first one counts. -/
def TcpStream.shutdownWrite (sock : TcpStream) : TcpStream :=
  { sock with shutdownAt := some (sock.shutdownAt.getD sock.accepted.length) }

/-- What `write_from_buffer` returns: `error` is what made its loop stop early, and `blocks` says
which errors are no failure. -/
def writeResult (blocks : IoError → Bool) (bytesWritten : Nat) : Option IoError → StreamResult
  | none => .okAt0 bytesWritten .no .no
  | some e => if blocks e then .okAt0 bytesWritten .yes .yes else .err e

variable {E : Type}

/-- A read of a mio stream: `onRead` says what to make of the number of bytes. -/
def readFd (os : FdOs E) (pendingWrite : PendingWrite) (onRead : Nat → StreamResult) (buf : Bytes)
    (e : E) : (StreamResult × Bytes) × E :=
  match os.read buf.length e with
  | (.ok ⟨data, _⟩, e) => ((onRead data.length, fillBuffer buf data), e)
  | (.error err, e) =>
    ((if err.kind = .wouldBlock then .okAt0 0 .yes pendingWrite else .err err, buf), e)

/-! ## mio -/

namespace Mio

/-- `TcpSocketStream`. -/
structure TcpSocketStream where
  sock : TcpStream
  writeBuffer : List Bytes

namespace TcpSocketStream

/-- `TcpSocketStream::new`. -/
def new (tcp : TcpStream) : TcpSocketStream := { sock := tcp, writeBuffer := [] }

/-- The socket and what waits for it. -/
def outbox (s : TcpSocketStream) : Outbox UInt8 := ⟨s.sock.accepted, s.writeBuffer⟩

/-- `TcpSocketStream::read`. -/
def read (os : TcpOs E) (s : TcpSocketStream) (buf : Bytes) (e : E) : (StreamResult × Bytes) × E :=
  let pendingWrite : PendingWrite := if s.writeBuffer.isEmpty then .no else .yes
  readFd os.toFdOs pendingWrite
    (fun count => if count = 0 then .streamClosed else .okAt0 count .no pendingWrite) buf e

/-- `TcpSocketStream::write_from_buffer`. -/
def writeFromBuffer (os : TcpOs E) (n : Nat) (s : TcpSocketStream) (e : E) :
    Option (StreamResult × TcpSocketStream × E) :=
  (Outbox.drain os.write n 0 s.outbox e).map fun ((bytesWritten, err), o, e) =>
    (writeResult (·.kind = .wouldBlock) bytesWritten err,
      { sock := { s.sock with accepted := o.taken }, writeBuffer := o.waiting }, e)

/-- `TcpSocketStream::write`. -/
def write (os : TcpOs E) (n : Nat) (s : TcpSocketStream) (data : Bytes) (e : E) :
    Option (StreamResult × TcpSocketStream × E) :=
  writeFromBuffer os n { s with writeBuffer := s.writeBuffer ++ [data] } e

/-- `TcpSocketStream::shutdown_write`. -/
def shutdownWrite (os : TcpOs E) (s : TcpSocketStream) (e : E) : TcpSocketStream × E :=
  ({ s with sock := s.sock.shutdownWrite }, os.shutdown e)

end TcpSocketStream

end Mio

/-! ## Windows -/

namespace Windows

/-- `Transport`. -/
inductive Transport where
  | udp
  | tcp
  deriving DecidableEq, Repr

/-- `SocketErrorAction`. -/
inductive SocketErrorAction where
  | fatalSocketError
  | wouldBlock
  deriving DecidableEq, Repr

/-- The codes that are fatal on every transport: `WSA_INVALID_HANDLE`, `WSAEBADF`, `WSAEFAULT`,
`WSAEINVAL`, `WSAEMFILE`, `WSAENOTSOCK`, `WSAEDESTADDRREQ`, `WSAEPROTONOSUPPORT`,
`WSAESOCKTNOSUPPORT`, `WSAEOPNOTSUPP`, `WSAEAFNOSUPPORT`, `WSAEADDRINUSE`, `WSAEADDRNOTAVAIL`,
`WSAENETDOWN`, `WSAESHUTDOWN`, `WSAEPROCLIM`, `WSASYSNOTREADY`, `WSAVERNOTSUPPORTED`,
`WSANOTINITIALISED`, `WSAEPROVIDERFAILEDINIT`. -/
def fatalCodes : List Int :=
  [6, 10009, 10014, 10022, 10024, 10038, 10039, 10043, 10044, 10045, 10047, 10048, 10049, 10050,
    10058, 10067, 10091, 10092, 10093, 10106]

/-- The codes that are fatal on TCP only: `WSAEACCES`, `WSAENETUNREACH`, `WSAENETRESET`,
`WSAECONNABORTED`, `WSAECONNRESET`, `WSAETIMEDOUT`, `WSAECONNREFUSED`, `WSAEHOSTUNREACH`. -/
def fatalTcpCodes : List Int := [10013, 10051, 10052, 10053, 10054, 10060, 10061, 10065]

/-- `to_socket_error_action`. -/
def toSocketErrorAction (err : IoError) (transport : Transport) : SocketErrorAction :=
  if err.kind = .wouldBlock then .wouldBlock
  else
    match err.rawOsError, transport with
    | some code, .udp => if code ∈ fatalCodes then .fatalSocketError else .wouldBlock
    | some code, .tcp =>
      if code ∈ fatalCodes ++ fatalTcpCodes then .fatalSocketError else .wouldBlock
    | none, _ => .wouldBlock

/-- `TcpSocketStream`. -/
structure TcpSocketStream where
  socket : TcpStream
  writeBuffer : List Bytes
  isReadable : Bool
  isWritable : Bool

namespace TcpSocketStream

/-- What `TcpSocketStream::new` builds from a connected socket. -/
def new (tcpStream : TcpStream) : TcpSocketStream where
  socket := tcpStream
  writeBuffer := []
  isReadable := false
  isWritable := false

/-- The socket and what waits for it. -/
def outbox (s : TcpSocketStream) : Outbox UInt8 := ⟨s.socket.accepted, s.writeBuffer⟩

/-- `TcpSocketStream::read`. -/
def read (os : TcpOs E) (s : TcpSocketStream) (buf : Bytes) (e : E) :
    (StreamResult × Bytes) × TcpSocketStream × E :=
  let pendingWrite := PendingWrite.ofBool !s.writeBuffer.isEmpty
  match os.read buf.length e with
  | (.ok ⟨data, _⟩, e) =>
    if data.length = 0 then ((.streamClosed, buf), { s with isReadable := false }, e)
    else
      ((.okAt0 data.length .no pendingWrite, fillBuffer buf data), { s with isReadable := true }, e)
  | (.error err, e) =>
    match toSocketErrorAction err .tcp with
    | .fatalSocketError => ((.err err, buf), { s with isReadable := false }, e)
    | .wouldBlock => ((.okAt0 0 .yes pendingWrite, buf), { s with isReadable := false }, e)

/-- `TcpSocketStream::write_from_buffer`: the stream stays writable unless the loop met an error. -/
def writeFromBuffer (os : TcpOs E) (n : Nat) (s : TcpSocketStream) (e : E) :
    Option (StreamResult × TcpSocketStream × E) :=
  (Outbox.drain os.write n 0 s.outbox e).map fun ((bytesWritten, err), o, e) =>
    (writeResult (toSocketErrorAction · .tcp = .wouldBlock) bytesWritten err,
      { s with
        socket := { s.socket with accepted := o.taken }
        writeBuffer := o.waiting
        isWritable := err.isNone }, e)

/-- `TcpSocketStream::write`. -/
def write (os : TcpOs E) (n : Nat) (s : TcpSocketStream) (data : Bytes) (e : E) :
    Option (StreamResult × TcpSocketStream × E) :=
  writeFromBuffer os n { s with writeBuffer := s.writeBuffer ++ [data] } e

/-- `TcpSocketStream::shutdown_write`. -/
def shutdownWrite (os : TcpOs E) (s : TcpSocketStream) (e : E) : TcpSocketStream × E :=
  ({ s with socket := s.socket.shutdownWrite }, os.shutdown e)

end TcpSocketStream

end Windows

/-! ## One call -/

/-- What a call that writes does to the outbox `o`, whose last chunk may be new. -/
structure Sends (o : Outbox UInt8) (res : StreamResult) (o' : Outbox UInt8) : Prop where
  total : o'.total = o.total
  notClosed : res ≠ .streamClosed
  ok : ∀ bytesCount startOffset wouldBlock pendingWrite,
    res = .ok bytesCount startOffset wouldBlock pendingWrite →
      (pendingWrite = .yes ↔ o'.waiting ≠ []) ∧
        ∃ sent : Bytes, sent.length = bytesCount ∧ o'.taken = o.taken ++ sent

theorem writeResult_ne_streamClosed (blocks : IoError → Bool) (bytesWritten : Nat)
    (err : Option IoError) : writeResult blocks bytesWritten err ≠ .streamClosed := by
  intro h
  unfold writeResult StreamResult.okAt0 at h
  cases err with
  | none => cases h
  | some e =>
    dsimp only at h
    split at h <;> cases h

theorem sends_of_drained {o o' : Outbox UInt8} {bytesWritten : Nat} {err : Option IoError}
    (h : Outbox.Drained 0 o bytesWritten err o') (blocks : IoError → Bool) :
    Sends o (writeResult blocks bytesWritten err) o' := by
  refine ⟨h.total, writeResult_ne_streamClosed _ _ _, ?_⟩
  intro bytesCount startOffset wouldBlock pendingWrite hres
  obtain ⟨sent, hsent⟩ := h.taken
  have hlen : sent.length = bytesWritten := by
    have hcount := h.count
    rw [← hsent, List.length_append] at hcount
    omega
  cases err with
  | none =>
    cases hres
    exact ⟨by simp [h.empty.mp rfl], sent, hlen, hsent.symm⟩
  | some e =>
    have hne : o'.waiting ≠ [] := fun hw => by simpa using h.empty.mpr hw
    cases hb : blocks e with
    | true =>
      simp only [writeResult, hb, if_true] at hres
      cases hres
      exact ⟨by simp [hne], sent, hlen, hsent.symm⟩
    | false =>
      simp only [writeResult, hb, Bool.false_eq_true, if_false] at hres
      cases hres

/-- A loop that drains the outbox `o` into the socket of a stream, which `build` puts together from
what is left. -/
theorem sends_of_drain {X : Type} (outbox : X → Outbox UInt8)
    (build : Outbox UInt8 → Option IoError → X) (hbuild : ∀ o err, outbox (build o err) = o)
    {write : Outbox.Device UInt8 IoError E} {blocks : IoError → Bool} {n : Nat}
    {o : Outbox UInt8} {e e' : E} {x : X} {res : StreamResult}
    (h : (Outbox.drain write n 0 o e).map (fun r =>
      (writeResult blocks r.1.1 r.1.2, build r.2.1 r.1.2, r.2.2)) = some (res, x, e')) :
    Sends o res (outbox x) := by
  obtain ⟨⟨⟨bytesWritten, err⟩, o', e₁⟩, hd, heq⟩ := Option.map_eq_some_iff.mp h
  cases heq
  rw [hbuild]
  exact sends_of_drained (Outbox.drain_spec hd) blocks

theorem Mio.TcpSocketStream.writeFromBuffer_sends {os : TcpOs E} {n : Nat}
    {s s' : TcpSocketStream} {e e' : E} {res : StreamResult}
    (h : writeFromBuffer os n s e = some (res, s', e')) : Sends s.outbox res s'.outbox :=
  sends_of_drain outbox (fun o _ => ⟨{ s.sock with accepted := o.taken }, o.waiting⟩)
    (fun _ _ => rfl) h

theorem Windows.TcpSocketStream.writeFromBuffer_sends {os : TcpOs E} {n : Nat}
    {s s' : TcpSocketStream} {e e' : E} {res : StreamResult}
    (h : writeFromBuffer os n s e = some (res, s', e')) : Sends s.outbox res s'.outbox :=
  sends_of_drain outbox (fun o err =>
    ⟨{ s.socket with accepted := o.taken }, o.waiting, s.isReadable, err.isNone⟩) (fun _ _ => rfl) h

/-! ## Sequences of calls -/

/-- A call of `write` or `write_from_buffer`. -/
inductive WriteCall where
  | write (data : Bytes)
  | writeFromBuffer

/-- What the call passes to the stream. -/
def WriteCall.data : WriteCall → Bytes
  | .write data => data
  | .writeFromBuffer => []

/-- An implementation of a stream with a write buffer, in an environment `E`. -/
structure TcpImpl (E X : Type) where
  outbox : X → Outbox UInt8
  write : X → Bytes → E → Option (StreamResult × X × E)
  writeFromBuffer : X → E → Option (StreamResult × X × E)

/-- The mio implementation. -/
def Mio.tcpImpl (os : TcpOs E) (n : Nat) : TcpImpl E Mio.TcpSocketStream where
  outbox := TcpSocketStream.outbox
  write := TcpSocketStream.write os n
  writeFromBuffer := TcpSocketStream.writeFromBuffer os n

/-- The Windows implementation. -/
def Windows.tcpImpl (os : TcpOs E) (n : Nat) : TcpImpl E Windows.TcpSocketStream where
  outbox := TcpSocketStream.outbox
  write := TcpSocketStream.write os n
  writeFromBuffer := TcpSocketStream.writeFromBuffer os n

namespace TcpImpl

variable {X : Type} (impl : TcpImpl E X)

/-- Make a call. -/
def call (x : X) (e : E) : WriteCall → Option (StreamResult × X × E)
  | .write data => impl.write x data e
  | .writeFromBuffer => impl.writeFromBuffer x e

/-- Make calls, each after the one before has returned. -/
def calls (x : X) (e : E) : List WriteCall → Option (X × E)
  | [] => some (x, e)
  | c :: cs => (impl.call x e c).bind fun r => calls r.2.1 r.2.2 cs

/-- At every return of every sequence of calls on `x`, which is new, the socket has accepted, and
the buffer holds, exactly what was written, and a result that is `Ok` says whether the buffer is
empty and how much was accepted. -/
def KeepsBytes (x : X) : Prop :=
  ∀ (cs : List WriteCall) (c : WriteCall) (e₀ e e' : E) (s s' : X) (res : StreamResult),
    impl.calls x e₀ cs = some (s, e) → impl.call s e c = some (res, s', e') →
      (impl.outbox s').taken ++ (impl.outbox s').waiting.flatten =
          ((cs ++ [c]).map WriteCall.data).flatten ∧
        ∀ bytesCount startOffset wouldBlock pendingWrite,
          res = .ok bytesCount startOffset wouldBlock pendingWrite →
            (pendingWrite = .yes ↔ (impl.outbox s').waiting ≠ []) ∧
              ∃ sent : Bytes, sent.length = bytesCount ∧
                (impl.outbox s').taken = (impl.outbox s).taken ++ sent

/-- One call puts its data into the outbox and sends. -/
def CallSends : Prop :=
  ∀ (x x' : X) (e e' : E) (c : WriteCall) (res : StreamResult),
    impl.call x e c = some (res, x', e') →
      Sends (match c with
        | .write data => (impl.outbox x).put data
        | .writeFromBuffer => impl.outbox x) res (impl.outbox x')

variable {impl}

theorem CallSends.total (h : impl.CallSends) {x x' : X} {e e' : E} {c : WriteCall}
    {res : StreamResult} (hc : impl.call x e c = some (res, x', e')) :
    (impl.outbox x').total = (impl.outbox x).total ++ c.data := by
  have hs := (h x x' e e' c res hc).total
  cases c with
  | write data => rw [hs, Outbox.total_put]; rfl
  | writeFromBuffer => rw [hs]; simp [WriteCall.data]

theorem CallSends.calls_total (h : impl.CallSends) {cs : List WriteCall} {x x' : X} {e e' : E}
    (hc : impl.calls x e cs = some (x', e')) :
    (impl.outbox x').total = (impl.outbox x).total ++ (cs.map WriteCall.data).flatten := by
  induction cs generalizing x e with
  | nil =>
    cases hc
    simp
  | cons c cs ih =>
    obtain ⟨⟨res, x₁, e₁⟩, hc₁, hrest⟩ := Option.bind_eq_some_iff.mp hc
    rw [ih hrest, h.total hc₁]
    simp

theorem CallSends.keepsBytes (h : impl.CallSends) {x : X} (hx : (impl.outbox x).total = []) :
    impl.KeepsBytes x := by
  intro cs c e₀ e e' s s' res hcs hc
  refine ⟨?_, fun bytesCount startOffset wouldBlock pendingWrite hres => ?_⟩
  · have htotal := h.total hc
    rw [h.calls_total hcs, hx] at htotal
    simpa [Outbox.total] using htotal
  · have hok := (h s s' e e' c res hc).ok bytesCount startOffset wouldBlock pendingWrite hres
    cases c with
    | write data => exact hok
    | writeFromBuffer => exact hok

end TcpImpl

theorem Mio.callSends_tcpImpl (os : TcpOs E) (n : Nat) : (Mio.tcpImpl os n).CallSends := by
  intro x x' e e' c res hc
  cases c with
  | write data => exact TcpSocketStream.writeFromBuffer_sends hc
  | writeFromBuffer => exact TcpSocketStream.writeFromBuffer_sends hc

theorem Windows.callSends_tcpImpl (os : TcpOs E) (n : Nat) : (Windows.tcpImpl os n).CallSends := by
  intro x x' e e' c res hc
  cases c with
  | write data => exact TcpSocketStream.writeFromBuffer_sends hc
  | writeFromBuffer => exact TcpSocketStream.writeFromBuffer_sends hc

/-- **TCP streams lose nothing.** For every sequence of writes and every answer of the socket, in
both implementations. -/
theorem tcp_keeps_bytes (os : TcpOs E) (n : Nat) :
    (Mio.tcpImpl os n).KeepsBytes (Mio.TcpSocketStream.new {}) ∧
      (Windows.tcpImpl os n).KeepsBytes (Windows.TcpSocketStream.new {}) := by
  constructor
  · exact (Mio.callSends_tcpImpl os n).keepsBytes rfl
  · exact (Windows.callSends_tcpImpl os n).keepsBytes rfl

/-- A socket that has room for some bytes and then blocks. -/
def roomFor : TcpOs Nat where
  write data room :=
    if room = 0 then (.error { kind := .wouldBlock, message := "" }, 0)
    else (.ok ⟨min room data.length, by omega⟩, room - data.length)
  read _ room := (.error { kind := .wouldBlock, message := "" }, room)
  shutdown room := room

/-- Five bytes in two chunks, and room for three of them: the split chunk is kept in place. -/
theorem roomFor_keeps_bytes :
    ∃ s s' res, (Mio.tcpImpl roomFor 4).calls (.new {}) 3 [.write [1, 2]] = some (s, 1) ∧
      (Mio.tcpImpl roomFor 4).call s 1 (.write [3, 4, 5]) = some (res, s', 0) ∧
      s'.writeBuffer = [[4, 5]] ∧
      s'.sock.accepted ++ s'.writeBuffer.flatten = [1, 2] ++ [3, 4, 5] := by
  refine ⟨_, _, _, rfl, rfl, rfl, ?_⟩
  exact ((tcp_keeps_bytes roomFor 4).1 [.write [1, 2]] (.write [3, 4, 5]) 3 1 0 _ _ _ rfl rfl).1

end Protun
