import Protun.Streams.Tcp

/-!
# The streams of the Windows backend (`windows/streams.rs`, `windows/udp.rs`,
`windows/tun_windows.rs`, `helpers/socket_handle.rs`)

The sockets of Windows keep two flags, `is_readable` and `is_writable`: a network event sets one, a
read or write that fails clears it. `WindowsStreams::poll` waits for one of the handles; unless that
is the waker's or the time is over, it reports all streams with their flags.
`set_poll_enable_wait_for_write` does nothing.

* The handles are left out: all that `poll` makes of the one that is signalled is whether it is the
  waker's.
* A TUN cannot be replaced: `update_tun` belongs to the `mio` feature.
* `poll_of_isFlagged`: a stream whose flag is set is reported writable after every wake-up but the
  waker's, whether anything waits to be written or not.
-/

namespace Protun.Windows

variable {E : Type}

/-- `SocketEvent`. -/
structure SocketEvent where
  isReadable : Bool
  isWritable : Bool

/-! ## UDP -/

/-- `UdpSocketStream`. -/
structure UdpSocketStream where
  isReadable : Bool
  isWritable : Bool

namespace UdpSocketStream

/-- What `UdpSocketStream::new` builds. -/
def new : UdpSocketStream := { isReadable := false, isWritable := false }

/-- What `read` and `write` make of an error. -/
def failed (err : IoError) : StreamResult :=
  match toSocketErrorAction err .udp with
  | .fatalSocketError => .err err
  | .wouldBlock => .okAt0 0 .yes .no

/-- `UdpSocketStream::read`. -/
def read (os : FdOs E) (s : UdpSocketStream) (buf : Bytes) (e : E) :
    (StreamResult × Bytes) × UdpSocketStream × E :=
  match os.read buf.length e with
  | (.ok ⟨data, _⟩, e) =>
    ((.okAt0 data.length .no .no, fillBuffer buf data), { s with isReadable := true }, e)
  | (.error err, e) => ((failed err, buf), { s with isReadable := false }, e)

/-- `UdpSocketStream::write`: what does not fit is cut off. -/
def write (os : FdOs E) (s : UdpSocketStream) (data : Bytes) (e : E) :
    StreamResult × UdpSocketStream × E :=
  match os.write data e with
  | (.ok size, e) => (.okAt0 size .no .no, { s with isWritable := true }, e)
  | (.error err, e) => (failed err, { s with isWritable := false }, e)

end UdpSocketStream

/-! ## The TUN device -/

/-- The Wintun session of a `TunStreamWindows`. -/
structure WintunOs (E : Type) where
  /-- `session.try_receive()`: a packet, if there is one. -/
  tryReceive : E → Except IoError (Option Bytes) × E
  /-- `session.allocate_send_packet(size)`. -/
  allocateSendPacket : Nat → E → Except IoError Unit × E
  /-- `session.send_packet(packet)`. -/
  sendPacket : Bytes → E → E

/-- `u16::MAX`, the longest packet. -/
def maxPacket : Nat := 65535

/-- `TunStreamWindows`: the session is the operating system's. -/
structure TunStreamWindows where

namespace TunStreamWindows

/-- `TunStreamWindows::read`: what does not fit is cut off. -/
def read (os : WintunOs E) (_ : TunStreamWindows) (buf : Bytes) (e : E) :
    (StreamResult × Bytes) × E :=
  match os.tryReceive e with
  | (.ok (some packet), e) =>
    let data := packet.take buf.length
    ((.okAt0 data.length .no .no, fillBuffer buf data), e)
  | (.ok none, e) => ((.okAt0 0 .yes .no, buf), e)
  | (.error err, e) => ((.err err, buf), e)

/-- The loop of `TunStreamWindows::write`, which cuts `unwritten` into packets. -/
def writeLoop (os : WintunOs E) : Nat → Bytes → E → Option IoError × E
  | 0, _, e => (none, e)
  | fuel + 1, unwritten, e =>
    if unwritten.isEmpty then (none, e)
    else
      match os.allocateSendPacket (min unwritten.length maxPacket) e with
      | (.ok (), e) =>
        writeLoop os fuel (unwritten.drop maxPacket) (os.sendPacket (unwritten.take maxPacket) e)
      | (.error err, e) => (some err, e)

/-- `TunStreamWindows::write`. Every packet takes a byte or more, so `data.length` rounds are
enough. -/
def write (os : WintunOs E) (_ : TunStreamWindows) (data : Bytes) (e : E) : StreamResult × E :=
  match writeLoop os data.length data e with
  | (none, e) => (.okAt0 data.length .no .no, e)
  | (some err, e) => (.err err, e)

end TunStreamWindows

/-! ## Any stream -/

/-- `Box<dyn WindowsStream>`. -/
inductive WindowsStream where
  | tcp (stream : TcpSocketStream)
  | udp (stream : UdpSocketStream)
  | tun (stream : TunStreamWindows)

/-- The operating system's side of the streams and of the poll. -/
structure WindowsOs (E : Type) where
  tcp : TcpOs E
  udp : FdOs E
  tun : WintunOs E
  /-- Whether `TcpSocketStream::new` succeeds. -/
  connectTcp : SocketAddr → E → Except IoError Unit × E
  /-- Whether `UdpSocketStream::new` succeeds. -/
  connectUdp : SocketAddr → E → Except IoError Unit × E
  /-- `SocketHandle::get_events`. -/
  getEvents : E → SocketEvent × E
  /-- Whether `socket.take_error()` has an error or fails. -/
  takeError : E → Bool × E
  /-- `WSAWaitForMultipleEvents` with a timeout in milliseconds. -/
  wait : Nat → E → Nat × E
  /-- `self.waker.reset()`. -/
  resetWaker : E → E

namespace WindowsStream

variable (os : WindowsOs E)

/-- `Stream::read`. -/
def read : WindowsStream → Bytes → E → (StreamResult × Bytes) × WindowsStream × E
  | .tcp s, buf, e => let (r, s, e) := s.read os.tcp buf e; (r, .tcp s, e)
  | .udp s, buf, e => let (r, s, e) := s.read os.udp buf e; (r, .udp s, e)
  | .tun s, buf, e => let (r, e) := s.read os.tun buf e; (r, .tun s, e)

/-- `Stream::write`. -/
def write (n : Nat) : WindowsStream → Bytes → E → Option (StreamResult × WindowsStream × E)
  | .tcp s, data, e => (s.write os.tcp n data e).map fun (res, s, e) => (res, .tcp s, e)
  | .udp s, data, e => let (res, s, e) := s.write os.udp data e; some (res, .udp s, e)
  | .tun s, data, e => let (res, e) := s.write os.tun data e; some (res, .tun s, e)

/-- `Stream::write_from_buffer`: only TCP streams have a write buffer. -/
def writeFromBuffer (n : Nat) : WindowsStream → E → Option (StreamResult × WindowsStream × E)
  | .tcp s, e => (s.writeFromBuffer os.tcp n e).map fun (res, s, e) => (res, .tcp s, e)
  | s, e => some (.okAt0 0 .no .no, s, e)

/-- `Stream::shutdown_write`, which does nothing by default. -/
def shutdownWrite : WindowsStream → E → WindowsStream × E
  | .tcp s, e => let (s, e) := s.shutdownWrite os.tcp e; (.tcp s, e)
  | s, e => (s, e)

/-- `WindowsStream::get_state`: an event sets a flag, and none clears one. The TUN is always
both. -/
def getState : WindowsStream → E → SocketEvent × WindowsStream × E
  | .tcp s, e =>
    let (events, e) := os.getEvents e
    let s := { s with
      isReadable := s.isReadable || events.isReadable
      isWritable := s.isWritable || events.isWritable }
    (⟨s.isReadable, s.isWritable⟩, .tcp s, e)
  | .udp s, e =>
    let (events, e) := os.getEvents e
    let s := { s with
      isReadable := s.isReadable || events.isReadable
      isWritable := s.isWritable || events.isWritable }
    (⟨s.isReadable, s.isWritable⟩, .udp s, e)
  | .tun s, e => (⟨true, true⟩, .tun s, e)

/-- `WindowsStream::has_error`. -/
def hasError : WindowsStream → E → Bool × E
  | .tun _, e => (false, e)
  | _, e => os.takeError e

end WindowsStream

/-! ## WindowsStreams -/

/-- `WindowsStreamInfo`. -/
structure WindowsStreamInfo where
  streamId : StreamId
  stream : WindowsStream

/-- `WindowsStreams`. -/
structure WindowsStreams where
  streams : List WindowsStreamInfo

/-- `WSA_INFINITE`. -/
def wsaInfinite : Nat := 0xFFFFFFFF

/-- `TIMEOUT_EVENT`. -/
def timeoutEvent : Nat := 258

/-- `WAKER_EVENT`. -/
def wakerEvent : Nat := 0

namespace WindowsStreams

/-- `WindowsStreams::register_stream`. -/
def registerStream (streamId : StreamId) (stream : WindowsStream) (s : WindowsStreams) :
    WindowsStreams :=
  { s with streams := s.streams ++ [{ streamId, stream }] }

/-- `WindowsStreams::new`. -/
def new (tunId : StreamId) (tun : TunStreamWindows) : WindowsStreams :=
  registerStream tunId (.tun tun) { streams := [] }

variable (os : WindowsOs E)

/-- `WindowsStreams::create_poll_result`. -/
def createPollResult (info : WindowsStreamInfo) (e : E) : PollResult × WindowsStreamInfo × E :=
  let (state, stream, e) := info.stream.getState os e
  let (isError, e) := stream.hasError os e
  ({ streamId := info.streamId, isReadable := state.isReadable, isWritable := state.isWritable,
     isError }, { info with stream }, e)

/-- `WindowsStreams::get_all_streams_as_poll_results`, the last stream first. -/
def getAllStreamsAsPollResults : List WindowsStreamInfo → E →
    List PollResult × List WindowsStreamInfo × E
  | [], e => ([], [], e)
  | info :: infos, e =>
    let (results, infos, e) := getAllStreamsAsPollResults infos e
    let (result, info, e) := createPollResult os info e
    (results ++ [result], info :: infos, e)

/-- `WindowsStreams::get_stream`, read. -/
def getStream (s : WindowsStreams) (streamId : StreamId) : Option WindowsStream :=
  (s.streams.find? fun info => info.streamId = streamId).map (·.stream)

/-- The write back through `get_stream`: the first stream of the id. -/
def setFirst (streamId : StreamId) (stream : WindowsStream) :
    List WindowsStreamInfo → List WindowsStreamInfo
  | [] => []
  | info :: infos =>
    if info.streamId = streamId then { info with stream } :: infos
    else info :: setFirst streamId stream infos

/-- `WindowsStreams::open_new_tcp_stream`. -/
def openNewTcpStream (streamId : StreamId) (addr : SocketAddr) (s : WindowsStreams) (e : E) :
    Except IoError Unit × WindowsStreams × E :=
  match os.connectTcp addr e with
  | (.ok (), e) => (.ok (), s.registerStream streamId (.tcp (.new {})), e)
  | (.error err, e) => (.error err, s, e)

/-- `WindowsStreams::open_new_udp_stream`. -/
def openNewUdpStream (streamId : StreamId) (addr : SocketAddr) (s : WindowsStreams) (e : E) :
    Except IoError Unit × WindowsStreams × E :=
  match os.connectUdp addr e with
  | (.ok (), e) => (.ok (), s.registerStream streamId (.udp .new), e)
  | (.error err, e) => (.error err, s, e)

/-- `WindowsStreams::close_stream`. -/
def closeStream (streamId : StreamId) (s : WindowsStreams) : WindowsStreams :=
  { s with streams := s.streams.filter fun info => info.streamId ≠ streamId }

/-- The timeout of `WindowsStreams::poll`. -/
def timeoutAsMillis (deadline : Option Duration) : Nat :=
  deadline.elim wsaInfinite fun t => min (t / 1000000) wsaInfinite

/-- `WindowsStreams::poll`. -/
def poll (deadline : Option Duration) (s : WindowsStreams) (e : E) :
    Except IoError (List PollResult) × WindowsStreams × E :=
  let (index, e) := os.wait (timeoutAsMillis deadline) e
  if index = timeoutEvent then (.ok [], s, e)
  else if index = wakerEvent then (.ok [], s, os.resetWaker e)
  else
    let (results, streams, e) := getAllStreamsAsPollResults os s.streams e
    (.ok results, { s with streams }, e)

/-- `WindowsStreams::get_tun_interface_state`. -/
def getTunInterfaceState (tunId : StreamId) (s : WindowsStreams)
    (lastInterfaceError : Option InterfaceError) : InterfaceState :=
  if (s.getStream tunId).isSome then .up lastInterfaceError else .down lastInterfaceError

end WindowsStreams

/-- `impl Streams for WindowsStreams`, with fuel `n` for the loops of the streams. -/
def streams (os : WindowsOs E) (tunId : StreamId) (n : Nat) :
    Streams E WindowsStreams WindowsStream where
  read := WindowsStream.read os
  write := WindowsStream.write os n
  writeFromBuffer := WindowsStream.writeFromBuffer os n
  shutdownWrite := WindowsStream.shutdownWrite os
  getStream := WindowsStreams.getStream
  setStream s streamId stream := { s with
    streams := WindowsStreams.setFirst streamId stream s.streams }
  openNewTcpStream := WindowsStreams.openNewTcpStream os
  openNewUdpStream := WindowsStreams.openNewUdpStream os
  closeStream streamId s e := (s.closeStream streamId, e)
  poll := WindowsStreams.poll os
  setPollEnableWaitForWrite _ _ s e := (s, e)
  updateTun _ s e := (.ok (), s, e)
  getTunInterfaceState := WindowsStreams.getTunInterfaceState tunId

/-! ## What a poll reports -/

/-- The stream has been found writable and no write has failed since. -/
def WindowsStream.isFlagged : WindowsStream → Bool
  | .tcp s => s.isWritable
  | .udp s => s.isWritable
  | .tun _ => true

variable {os : WindowsOs E}

theorem WindowsStream.getState_of_isFlagged {s : WindowsStream} (h : s.isFlagged = true) (e : E) :
    (s.getState os e).1.isWritable = true := by
  cases s with
  | tcp s =>
    have hflag : s.isWritable = true := h
    simp [getState, hflag]
  | udp s =>
    have hflag : s.isWritable = true := h
    simp [getState, hflag]
  | tun s => rfl

theorem WindowsStreams.mem_getAllStreamsAsPollResults {infos : List WindowsStreamInfo}
    {info : WindowsStreamInfo} (hi : info ∈ infos) (h : info.stream.isFlagged = true) (e : E) :
    ∃ r ∈ (getAllStreamsAsPollResults os infos e).1,
      r.streamId = info.streamId ∧ r.isWritable = true := by
  induction infos generalizing e with
  | nil => cases hi
  | cons info' infos ih =>
    rcases List.mem_cons.mp hi with rfl | hi
    · exact ⟨_, List.mem_append_right _ (List.mem_singleton_self _), rfl,
        WindowsStream.getState_of_isFlagged h _⟩
    · obtain ⟨r, hr, hid, hw⟩ := ih hi e
      exact ⟨r, List.mem_append_left _ hr, hid, hw⟩

/-- **A flag that is set is reported by every wake-up but the waker's.** -/
theorem WindowsStreams.poll_of_isFlagged {s : WindowsStreams} {info : WindowsStreamInfo}
    (hi : info ∈ s.streams) (h : info.stream.isFlagged = true) {deadline : Option Duration} {e : E}
    (htimeout : (os.wait (timeoutAsMillis deadline) e).1 ≠ timeoutEvent)
    (hwaker : (os.wait (timeoutAsMillis deadline) e).1 ≠ wakerEvent) :
    ∃ results, (s.poll os deadline e).1 = .ok results ∧
      ∃ r ∈ results, r.streamId = info.streamId ∧ r.isWritable = true := by
  unfold poll
  dsimp only
  rw [if_neg htimeout, if_neg hwaker]
  exact ⟨_, rfl, mem_getAllStreamsAsPollResults hi h _⟩

end Protun.Windows
