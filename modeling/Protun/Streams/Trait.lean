import Protun.Client

/-!
# Streams (`streams.rs`)

The traits `Stream` (a socket or the TUN device) and `Streams` (the set of open streams and its
poll), each as a record of functions. `S` is the state of the set, `X` that of one stream, `E` the
environment the operating system's answers come from.

* `get_stream` lends a mutable reference. `getStream` is the read through it and `setStream` the
  write back.
* A write may never return (`none`): the loops that empty a write buffer go on as long as the
  device accepts something, and nothing bounds them.
* `read` fills the caller's buffer, so it takes the buffer and gives back its new content.
-/

namespace Protun

/-- `WouldBlock`. -/
inductive WouldBlock where
  | yes
  | no
  deriving DecidableEq, Repr

/-- `PendingWrite`. -/
inductive PendingWrite where
  | yes
  | no
  deriving DecidableEq, Repr

/-- `impl From<bool> for PendingWrite`. -/
def PendingWrite.ofBool (b : Bool) : PendingWrite := if b then .yes else .no

/-- `StreamResult`. -/
inductive StreamResult where
  | ok (bytesCount startOffset : Nat) (wouldBlock : WouldBlock) (pendingWrite : PendingWrite)
  | err (e : IoError)
  | streamClosed
  deriving DecidableEq, Repr

/-- `StreamResult::ok`: a result with start offset 0. -/
def StreamResult.okAt0 (bytesCount : Nat) (wouldBlock : WouldBlock) (pendingWrite : PendingWrite) :
    StreamResult :=
  .ok bytesCount 0 wouldBlock pendingWrite

/-- `PollResult`. -/
structure PollResult where
  streamId : StreamId
  isReadable : Bool
  isWritable : Bool
  isError : Bool
  deriving DecidableEq, Repr

/-- The traits `Stream` and `Streams`. -/
structure Streams (E S X : Type) where
  /-- `Stream::read`: the result, the buffer after it, the stream after it. -/
  read : X → Bytes → E → (StreamResult × Bytes) × X × E
  /-- `Stream::write`. -/
  write : X → Bytes → E → Option (StreamResult × X × E)
  /-- `Stream::write_from_buffer`. -/
  writeFromBuffer : X → E → Option (StreamResult × X × E)
  /-- `Stream::shutdown_write`. -/
  shutdownWrite : X → E → X × E
  /-- `Streams::get_stream`, read. -/
  getStream : S → StreamId → Option X
  /-- `Streams::get_stream`, write back. -/
  setStream : S → StreamId → X → S
  openNewTcpStream : StreamId → SocketAddr → S → E → Except IoError Unit × S × E
  openNewUdpStream : StreamId → SocketAddr → S → E → Except IoError Unit × S × E
  closeStream : StreamId → S → E → S × E
  poll : Option Duration → S → E → Except IoError (List PollResult) × S × E
  setPollEnableWaitForWrite : StreamId → Bool → S → E → S × E
  updateTun : TunStreamInfo → S → E → Except IoError Unit × S × E
  getTunInterfaceState : S → Option InterfaceError → InterfaceState

/-- A stream is found under its id, as it was left, until it is closed. -/
structure Streams.Stable {E S X : Type} (t : Streams E S X) : Prop where
  setStream_self : ∀ s {id} x, (t.getStream s id).isSome →
    t.getStream (t.setStream s id x) id = some x
  setStream : ∀ s {id id'} x, id' ≠ id → t.getStream (t.setStream s id' x) id = t.getStream s id
  setPoll : ∀ s e {id id'} wait,
    t.getStream (t.setPollEnableWaitForWrite id' wait s e).1 id = t.getStream s id
  openTcp : ∀ s e {id id'} addr, (t.getStream s id).isSome ∨ id' ≠ id →
    t.getStream (t.openNewTcpStream id' addr s e).2.1 id = t.getStream s id
  openUdp : ∀ s e {id id'} addr, (t.getStream s id).isSome ∨ id' ≠ id →
    t.getStream (t.openNewUdpStream id' addr s e).2.1 id = t.getStream s id
  close : ∀ s e {id id'}, id' ≠ id → t.getStream (t.closeStream id' s e).1 id = t.getStream s id

end Protun
