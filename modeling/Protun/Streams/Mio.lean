import Protun.Data.Numbered
import Protun.Streams.Unix
import Protun.Trace.Automaton

/-!
# The set of streams of the mio backend (`mio/streams.rs`)

`MioStreams` keeps a list of streams with two keys: the client's stream id and the token under which
the stream is registered with the poll. The operating system answers the calls on the registry, the
socket factory and the poll; a poll may answer any events, also stale ones.

* `MioStreamInfo.registered` and `MioStreams.registrations` are not fields of the source. They
  belong to the poll: the interest it has registered for the stream's source, and the tokens that
  `register` has been called with so far.
* `Token` is a `usize` of 64 bits; `next_token` wraps around.
* The event buffer is left out, and so is the answer of `deregister`, which is only logged: the
  source is dropped next, and that ends its registration.

The tokens are those of a list numbered by a counter (`Refines`, `perform_refines`).

* **`tokens_never_reused`**: over every run of the operations with fewer than 2^64 registrations.
-/

namespace Protun.Mio

open Trace

/-! ## The poll -/

/-- `mio::Token`. -/
abbrev Token := UInt64

/-- `POLL_WAKER_TOKEN`. -/
def pollWakerToken : Token := 0

/-- `mio::Interest`: `READABLE` and `READABLE | WRITABLE`. -/
inductive Interest where
  | readable
  | readableWritable
  deriving DecidableEq, Repr

/-- The interest contains `WRITABLE`. -/
def Interest.isWritable : Interest → Bool
  | .readable => false
  | .readableWritable => true

/-- `mio::event::Event`. -/
structure PollEvent where
  token : Token
  isReadable : Bool
  isWritable : Bool
  isError : Bool
  deriving DecidableEq, Repr

/-- The operating system's side of the poll. -/
structure Registry (E : Type) where
  register : Token → Interest → E → Except IoError Unit × E
  reregister : Token → Interest → E → Except IoError Unit × E
  deregister : Token → E → E
  poll : Option Duration → E → Except IoError (List PollEvent) × E

/-- `MioSocketFactory`, and `TunStreamUnixType::new`. -/
structure MioSocketFactory (E X : Type) where
  newTcpSocket : SocketAddr → E → Except IoError X × E
  newUdpSocket : SocketAddr → E → Except IoError X × E
  newTun : Int → X

/-! ## MioStreams -/

/-- `MioStreamInfo`. -/
structure MioStreamInfo (X : Type) where
  streamId : StreamId
  stream : X
  token : Token
  interest : Interest
  /-- The interest the poll has registered for the stream's source. -/
  registered : Interest

/-- `MioStreams`. -/
structure MioStreams (X : Type) where
  streams : List (MioStreamInfo X)
  nextToken : Token
  /-- The tokens that `register` has been called with, in order. -/
  registrations : List Token

variable {E X : Type}

/-- `get_stream_by_id`. -/
def getStreamById (streams : List (MioStreamInfo X)) (streamId : StreamId) :
    Option (MioStreamInfo X) :=
  streams.find? (·.streamId = streamId)

/-- `get_stream_by_id_mut`, used to change the entry by `f`. -/
def updateStreamById (f : MioStreamInfo X → MioStreamInfo X) (streamId : StreamId) :
    List (MioStreamInfo X) → List (MioStreamInfo X)
  | [] => []
  | info :: streams =>
    if info.streamId = streamId then f info :: streams
    else info :: updateStreamById f streamId streams

/-- `get_stream_by_token`. -/
def getStreamByToken (streams : List (MioStreamInfo X)) (token : Token) :
    Option (MioStreamInfo X) :=
  streams.find? (·.token = token)

namespace MioStreams

variable (registry : Registry E)

/-- `MioStreams::register_stream`. The token is used up also if the registration fails. -/
def registerStream (streamId : StreamId) (stream : X) (interest : Interest) (s : MioStreams X)
    (e : E) : Except IoError Unit × MioStreams X × E :=
  let token := s.nextToken
  let s := { s with nextToken := s.nextToken + 1, registrations := s.registrations ++ [token] }
  match registry.register token interest e with
  | (.ok (), e) =>
    let info := { streamId, stream, token, interest, registered := interest }
    (.ok (), { s with streams := s.streams ++ [info] }, e)
  | (.error err, e) => (.error err, s, e)

/-- `MioStreams::new`, on a poll of its own. -/
def new (tunId : StreamId) (tun : Option X) (e : E) : Except IoError (MioStreams X) × E :=
  let s : MioStreams X := { streams := [], nextToken := pollWakerToken + 1, registrations := [] }
  match tun with
  | none => (.ok s, e)
  | some tun =>
    match s.registerStream registry tunId tun .readable e with
    | (.ok (), s, e) => (.ok s, e)
    | (.error err, _, e) => (.error err, e)

/-- Open a stream: create the socket and register it. -/
def openNewStream (newSocket : E → Except IoError X × E) (interest : Interest)
    (streamId : StreamId) (s : MioStreams X) (e : E) : Except IoError Unit × MioStreams X × E :=
  match newSocket e with
  | (.ok stream, e) => s.registerStream registry streamId stream interest e
  | (.error err, e) => (.error err, s, e)

/-- `MioStreams::open_new_tcp_stream`. -/
def openNewTcpStream (factory : MioSocketFactory E X) (streamId : StreamId) (addr : SocketAddr) :
    MioStreams X → E → Except IoError Unit × MioStreams X × E :=
  openNewStream registry (factory.newTcpSocket addr) .readableWritable streamId

/-- `MioStreams::open_new_udp_stream`. -/
def openNewUdpStream (factory : MioSocketFactory E X) (streamId : StreamId) (addr : SocketAddr) :
    MioStreams X → E → Except IoError Unit × MioStreams X × E :=
  openNewStream registry (factory.newUdpSocket addr) .readable streamId

/-- `MioStreams::close_stream`. -/
def closeStream (streamId : StreamId) (s : MioStreams X) (e : E) : MioStreams X × E :=
  let e :=
    match getStreamById s.streams streamId with
    | some info => registry.deregister info.token e
    | none => e
  ({ s with streams := s.streams.filter (·.streamId ≠ streamId) }, e)

/-- What `poll` reports for an event, if anything. -/
def report (s : MioStreams X) (event : PollEvent) : Option PollResult :=
  if event.token = pollWakerToken then none
  else
    (getStreamByToken s.streams event.token).map fun info =>
      { streamId := info.streamId
        isReadable := event.isReadable
        isWritable := event.isWritable
        isError := event.isError }

/-- `MioStreams::poll`. -/
def poll (deadline : Option Duration) (s : MioStreams X) (e : E) :
    Except IoError (List PollResult) × MioStreams X × E :=
  match registry.poll deadline e with
  | (.ok events, e) => (.ok (events.filterMap s.report), s, e)
  | (.error err, e) => (.error err, s, e)

/-- The interest of a stream that waits for write, or does not. -/
def wanted (waitForWrite : Bool) : Interest := if waitForWrite then .readableWritable else .readable

/-- `MioStreams::set_poll_enable_wait_for_write`. The interest is recorded before `reregister` is
called, and stays recorded if that fails. -/
def setPollEnableWaitForWrite (streamId : StreamId) (waitForWrite : Bool) (s : MioStreams X)
    (e : E) : MioStreams X × E :=
  match getStreamById s.streams streamId with
  | some info =>
    let interest := wanted waitForWrite
    if info.interest ≠ interest then
      let (result, e) := registry.reregister info.token interest e
      let record := fun info : MioStreamInfo X => { info with
        interest := interest
        registered := if result.isOk then interest else info.registered }
      ({ s with streams := updateStreamById record streamId s.streams }, e)
    else (s, e)
  | none => (s, e)

/-- The write back through `get_stream`. -/
def setStream (streamId : StreamId) (stream : X) (s : MioStreams X) : MioStreams X :=
  { s with streams := updateStreamById (fun info => { info with stream }) streamId s.streams }

/-- `MioStreams::update_tun`. -/
def updateTun (factory : MioSocketFactory E X) (tunId : StreamId) (tunInfo : TunStreamInfo)
    (s : MioStreams X) (e : E) : Except IoError Unit × MioStreams X × E :=
  let (s, e) := s.closeStream registry tunId e
  match tunInfo with
  | .noTun => (.ok (), s, e)
  | .tunFd fd => s.registerStream registry tunId (factory.newTun fd) .readable e

/-- `MioStreams::get_tun_interface_state`. -/
def getTunInterfaceState (tunId : StreamId) (s : MioStreams X)
    (lastInterfaceError : Option InterfaceError) : InterfaceState :=
  if (getStreamById s.streams tunId).isSome then .up lastInterfaceError
  else .down lastInterfaceError

end MioStreams

/-- The factory of the `unix` feature. -/
def socketFactoryUnix (os : UnixOs E) : MioSocketFactory E MioStream where
  newTcpSocket := MioStream.newTcpSocket os
  newUdpSocket := MioStream.newUdpSocket os
  newTun := MioStream.newTun os

/-- `impl Streams for MioStreams`, with fuel `n` for the loops of the streams. -/
def streams (os : UnixOs E) (registry : Registry E) (tunId : StreamId) (n : Nat) :
    Streams E (MioStreams MioStream) MioStream where
  read := MioStream.read os
  write := MioStream.write os n
  writeFromBuffer := MioStream.writeFromBuffer os n
  shutdownWrite := MioStream.shutdownWrite os
  getStream s streamId := (getStreamById s.streams streamId).map (·.stream)
  setStream s streamId stream := s.setStream streamId stream
  openNewTcpStream := MioStreams.openNewTcpStream registry (socketFactoryUnix os)
  openNewUdpStream := MioStreams.openNewUdpStream registry (socketFactoryUnix os)
  closeStream := MioStreams.closeStream registry
  poll := MioStreams.poll registry
  setPollEnableWaitForWrite := MioStreams.setPollEnableWaitForWrite registry
  updateTun := MioStreams.updateTun registry (socketFactoryUnix os) tunId
  getTunInterfaceState := MioStreams.getTunInterfaceState tunId

/-! ## Entries -/

section Entries

variable {f : MioStreamInfo X → MioStreamInfo X} {streamId : StreamId}

/-- A change of one entry that `g` does not see. -/
theorem map_updateStreamById {β : Type} {g : MioStreamInfo X → β} (hf : ∀ info, g (f info) = g info)
    (l : List (MioStreamInfo X)) : (updateStreamById f streamId l).map g = l.map g := by
  induction l with
  | nil => rfl
  | cons info l ih =>
    unfold updateStreamById
    split
    · rw [List.map_cons, List.map_cons, hf]
    · rw [List.map_cons, List.map_cons, ih]

/-- The entries of other ids are found as before. -/
theorem getStreamById_updateStreamById_ne {id : StreamId} (hne : streamId ≠ id)
    (hf : ∀ info, (f info).streamId = info.streamId) (l : List (MioStreamInfo X)) :
    getStreamById (updateStreamById f streamId l) id = getStreamById l id := by
  unfold getStreamById
  induction l with
  | nil => rfl
  | cons info l ih =>
    unfold updateStreamById
    by_cases hid : info.streamId = streamId
    · have hother : info.streamId ≠ id := hid.trans_ne hne
      rw [if_pos hid, List.find?_cons_of_neg (by simp [hf, hother]),
        List.find?_cons_of_neg (by simp [hother])]
    · rw [if_neg hid, List.find?_cons, List.find?_cons, ih]

/-- The entry of the id is changed. -/
theorem getStreamById_updateStreamById (hf : ∀ info, (f info).streamId = info.streamId)
    (l : List (MioStreamInfo X)) :
    getStreamById (updateStreamById f streamId l) streamId =
      (getStreamById l streamId).map f := by
  unfold getStreamById
  induction l with
  | nil => rfl
  | cons info l ih =>
    unfold updateStreamById
    by_cases hid : info.streamId = streamId
    · rw [if_pos hid, List.find?_cons_of_pos (by simp [hf, hid]),
        List.find?_cons_of_pos (by simp [hid])]
      rfl
    · rw [if_neg hid, List.find?_cons_of_neg (by simp [hid]),
        List.find?_cons_of_neg (by simp [hid]), ih]

end Entries

/-! ## Tokens -/

/-- The token of the `n`-th registration, counted from 0. -/
def tokenOf (n : Nat) : Token := UInt64.ofNat (n + 1)

theorem tokenOf_toNat {n : Nat} (hn : n + 1 < UInt64.size) : (tokenOf n).toNat = n + 1 :=
  UInt64.toNat_ofNat_of_lt hn

theorem tokenOf_inj {m n : Nat} (hm : m + 1 < UInt64.size) (hn : n + 1 < UInt64.size)
    (h : tokenOf m = tokenOf n) : m = n := by
  have htoNat := congrArg UInt64.toNat h
  rw [tokenOf_toNat hm, tokenOf_toNat hn] at htoNat
  omega

theorem tokenOf_ne_waker {n : Nat} (hn : n + 1 < UInt64.size) : tokenOf n ≠ pollWakerToken := by
  intro h
  have htoNat := congrArg UInt64.toNat h
  rw [tokenOf_toNat hn] at htoNat
  simp [pollWakerToken] at htoNat

theorem tokenOf_succ (n : Nat) : tokenOf n + 1 = tokenOf (n + 1) := by
  unfold tokenOf
  rw [UInt64.ofNat_add (n + 1) 1]
  rfl

/-- The two keys of an entry. -/
def MioStreamInfo.key (info : MioStreamInfo X) : Token × StreamId := (info.token, info.streamId)

/-- The set of streams is the numbered list `a`, with a token for every number. -/
structure Refines (s : MioStreams X) (a : Numbered StreamId) : Prop where
  nextToken : s.nextToken = tokenOf a.next
  registrations : s.registrations = (List.range a.next).map tokenOf
  keys : s.streams.map MioStreamInfo.key = a.entries.map fun x => (tokenOf x.1, x.2)

namespace Refines

variable {s : MioStreams X} {a : Numbered StreamId} (registry : Registry E)

theorem registerStream (h : Refines s a) (streamId : StreamId) (stream : X) (interest : Interest)
    (e : E) :
    ∃ k, Refines (s.registerStream registry streamId stream interest e).2.1 (a.issue k) := by
  have hnext : s.nextToken + 1 = tokenOf (a.next + 1) := by rw [h.nextToken, tokenOf_succ]
  have hreg : s.registrations ++ [s.nextToken] = (List.range (a.next + 1)).map tokenOf := by
    rw [h.registrations, h.nextToken, List.range_succ, List.map_append]
    rfl
  unfold MioStreams.registerStream
  dsimp only
  split
  · refine ⟨some streamId, hnext, hreg, ?_⟩
    simp only [List.map_append, h.keys, Numbered.issue, h.nextToken]
    rfl
  · refine ⟨none, hnext, hreg, ?_⟩
    simpa [Numbered.issue] using h.keys

theorem closeStream (h : Refines s a) (streamId : StreamId) (e : E) :
    Refines (s.closeStream registry streamId e).1 (a.keep (· ≠ streamId)) := by
  refine ⟨h.nextToken, h.registrations, ?_⟩
  have hkeys := congrArg (List.filter fun k : Token × StreamId => k.2 ≠ streamId) h.keys
  rw [List.filter_map, List.filter_map] at hkeys
  exact hkeys

theorem setPollEnableWaitForWrite (h : Refines s a) (streamId : StreamId) (waitForWrite : Bool)
    (e : E) : Refines (s.setPollEnableWaitForWrite registry streamId waitForWrite e).1 a := by
  unfold MioStreams.setPollEnableWaitForWrite
  split
  · dsimp only
    split
    · refine ⟨h.nextToken, h.registrations, Eq.trans (map_updateStreamById ?_ _) h.keys⟩
      exact fun _ => rfl
    · exact h
  · exact h

theorem new {registry : Registry E} {tunId : StreamId} {tun : Option X} {e e' : E}
    (h : MioStreams.new registry tunId tun e = (.ok s, e')) : ∃ a, Refines s a := by
  have hinit : Refines { streams := [], nextToken := pollWakerToken + 1, registrations := [] }
      (Numbered.empty 0) (X := X) := ⟨rfl, rfl, rfl⟩
  unfold MioStreams.new at h
  cases tun with
  | none =>
    cases h
    exact ⟨_, hinit⟩
  | some tun =>
    obtain ⟨k, hreg⟩ := hinit.registerStream registry tunId tun .readable e
    dsimp only at h
    split at h
    · rename_i heq
      rw [heq] at hreg
      cases h
      exact ⟨_, hreg⟩
    · cases h

theorem length_registrations (h : Refines s a) : s.registrations.length = a.next := by
  rw [h.registrations, List.length_map, List.length_range]

theorem entry_of_mem (h : Refines s a) {info : MioStreamInfo X} (hi : info ∈ s.streams) :
    ∃ x ∈ a.entries, info.token = tokenOf x.1 ∧ info.streamId = x.2 := by
  have hmem : info.key ∈ s.streams.map MioStreamInfo.key := List.mem_map_of_mem hi
  rw [h.keys] at hmem
  obtain ⟨x, hx, hkey⟩ := List.mem_map.mp hmem
  obtain ⟨htoken, hid⟩ := Prod.mk.inj hkey
  exact ⟨x, hx, htoken.symm, hid.symm⟩

/-- The token of an entry is that of a registration. -/
theorem token_mem (h : Refines s a) {info : MioStreamInfo X} (hi : info ∈ s.streams) :
    info.token ∈ s.registrations := by
  obtain ⟨x, hx, htoken, -⟩ := h.entry_of_mem hi
  rw [h.registrations, htoken]
  exact List.mem_map_of_mem (List.mem_range.mpr (a.below x hx))

section Bounded

variable (h : Refines s a) (hcount : s.registrations.length < UInt64.size)
include h hcount

theorem succ_lt_of_lt {n : Nat} (hn : n < a.next) : n + 1 < UInt64.size := by
  rw [h.length_registrations] at hcount
  omega

theorem nodup_registrations : s.registrations.Nodup := by
  rw [h.registrations]
  refine List.Nodup.map_on (fun m hm n hn heq => ?_) List.nodup_range
  exact tokenOf_inj (h.succ_lt_of_lt hcount (List.mem_range.mp hm))
    (h.succ_lt_of_lt hcount (List.mem_range.mp hn)) heq

theorem waker_notMem : pollWakerToken ∉ s.registrations := by
  intro hmem
  rw [h.registrations] at hmem
  obtain ⟨n, hn, heq⟩ := List.mem_map.mp hmem
  exact tokenOf_ne_waker (h.succ_lt_of_lt hcount (List.mem_range.mp hn)) heq

theorem nodup_tokens : (s.streams.map (·.token)).Nodup := by
  have htokens := congrArg (List.map Prod.fst) h.keys
  rw [List.map_map, List.map_map] at htokens
  refine Eq.mpr (congrArg List.Nodup htokens) ?_
  refine List.Nodup.map_on (fun x hx y hy heq => ?_) (List.Nodup.of_map _ a.nodup)
  refine Numbered.eq_of_number_eq hx hy ?_
  exact tokenOf_inj (h.succ_lt_of_lt hcount (a.below x hx))
    (h.succ_lt_of_lt hcount (a.below y hy)) heq

/-- **The token of an earlier stream.** An entry of `s` with a token that was that of `info` in an
earlier set `s₁` has its stream id, and its number was an entry's ever since. -/
theorem later_token {s₁ : MioStreams X} {a₁ : Numbered StreamId} (h₁ : Refines s₁ a₁)
    (hlater : a₁.Later a) {info info₁ : MioStreamInfo X} (hi : info ∈ s.streams)
    (hi₁ : info₁ ∈ s₁.streams) (htoken : info.token = info₁.token) :
    ∃ x ∈ a.entries, x ∈ a₁.entries ∧ info₁.token = tokenOf x.1 ∧ info₁.streamId = x.2 ∧
      info.streamId = x.2 := by
  obtain ⟨x, hx, hxt, hxid⟩ := h.entry_of_mem hi
  obtain ⟨x₁, hx₁, hxt₁, hxid₁⟩ := h₁.entry_of_mem hi₁
  have hlt₁ : x₁.1 < a₁.next := a₁.below x₁ hx₁
  have hnum : x.1 = x₁.1 := by
    refine tokenOf_inj (h.succ_lt_of_lt hcount (a.below x hx))
      (h.succ_lt_of_lt hcount (Nat.lt_of_lt_of_le hlt₁ hlater.next_le)) ?_
    rw [← hxt, ← hxt₁, htoken]
  have hmem : x ∈ a₁.entries := hlater.mem hx (hnum ▸ hlt₁)
  obtain rfl := Numbered.eq_of_number_eq hmem hx₁ hnum
  exact ⟨x, hx, hmem, hxt₁, hxid₁, hxid⟩

end Bounded

end Refines

/-! ## Runs -/

/-- What a `MioStreams` is built from. -/
structure MioWorld (E X : Type) where
  registry : Registry E
  factory : MioSocketFactory E X
  tunId : StreamId

/-- An operation on a `MioStreams`. -/
inductive MioOp where
  | openNewTcpStream (streamId : StreamId) (addr : SocketAddr)
  | openNewUdpStream (streamId : StreamId) (addr : SocketAddr)
  | closeStream (streamId : StreamId)
  | setPollEnableWaitForWrite (streamId : StreamId) (waitForWrite : Bool)
  | updateTun (tunInfo : TunStreamInfo)

namespace MioOp

/-- Perform the operation. -/
def perform (w : MioWorld E X) (s : MioStreams X) (e : E) :
    MioOp → Except IoError Unit × MioStreams X × E
  | .openNewTcpStream streamId addr => s.openNewTcpStream w.registry w.factory streamId addr e
  | .openNewUdpStream streamId addr => s.openNewUdpStream w.registry w.factory streamId addr e
  | .closeStream streamId => (.ok (), s.closeStream w.registry streamId e)
  | .setPollEnableWaitForWrite streamId wait =>
    (.ok (), s.setPollEnableWaitForWrite w.registry streamId wait e)
  | .updateTun tunInfo => s.updateTun w.registry w.factory w.tunId tunInfo e

/-- The stream id that the operation opens a stream under. -/
def opens : MioOp → Option StreamId
  | .openNewTcpStream streamId _ | .openNewUdpStream streamId _ => some streamId
  | _ => none

/-- The stream id that the operation closes. -/
def closes (w : MioWorld E X) : MioOp → Option StreamId
  | .closeStream streamId => some streamId
  | .updateTun _ => some w.tunId
  | _ => none

/-- A step of a run: a set of streams and its environment before and after an operation. -/
def Step (w : MioWorld E X) (s : MioStreams X × E) (op : MioOp) (s' : MioStreams X × E) : Prop :=
  (op.perform w s.1 s.2).2 = s'

end MioOp

section Perform

variable {s : MioStreams X} {a : Numbered StreamId}

/-- Opening a stream draws a token, unless there is no socket. -/
theorem openNewStream_cases (registry : Registry E) (newSocket : E → Except IoError X × E)
    (interest : Interest) (streamId : StreamId) (s : MioStreams X) (e : E) :
    (∃ err, ((s.openNewStream registry newSocket interest streamId e).1 = .error err) ∧
      (s.openNewStream registry newSocket interest streamId e).2.1 = s) ∨
    ∃ stream e', s.openNewStream registry newSocket interest streamId e =
      s.registerStream registry streamId stream interest e' := by
  unfold MioStreams.openNewStream
  cases newSocket e with
  | mk r e' =>
    cases r with
    | error err => exact .inl ⟨err, rfl, rfl⟩
    | ok stream => exact .inr ⟨stream, e', rfl⟩

theorem openNewStream_refines (h : Refines s a) (registry : Registry E)
    (newSocket : E → Except IoError X × E) (interest : Interest) (streamId : StreamId) (e : E) :
    ∃ a', a.Later a' ∧
      Refines (s.openNewStream registry newSocket interest streamId e).2.1 a' := by
  rcases openNewStream_cases registry newSocket interest streamId s e with
    ⟨err, -, heq⟩ | ⟨stream, e', heq⟩
  · rw [heq]
    exact ⟨a, .refl, h⟩
  · rw [heq]
    obtain ⟨k, hk⟩ := h.registerStream registry streamId stream interest e'
    exact ⟨_, .single (.issue a k), hk⟩

/-- **Every operation changes the numbered list by drawing numbers and removing entries.** If it
closes a stream id, it removes the entries of that id before it draws a number. -/
theorem perform_refines (w : MioWorld E X) (h : Refines s a) (e : E) (op : MioOp) :
    ∃ a', a.Later a' ∧ Refines (op.perform w s e).2.1 a' ∧
      ∀ id, op.closes w = some id → (a.keep (· ≠ id)).Later a' := by
  cases op with
  | openNewTcpStream streamId addr =>
    obtain ⟨a', hl, hr⟩ := openNewStream_refines h w.registry (w.factory.newTcpSocket addr)
      .readableWritable streamId e
    exact ⟨a', hl, hr, fun id hid => by cases hid⟩
  | openNewUdpStream streamId addr =>
    obtain ⟨a', hl, hr⟩ := openNewStream_refines h w.registry (w.factory.newUdpSocket addr)
      .readable streamId e
    exact ⟨a', hl, hr, fun id hid => by cases hid⟩
  | closeStream streamId =>
    refine ⟨_, .single (.keep a _), h.closeStream w.registry streamId e, fun id hid => ?_⟩
    cases hid
    exact .refl
  | setPollEnableWaitForWrite streamId wait =>
    exact ⟨a, .refl, h.setPollEnableWaitForWrite w.registry streamId wait e,
      fun id hid => by cases hid⟩
  | updateTun tunInfo =>
    have hclose := h.closeStream w.registry w.tunId e
    have hkeep : a.Later (a.keep (· ≠ w.tunId)) := .single (.keep a _)
    cases tunInfo with
    | noTun =>
      refine ⟨_, hkeep, hclose, fun id hid => ?_⟩
      cases hid
      exact .refl
    | tunFd fd =>
      obtain ⟨k, hk⟩ := hclose.registerStream w.registry w.tunId (w.factory.newTun fd) .readable
        (s.closeStream w.registry w.tunId e).2
      refine ⟨_, hkeep.tail (.issue _ k), hk, fun id hid => ?_⟩
      cases hid
      exact .single (.issue _ k)

/-- A run leads to a later numbered list, which has no entry of a closed stream left. -/
theorem run_refines {w : MioWorld E X} {s s' : MioStreams X × E} {ops : List MioOp}
    (hrun : Run (MioOp.Step w) s ops s') (h : Refines s.1 a) :
    ∃ a', a.Later a' ∧ Refines s'.1 a' ∧
      ∀ op ∈ ops, ∀ id, op.closes w = some id → ∀ x ∈ a.entries, x.2 = id → x ∉ a'.entries := by
  induction hrun generalizing a with
  | nil s => exact ⟨a, .refl, h, by simp⟩
  | @cons s u s' op ops head tail ih =>
    obtain ⟨a₁, hl₁, hr₁, hclose⟩ := perform_refines w h s.2 op
    obtain rfl : (op.perform w s.1 s.2).2 = u := head
    obtain ⟨a₂, hl₂, hr₂, hrest⟩ := ih hr₁
    refine ⟨a₂, hl₁.trans hl₂, hr₂, fun op' hop id hid x hx hxid hmem => ?_⟩
    have hlt : x.1 < a.next := a.below x hx
    -- an entry that is there at the end was there after the first step
    have hx₁ : x ∈ a₁.entries := hl₂.mem hmem (Nat.lt_of_lt_of_le hlt hl₁.next_le)
    rcases List.mem_cons.mp hop with rfl | hop
    · have hkept : x ∈ (a.keep (· ≠ id)).entries := (hclose id hid).mem hx₁ hlt
      simp [Numbered.keep, hxid] at hkept
    · exact hrest op' hop id hid x hx₁ hxid hmem

/-- A failed open leaves the list of streams alone. -/
theorem registerStream_error {registry : Registry E} {streamId : StreamId} {stream : X}
    {interest : Interest} {e : E} {err : IoError}
    (h : (s.registerStream registry streamId stream interest e).1 = .error err) :
    (s.registerStream registry streamId stream interest e).2.1.streams = s.streams := by
  unfold MioStreams.registerStream at h ⊢
  dsimp only at h ⊢
  split
  · rename_i heq
    rw [heq] at h
    cases h
  · rfl

theorem openNewStream_error {registry : Registry E} {newSocket : E → Except IoError X × E}
    {interest : Interest} {streamId : StreamId} {e : E} {err : IoError}
    (h : (s.openNewStream registry newSocket interest streamId e).1 = .error err) :
    (s.openNewStream registry newSocket interest streamId e).2.1.streams = s.streams := by
  rcases openNewStream_cases registry newSocket interest streamId s e with
    ⟨err', -, heq⟩ | ⟨stream, e', heq⟩
  · rw [heq]
  · rw [heq] at h ⊢
    exact registerStream_error h

theorem perform_open_error {w : MioWorld E X} {op : MioOp} {id : StreamId} {e : E} {err : IoError}
    (hopen : op.opens = some id) (h : (op.perform w s e).1 = .error err) :
    (op.perform w s e).2.1.streams = s.streams := by
  cases op with
  | openNewTcpStream streamId addr => exact openNewStream_error h
  | openNewUdpStream streamId addr => exact openNewStream_error h
  | closeStream _ | setPollEnableWaitForWrite _ _ | updateTun _ => cases hopen

/-- An event is reported for an entry with its token. -/
theorem report_eq_some {event : PollEvent} {r : PollResult} (h : s.report event = some r) :
    ∃ info ∈ s.streams, info.token = event.token ∧ r.streamId = info.streamId := by
  unfold MioStreams.report at h
  split at h
  · cases h
  · obtain ⟨info, hfind, rfl⟩ := Option.map_eq_some_iff.mp h
    refine ⟨info, List.mem_of_find?_eq_some hfind, ?_, rfl⟩
    simpa using List.find?_some hfind

/-- An event with the token of an earlier stream is reported for that stream, and only if it has not
been closed. -/
theorem report_earlier {w : MioWorld E X} {u s : MioStreams X × E} {ops : List MioOp}
    (hrun : Run (MioOp.Step w) u ops s) (hu : Refines u.1 a)
    (hcount : s.1.registrations.length < UInt64.size) {info : MioStreamInfo X}
    (hi : info ∈ u.1.streams)
    {event : PollEvent} (hevent : event.token = info.token) {r : PollResult}
    (hr : s.1.report event = some r) :
    r.streamId = info.streamId ∧ ∀ op ∈ ops, op.closes w ≠ some info.streamId := by
  obtain ⟨a', hlater, hs, hclosed⟩ := run_refines hrun hu
  obtain ⟨info', hi', htoken, hid⟩ := report_eq_some hr
  obtain ⟨x, hx, hxu, -, hinfo, hinfo'⟩ :=
    hs.later_token hcount hu hlater hi' hi (htoken.trans hevent)
  refine ⟨by rw [hid, hinfo', hinfo], fun op hop hcloses => ?_⟩
  exact hclosed op hop _ hcloses x hxu hinfo.symm hx

/-! ## Stream ids -/

/-- No stream id occurs twice. -/
def DistinctIds (s : MioStreams X) : Prop := (s.streams.map (·.streamId)).Nodup

/-- The operation opens no stream under an id that is in use. -/
def MioOp.OpensNew (op : MioOp) (s : MioStreams X) : Prop :=
  ∀ id, op.opens = some id → ∀ info ∈ s.streams, info.streamId ≠ id

theorem distinctIds_registerStream (h : DistinctIds s) (registry : Registry E)
    {streamId : StreamId} (hnew : ∀ info ∈ s.streams, info.streamId ≠ streamId) (stream : X)
    (interest : Interest) (e : E) :
    DistinctIds (s.registerStream registry streamId stream interest e).2.1 := by
  unfold MioStreams.registerStream DistinctIds
  dsimp only
  split
  · rw [List.map_append]
    refine List.Nodup.append h (by simp) ?_
    rintro id hid hid'
    obtain ⟨info, hi, rfl⟩ := List.mem_map.mp hid
    exact hnew info hi (by simpa using hid')
  · exact h

theorem distinctIds_openNewStream (h : DistinctIds s) (registry : Registry E)
    (newSocket : E → Except IoError X × E) (interest : Interest) {streamId : StreamId}
    (hnew : ∀ info ∈ s.streams, info.streamId ≠ streamId) (e : E) :
    DistinctIds (s.openNewStream registry newSocket interest streamId e).2.1 := by
  rcases openNewStream_cases registry newSocket interest streamId s e with
    ⟨err, -, heq⟩ | ⟨stream, e', heq⟩
  · rwa [heq]
  · rw [heq]
    exact distinctIds_registerStream h registry hnew stream interest e'

theorem distinctIds_closeStream (h : DistinctIds s) (registry : Registry E) (streamId : StreamId)
    (e : E) : DistinctIds (s.closeStream registry streamId e).1 :=
  h.sublist (List.filter_sublist.map _)

theorem distinctIds_setPollEnableWaitForWrite (h : DistinctIds s) (registry : Registry E)
    (streamId : StreamId) (waitForWrite : Bool) (e : E) :
    DistinctIds (s.setPollEnableWaitForWrite registry streamId waitForWrite e).1 := by
  unfold MioStreams.setPollEnableWaitForWrite
  split
  · dsimp only
    split
    · refine Eq.mpr (congrArg List.Nodup (map_updateStreamById ?_ _)) h
      exact fun _ => rfl
    · exact h
  · exact h

theorem distinctIds_updateTun (h : DistinctIds s) (registry : Registry E)
    (factory : MioSocketFactory E X) (tunId : StreamId) (tunInfo : TunStreamInfo) (e : E) :
    DistinctIds (s.updateTun registry factory tunId tunInfo e).2.1 := by
  have hclose := distinctIds_closeStream h registry tunId e
  cases tunInfo with
  | noTun => exact hclose
  | tunFd fd =>
    -- the id is free again, because the old device has been closed
    refine distinctIds_registerStream hclose registry (fun info hi => ?_) _ _ _
    simpa using (List.mem_filter.mp hi).2

theorem distinctIds_perform (w : MioWorld E X) (h : DistinctIds s) {op : MioOp}
    (hnew : op.OpensNew s) (e : E) : DistinctIds (op.perform w s e).2.1 := by
  cases op with
  | openNewTcpStream streamId addr =>
    exact distinctIds_openNewStream h w.registry _ _ (hnew streamId rfl) e
  | openNewUdpStream streamId addr =>
    exact distinctIds_openNewStream h w.registry _ _ (hnew streamId rfl) e
  | closeStream streamId => exact distinctIds_closeStream h w.registry streamId e
  | setPollEnableWaitForWrite streamId wait =>
    exact distinctIds_setPollEnableWaitForWrite h w.registry streamId wait e
  | updateTun tunInfo => exact distinctIds_updateTun h w.registry w.factory w.tunId tunInfo e

/-- Every operation of the run opens streams under new ids only. -/
def OpensNewOnly (w : MioWorld E X) (s : MioStreams X × E) (ops : List MioOp) : Prop :=
  ∀ l op l' u, ops = l ++ op :: l' → Run (MioOp.Step w) s l u → op.OpensNew u.1

theorem distinctIds_run {w : MioWorld E X} {s s' : MioStreams X × E} {ops : List MioOp}
    (hrun : Run (MioOp.Step w) s ops s') (h : DistinctIds s.1) (hnew : OpensNewOnly w s ops) :
    DistinctIds s'.1 := by
  refine hrun.inv_throughout (I := fun u => DistinctIds u.1) h hnew fun s op s' head hop hs => ?_
  obtain rfl : (op.perform w s.1 s.2).2 = s' := head
  exact distinctIds_perform w hs hop s.2

theorem distinctIds_new {registry : Registry E} {tunId : StreamId} {tun : Option X} {e e' : E}
    (h : MioStreams.new registry tunId tun e = (.ok s, e')) : DistinctIds s := by
  have hinit : DistinctIds { streams := [], nextToken := pollWakerToken + 1, registrations := [] }
      (X := X) := List.nodup_nil
  unfold MioStreams.new at h
  cases tun with
  | none =>
    cases h
    exact hinit
  | some tun =>
    have hfree : ∀ info ∈ ([] : List (MioStreamInfo X)), info.streamId ≠ tunId := by simp
    have hreg := distinctIds_registerStream hinit registry hfree tun .readable e
    dsimp only at h
    split at h
    · rename_i heq
      rw [heq] at hreg
      cases h
      exact hreg
    · cases h

end Perform

/-! ## Streams by id -/

section Stable

variable {registry : Registry E} {s : MioStreams X} {id streamId : StreamId}

theorem getStreamById_openNewStream (hid : (getStreamById s.streams id).isSome ∨ streamId ≠ id)
    (newSocket : E → Except IoError X × E) (interest : Interest) (e : E) :
    getStreamById (s.openNewStream registry newSocket interest streamId e).2.1.streams id =
      getStreamById s.streams id := by
  rcases openNewStream_cases registry newSocket interest streamId s e with
    ⟨err, -, heq⟩ | ⟨stream, e', heq⟩
  · rw [heq]
  · rw [heq]
    unfold MioStreams.registerStream
    dsimp only
    split
    · -- the new entry comes last
      unfold getStreamById at hid ⊢
      rw [List.find?_append]
      rcases hid with hid | hne
      · obtain ⟨info, hinfo⟩ := Option.isSome_iff_exists.mp hid
        rw [hinfo]
        rfl
      · rw [List.find?_singleton, if_neg (by simpa using hne), Option.or_none]
    · rfl

theorem getStreamById_closeStream_self (e : E) :
    getStreamById (s.closeStream registry id e).1.streams id = none := by
  refine List.find?_eq_none.mpr fun info hi => ?_
  simpa using (List.mem_filter.mp hi).2

theorem getStreamById_closeStream (hne : streamId ≠ id) (e : E) :
    getStreamById (s.closeStream registry streamId e).1.streams id =
      getStreamById s.streams id := by
  unfold MioStreams.closeStream getStreamById
  rw [List.find?_filter]
  refine congrArg (fun p => s.streams.find? p) (funext fun info => ?_)
  by_cases hid : info.streamId = id
  · simp [hid, hne.symm]
  · simp [hid]

theorem map_getStreamById_setPollEnableWaitForWrite (wait : Bool) (e : E) :
    (getStreamById (s.setPollEnableWaitForWrite registry streamId wait e).1.streams id).map
      (·.stream) = (getStreamById s.streams id).map (·.stream) := by
  unfold MioStreams.setPollEnableWaitForWrite
  split
  · dsimp only
    split
    · dsimp only
      by_cases hid : streamId = id
      · subst hid
        rw [getStreamById_updateStreamById, Option.map_map]
        · rfl
        · exact fun _ => rfl
      · rw [getStreamById_updateStreamById_ne hid]
        exact fun _ => rfl
    · rfl
  · rfl

/-- The streams of mio are found under their ids. -/
theorem stable_streams (os : UnixOs E) (registry : Registry E) (tunId : StreamId) (n : Nat) :
    (streams os registry tunId n).Stable where
  setStream_self s _ x hid := by
    obtain ⟨info, hinfo⟩ := Option.isSome_iff_exists.mp (Option.isSome_map ▸ hid)
    dsimp only [streams, MioStreams.setStream]
    rw [getStreamById_updateStreamById, hinfo]
    · rfl
    · exact fun _ => rfl
  setStream s _ _ x hne := by
    dsimp only [streams, MioStreams.setStream]
    rw [getStreamById_updateStreamById_ne hne]
    exact fun _ => rfl
  setPoll s e _ _ wait := map_getStreamById_setPollEnableWaitForWrite wait e
  openTcp s e _ _ addr hid :=
    congrArg (Option.map _) (getStreamById_openNewStream (Option.isSome_map ▸ hid) _ _ e)
  openUdp s e _ _ addr hid :=
    congrArg (Option.map _) (getStreamById_openNewStream (Option.isSome_map ▸ hid) _ _ e)
  close s e _ _ hne := congrArg (Option.map _) (getStreamById_closeStream hne e)

end Stable

/-! ## The theorem -/

/-- **Tokens are never reused.** After every run of operations with fewer than 2^64 registrations:
all tokens registered are distinct, none is the waker's, and every entry has one of them for itself;
an open that fails leaves the list of streams alone; an event with the token of a stream that was
open at any time of the run is reported under no other stream id, and not at all once that stream
has been closed. If streams are opened under new ids only, no id occurs twice. -/
theorem tokens_never_reused {w : MioWorld E X} {tun : Option X} {e₀ : E} {s₀ s : MioStreams X × E}
    {ops : List MioOp} (hnew : MioStreams.new w.registry w.tunId tun e₀ = (.ok s₀.1, s₀.2))
    (hrun : Run (MioOp.Step w) s₀ ops s) (hcount : s.1.registrations.length < UInt64.size) :
    s.1.registrations.Nodup ∧ (s.1.streams.map (·.token)).Nodup ∧
    (∀ info ∈ s.1.streams, info.token ∈ s.1.registrations ∧ info.token ≠ pollWakerToken) ∧
    (∀ (op : MioOp) id err, op.opens = some id → (op.perform w s.1 s.2).1 = .error err →
      (op.perform w s.1 s.2).2.1.streams = s.1.streams) ∧
    (∀ l l' u, ops = l ++ l' → Run (MioOp.Step w) s₀ l u → Run (MioOp.Step w) u l' s →
      ∀ info ∈ u.1.streams, ∀ event, event.token = info.token →
        ∀ r, s.1.report event = some r →
          r.streamId = info.streamId ∧ ∀ op ∈ l', op.closes w ≠ some info.streamId) ∧
    (OpensNewOnly w s₀ ops → DistinctIds s.1) := by
  obtain ⟨a₀, h₀⟩ := Refines.new hnew
  obtain ⟨a, -, h, -⟩ := run_refines hrun h₀
  refine ⟨h.nodup_registrations hcount, h.nodup_tokens hcount, fun info hi => ?_,
    fun op id err hopen herr => perform_open_error hopen herr, ?_,
    distinctIds_run hrun (distinctIds_new hnew)⟩
  · refine ⟨h.token_mem hi, fun hwaker => h.waker_notMem hcount ?_⟩
    rw [← hwaker]
    exact h.token_mem hi
  · intro l l' u _ hl hl' info hi event hevent r hr
    obtain ⟨au, -, hu, -⟩ := run_refines hl h₀
    exact report_earlier hl' hu hcount hi hevent hr

/-- A poll that accepts everything, and sockets that are all alike. -/
def permissive : MioWorld Unit Unit where
  registry :=
    { register := fun _ _ _ => (.ok (), ())
      reregister := fun _ _ _ => (.ok (), ())
      deregister := fun _ _ => ()
      poll := fun _ _ => (.ok [], ()) }
  factory :=
    { newTcpSocket := fun _ _ => (.ok (), ())
      newUdpSocket := fun _ _ => (.ok (), ())
      newTun := fun _ => () }
  tunId := 0

/-- The TCP stream 5 is open. -/
def tcpOpen : MioStreams Unit where
  streams := [⟨5, (), 1, .readableWritable, .readableWritable⟩]
  nextToken := 2
  registrations := [1]

/-- The TCP stream 5 has been closed, and its id is that of a UDP stream now. -/
def idReused : MioStreams Unit where
  streams := [⟨5, (), 2, .readable, .readable⟩]
  nextToken := 3
  registrations := [1, 2]

/-- A late event of the TCP stream is not taken for one of the UDP stream. -/
theorem idReused_late_event : idReused.report ⟨1, true, true, false⟩ = none := by
  have hnew : MioStreams.new permissive.registry permissive.tunId (none : Option Unit) () =
      (.ok ⟨[], 1, []⟩, ()) := rfl
  have hopen : Run (MioOp.Step permissive) (⟨[], 1, []⟩, ())
      [.openNewTcpStream 5 ⟨.v4 1, 443⟩] (tcpOpen, ()) := .cons rfl (.nil _)
  have hclose : MioOp.Step permissive (tcpOpen, ()) (.closeStream 5) (⟨[], 2, [1]⟩, ()) := rfl
  have hreuse : Run (MioOp.Step permissive) (tcpOpen, ())
      [.closeStream 5, .openNewUdpStream 5 ⟨.v4 1, 443⟩] (idReused, ()) :=
    .cons hclose (.cons rfl (.nil _))
  have hnever := (tokens_never_reused hnew (hopen.append hreuse) (by decide)).2.2.2.2.1
  refine Option.eq_none_iff_forall_ne_some.mpr fun r hr => ?_
  have hopenStill := (hnever _ _ _ rfl hopen hreuse _ List.mem_cons_self _ rfl r hr).2
  exact hopenStill (.closeStream 5) (by simp) rfl

end Protun.Mio
