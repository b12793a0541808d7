import Protun.Streams.Tcp

/-!
# Shutting down a TCP stream (`mio/tcp.rs`, `windows/tcp.rs`)

The connection makes three kinds of calls on a TCP stream that concern what is sent: `write` for an
action `Write`, `write_from_buffer` when the poll finds the socket writable, and `shutdown_write`
for an action `Shutdown`. The last one shuts the write side of the socket down at once, whatever
the write buffer holds.

* `TcpEnd.Faithful.calls_total`: through any sequence of the three, what the socket has accepted
  followed by what the buffer holds is what was submitted.
* **`shutdown_after_all_bytes_iff`**: so what was submitted before a `Shutdown` was accepted before
  the write side went down iff no bytes were waiting then and none had been accepted after an
  earlier `Shutdown`.
* `shutdown_cuts_off`: two of five bytes are cut off.
-/

namespace Protun

variable {E X : Type}

/-- The bytes the socket accepted before its write side was shut down, if it was. -/
def TcpStream.acceptedBeforeShutdown (sock : TcpStream) : Option Bytes :=
  sock.shutdownAt.map sock.accepted.take

/-- A call of `write`, `write_from_buffer` or `shutdown_write`. -/
inductive TcpCall where
  | send (call : WriteCall)
  | shutdownWrite

/-- What the call submits. -/
def TcpCall.data : TcpCall → Bytes
  | .send call => call.data
  | .shutdownWrite => []

/-- An implementation of TCP streams with its socket. -/
structure TcpEnd (E X : Type) extends TcpImpl E X where
  sock : X → TcpStream
  shutdownWrite : X → E → X × E

/-- The mio implementation. -/
def Mio.tcpEnd (os : TcpOs E) (n : Nat) : TcpEnd E Mio.TcpSocketStream where
  toTcpImpl := Mio.tcpImpl os n
  sock := TcpSocketStream.sock
  shutdownWrite := TcpSocketStream.shutdownWrite os

/-- The Windows implementation. -/
def Windows.tcpEnd (os : TcpOs E) (n : Nat) : TcpEnd E Windows.TcpSocketStream where
  toTcpImpl := Windows.tcpImpl os n
  sock := TcpSocketStream.socket
  shutdownWrite := TcpSocketStream.shutdownWrite os

namespace TcpEnd

variable (impl : TcpEnd E X)

/-- Make a call, with the result it returns if there is one. -/
def callOne (x : X) (e : E) : TcpCall → Option (Option StreamResult × X × E)
  | .send call => (impl.call x e call).map fun (res, x, e) => (some res, x, e)
  | .shutdownWrite => some (none, impl.shutdownWrite x e)

/-- Make calls, each after the one before has returned, with the results. -/
def callAll (x : X) (e : E) : List TcpCall → Option (List StreamResult × X × E)
  | [] => some ([], x, e)
  | c :: cs =>
    (impl.callOne x e c).bind fun (res, x, e) =>
      (callAll x e cs).map fun (results, x, e) => (res.toList ++ results, x, e)

/-- The two implementations keep the bytes, and a shutdown leaves all but the socket alone. -/
structure Faithful : Prop where
  sends : impl.toTcpImpl.CallSends
  taken : ∀ x, (impl.outbox x).taken = (impl.sock x).accepted
  waiting : ∀ x e, (impl.outbox (impl.shutdownWrite x e).1).waiting = (impl.outbox x).waiting
  sock : ∀ x e, impl.sock (impl.shutdownWrite x e).1 = (impl.sock x).shutdownWrite

variable {impl}

theorem Faithful.outbox_shutdownWrite (h : impl.Faithful) (x : X) (e : E) :
    impl.outbox (impl.shutdownWrite x e).1 = impl.outbox x := by
  have htaken : (impl.outbox (impl.shutdownWrite x e).1).taken = (impl.outbox x).taken := by
    rw [h.taken, h.sock, h.taken]
    rfl
  exact congrArg₂ Outbox.mk htaken (h.waiting x e)

theorem Faithful.callOne_total (h : impl.Faithful) {c : TcpCall} {x x' : X} {e e' : E}
    {res : Option StreamResult} (hc : impl.callOne x e c = some (res, x', e')) :
    (impl.outbox x').total = (impl.outbox x).total ++ c.data := by
  cases c with
  | send call =>
    obtain ⟨⟨res₁, x₁, e₁⟩, hcall, heq⟩ := Option.map_eq_some_iff.mp hc
    cases heq
    exact h.sends.total hcall
  | shutdownWrite =>
    have hx : (impl.shutdownWrite x e).1 = x' := congrArg (·.2.1) (Option.some.inj hc)
    rw [← hx, h.outbox_shutdownWrite]
    exact (List.append_nil _).symm

theorem Faithful.calls_total (h : impl.Faithful) {cs : List TcpCall} {x x' : X} {e e' : E}
    {results : List StreamResult} (hc : impl.callAll x e cs = some (results, x', e')) :
    (impl.outbox x').total = (impl.outbox x).total ++ (cs.map TcpCall.data).flatten := by
  induction cs generalizing x e results with
  | nil =>
    cases hc
    simp
  | cons c cs ih =>
    obtain ⟨⟨res, x₁, e₁⟩, hc₁, hrest⟩ := Option.bind_eq_some_iff.mp hc
    obtain ⟨⟨results₁, x₂, e₂⟩, hcs, heq⟩ := Option.map_eq_some_iff.mp hrest
    cases heq
    rw [ih hcs, h.callOne_total hc₁]
    simp

/-- All that was submitted is accepted when the write side is shut down now. -/
theorem acceptedBeforeShutdown_eq_iff (sock : TcpStream) (waiting : Bytes) :
    sock.shutdownWrite.acceptedBeforeShutdown = some (sock.accepted ++ waiting) ↔
      waiting = [] ∧ ∀ k ∈ sock.shutdownAt, sock.accepted.length ≤ k := by
  unfold TcpStream.acceptedBeforeShutdown TcpStream.shutdownWrite
  simp only [Option.map_some, Option.some.injEq]
  constructor
  · intro h
    have hlen := congrArg List.length h
    rw [List.length_take, List.length_append] at hlen
    refine ⟨List.length_eq_zero_iff.mp (by omega), ?_⟩
    intro k hk
    rw [Option.mem_def] at hk
    rw [hk, Option.getD_some] at hlen
    omega
  · rintro ⟨rfl, hk⟩
    rw [List.append_nil]
    refine List.take_of_length_le ?_
    cases hs : sock.shutdownAt with
    | none => exact Nat.le_refl _
    | some k => exact hk k hs

/-- At every `Shutdown` after the calls `cs` on the new stream `x`: what was submitted was accepted
before the write side went down, or the socket had reported an error, exactly if no bytes waited and
none had been accepted after an earlier `Shutdown`, or there was that error. -/
def ShutsDownAfterAll (impl : TcpEnd E X) (x : X) : Prop :=
  ∀ (cs : List TcpCall) (e₀ e : E) (results : List StreamResult) (s : X),
    impl.callAll x e₀ cs = some (results, s, e) →
      (((impl.sock (impl.shutdownWrite s e).1).acceptedBeforeShutdown =
          some (cs.map TcpCall.data).flatten ∨ ∃ err, .err err ∈ results) ↔
        (((impl.outbox s).waiting.flatten = [] ∧
          ∀ k ∈ (impl.sock s).shutdownAt, (impl.sock s).accepted.length ≤ k) ∨
            ∃ err, .err err ∈ results))

theorem Faithful.shutsDownAfterAll (h : impl.Faithful) {x : X} (hx : (impl.outbox x).total = []) :
    impl.ShutsDownAfterAll x := by
  intro cs e₀ e results s hcs
  have htotal := h.calls_total hcs
  rw [hx, List.nil_append] at htotal
  unfold Outbox.total at htotal
  rw [h.sock, ← htotal, h.taken, acceptedBeforeShutdown_eq_iff]

end TcpEnd

theorem Mio.faithful_tcpEnd (os : TcpOs E) (n : Nat) : (Mio.tcpEnd os n).Faithful :=
  ⟨Mio.callSends_tcpImpl os n, fun _ => rfl, fun _ _ => rfl, fun _ _ => rfl⟩

theorem Windows.faithful_tcpEnd (os : TcpOs E) (n : Nat) : (Windows.tcpEnd os n).Faithful :=
  ⟨Windows.callSends_tcpImpl os n, fun _ => rfl, fun _ _ => rfl, fun _ _ => rfl⟩

/-- **What a `Shutdown` cuts off**: the bytes that wait in the write buffer, in both
implementations, for every sequence of calls and every behaviour of the socket. -/
theorem shutdown_after_all_bytes_iff (os : TcpOs E) (n : Nat) :
    (Mio.tcpEnd os n).ShutsDownAfterAll (.new {}) ∧
      (Windows.tcpEnd os n).ShutsDownAfterAll (.new {}) := by
  constructor
  · exact (Mio.faithful_tcpEnd os n).shutsDownAfterAll rfl
  · exact (Windows.faithful_tcpEnd os n).shutsDownAfterAll rfl

/-- With room for all bytes and the buffer emptied, nothing is cut off. -/
theorem shutdown_after_all_roomFor :
    ∃ s, (Mio.tcpEnd roomFor 4).callAll (.new {}) 9
          [.send (.write [1, 2]), .send .writeFromBuffer] =
        some ([.okAt0 2 .no .no, .okAt0 0 .no .no], s, 7) ∧
      (s.shutdownWrite roomFor 7).1.sock.acceptedBeforeShutdown = some [1, 2] := by
  refine ⟨_, rfl, ?_⟩
  have hsent := ((shutdown_after_all_bytes_iff roomFor 4).1
    [.send (.write [1, 2]), .send .writeFromBuffer] 9 7
    [.okAt0 2 .no .no, .okAt0 0 .no .no] _ rfl).mpr (.inl ⟨rfl, nofun⟩)
  rcases hsent with hsent | ⟨err, herr⟩
  · exact hsent
  · simp [StreamResult.okAt0] at herr

/-- Room for three of five bytes when the stream is shut down: no error is reported, and two bytes
are left in the buffer of a socket that takes no more. -/
theorem shutdown_cuts_off :
    ∃ s, (Mio.tcpEnd roomFor 4).callAll (.new {}) 3 [.send (.write [1, 2, 3, 4, 5])] =
        some ([.okAt0 3 .yes .yes], s, 0) ∧
      s.writeBuffer = [[4, 5]] ∧
      (s.shutdownWrite roomFor 0).1.sock.acceptedBeforeShutdown = some [1, 2, 3] :=
  ⟨_, rfl, rfl, rfl⟩

end Protun
