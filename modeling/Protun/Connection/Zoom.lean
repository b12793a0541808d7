import Protun.Connection.Letters

/-!
# Dependencies that see a part of the environment

The connection thread's environment is made of parts with different owners: the thread itself owns
the client, the app owns its cache, the rest is the system's. A `Lens` picks a part; `zoom` lets a
dependency that is given for the part work on the whole.

* `Lens.Spares`: what is seen through one lens is not changed through another. Every dependency that
  was zoomed leaves it alone (`PcapStream.kept_new`, `StreamsCalls.kept`, `StreamCalls.kept` and so
  on), and so does every letter (`Letter.beside_eq`).
* `PcapStream.new_second`, `PcapStream.write_second`: a packet capture on a file system that is a
  part of its own.
-/

namespace Protun

open Trace

/-- A part `E` of the environment `E'`. -/
structure Lens (E' E : Type) where
  get : E' → E
  set : E → E' → E'

variable {E' E S X F C α β : Type}

namespace Lens

variable (l : Lens E' E)

/-- A call on the part. -/
def call (f : E → α × E) (e : E') : α × E' :=
  let r := f (l.get e)
  (r.1, l.set r.2 e)

/-- A call on the part that answers nothing. -/
def tell (f : E → E) (e : E') : E' := l.set (f (l.get e)) e

/-- A call on the part and on something else, whose new state is the second answer. -/
def call₂ (f : E → α × β × E) (e : E') : α × β × E' :=
  let r := f (l.get e)
  (r.1, r.2.1, l.set r.2.2 e)

/-- The lens does not change what `π` sees. -/
def Spares (π : E' → C) : Prop := ∀ x e, π (l.set x e) = π e

/-- What stands beside `C`. -/
def beside : Lens (E × C) E where
  get := Prod.fst
  set e e' := (e, e'.2)

theorem spares_beside : (beside : Lens (E × C) E).Spares Prod.snd := fun _ _ => rfl

/-- The part `C` itself. -/
def second : Lens (E × C) C where
  get := Prod.snd
  set c e := (e.1, c)

end Lens

section Zoom

variable (l : Lens E' E)

def Streams.zoom (t : Streams E S X) : Streams E' S X where
  read x buf := l.call₂ (t.read x buf)
  write x data e := (t.write x data (l.get e)).map fun r => (r.1, r.2.1, l.set r.2.2 e)
  writeFromBuffer x e := (t.writeFromBuffer x (l.get e)).map fun r => (r.1, r.2.1, l.set r.2.2 e)
  shutdownWrite x := l.call (t.shutdownWrite x)
  getStream := t.getStream
  setStream := t.setStream
  openNewTcpStream streamId addr s := l.call₂ (t.openNewTcpStream streamId addr s)
  openNewUdpStream streamId addr s := l.call₂ (t.openNewUdpStream streamId addr s)
  closeStream streamId s := l.call (t.closeStream streamId s)
  poll deadline s := l.call₂ (t.poll deadline s)
  setPollEnableWaitForWrite streamId wait s := l.call (t.setPollEnableWaitForWrite streamId wait s)
  updateTun info s := l.call₂ (t.updateTun info s)
  getTunInterfaceState := t.getTunInterfaceState

def Fs.zoom (fs : Fs E F) : Fs E' F where
  parent := fs.parent
  createDirAll path := l.call (fs.createDirAll path)
  openFile path append := l.call (fs.openFile path append)
  fromRawFd := fs.fromRawFd
  len file := l.call (fs.len file)
  writeAll file data := l.call (fs.writeAll file data)
  syncAll file := l.call (fs.syncAll file)

def PvpnClient.zoom (client : PvpnClient E) : PvpnClient E' where
  setCurrentTime := l.call client.setCurrentTime
  needPull := l.call client.needPull
  peerAdd peer := l.tell (client.peerAdd peer)
  peerRemove addr := l.tell (client.peerRemove addr)
  pull := l.call client.pull
  push action := l.tell (client.push action)
  pushError streamId kind := l.tell (client.pushError streamId kind)
  getTunnelInfo := l.call client.getTunnelInfo
  wakeupDeadline := l.call client.wakeupDeadline
  notifyNetworkChange := l.tell client.notifyNetworkChange
  notifyNetworkDown := l.tell client.notifyNetworkDown
  getStats := l.call client.getStats
  monotonicNow := l.call client.monotonicNow
  setPacketCaptureEnabled enabled := l.tell (client.setPacketCaptureEnabled enabled)
  setSettings settings := l.tell (client.setSettings settings)
  pullLocalAgent := l.call client.pullLocalAgent
  pushLocalAgent action := l.tell (client.pushLocalAgent action)

def PvpnDependencies.zoom (d : PvpnDependencies E S X F) : PvpnDependencies E' S X F where
  client := d.client.zoom l
  streams := d.streams.zoom l
  ids := d.ids
  fs := d.fs.zoom l
  android := d.android
  tryRecv := l.call d.tryRecv
  onStateChanged state := l.tell (d.onStateChanged state)
  onEvent event := l.tell (d.onEvent event)
  cachePut key data := l.tell (d.cachePut key data)
  realtimeClock := l.call d.realtimeClock

end Zoom

/-! ## What is spared -/

section Spared

variable {l : Lens E' E} {π : E' → C} (hπ : l.Spares π)
include hπ

namespace PcapStream

variable (fs : Fs E F)

theorem kept_createParent (path : String) (e : E') :
    π (createParent (fs.zoom l) path e).2 = π e := by
  unfold createParent
  split
  · exact hπ _ _
  · rfl

theorem kept_openTarget (file : PcapFile) (e : E') :
    π (openTarget (fs.zoom l) file e).2 = π e := by
  cases file with
  | fd fd => rfl
  | path path mode =>
    have hparent := kept_createParent hπ fs path e
    unfold openTarget
    dsimp only
    split
    · next e' heq =>
      rw [heq] at hparent
      exact (hπ _ _).trans hparent
    · next err e' heq =>
      rw [heq] at hparent
      exact hparent

theorem kept_new (file : PcapFileInfo) (e : E') : π (new (fs.zoom l) file e).2 = π e := by
  have hopen := kept_openTarget hπ fs file.file e
  unfold new
  split
  · next err e' heq =>
    rw [heq] at hopen
    exact hopen
  · next f e' heq =>
    rw [heq] at hopen
    have hlen : π ((fs.zoom l).len f e').2 = π e' := hπ _ _
    split <;> next e'' heq' =>
      rw [heq'] at hlen
      exact hlen.trans hopen

theorem kept_write (data : Bytes) (stream : PcapStream F) (e : E') :
    π (write (fs.zoom l) data stream e).2 = π e := by
  have hwrite : π ((fs.zoom l).writeAll stream.file data e).2 = π e := hπ _ _
  unfold write
  split
  · rfl
  split
  · rfl
  split <;> next e' heq =>
    rw [heq] at hwrite
    exact hwrite

theorem kept_dropOld (stream : Option (PcapStream F)) (e : E') :
    π (dropOld (fs.zoom l) stream e) = π e := by
  cases stream with
  | none => rfl
  | some stream => exact hπ _ _

end PcapStream

namespace PvpnConnection

variable {d : PvpnDependencies E' S X F} {t : Streams E S X} (ht : d.streams = t.zoom l)
include ht

theorem StreamsCalls.kept {f : S → E' → S × E'} (hf : StreamsCalls d f) (s : S) (e : E') :
    π (f s e).2 = π e := by
  cases hf <;> (rw [ht]; exact hπ _ _)

theorem StreamCalls.kept {f : X → E' → Option (X × E')} (hf : StreamCalls d f) {x x' : X}
    {e e' : E'} (hx : f x e = some (x', e')) : π e' = π e := by
  cases hf with
  | read buf =>
    rw [ht] at hx
    cases hx
    exact hπ _ _
  | shutdownWrite =>
    rw [ht] at hx
    cases hx
    exact hπ _ _
  | write data =>
    rw [ht] at hx
    obtain ⟨_, hr, hxe⟩ := Option.map_eq_some_iff.mp hx
    obtain ⟨_, -, rfl⟩ := Option.map_eq_some_iff.mp hr
    cases hxe
    exact hπ _ _
  | writeFromBuffer =>
    rw [ht] at hx
    obtain ⟨_, hr, hxe⟩ := Option.map_eq_some_iff.mp hx
    obtain ⟨_, -, rfl⟩ := Option.map_eq_some_iff.mp hr
    cases hxe
    exact hπ _ _

end PvpnConnection

end Spared

/-- What stands beside the environment is spared by every letter. -/
theorem PvpnConnection.Letter.beside_eq {d : PvpnDependencies E S X F}
    {h h' : Hist (Sys (E × C) S F) Obs}
    (hl : PvpnConnection.Letter (d.zoom Lens.beside) h h') : h'.now.env.2 = h.now.env.2 := by
  cases hl with
  | assign | mark => rfl
  | query hf =>
    cases hf with
    | pcapNew file => exact PcapStream.kept_new Lens.spares_beside d.fs file _
    | pcapWrite data stream => exact PcapStream.kept_write Lens.spares_beside d.fs data stream _
    | pcapDrop stream => exact PcapStream.kept_dropOld Lens.spares_beside d.fs stream _
    | _ => rfl
  | ask hf => cases hf <;> rfl
  | inform hf => cases hf <;> rfl
  | streams hf => exact hf.kept Lens.spares_beside rfl _ _
  | stream s hf hx => exact hf.kept Lens.spares_beside rfl hx

/-! ## A file system of its own -/

namespace PcapStream

variable (fs : Fs C F)

theorem openTarget_second (file : PcapFile) (e : E × C) :
    openTarget (fs.zoom Lens.second) file e = Lens.second.call (openTarget fs file) e := by
  cases file with
  | fd fd => rfl
  | path path mode =>
    unfold openTarget createParent
    cases hparent : fs.parent path with
    | none => simp [Fs.zoom, Lens.call, Lens.second, hparent]
    | some parent =>
      simp only [Fs.zoom, Lens.call, Lens.second, hparent]
      cases fs.createDirAll parent e.2 with
      | mk r c => cases r <;> rfl

theorem new_second (file : PcapFileInfo) (e : E × C) :
    new (fs.zoom Lens.second) file e = Lens.second.call (new fs file) e := by
  unfold new
  rw [openTarget_second]
  simp only [Fs.zoom, Lens.call, Lens.second]
  cases openTarget fs file.file e.2 with
  | mk r c =>
    cases r with
    | error err => rfl
    | ok f =>
      dsimp only
      cases fs.len f c with
      | mk r c => cases r <;> rfl

theorem write_second (data : Bytes) (stream : PcapStream F) (e : E × C) :
    write (fs.zoom Lens.second) data stream e = Lens.second.call (write fs data stream) e := by
  unfold write
  simp only [Fs.zoom, Lens.call, Lens.second]
  split
  · rfl
  split
  · rfl
  cases fs.writeAll stream.file data e.2 with
  | mk r c => cases r <;> rfl

end PcapStream

end Protun
