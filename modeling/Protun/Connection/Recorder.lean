import Protun.CaptureFile
import Protun.Connection.Credentials
import Protun.Connection.Recording
import Protun.Connection.Stalled

/-!
# What a run leaves in its capture files

While a capture is on, the client writes every packet to `PCAP_STREAM_ID`. `handle_write` hands it
to `pcap_stream`, which was opened when the capture was started. A packet that would pass the limit
is dropped, and the capture is stopped.

* `Recorder`: the files as the user can account for them, from the events about captures and the
  packets of the client alone. A packet goes to the file of the capture that is on, behind those
  that the capture has by then: behind what the file had before in `Append` mode, and over it in
  `Overwrite` mode.
* `PvpnDependencies.withDisk`: the connection on a disk that nobody else writes to.
* **`files_recorded`**: after every run, cut at any iteration, all files of the disk are as the
  recorder has them, whatever captures were started, replaced, stopped or ended by their limit, as
  long as writes succeed and no capture is made on a raw descriptor, of which the disk does not know
  the file.
-/

namespace Protun

open Trace

/-! ## What should be recorded -/

/-- What a file with the content `old` has after `written` was written to it. It is not truncated
when it is opened. -/
def FileWriteMode.content (mode : FileWriteMode) (old written : Bytes) : Bytes :=
  match mode with
  | .append => old ++ written
  | .overwrite => written ++ old.drop written.length

/-- A capture to a path that is on. -/
structure Capture where
  path : String
  mode : FileWriteMode
  maxBytes : Option Nat
  /-- What the file had when the capture was started. -/
  old : Bytes
  written : Bytes

namespace Capture

/-- A capture that was just started, unless it is on a raw descriptor. -/
def start (files : String → Bytes) (file : PcapFileInfo) : Option Capture :=
  match file.file with
  | .path path mode => some ⟨path, mode, file.maxBytes, files path, []⟩
  | .fd _ => none

def content (c : Capture) : Bytes := c.mode.content c.old c.written

/-- The limit is counted from the old content, in both modes. -/
def fits (c : Capture) (data : Bytes) : Bool :=
  PcapStream.fits c.maxBytes (c.old.length + c.written.length + data.length)

def put (c : Capture) (data : Bytes) : Capture := { c with written := c.written ++ data }

/-- The handle that the capture was started with. -/
def handle (c : Capture) : Handle String := ⟨c.path, c.mode = .append, 0⟩

theorem handle_put (c : Capture) : c.handle.put c.written c.old = c.content := by
  obtain ⟨path, mode, maxBytes, old, written⟩ := c
  unfold content handle
  cases mode with
  | append => exact Handle.put_of_append rfl _ _
  | overwrite =>
    rw [Handle.put_of_offset rfl, List.take_zero, List.nil_append, Nat.zero_add]
    rfl

/-- Writing behind what the capture has written. -/
theorem handle_put_next (c : Capture) (data : Bytes) :
    (c.handle.next c.written).put data c.content = (c.put data).content := by
  rw [← handle_put, ← handle_put]
  exact Handle.put_next (h := c.handle) (Nat.zero_le _) c.written data

theorem handle_next_next (c : Capture) (data : Bytes) :
    (c.handle.next c.written).next data = (c.put data).handle.next (c.put data).written := by
  unfold Handle.next put handle
  simp

end Capture

/-- The packet an action of the client carries. -/
def Action.packet (ids : ReservedIds) (a : Action) : Option Bytes :=
  if a.streamId = ids.pcap then a.kind.written else none

/-- The content of the files, and the capture that is on. -/
structure Recorder where
  files : String → Bytes
  capture : Option Capture

namespace Recorder

/-- A capture gets the packet if it fits. -/
def recordTo (r : Recorder) (data : Bytes) (c : Capture) : Recorder :=
  if c.fits data then
    { files := Function.update r.files c.path (c.put data).content, capture := some (c.put data) }
  else r

/-- The capture that is on gets the packet. -/
def record (r : Recorder) (data : Bytes) : Recorder := r.capture.elim r (r.recordTo data)

/-- What an observation tells: a packet, or that a capture was started or stopped. -/
def see (ids : ReservedIds) (r : Recorder) : Obs → Recorder
  | .pulled (some action) => (action.packet ids).elim r r.record
  | .event (.packetCaptureStarted file) => { r with capture := Capture.start r.files file }
  | .event (.packetCaptureStopped _) => { r with capture := none }
  | _ => r

end Recorder

/-- Neither an action of the client nor something about a capture. -/
def Obs.isOffRecord : Obs → Bool
  | .pulled _ => false
  | o => o.isOffCapture

/-- A capture is started on a raw descriptor. -/
def Obs.isFdCapture : Obs → Bool
  | .event (.packetCaptureStarted ⟨.fd _, _⟩) => true
  | _ => false

theorem Obs.isOffRecord_of_isControl (o : Obs) (h : o.isControl = true) :
    o.isOffRecord = true := by
  have hoff := o.isOffCapture_of_isControl h
  cases o <;> first | exact hoff | cases h

theorem Obs.isOffRecord_of_isStreamIoOf {id : StreamId} (o : Obs) (h : o.isStreamIoOf id = true) :
    o.isOffRecord = true := by
  have hoff := o.isOffCapture_of_isStreamIo (o.isStreamIo_of_isStreamIoOf h)
  cases o <;> first | exact hoff | cases h

theorem Recorder.see_of_isOffRecord {o : Obs} (h : o.isOffRecord = true) (ids : ReservedIds)
    (r : Recorder) : r.see ids o = r := by
  cases o with
  | event e => cases e <;> first | rfl | cases h
  | pulled action => cases h
  | _ => rfl

section Recorded

variable {σ : Type} (ids : ReservedIds) (files : String → Bytes)

/-- What a run should have recorded, from the files it found. -/
def recorded (l : List (Obs × σ)) : Recorder := l.foldl (fun r x => r.see ids x.1) ⟨files, none⟩

theorem recorded_snoc (l : List (Obs × σ)) (o : Obs) (s : σ) :
    recorded ids files (l ++ [(o, s)]) = (recorded ids files l).see ids o :=
  List.foldl_concat ..

theorem recorded_append {seg : List (Obs × σ)} (hseg : ∀ x ∈ seg, x.1.isOffRecord = true)
    (l : List (Obs × σ)) : recorded ids files (l ++ seg) = recorded ids files l := by
  induction seg generalizing l with
  | nil => rw [List.append_nil]
  | cons x seg ih =>
    obtain ⟨o, s⟩ := x
    rw [List.append_cons, ih (fun y hy => hseg y (List.mem_cons_of_mem _ hy)), recorded_snoc]
    exact Recorder.see_of_isOffRecord (hseg _ List.mem_cons_self) ids _

end Recorded

/-! ## A stream that writes for a capture -/

/-- The stream writes for the capture `c`, and its counter is right. -/
structure PcapStream.Writes (disk : Disk String UInt8) (p : PcapStream Nat) (c : Capture) :
    Prop where
  handle : disk.handles[p.file]? = some (c.handle.next c.written)
  content : disk.content c.path = c.content
  size : p.size = c.old.length + c.written.length
  limit : p.maxBytes = c.maxBytes
  notFull : p.atMaxSize = false

namespace PcapStream

variable {disk : Disk String UInt8} {p : PcapStream Nat} {c : Capture}

/-- A path can always be opened, and the file stays as it is. -/
theorem new_writes (parent : String → Option String) (path : String) (mode : FileWriteMode)
    (maxBytes : Option Nat) (disk : Disk String UInt8) :
    ∃ p, new (diskFs parent) ⟨.path path mode, maxBytes⟩ disk =
        (.ok p, (disk.openFile path (mode = .append)).2) ∧
      Writes (disk.openFile path (mode = .append)).2 p
        ⟨path, mode, maxBytes, disk.content path, []⟩ := by
  have hlen : (diskFs parent).len (disk.openFile path (mode = .append)).1
      (disk.openFile path (mode = .append)).2 =
        (.ok (disk.content path).length, (disk.openFile path (mode = .append)).2) := by
    unfold diskFs
    dsimp only
    rw [Disk.handle_openFile]
    rfl
  obtain ⟨p, hnew⟩ : ∃ p, new (diskFs parent) ⟨.path path mode, maxBytes⟩ disk =
      (.ok p, (disk.openFile path (mode = .append)).2) := by
    unfold new
    rw [openTarget_diskFs]
    dsimp only
    rw [hlen]
    exact ⟨_, rfl⟩
  obtain ⟨hhandle, hcontent, hsize, hmax, hat⟩ := new_diskFs hnew
  refine ⟨p, hnew, hhandle, ?_, hsize, hmax, hat⟩
  rw [hcontent, ← Capture.handle_put]
  exact (Handle.put_nil _ _).symm

/-- A raw descriptor is not opened, so nothing happens to the disk. -/
theorem new_fd (parent : String → Option String) (fd : Int) (maxBytes : Option Nat)
    (disk : Disk String UInt8) : (new (diskFs parent) ⟨.fd fd, maxBytes⟩ disk).2 = disk := by
  have hlen : ((diskFs parent).len ((diskFs parent).fromRawFd fd) disk).2 = disk := by
    unfold diskFs
    dsimp only
    split <;> rfl
  unfold new openTarget
  dsimp only
  split <;> next heq => exact (congrArg Prod.snd heq).symm.trans hlen

variable (hw : Writes disk p c) {data : Bytes}
include hw

theorem Writes.accepts_eq (data : Bytes) : p.accepts data = c.fits data := by
  rw [accepts_eq_fits hw.notFull, hw.limit, hw.size]
  rfl

/-- A packet that fits is written behind the others. -/
theorem Writes.write (parent : String → Option String) (hok : disk.outcomes = [])
    (hfits : c.fits data = true) :
    ∃ disk', p.write (diskFs parent) data disk = ({ p with size := p.size + data.length }, disk') ∧
      disk'.content = Function.update disk.content c.path (c.put data).content ∧
      disk'.outcomes = [] ∧ Writes disk' { p with size := p.size + data.length } (c.put data) := by
  have hpart : disk.part data = data := by
    unfold Disk.part
    rw [hok]
    rfl
  have hsucceeds : Succeeds (diskFs parent) p disk data := by
    refine (succeeds_diskFs hw.handle).mpr ?_
    unfold Disk.succeeds
    rw [hpart]
    exact decide_eq_true rfl
  have hcontent : (disk.writeAll p.file data).2.content =
      Function.update disk.content c.path (c.put data).content := by
    rw [← c.handle_put_next, ← hw.content]
    unfold Disk.writeAll
    rw [hw.handle, hpart]
    rfl
  have houtcomes : (disk.writeAll p.file data).2.outcomes = [] := by
    unfold Disk.writeAll
    rw [hw.handle, hok]
    rfl
  have hhandle := Disk.handle_writeAll hw.handle data
  rw [hpart, c.handle_next_next] at hhandle
  refine ⟨(disk.writeAll p.file data).2, ?_, hcontent, houtcomes, hhandle, ?_, ?_, hw.limit,
    hw.notFull⟩
  · exact write_of_succeeds ((hw.accepts_eq data).trans hfits) hsucceeds
  · rw [hcontent]
    exact Function.update_self ..
  · unfold Capture.put
    rw [hw.size, List.length_append, Nat.add_assoc]

/-- A packet that does not fit ends the capture. -/
theorem Writes.write_full (parent : String → Option String) (hfull : c.fits data = false) :
    p.write (diskFs parent) data disk = ({ p with atMaxSize := true }, disk) :=
  write_of_not_accepts ((hw.accepts_eq data).trans hfull)

end PcapStream

/-! ## The connection on a disk -/

/-- The environment `E` with a disk beside it. -/
abbrev WithDisk (E : Type) := E × Disk String UInt8

/-- `d` on a disk that `std::fs` works on. -/
def PvpnDependencies.withDisk {E S X : Type} (d : PvpnDependencies E S X Nat)
    (parent : String → Option String) : PvpnDependencies (WithDisk E) S X Nat :=
  { d.zoom Lens.beside with fs := (diskFs parent).zoom Lens.second }

namespace PvpnConnection

open Conn

variable {E S X α : Type}

/-- The connection and its disk are as the recorder has them. -/
structure Mirrors (r : Recorder) (s : Sys (WithDisk E) S Nat) : Prop where
  files : s.env.2.content = r.files
  complete : s.env.2.outcomes = []
  capture : Option.Rel (PcapStream.Writes s.env.2) s.conn.pcapStream r.capture

/-- A capture was started on a raw descriptor. -/
def Strays (l : List (Obs × Sys (WithDisk E) S Nat)) : Prop :=
  ∃ x ∈ l, x.1.isFdCapture = true

/-- All packets but `pending`, the one that is being handled, are in the files. Nothing is said once
a raw descriptor is in use. -/
def Logged (ids : ReservedIds) (files : String → Bytes) (pending : Option Bytes)
    (h : Hist (Sys (WithDisk E) S Nat) Obs) : Prop :=
  Strays h.past ∨ ∃ r, recorded ids files h.past = pending.elim r r.record ∧ Mirrors r h.now

/-- Work that has nothing to do with captures and packets, and leaves the disk alone. -/
structure OffRecord (h h' : Hist (Sys (WithDisk E) S Nat) Obs) : Prop where
  step : Step SameCapture Obs.isOffRecord h h'
  disk : h'.now.env.2 = h.now.env.2

section Logged

variable {ids : ReservedIds} {files : String → Bytes} {pending : Option Bytes}
  {h h' : Hist (Sys (WithDisk E) S Nat) Obs}

theorem Mirrors.of_eq {r : Recorder} {s s' : Sys (WithDisk E) S Nat} (hm : Mirrors r s)
    (hdisk : s'.env.2 = s.env.2) (hcapture : s'.conn.pcapStream = s.conn.pcapStream) :
    Mirrors r s' := by
  refine ⟨?_, ?_, ?_⟩ <;> rw [hdisk]
  · exact hm.files
  · exact hm.complete
  · exact hcapture ▸ hm.capture

theorem Strays.append {l seg : List (Obs × Sys (WithDisk E) S Nat)} (hl : Strays l) :
    Strays (l ++ seg) := by
  obtain ⟨x, hx, hfd⟩ := hl
  exact ⟨x, List.mem_append_left _ hx, hfd⟩

theorem Strays.letters {d : PvpnDependencies (WithDisk E) S X Nat} {x : Conn (WithDisk E) S Nat α}
    (hx : Prog.Rel (Letters d) x) (hh : Strays h.past) : Strays (x h).2.past := by
  obtain ⟨seg, hpast, -⟩ := extends_of_letters hx h
  exact hpast ▸ hh.append

theorem Logged.offRecord (hs : OffRecord h h') (hh : Logged ids files pending h) :
    Logged ids files pending h' := by
  obtain ⟨seg, hpast, hseg⟩ := hs.step.observed
  obtain hstrays | ⟨r, hrecorded, hmirrors⟩ := hh
  · exact .inl (hpast ▸ hstrays.append)
  · refine .inr ⟨r, ?_, hmirrors.of_eq hs.disk hs.step.core⟩
    rw [hpast, recorded_append ids files hseg, hrecorded]

variable {d : PvpnDependencies E S X Nat} {x : Conn (WithDisk E) S Nat α}
  (hs : Prog.Rel (Step SameCapture Obs.isOffRecord) x)
include hs

/-- What does not use `std::fs` spares the disk. -/
theorem logged_of_steps (hx : Prog.Rel (Steps (d.zoom Lens.beside)) x) :
    Prog.Inv (Logged ids files pending) x := by
  intro h hh
  refine hh.offRecord ⟨hs h, ?_⟩
  have hw := hx h
  generalize (x h).2 = h' at hw
  induction hw with
  | refl => rfl
  | tail _ hstep ih =>
    obtain hletter | ⟨deadline, rfl⟩ := hstep
    · exact hletter.beside_eq.trans ih
    · exact ih

theorem logged_of_letters (hx : Prog.Rel (Letters (d.zoom Lens.beside)) x) :
    Prog.Inv (Logged ids files pending) x :=
  logged_of_steps hs (steps_of_letters hx)

end Logged

/-! ## Starting, stopping and writing -/

section Capture

variable (d : PvpnDependencies E S X Nat) (parent : String → Option String) {ids : ReservedIds}
  {files : String → Bytes} {h : Hist (Sys (WithDisk E) S Nat) Obs}

theorem dropOld_withDisk (p : Option (PcapStream Nat)) (e : WithDisk E) :
    PcapStream.dropOld (d.withDisk parent).fs p e = e := by
  cases p <;> rfl

theorem new_withDisk (file : PcapFileInfo) (e : WithDisk E) :
    PcapStream.new (d.withDisk parent).fs file e =
      ((PcapStream.new (diskFs parent) file e.2).1, e.1,
        (PcapStream.new (diskFs parent) file e.2).2) :=
  PcapStream.new_second (diskFs parent) file e

theorem write_withDisk (p : PcapStream Nat) (data : Bytes) (e : WithDisk E) :
    p.write (d.withDisk parent).fs data e =
      ((p.write (diskFs parent) data e.2).1, e.1, (p.write (diskFs parent) data e.2).2) :=
  PcapStream.write_second (diskFs parent) data p e

/-- `stop_packet_capture` closes the file and does nothing else to the disk. -/
theorem stopPacketCapture_disk (reason : PcapFileInfo → CaptureStopReason)
    (h : Hist (Sys (WithDisk E) S Nat) Obs) :
    (stopPacketCapture (d.withDisk parent) reason h).2.now.env.2 = h.now.env.2 := by
  unfold stopPacketCapture
  rw [Prog.bind_of_some (show inform _ _ h = (some (), _) from rfl), conn_bind]
  dsimp only [Hist.set_now, Hist.emit_now]
  cases hp : h.now.conn.pcapStream with
  | none => rfl
  | some stream => rfl

/-- Once a capture is stopped, it does not matter what its stream was. -/
theorem stopPacketCapture_logged (reason : PcapFileInfo → CaptureStopReason)
    (hfiles : (recorded ids files h.past).files = h.now.env.2.content)
    (hcomplete : h.now.env.2.outcomes = []) :
    Logged ids files none (stopPacketCapture (d.withDisk parent) reason h).2 := by
  have hdisk := stopPacketCapture_disk d parent reason h
  obtain ⟨h', s, s', hrun, hnow, -, hpast⟩ := stopPacketCapture_spec (d.withDisk parent) reason h
  rw [hrun] at hdisk ⊢
  have hpast' : h'.past = (h.past ++ [(.setPacketCaptureEnabled false, s)]) ++
      [(.event (.packetCaptureStopped (stopReason reason h.now.conn)), s')] := by
    rw [hpast]
    simp
  refine .inr ⟨⟨h.now.env.2.content, none⟩, ?_, ?_, ?_, ?_⟩
  · rw [hpast', recorded_snoc, recorded_snoc, ← hfiles]
    rfl
  · exact congrArg Disk.content hdisk
  · exact (congrArg Disk.outcomes hdisk).trans hcomplete
  · rw [hnow]
    exact .none

theorem logged_stopPacketCapture (reason : PcapFileInfo → CaptureStopReason) :
    Prog.Inv (Logged ids files none)
      (stopPacketCapture (d.withDisk parent) reason : Conn (WithDisk E) S Nat Unit) := by
  rintro h (hstrays | ⟨r, hrecorded, hmirrors⟩)
  · exact .inl (hstrays.letters (letters_stopPacketCapture (d.withDisk parent) reason))
  · refine stopPacketCapture_logged d parent reason ?_ hmirrors.complete
    rw [hrecorded, hmirrors.files]
    rfl

/-- `start_packet_capture` leaves what `PcapStream::new` has made of the disk. -/
theorem startPacketCapture_disk {file : PcapFileInfo} {p : PcapStream Nat} {e : WithDisk E}
    (hnew : PcapStream.new (d.withDisk parent).fs file h.now.env = (.ok p, e)) :
    (startPacketCapture (d.withDisk parent) file h).2.now.env.2 = e.2 := by
  have hquery : query (PcapStream.new (d.withDisk parent).fs file) h =
      (some (.ok p), h.set { h.now with env := e }) := by
    unfold query
    rw [hnew]
  unfold startPacketCapture
  rw [Prog.bind_of_some hquery]
  change (PcapStream.dropOld (d.withDisk parent).fs h.now.conn.pcapStream e).2 = e.2
  rw [dropOld_withDisk]

/-- A capture to a path is always started. -/
theorem startPacketCapture_path (path : String) (mode : FileWriteMode) (maxBytes : Option Nat)
    {r : Recorder} (hrecorded : recorded ids files h.past = r) (hmirrors : Mirrors r h.now) :
    Logged ids files none
      (startPacketCapture (d.withDisk parent) ⟨.path path mode, maxBytes⟩ h).2 := by
  obtain ⟨p, hnew, hwrites⟩ := PcapStream.new_writes parent path mode maxBytes h.now.env.2
  have hnew' : PcapStream.new (d.withDisk parent).fs ⟨.path path mode, maxBytes⟩ h.now.env =
      (.ok p, h.now.env.1, (h.now.env.2.openFile path (mode = .append)).2) := by
    rw [new_withDisk, hnew]
  have hdisk := startPacketCapture_disk d parent hnew'
  obtain ⟨h', s, s', hrun, hnow, -, hpast⟩ :=
    startPacketCapture_ok (d.withDisk parent) (congrArg Prod.fst hnew')
  rw [hrun] at hdisk ⊢
  have hpast' : h'.past = (h.past ++ [(.setPacketCaptureEnabled true, s)]) ++
      [(.event (.packetCaptureStarted ⟨.path path mode, maxBytes⟩), s')] := by
    rw [hpast]
    simp
  refine .inr ⟨⟨r.files, some ⟨path, mode, maxBytes, r.files path, []⟩⟩, ?_, ?_, ?_, ?_⟩
  · rw [hpast', recorded_snoc, recorded_snoc, hrecorded]
    rfl
  · exact (congrArg Disk.content hdisk).trans hmirrors.files
  · exact (congrArg Disk.outcomes hdisk).trans hmirrors.complete
  · rw [hnow, hdisk, ← hmirrors.files]
    exact .some hwrites

theorem logged_startPacketCapture (file : PcapFileInfo) : Prog.Inv (Logged ids files none)
    (startPacketCapture (d.withDisk parent) file : Conn (WithDisk E) S Nat Unit) := by
  rintro h (hstrays | ⟨r, hrecorded, hmirrors⟩)
  · exact .inl (hstrays.letters (letters_startPacketCapture (d.withDisk parent) file))
  obtain ⟨file, maxBytes⟩ := file
  cases file with
  | path path mode => exact startPacketCapture_path d parent path mode maxBytes hrecorded hmirrors
  | fd fd =>
    have hdisk : (PcapStream.new (d.withDisk parent).fs ⟨.fd fd, maxBytes⟩ h.now.env).2.2 =
        h.now.env.2 := by
      rw [new_withDisk]
      exact PcapStream.new_fd parent fd maxBytes _
    cases hnew : (PcapStream.new (d.withDisk parent).fs ⟨.fd fd, maxBytes⟩ h.now.env).1 with
    | error err =>
      rw [startPacketCapture_error (d.withDisk parent) hnew]
      exact .inr ⟨r, hrecorded, hmirrors.of_eq hdisk rfl⟩
    | ok stream =>
      obtain ⟨h', s, s', hrun, -, -, hpast⟩ := startPacketCapture_ok (d.withDisk parent) hnew
      rw [hrun]
      refine .inl ⟨(.event (.packetCaptureStarted ⟨.fd fd, maxBytes⟩), s'), ?_, rfl⟩
      rw [hpast]
      simp

/-- `handle_write` on `PCAP_STREAM_ID` while there is a stream. -/
theorem writePcap_eq {d : PvpnDependencies (WithDisk E) S X Nat} {p p' : PcapStream Nat}
    {data : Bytes} {e : WithDisk E} (hp : h.now.conn.pcapStream = some p)
    (hwrite : p.write d.fs data h.now.env = (p', e)) :
    writePcap d data h = Prog.when p'.atMaxSize (stopPacketCapture d .maxSizeReached)
      ((h.emit (.pcapWrite p.fileInfo data)).set
        ⟨e, { h.now.conn with pcapStream := some p' }⟩) := by
  have hquery : query (p.write d.fs data) (h.emit (.pcapWrite p.fileInfo data)) =
      (some p', (h.emit (.pcapWrite p.fileInfo data)).set { h.now with env := e }) := by
    unfold query
    rw [Hist.emit_now, hwrite]
  unfold writePcap
  rw [conn_bind, hp]
  dsimp only
  rw [Prog.bind_of_some (show Prog.emit _ h = (some (), _) from rfl), Prog.bind_of_some hquery]
  rfl

/-- The packet is written, or it is dropped and the capture ends. -/
theorem writePcap_on {data : Bytes} {p : PcapStream Nat} {c : Capture} {r : Recorder}
    (hp : h.now.conn.pcapStream = some p) (hwrites : p.Writes h.now.env.2 c)
    (hrecorded : recorded ids files h.past = r.recordTo data c) (hmirrors : Mirrors r h.now) :
    Logged ids files none (writePcap (d.withDisk parent) data h).2 := by
  have hseen (s : Sys (WithDisk E) S Nat) :
      recorded ids files (h.past ++ [(.pcapWrite p.fileInfo data, s)]) = r.recordTo data c :=
    (recorded_snoc ids files _ _ _).trans hrecorded
  have hwrite := write_withDisk d parent p data h.now.env
  unfold Recorder.recordTo at hseen
  cases hfits : c.fits data with
  | true =>
    obtain ⟨disk', hrun, hcontent, hcomplete, hwrites'⟩ :=
      hwrites.write parent hmirrors.complete hfits
    rw [hrun] at hwrite
    rw [hmirrors.files] at hcontent
    simp only [hfits, if_true] at hseen
    rw [writePcap_eq hp hwrite, Prog.when_neg (by simp [hwrites.notFull])]
    exact .inr ⟨_, hseen _, hcontent, hcomplete, .some hwrites'⟩
  | false =>
    rw [hwrites.write_full parent hfits] at hwrite
    simp only [hfits] at hseen
    rw [writePcap_eq hp hwrite, Prog.when_pos rfl]
    refine stopPacketCapture_logged d parent _ ?_ hmirrors.complete
    exact (congrArg Recorder.files (hseen _)).trans hmirrors.files.symm

/-- Then no packet is being handled any more. -/
theorem writePcap_logged (data : Bytes) (h : Hist (Sys (WithDisk E) S Nat) Obs)
    (hh : Logged ids files (some data) h) :
    Logged ids files none (writePcap (d.withDisk parent) data h).2 := by
  obtain hstrays | ⟨r, hrecorded, hmirrors⟩ := hh
  · exact .inl (hstrays.letters (letters_writePcap (d.withDisk parent) data))
  obtain ⟨recordedFiles, capture⟩ := r
  have hcapture := hmirrors.capture
  cases hp : h.now.conn.pcapStream with
  | none =>
    rw [hp] at hcapture
    cases hcapture
    have hrun : writePcap (d.withDisk parent) data h = (some (), h) := by
      unfold writePcap
      rw [conn_bind, hp]
      rfl
    rw [hrun]
    exact .inr ⟨⟨recordedFiles, none⟩, hrecorded, hmirrors⟩
  | some p =>
    rw [hp] at hcapture
    cases hcapture with
    | some hwrites => exact writePcap_on d parent hp hwrites hrecorded hmirrors

end Capture

/-! ## Whole runs -/

section Runs

variable (d : PvpnDependencies E S X Nat) (parent : String → Option String) (files : String → Bytes)

theorem logged_writeStream (streamId : StreamId)
    {write : X → WithDisk E → Option (StreamResult × X × WithDisk E)}
    (hw : StreamCalls (d.zoom Lens.beside : PvpnDependencies (WithDisk E) S X Nat)
      fun x e => (write x e).map Prod.snd) :
    Prog.Inv (Logged d.ids files none) (writeStream (d.withDisk parent) streamId write) :=
  logged_of_letters (d := d)
    (ignoresIo_sameCapture.writeStream (d.withDisk parent) Obs.isOffRecord_of_isStreamIoOf write)
    (letters_writeStream (d.zoom Lens.beside) streamId hw)

theorem logged_handleWrite (streamId : StreamId) (data : Bytes)
    (h : Hist (Sys (WithDisk E) S Nat) Obs)
    (hh : Logged d.ids files (if streamId = d.ids.pcap then some data else none) h) :
    Logged d.ids files none (handleWrite (d.withDisk parent) streamId data h).2 := by
  by_cases hpcap : streamId = d.ids.pcap
  · have hrun : (handleWrite (d.withDisk parent) streamId data :
        Conn (WithDisk E) S Nat Unit) = writePcap (d.withDisk parent) data :=
      if_pos hpcap
    rw [if_pos hpcap] at hh
    rw [hrun]
    exact writePcap_logged d parent data h hh
  · rw [if_neg hpcap] at hh
    rw [handleWrite_eq]
    split
    · next key _ =>
      have hput : Prog.Rel (Step SameCapture Obs.isOffRecord)
          (putCache (d.withDisk parent) key data : Conn (WithDisk E) S Nat Unit) :=
        step_inform rfl _
      exact logged_of_letters hput (letters_putCache (d.zoom Lens.beside) key data) h hh
    · split
      · next hpcap' => exact absurd hpcap' hpcap
      · exact logged_writeStream d parent files streamId (.write data) h hh

/-- An action is handled by writing its packet, if it has one. -/
theorem logged_handleAction (action : Action)
    (h : Hist (Sys (WithDisk E) S Nat) Obs)
    (hh : Logged d.ids files (action.packet d.ids) h) :
    Logged d.ids files none (handleAction (d.withDisk parent) action h).2 := by
  have hcalls := ignoresIo_sameCapture.calls (d.withDisk parent) action.streamId
  have hsettled : SettledByActions (d.withDisk parent) action.streamId
      (fun data => Logged d.ids files (if action.streamId = d.ids.pcap then data else none))
      (Logged d.ids files none) := {
    nothing := fun h hh => by simpa using hh
    openStream := fun data target =>
      logged_of_letters (hcalls.handleOpen Obs.isOffRecord_of_isStreamIoOf target)
        (letters_handleOpen (d.zoom Lens.beside) _ target)
    write := logged_handleWrite d parent files action.streamId
    close := logged_of_letters
      (ignoresIo_sameCapture.closeStream (d.withDisk parent) Obs.isOffRecord_of_isStreamIoOf)
      (letters_closeStream (d.zoom Lens.beside) _)
    shutdown := logged_of_letters (hcalls.shutdownWrite Obs.isOffRecord_of_isStreamIoOf)
      (letters_shutdownWrite (d.zoom Lens.beside) _) }
  exact hsettled.handleAction hh

/-- The packet of an action is not in the files when it is pulled. -/
theorem logged_pulled : Prog.Triple (Logged d.ids files none)
    (ask .pulled (d.withDisk parent).client.pull)
    (fun a (h : Hist (Sys (WithDisk E) S Nat) Obs) =>
      Logged d.ids files (a.bind (Action.packet d.ids)) h)
    (Logged d.ids files none) := by
  rintro h (hstrays | ⟨r, hrecorded, hmirrors⟩)
  · exact .inl hstrays.append
  · refine .inr ⟨r, ?_, hmirrors.of_eq rfl rfl⟩
    refine (recorded_snoc d.ids files _ _ _).trans ((congrArg (Recorder.see d.ids · _)
      hrecorded).trans ?_)
    cases ((d.withDisk parent).client.pull h.now.env).1 <;> rfl

theorem logged_pullAction : Prog.Inv (Logged d.ids files none)
    (pullAction (d.withDisk parent) : Conn (WithDisk E) S Nat Bool) :=
  inv_pullAction_of_settled
    (logged_of_letters (step_query _) (letters_query (d := d.zoom Lens.beside) .needPull))
    (logged_pulled d parent files) (fun _ hh => hh) (logged_handleAction d parent files)

theorem logged_pullLocalAgent : Prog.Inv (Logged d.ids files none)
    (pullLocalAgent (d.withDisk parent) : Conn (WithDisk E) S Nat Bool) := by
  refine logged_of_letters (step_pullLocalAgent (d.withDisk parent) (fun _ _ _ => rfl)
    (fun _ => rfl) fun e he => ?_) (letters_pullLocalAgent (d.zoom Lens.beside))
  cases e <;> first | rfl | cases he

theorem keptByReads_logged (streamId : StreamId) :
    KeptByReads (d.withDisk parent) streamId (Logged d.ids files none) := by
  have hcalls := ignoresIo_sameCapture.calls (d.withDisk parent) streamId
  exact {
    push := fun startOffset bytesRead =>
      logged_of_letters (step_pushRead (d.withDisk parent) (fun _ => rfl) startOffset bytesRead)
        (letters_pushRead (d.zoom Lens.beside) streamId startOffset bytesRead)
    error := fun e =>
      logged_of_letters (hcalls.handleStreamError Obs.isOffRecord_of_isStreamIoOf e)
        (letters_handleStreamError (d.zoom Lens.beside) streamId e)
    close := logged_of_letters (step_inform rfl _) (letters_push (d.zoom Lens.beside) _)
    read := fun stream h _ =>
      logged_of_letters (hcalls.readInto (fun _ => rfl) stream)
        (letters_readInto (d.zoom Lens.beside) streamId stream) h
    note := fun res =>
      logged_of_letters (step_noteTunResult (d.withDisk parent) (fun _ _ => rfl) streamId res)
        (letters_noteTunResult (d.zoom Lens.beside) streamId res) }

/-- A message that is neither `Disconnect` nor about captures. -/
theorem logged_handleMessage {m : PvpnMessage} (hm : m ≠ .disconnect)
    (hcapture : m.isCapture = false) (hletters : Prog.Rel (Letters (d.zoom Lens.beside))
      (handleMessage (d.withDisk parent) m : Conn (WithDisk E) S Nat Unit)) :
    Prog.Inv (Logged d.ids files none)
      (handleMessage (d.withDisk parent) m : Conn (WithDisk E) S Nat Unit) := by
  refine logged_of_letters (ignoresControl_sameCapture.handleMessage (d.withDisk parent)
    Obs.isOffRecord_of_isControl hm hcapture fun u _ => ?_) hletters
  refine ignoresControl_sameCapture.handleUpdate (d.withDisk parent) Obs.isOffRecord_of_isControl
    (fun tun => ?_) u
  exact step_updateTun (d.withDisk parent) (fun _ _ => rfl) (fun _ _ => rfl) (fun _ _ => rfl) tun

theorem logged_receiveMessage : Prog.Inv (Logged d.ids files none)
    (receiveMessage (d.withDisk parent) : Conn (WithDisk E) S Nat Bool) := by
  refine Prog.inv_bind (logged_of_letters (step_ask (fun _ => rfl) _)
    (letters_ask (d := d.zoom Lens.beside) .recv)) fun m => ?_
  cases m with
  | none => exact Prog.inv_pure _
  | some m =>
    refine Prog.inv_bind ?_ fun _ => Prog.inv_pure _
    cases m with
    | startPacketCapture file => exact logged_startPacketCapture d parent file
    | stopPacketCapture => exact logged_stopPacketCapture d parent _
    | disconnect =>
      exact logged_of_letters (d := d) (step_update fun _ => rfl) (letters_update _)
    | connectivityChange event =>
      exact logged_handleMessage d parent files nofun rfl
        (letters_handleMessage (d.zoom Lens.beside) (.connectivityChange event))
    | requestStats =>
      exact logged_handleMessage d parent files nofun rfl
        (letters_handleMessage (d.zoom Lens.beside) .requestStats)
    | update u =>
      exact logged_handleMessage d parent files nofun rfl
        (letters_handleMessage (d.zoom Lens.beside) (.update u))
    | provideApiForkSelector info =>
      exact logged_handleMessage d parent files nofun rfl
        (letters_handleMessage (d.zoom Lens.beside) (.provideApiForkSelector info))
    | requestLocalAgentStats =>
      exact logged_handleMessage d parent files nofun rfl
        (letters_handleMessage (d.zoom Lens.beside) .requestLocalAgentStats)

theorem logged_setState (state : ConnectionState) : Prog.Inv (Logged d.ids files none)
    (setState (d.withDisk parent) state : Conn (WithDisk E) S Nat Unit) :=
  logged_of_letters
    (ignoresControl_sameCapture.setState (d.withDisk parent) Obs.isOffRecord_of_isControl state)
    (letters_setState (d.zoom Lens.beside) state)

theorem logged_onConnectionLoopEnd : Prog.Inv (Logged d.ids files none)
    (onConnectionLoopEnd (d.withDisk parent) : Conn (WithDisk E) S Nat Unit) := by
  refine Prog.inv_bind (logged_of_letters (d := d) (step_emit rfl) (letters_mark rfl)) fun _ => ?_
  refine Prog.inv_bind inv_conn fun c => ?_
  refine Prog.inv_bind (Prog.inv_when fun _ => logged_stopPacketCapture d parent _) fun _ => ?_
  refine Prog.inv_bind inv_conn fun c => ?_
  split
  · exact Prog.inv_pure ()
  · exact logged_setState d parent files _

theorem keptByLoop_logged : KeptByLoop (d.withDisk parent) (Logged (S := S) d.ids files none) where
  pull := logged_pullAction d parent files
  agent := logged_pullLocalAgent d parent files
  readStream n streamId := (keptByReads_logged d parent files streamId).readStream
    (logged_pullAction d parent files) (logged_pullLocalAgent d parent files) n
  write streamId := logged_writeStream d parent files streamId .writeFromBuffer
  clock := logged_of_letters (step_query _)
    (letters_query (d := d.zoom Lens.beside) .setCurrentTime)
  resumed := logged_of_letters (step_onResumed (d.withDisk parent) (fun _ _ _ => rfl) rfl)
    (letters_onResumed (d.zoom Lens.beside))
  wait := logged_of_steps
    (step_waitForStreams (d.withDisk parent) (fun _ _ => rfl) (fun _ => rfl) fun _ => rfl)
    (steps_waitForStreams (d.zoom Lens.beside))
  receive := logged_receiveMessage d parent files
  updateState := logged_of_letters
    (step_updateState (d.withDisk parent) (fun _ _ _ => rfl) (fun _ _ => rfl) (fun _ _ _ => rfl)
      (fun _ => rfl) (fun _ => rfl) fun _ => rfl)
    (letters_updateState (d.zoom Lens.beside))
  loopEnd := logged_onConnectionLoopEnd d parent files

theorem logged_new (cfg : InitialConfig) : Prog.Inv (Logged d.ids files none)
    (new (d.withDisk parent) cfg : Conn (WithDisk E) S Nat Unit) := by
  refine Prog.inv_bind inv_conn fun c => ?_
  refine Prog.inv_bind (logged_of_letters (Prog.rel_forEach (fun _ => step_inform rfl _) _)
    (Prog.rel_forEach (letters_addPeer (d.zoom Lens.beside)) _)) fun _ => ?_
  refine Prog.inv_bind (logged_of_letters (ignoresControl_sameCapture.announceNetwork
    (d.withDisk parent) Obs.isOffRecord_of_isControl)
    (letters_announceNetwork (d.zoom Lens.beside))) fun _ => ?_
  refine Prog.inv_bind ?_ fun _ => logged_of_letters
    (step_ifSome (IgnoresControl.watchLocalAgent (d.withDisk parent) Obs.isOffRecord_of_isControl))
    (letters_ifSome (letters_watchLocalAgent (d.zoom Lens.beside)))
  cases cfg.pcapFile with
  | none => exact Prog.inv_pure ()
  | some file => exact logged_startPacketCapture d parent file

/-- **What a run leaves in the capture files.** On a disk on which every write succeeds, each file
is after every run what the packets of the client and the events about captures say: it has the
packets that were handed out while a capture to it was on and that fit into the limit of that
capture, in order, and nothing else of it has changed. -/
theorem files_recorded {disk : Disk String UInt8} (hdisk : disk.outcomes = [])
    (cfg : InitialConfig) (streams : S) (env : E) (n : Nat)
    (hpaths : ∀ x ∈ (exec (d.withDisk parent) cfg streams (env, disk) n).2.past,
      x.1.isFdCapture = false) :
    (exec (d.withDisk parent) cfg streams (env, disk) n).2.now.env.2.content =
      (recorded d.ids disk.content
        (exec (d.withDisk parent) cfg streams (env, disk) n).2.past).files := by
  have hinit : Logged d.ids disk.content none
      (Hist.init ⟨(env, disk), initial (d.withDisk parent) cfg streams⟩) :=
    .inr ⟨⟨disk.content, none⟩, rfl, rfl, hdisk, .none⟩
  have hend : Logged d.ids disk.content none
      (exec (d.withDisk parent) cfg streams (env, disk) n).2 :=
    Prog.inv_bind (logged_new d parent disk.content cfg)
      (fun _ => (keptByLoop_logged d parent disk.content).keptByIterations.run n) _ hinit
  obtain ⟨x, hmem, hfd⟩ | ⟨r, hrecorded, hmirrors⟩ := hend
  · rw [hpaths x hmem] at hfd
    cases hfd
  · rw [hrecorded, hmirrors.files]
    rfl

end Runs

end PvpnConnection

/-! ## Two captures to one file -/

namespace Script

/-- A file system whose handles are numbers, for `withDisk` to replace. -/
def numberedFs : Fs Script Nat where
  parent _ := none
  createDirAll _ e := (.ok (), e)
  openFile _ _ e := (.ok 0, e)
  fromRawFd := Int.toNat
  len _ e := (.ok 0, e)
  writeAll _ _ e := (.ok (), e)
  syncAll _ e := (.ok (), e)

/-- The world of a script on a disk. -/
def scriptedOnDisk : PvpnDependencies (WithDisk Script) Unit Unit Nat :=
  PvpnDependencies.withDisk { scripted with fs := numberedFs } fun _ => none

/-- The capture of the configuration is replaced by one with a limit, which a packet then passes.
After that there is no capture. -/
def replacedCapture : Script where
  messages := [none, some (.startPacketCapture ⟨.path "a" .append, some 8⟩), none]
  actions := [some ⟨-1, .write [7, 8]⟩, none, some ⟨-1, .write [9]⟩, some ⟨-1, .write [1, 2, 3]⟩,
    some ⟨-1, .write [4]⟩, none]

/-- On a file of five bytes, the first capture has written over two of them and the second has
appended one. -/
theorem replacedCapture_recorded :
    (PvpnConnection.exec scriptedOnDisk
      { plainConfig with pcapFile := some ⟨.path "a" .overwrite, none⟩ } ()
      (replacedCapture, PcapStream.diskWith [1, 2, 3, 4, 5] []) 8).2.now.env.2.content "a" =
        [7, 8, 3, 4, 5, 9] := by
  unfold scriptedOnDisk
  rw [PvpnConnection.files_recorded _ _ rfl _ () replacedCapture 8 (by decide +kernel)]
  decide +kernel

end Script

end Protun
