import Protun.Connection.Script
import Protun.Connection.State
import Protun.Data.Sessions

/-!
# The packet captures announced to the user

A capture is started by the constructor or by a message, and it is stopped by a message, by its
size limit or by the end of the loop. The user sees both as events, which are the marks of a session
(`marks`).

* `CaptureInv`: the capture that is open is the one the events say is open, every `Stopped` names
  it, and the events are clean iff no capture was started over another (`NoRestart`).
* `captures_paired_iff`: in a run that has ended, every `Started` is followed by exactly one
  `Stopped` that names its file before the next `Started` iff no capture was started over another;
  in every run `AlreadyStopped` is said only with no capture open.
* `restart_not_announced`: a run in which a second capture replaces the first without a word.
-/

namespace Protun

open Trace Sessions

/-- The file a stop reason names. -/
def CaptureStopReason.file : CaptureStopReason → Option PcapFileInfo
  | .request file | .maxSizeReached file | .disconnected file => some file
  | .alreadyStopped => none

/-- What an event says about captures. -/
def Obs.mark : Obs → Option (Mark PcapFileInfo)
  | .event (.packetCaptureStarted info) => some (.start info)
  | .event (.packetCaptureStopped reason) => some (.stop reason.file)
  | _ => none

/-- What the user was told about captures. -/
def marks {σ : Type} (l : List (Obs × σ)) : List (Mark PcapFileInfo) :=
  l.filterMap fun x => x.1.mark

/-- Neither an event about captures nor a request to start one. -/
def Obs.isUncaptured : Obs → Bool
  | .event (.packetCaptureStarted _) | .event (.packetCaptureStopped _) => false
  | .recv (some (.startPacketCapture _)) => false
  | _ => true

theorem Obs.isUncaptured_of_isControl (o : Obs) (h : o.isControl = true) :
    o.isUncaptured = true := by
  cases o with
  | event e => cases e <;> first | rfl | cases h
  | _ => first | rfl | cases h

theorem Obs.isUncaptured_of_isStreamIo (o : Obs) (h : o.isStreamIo = true) :
    o.isUncaptured = true := by
  cases o <;> first | rfl | cases h

theorem Obs.mark_of_isUncaptured {o : Obs} (h : o.isUncaptured = true) : o.mark = none := by
  cases o with
  | event e => cases e <;> first | rfl | cases h
  | _ => rfl

theorem marks_append {σ : Type} (l seg : List (Obs × σ)) :
    marks (l ++ seg) = marks l ++ marks seg :=
  List.filterMap_append

theorem marks_of_mark_none {σ : Type} {seg : List (Obs × σ)} (h : ∀ x ∈ seg, x.1.mark = none)
    (l : List (Obs × σ)) : marks (l ++ seg) = marks l := by
  rw [marks_append, show marks seg = [] from List.filterMap_eq_nil_iff.mpr h, List.append_nil]

namespace PcapStream

variable {E F : Type} (fs : Fs E F)

theorem new_fileInfo {fileInfo : PcapFileInfo} {e : E} {stream : PcapStream F}
    (h : (new fs fileInfo e).1 = .ok stream) : stream.fileInfo = fileInfo := by
  unfold new at h
  split at h
  · cases h
  · split at h <;> cases h
    rfl

theorem write_fileInfo (data : Bytes) (p : PcapStream F) (e : E) :
    (write fs data p e).1.fileInfo = p.fileInfo := by
  unfold write
  split
  · rfl
  split
  · rfl
  split <;> rfl

end PcapStream

namespace PvpnConnection

open Conn

variable {E S X F α : Type} (d : PvpnDependencies E S X F)

/-! ## What leaves the capture alone -/

/-- The capture is left alone. -/
def SameCapture (c c' : PvpnConnection S F) : Prop := c'.pcapStream = c.pcapStream

instance isPreorder_sameCapture : IsPreorder (PvpnConnection S F) SameCapture where
  refl _ := rfl
  trans _ _ _ h₁ h₂ := Eq.trans h₂ h₁

/-- Work that neither touches the capture nor speaks of it. -/
abbrev Untold (h h' : Hist (Sys E S F) Obs) : Prop := Step SameCapture Obs.isUncaptured h h'

theorem ignoresIo_sameCapture : IgnoresIo (S := S) (F := F) SameCapture :=
  ⟨fun _ _ => rfl, fun _ _ => rfl, fun _ _ => rfl, fun _ _ _ => rfl⟩

theorem ignoresControl_sameCapture : IgnoresControl (S := S) (F := F) SameCapture :=
  ⟨fun _ _ => rfl, fun _ _ => rfl, fun _ _ => rfl, fun _ _ => rfl⟩

/-! ## The invariant -/

/-- No capture is open if the file `f` can be opened now. -/
def StartsFresh (f : PcapFileInfo) (s : Sys E S F) : Prop :=
  ∀ stream, (PcapStream.new d.fs f s.env).1 = .ok stream → s.conn.pcapStream = none

/-- No capture was started over another: whenever a `StartPacketCapture` arrives with a capture
open, its file cannot be opened. -/
def NoRestart (l : List (Obs × Sys E S F)) : Prop :=
  ∀ x ∈ l, ∀ f, x.1 = .recv (some (.startPacketCapture f)) → StartsFresh d f x.2

/-- `AlreadyStopped` is said with no capture open. -/
def AlreadyStoppedIsTrue (o : Obs) (s : Sys E S F) : Prop :=
  o = .event (.packetCaptureStopped .alreadyStopped) → s.conn.pcapStream = none

/-- The user knows which capture is open. -/
structure Announced (h : Hist (Sys E S F) Obs) : Prop where
  current : h.now.conn.pcapStream.map PcapStream.fileInfo = openAfter none (marks h.past)
  faithful : Faithful none (marks h.past)
  already : Always (fun _ o s => AlreadyStoppedIsTrue o s) h.past

/-- And the events are clean iff no capture was started over another. -/
structure CaptureInv (h : Hist (Sys E S F) Obs) : Prop extends Announced h where
  clean : Clean none (marks h.past) ↔ NoRestart d h.past

/-- The file `f` is about to be opened. -/
structure Starting (f : PcapFileInfo) (h : Hist (Sys E S F) Obs) : Prop extends Announced h where
  clean : Clean none (marks h.past) ∧ StartsFresh d f h.now ↔ NoRestart d h.past

variable {d} {h h' : Hist (Sys E S F) Obs}

theorem noRestart_append {l seg : List (Obs × Sys E S F)} :
    NoRestart d (l ++ seg) ↔ NoRestart d l ∧ NoRestart d seg :=
  List.forall_mem_append

theorem noRestart_of_isUncaptured {seg : List (Obs × Sys E S F)}
    (hseg : ∀ x ∈ seg, x.1.isUncaptured = true) : NoRestart d seg := by
  intro x hx f hf
  have h := hseg x hx
  rw [hf] at h
  cases h

theorem Announced.of_mark_none (hcore : SameCapture h.now.conn h'.now.conn)
    (hext : Extends (fun o _ => o.mark = none) h h') (ha : Announced h) : Announced h' := by
  obtain ⟨seg, hpast, hseg⟩ := hext
  have hmarks : marks h'.past = marks h.past := by rw [hpast, marks_of_mark_none hseg]
  refine ⟨?_, by rw [hmarks]; exact ha.faithful, ?_⟩
  · rw [hmarks, ← ha.current, hcore]
  · rw [hpast]
    refine always_append ha.already fun pre o s post heq ho => ?_
    have hnone := hseg (o, s) (heq ▸ by simp)
    rw [ho] at hnone
    cases hnone

theorem CaptureInv.untold (hs : Untold h h') (hI : CaptureInv d h) : CaptureInv d h' := by
  have hann := hI.toAnnounced.of_mark_none hs.core
    (hs.observed.imp fun o _ ho => Obs.mark_of_isUncaptured ho)
  refine ⟨hann, ?_⟩
  obtain ⟨seg, hpast, hseg⟩ := hs.observed
  rw [hpast, marks_of_mark_none (fun x hx => Obs.mark_of_isUncaptured (hseg x hx)),
    noRestart_append, hI.clean]
  exact (and_iff_left (noRestart_of_isUncaptured hseg)).symm

/-- The invariant reads the past and the open file only. -/
theorem CaptureInv.of_eq (hpast : h'.past = h.past)
    (hfile : h'.now.conn.pcapStream.map PcapStream.fileInfo =
      h.now.conn.pcapStream.map PcapStream.fileInfo) (hI : CaptureInv d h) : CaptureInv d h' := by
  refine ⟨⟨?_, ?_, ?_⟩, ?_⟩ <;> rw [hpast]
  · rw [hfile]
    exact hI.current
  · exact hI.faithful
  · exact hI.already
  · exact hI.clean

theorem inv_of_untold {x : Conn E S F α} (hx : Prog.Rel Untold x) :
    Prog.Inv (CaptureInv d) x :=
  hx.inv fun _ _ => CaptureInv.untold

/-- One more event about captures. -/
theorem Announced.announce {o : Obs} {s s' : Sys E S F} {enabled : Bool} {m : Mark PcapFileInfo}
    (ha : Announced h)
    (hpast : h'.past = h.past ++ [(.setPacketCaptureEnabled enabled, s), (o, s')])
    (hm : o.mark = some m) (hfaithful : ∀ x, m = .stop x → x = openAfter none (marks h.past))
    (hnow : h'.now.conn.pcapStream.map PcapStream.fileInfo = m.next (openAfter none (marks h.past)))
    (halready : AlreadyStoppedIsTrue o s') :
    Announced h' ∧ marks h'.past = marks h.past ++ [m] := by
  have hmarks : marks h'.past = marks h.past ++ [m] := by
    rw [hpast, marks_append]
    refine congrArg (marks h.past ++ ·) ?_
    exact List.filterMap_cons_some (a := (o, s')) (f := fun x => x.1.mark) hm
  refine ⟨⟨?_, ?_, ?_⟩, hmarks⟩
  · rw [hmarks, openAfter_snoc, hnow]
  · rw [hmarks]
    exact throughout_snoc.mpr ⟨ha.faithful, hfaithful⟩
  · rw [hpast, show ∀ (x y : Obs × Sys E S F), h.past ++ [x, y] = (h.past ++ [x]) ++ [y] by simp]
    exact always_snoc.mpr ⟨always_snoc.mpr ⟨ha.already, nofun⟩, halready⟩

/-! ## Starting, stopping and writing -/

variable (d)

theorem startPacketCapture_ok {f : PcapFileInfo} {stream : PcapStream F}
    (hs : (PcapStream.new d.fs f h.now.env).1 = .ok stream) :
    ∃ h' s s', startPacketCapture d f h = (some (), h') ∧ h'.now.conn.pcapStream = some stream ∧
      s'.conn.pcapStream = some stream ∧
      h'.past = h.past ++
        [(.setPacketCaptureEnabled true, s), (.event (.packetCaptureStarted f), s')] := by
  have hquery : query (PcapStream.new d.fs f) h = (some (.ok stream),
      h.set { h.now with env := (PcapStream.new d.fs f h.now.env).2 }) := by
    unfold query
    rw [hs]
  unfold startPacketCapture
  rw [Prog.bind_of_some hquery]
  exact ⟨_, _, _, rfl, rfl, rfl, List.append_assoc _ _ _⟩

theorem startPacketCapture_error {f : PcapFileInfo} {err : IoError}
    (hs : (PcapStream.new d.fs f h.now.env).1 = .error err) :
    startPacketCapture d f h =
      (some (), h.set { h.now with env := (PcapStream.new d.fs f h.now.env).2 }) := by
  have hquery : query (PcapStream.new d.fs f) h = (some (.error err),
      h.set { h.now with env := (PcapStream.new d.fs f h.now.env).2 }) := by
    unfold query
    rw [hs]
  unfold startPacketCapture
  rw [Prog.bind_of_some hquery]
  rfl

/-- What `stop_packet_capture` says. -/
def stopReason (reason : PcapFileInfo → CaptureStopReason) (c : PvpnConnection S F) :
    CaptureStopReason :=
  (c.pcapStream.map fun stream => reason stream.fileInfo).getD .alreadyStopped

theorem stopPacketCapture_spec (reason : PcapFileInfo → CaptureStopReason)
    (h : Hist (Sys E S F) Obs) :
    ∃ h' s s', stopPacketCapture d reason h = (some (), h') ∧ h'.now.conn.pcapStream = none ∧
      s'.conn.pcapStream = none ∧
      h'.past = h.past ++ [(.setPacketCaptureEnabled false, s),
        (.event (.packetCaptureStopped (stopReason reason h.now.conn)), s')] := by
  unfold stopPacketCapture stopReason
  rw [Prog.bind_of_some (show inform _ _ h = (some (), _) from rfl), conn_bind]
  dsimp only [Hist.set_now, Hist.emit_now]
  cases hp : h.now.conn.pcapStream with
  | none =>
    refine ⟨_, _, _, rfl, hp, ?_, List.append_assoc _ _ _⟩
    exact hp
  | some stream => exact ⟨_, _, _, rfl, rfl, rfl, List.append_assoc _ _ _⟩

theorem triple_startPacketCapture (f : PcapFileInfo) :
    Prog.Triple (Starting d f) (startPacketCapture d f) (fun _ => CaptureInv d) (CaptureInv d) := by
  intro h hI
  cases hnew : (PcapStream.new d.fs f h.now.env).1 with
  | error err =>
    rw [startPacketCapture_error d hnew]
    have hfresh : StartsFresh d f h.now := fun stream hs => by rw [hnew] at hs; cases hs
    refine ⟨⟨hI.current, hI.faithful, hI.already⟩, ?_⟩
    rw [Hist.set_past, ← hI.clean]
    exact (and_iff_left hfresh).symm
  | ok stream =>
    obtain ⟨h', s, s', heq, hnow, -, hpast⟩ := startPacketCapture_ok d hnew
    rw [heq]
    have hnow' : h'.now.conn.pcapStream.map PcapStream.fileInfo = some f := by
      rw [hnow]
      exact congrArg some (PcapStream.new_fileInfo d.fs hnew)
    obtain ⟨hann, hmarks⟩ := hI.toAnnounced.announce (m := .start f) hpast rfl nofun hnow' nofun
    refine ⟨hann, ?_⟩
    -- the `Started` is clean iff nothing is open
    have hfresh : openAfter none (marks h.past) = none ↔ StartsFresh d f h.now := by
      rw [← hI.current, Option.map_eq_none_iff]
      exact ⟨fun hnone _ _ => hnone, fun hs => hs stream hnew⟩
    have hno : NoRestart d h'.past ↔ NoRestart d h.past := by
      rw [hpast, noRestart_append]
      refine and_iff_left fun x hx f hf => ?_
      simp only [List.mem_cons, List.not_mem_nil, or_false] at hx
      rcases hx with rfl | rfl <;> cases hf
    rw [hno, ← hI.clean, ← hfresh, hmarks]
    exact throughout_snoc.trans (and_congr_right' ⟨fun hs => hs f rfl, fun hnone _ _ => hnone⟩)

theorem inv_stopPacketCapture {reason : PcapFileInfo → CaptureStopReason}
    (hreason : ∀ file, (reason file).file = some file) :
    Prog.Inv (CaptureInv d) (stopPacketCapture d reason) := by
  intro h hI
  obtain ⟨h', s, s', heq, hnow, hs', hpast⟩ := stopPacketCapture_spec d reason h
  rw [heq]
  have hfile : (stopReason reason h.now.conn).file = openAfter none (marks h.past) := by
    rw [← hI.current]
    unfold stopReason
    cases h.now.conn.pcapStream with
    | none => rfl
    | some stream => exact hreason _
  obtain ⟨hann, hmarks⟩ := hI.toAnnounced.announce (m := .stop (stopReason reason h.now.conn).file)
    hpast rfl (fun x hx => by cases hx; exact hfile) (by rw [hnow]; rfl) (fun _ => hs')
  refine ⟨hann, ?_⟩
  have hclean : Clean none (marks h'.past) ↔ Clean none (marks h.past) := by
    rw [hmarks]
    exact throughout_snoc.trans (and_iff_left nofun)
  rw [hclean, hI.clean, hpast, noRestart_append]
  refine (and_iff_left fun x hx f hf => ?_).symm
  simp only [List.mem_cons, List.not_mem_nil, or_false] at hx
  rcases hx with rfl | rfl <;> cases hf

theorem inv_writePcap (data : Bytes) : Prog.Inv (CaptureInv d) (writePcap d data) := by
  intro h hI
  unfold writePcap
  rw [conn_bind]
  cases hp : h.now.conn.pcapStream with
  | none => exact hI
  | some stream =>
    have hwrite : CaptureInv d (h.emit (.pcapWrite stream.fileInfo data)) :=
      hI.untold (step_emit rfl h)
    have hfile : some (PcapStream.write d.fs data stream h.now.env).1.fileInfo =
        h.now.conn.pcapStream.map PcapStream.fileInfo := by
      rw [PcapStream.write_fileInfo, hp]
      rfl
    refine Prog.inv_when (fun _ => inv_stopPacketCapture d fun _ => rfl) _ ?_
    exact CaptureInv.of_eq (h := h.emit _) rfl hfile hwrite

/-! ## The loop -/

theorem triple_recv :
    Prog.Triple (CaptureInv d) (ask .recv d.tryRecv : Conn E S F _)
      (fun m h => (∀ f, m = some (.startPacketCapture f) → Starting d f h) ∧
        ((∀ f, m ≠ some (.startPacketCapture f)) → CaptureInv d h)) (CaptureInv d) := by
  intro h hI
  rw [ask_eq]
  generalize (d.tryRecv h.now.env).1 = m
  have hann : Announced ((h.set { h.now with env := (d.tryRecv h.now.env).2 }).emit (.recv m)) :=
    Announced.of_mark_none (h := h) rfl ⟨[(.recv m, _)], rfl, by simp [Obs.mark]⟩ hI.toAnnounced
  have hmarks : ∀ s : Sys E S F, marks (h.past ++ [(.recv m, s)]) = marks h.past :=
    fun s => marks_of_mark_none (by simp [Obs.mark]) _
  refine ⟨fun f hm => ⟨hann, ?_⟩, fun hm => ⟨hann, ?_⟩⟩
  · rw [Hist.emit_past, Hist.set_past, hmarks, noRestart_append, hI.clean]
    refine and_congr_right' ⟨fun hs x hx g hg => ?_, fun hs =>
      hs _ (List.mem_singleton_self _) f (congrArg Obs.recv hm)⟩
    rw [List.mem_singleton.mp hx, hm] at hg
    cases hg
    rw [List.mem_singleton.mp hx]
    exact hs
  · rw [Hist.emit_past, Hist.set_past, hmarks, noRestart_append, hI.clean]
    refine (and_iff_left fun x hx g hg => ?_).symm
    rw [List.mem_singleton.mp hx] at hg
    exact absurd (Obs.recv.inj hg) (hm g)

theorem inv_receiveMessage_capture : Prog.Inv (CaptureInv d) (receiveMessage d) := by
  refine Prog.Triple.inv (Prog.triple_bind (triple_recv d) fun m => ?_)
  cases m with
  | none => exact Prog.triple_pure fun h hI => hI.2 nofun
  | some m =>
    refine Prog.triple_bind (R := fun _ => CaptureInv d) ?_ fun _ => Prog.triple_pure fun _ hI => hI
    cases m with
    | startPacketCapture f => exact (triple_startPacketCapture d f).pre fun h hI => hI.1 f rfl
    | stopPacketCapture =>
      exact ((inv_stopPacketCapture d fun _ => rfl).triple fun _ hI => hI).pre
        fun h hI => hI.2 nofun
    | disconnect =>
      have hstep : Prog.Rel Untold (handleMessage d .disconnect) := step_update fun _ => rfl
      exact ((inv_of_untold hstep).triple fun _ hI => hI).pre fun h hI => hI.2 nofun
    | _ =>
      refine ((inv_of_untold ?_).triple fun _ hI => hI).pre fun h hI => hI.2 nofun
      refine ignoresControl_sameCapture.handleMessage d Obs.isUncaptured_of_isControl nofun rfl
        fun u _ => ?_
      refine ignoresControl_sameCapture.handleUpdate d Obs.isUncaptured_of_isControl
        (fun tun => ?_) u
      exact step_updateTun d (fun _ _ => rfl) (fun _ _ => rfl) (fun _ _ => rfl) tun

theorem inv_onConnectionLoopEnd_capture : Prog.Inv (CaptureInv d) (onConnectionLoopEnd d) := by
  refine Prog.inv_bind (inv_of_untold (step_emit rfl)) fun _ => Prog.inv_bind inv_conn fun c => ?_
  refine Prog.inv_bind (Prog.inv_when fun _ => inv_stopPacketCapture d fun _ => rfl) fun _ => ?_
  refine Prog.inv_bind inv_conn fun c => ?_
  split
  · exact Prog.inv_pure ()
  · exact inv_of_untold
      (ignoresControl_sameCapture.setState d Obs.isUncaptured_of_isControl _)

/-- No capture is open at the end of the loop. -/
theorem onConnectionLoopEnd_pcapStream (h : Hist (Sys E S F) Obs) :
    (onConnectionLoopEnd d h).2.now.conn.pcapStream = none := by
  unfold onConnectionLoopEnd
  rw [Prog.bind_of_some (Prog.emit_apply _ h), conn_bind, Hist.emit_now]
  refine Prog.leaves_bind (I := fun h : Hist (Sys E S F) Obs => h.now.conn.pcapStream = none) ?_
    fun _ => ?_
  · by_cases hp : h.now.conn.pcapStream.isSome = true
    · rw [Prog.when_pos hp]
      obtain ⟨h', s, s', heq, hnow, -⟩ := stopPacketCapture_spec d .disconnected (h.emit .loopEnd)
      rw [heq]
      exact hnow
    · rw [Prog.when_neg hp]
      simpa using hp
  · refine Prog.inv_bind inv_conn fun c => ?_
    have hset : Prog.Rel Untold (setState d (.disconnected none) : Conn E S F Unit) :=
      ignoresControl_sameCapture.setState d Obs.isUncaptured_of_isControl _
    split
    · exact Prog.inv_pure ()
    · exact hset.inv fun _ _ hs hnone => Eq.trans hs.core hnone

theorem keptByLoop_capture : KeptByLoop d (CaptureInv d) where
  toKeptByRounds := ignoresIo_sameCapture.keptByRounds (fun _ _ => rfl) (fun _ _ => rfl)
    (fun _ _ => CaptureInv.untold)
    (inv_of_untold (step_pullLocalAgent d (fun _ _ _ => rfl) (fun _ => rfl)
      fun e he => by cases e <;> first | rfl | cases he))
    Obs.isUncaptured_of_isStreamIo (inv_writePcap d)
  clock := inv_of_untold (step_query _)
  resumed := inv_of_untold (step_onResumed d (fun _ _ _ => rfl) rfl)
  wait := inv_of_untold
    (step_waitForStreams d (fun _ _ => rfl) (fun _ => rfl) fun _ => rfl)
  receive := inv_receiveMessage_capture d
  updateState := inv_of_untold (step_updateState d (fun _ _ _ => rfl) (fun _ _ => rfl)
    (fun _ _ _ => rfl) (fun _ => rfl) (fun _ => rfl) fun _ => rfl)
  loopEnd := inv_onConnectionLoopEnd_capture d

theorem captureInv_new (cfg : InitialConfig) (streams : S) (env : E) :
    CaptureInv d (new d cfg (Hist.init ⟨env, initial d cfg streams⟩)).2 := by
  have hinit : CaptureInv d (Hist.init ⟨env, initial d cfg streams⟩ : Hist (Sys E S F) Obs) :=
    ⟨⟨rfl, trivial, always_nil⟩, iff_of_true trivial fun _ hx => absurd hx List.not_mem_nil⟩
  -- up to its capture the constructor leaves `pcap_stream` at `None`
  have hfirst : ∀ {x : Conn E S F Unit}, Prog.Rel Untold x →
      Prog.Inv (fun h => CaptureInv d h ∧ h.now.conn.pcapStream = none) x :=
    fun hx h hI => ⟨hI.1.untold (hx h), Eq.trans (hx h).core hI.2⟩
  have hadd : Prog.Rel Untold (Prog.forEach (initial d cfg streams : PvpnConnection S F).peers.list
      (addPeer d) : Conn E S F Unit) := Prog.rel_forEach (fun _ => step_inform rfl _) _
  have hnet : Prog.Rel Untold (announceNetwork d : Conn E S F Unit) :=
    ignoresControl_sameCapture.announceNetwork d Obs.isUncaptured_of_isControl
  have hstart : Prog.Triple (fun h => CaptureInv d h ∧ h.now.conn.pcapStream = none)
      (ifSome cfg.pcapFile (startPacketCapture d)) (fun _ => CaptureInv d) (CaptureInv d) := by
    cases cfg.pcapFile with
    | none => exact Prog.triple_pure fun _ hI => hI.1
    | some f =>
      refine (triple_startPacketCapture d f).pre fun h hI => ⟨hI.1.toAnnounced, ?_⟩
      rw [← hI.1.clean]
      exact and_iff_left fun _ _ => hI.2
  have hagent : Prog.Rel Untold (ifSome cfg.localAgentSettings (watchLocalAgent d) :
      Conn E S F Unit) :=
    step_ifSome (IgnoresControl.watchLocalAgent d Obs.isUncaptured_of_isControl)
  have hnew := Prog.triple_bind ((hfirst hadd).triple fun _ hI => hI.1) fun _ =>
    Prog.triple_bind ((hfirst hnet).triple fun _ hI => hI.1) fun _ =>
      Prog.triple_bind hstart fun _ => (inv_of_untold hagent).triple fun _ hI => hI
  exact hnew.leaves (fun _ _ hI => hI) ⟨hinit, rfl⟩

/-- **When captures are announced in pairs.** In every run `AlreadyStopped` is said only with no
capture open. In a run that has ended, every `PacketCaptureStarted` is followed by exactly one
`PacketCaptureStopped` that names its file before the next `PacketCaptureStarted` iff no capture was
started over another. -/
theorem captures_paired_iff (cfg : InitialConfig) (streams : S) (env : E) (n : Nat)
    (hr : (exec d cfg streams env n).1 = some ()) :
    (Paired (marks (exec d cfg streams env n).2.past) ↔
        NoRestart d (exec d cfg streams env n).2.past) ∧
      Always (fun _ o s => o = .event (.packetCaptureStopped .alreadyStopped) →
        s.conn.pcapStream = none) (exec d cfg streams env n).2.past := by
  have hnew := captureInv_new d cfg streams env
  obtain ⟨h, hI, heq⟩ := (keptByLoop_capture d).keptByIterations.exec_returned hnew hr
  have hend := inv_onConnectionLoopEnd_capture d h hI
  have hclosed := hend.current
  rw [onConnectionLoopEnd_pcapStream] at hclosed
  rw [heq, paired_iff_clean hend.faithful hclosed.symm]
  exact ⟨hend.clean, hend.already⟩

end PvpnConnection

namespace Script

/-- A capture file. -/
def captureFile (path : String) : PcapFileInfo where
  file := .path path .overwrite
  maxBytes := none

/-- A capture is requested and stopped, and then another. -/
def captureTwice : Script where
  messages := [some (.startPacketCapture (captureFile "a")), some .stopPacketCapture,
    some (.startPacketCapture (captureFile "b")), some .disconnect]

/-- The theorem at a run with two captures: none is started over the other. -/
theorem captureTwice_paired : Paired (marks (log plainConfig captureTwice 5)) := by
  have hended : (PvpnConnection.exec scripted plainConfig () captureTwice 5).1 = some () := by
    decide +kernel
  refine (PvpnConnection.captures_paired_iff scripted plainConfig () captureTwice 5 hended).1.mpr ?_
  have hfresh : (log plainConfig captureTwice 5).all (fun x => x.1.isUncaptured ||
      x.1.mark.isSome || x.2.conn.pcapStream.isNone) = true := by decide +kernel
  intro x hx f hf stream _
  have hnone := List.all_eq_true.mp hfresh x hx
  rw [hf] at hnone
  exact Option.isNone_iff_eq_none.mp hnone

/-- A capture is requested and then another. -/
def twoCaptures : Script where
  messages := [some (.startPacketCapture (captureFile "a")),
    some (.startPacketCapture (captureFile "b")), some .disconnect]

/-- Nobody says that the first capture has stopped. -/
theorem restart_not_announced :
    (PvpnConnection.exec scripted plainConfig () twoCaptures 4).1 = some () ∧
      ¬ Paired (marks (log plainConfig twoCaptures 4)) := by
  refine ⟨by decide +kernel, fun hp => ?_⟩
  have hmarks : marks (log plainConfig twoCaptures 4) = [.start (captureFile "a"),
      .start (captureFile "b"), .stop (some (captureFile "b"))] := by decide +kernel
  have hclosings := hp [] _ _ hmarks
  rw [closings_start] at hclosings
  cases hclosings

end Script

end Protun
