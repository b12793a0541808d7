import Protun.Connection.Capture

/-!
# What is recorded, and where to

Two components know of a packet capture. The client hands out the packets while its capture is
enabled, which `start_packet_capture` and `stop_packet_capture` tell it, and the connection writes
them to `pcap_stream` if there is one.

* `Guarded`: the client's capture is enabled iff `pcap_stream` is `Some`, and what is written goes
  to the file of the last `Started` that no `Stopped` has followed.
* **`capture_guarded`**: so it is at every observation of every run, the switch of the client's
  capture apart, and at its end, whatever file cannot be opened, is replaced or is full.
-/

namespace Protun

open Trace Sessions

/-- What the client is told. -/
def Obs.captureSwitch : Obs → Option Bool
  | .setPacketCaptureEnabled enabled => some enabled
  | _ => none

/-- The client's packet capture is enabled. It is not when the client is created. -/
def captureEnabled {σ : Type} (l : List (Obs × σ)) : Bool :=
  lastOf Obs.captureSwitch l = some true

/-- Nothing of a packet capture. -/
def Obs.isOffCapture (o : Obs) : Bool := !o.isCapture

theorem Obs.isOffCapture_of_isControl (o : Obs) (h : o.isControl = true) :
    o.isOffCapture = true := by
  cases o with
  | event e => cases e <;> first | rfl | cases h
  | _ => first | rfl | cases h

theorem Obs.isOffCapture_of_isStreamIo (o : Obs) (h : o.isStreamIo = true) :
    o.isOffCapture = true := by
  cases o <;> first | rfl | cases h

theorem Obs.captureSwitch_of_isOffCapture {o : Obs} (h : o.isOffCapture = true) :
    o.captureSwitch = none := by
  cases o <;> first | rfl | cases h

theorem Obs.mark_of_isOffCapture {o : Obs} (h : o.isOffCapture = true) : o.mark = none := by
  cases o with
  | event e => cases e <;> first | rfl | cases h
  | _ => rfl

namespace PvpnConnection

open Conn

variable {E S X F α : Type} {d : PvpnDependencies E S X F}

/-! ## The invariant -/

/-- The client and the connection agree on whether there is a capture, unless the client is being
told, and a packet is written to the file of the capture that is open by the events. -/
structure Guarded (pre : List (Obs × Sys E S F)) (o : Obs) (s : Sys E S F) : Prop where
  agree : o.captureSwitch = none → captureEnabled pre = s.conn.pcapStream.isSome
  toOpen : ∀ file data, o = .pcapWrite file data → openAfter none (marks pre) = some file

/-- Every observation was guarded, and the next will be. -/
structure Recording (h : Hist (Sys E S F) Obs) : Prop where
  agree : captureEnabled h.past = h.now.conn.pcapStream.isSome
  current : h.now.conn.pcapStream.map PcapStream.fileInfo = openAfter none (marks h.past)
  guarded : Always Guarded h.past

variable {h h' : Hist (Sys E S F) Obs}

/-- Work that has nothing to do with the capture. -/
abbrev OffCapture (h h' : Hist (Sys E S F) Obs) : Prop := Step SameCapture Obs.isOffCapture h h'

theorem captureEnabled_append {l seg : List (Obs × Sys E S F)}
    (hseg : ∀ x ∈ seg, x.1.isOffCapture = true) : captureEnabled (l ++ seg) = captureEnabled l := by
  unfold captureEnabled
  rw [lastOf_append_of_none fun x hx => Obs.captureSwitch_of_isOffCapture (hseg x hx)]

theorem Recording.offCapture (hs : OffCapture h h') (hI : Recording h) : Recording h' := by
  have hguarded : Always Guarded h'.past := by
    refine hs.trace.always (fun seg o s hseg ho => ?_) hI.guarded
    have hoff : ∀ x ∈ seg, x.1.isOffCapture = true := fun x hx => (hseg x hx).1
    refine ⟨fun _ => ?_, ?_⟩
    · rw [captureEnabled_append hoff, hI.agree]
      exact congrArg Option.isSome ho.2.symm
    · rintro file data rfl
      cases ho.1
  obtain ⟨seg, hpast, hseg⟩ := hs.observed
  refine ⟨?_, ?_, hguarded⟩
  · rw [hpast, captureEnabled_append hseg, hI.agree]
    exact congrArg Option.isSome hs.core.symm
  · rw [hpast, marks_of_mark_none fun x hx => Obs.mark_of_isOffCapture (hseg x hx), ← hI.current]
    exact congrArg _ hs.core

theorem inv_of_offCapture {x : Conn E S F α} (hx : Prog.Rel OffCapture x) :
    Prog.Inv Recording x :=
  hx.inv fun _ _ => Recording.offCapture

/-- The client is told, and then the user. -/
theorem Recording.switch {o : Obs} {s s' : Sys E S F} {enabled : Bool} {m : Mark PcapFileInfo}
    (hI : Recording h)
    (hpast : h'.past = h.past ++ [(.setPacketCaptureEnabled enabled, s), (o, s')])
    (hm : o.mark = some m) (hs' : s'.conn.pcapStream.isSome = enabled)
    (hnow : h'.now.conn.pcapStream.isSome = enabled)
    (hcurrent : h'.now.conn.pcapStream.map PcapStream.fileInfo =
      m.next (openAfter none (marks h.past))) : Recording h' := by
  have hpast' : h'.past = (h.past ++ [(.setPacketCaptureEnabled enabled, s)]) ++ [(o, s')] := by
    rw [hpast]
    simp
  have hswitch : o.captureSwitch = none := by
    cases o <;> first | rfl | cases hm
  have henabled : captureEnabled (h.past ++ [(Obs.setPacketCaptureEnabled enabled, s)]) =
      enabled := by
    have htold : (Obs.setPacketCaptureEnabled enabled).captureSwitch = some enabled := rfl
    unfold captureEnabled
    rw [lastOf_snoc_some htold]
    cases enabled <;> rfl
  refine ⟨?_, ?_, ?_⟩
  · rw [hpast', hnow]
    unfold captureEnabled at henabled ⊢
    rw [lastOf_snoc_none hswitch]
    exact henabled
  · have hmarks : marks h'.past = marks h.past ++ [m] := by
      rw [hpast, marks_append]
      refine congrArg (marks h.past ++ ·) ?_
      exact List.filterMap_cons_some (a := (o, s')) (f := fun x => x.1.mark) hm
    rw [hmarks, openAfter_snoc, hcurrent]
  · rw [hpast']
    refine always_snoc.mpr ⟨always_snoc.mpr ⟨hI.guarded, nofun, nofun⟩, ?_, ?_⟩
    · intro _
      rw [henabled, hs']
    · rintro file data rfl
      cases hm

/-! ## Starting, stopping and writing -/

variable (d)

theorem recording_startPacketCapture (f : PcapFileInfo) :
    Prog.Inv Recording (startPacketCapture d f) := by
  intro h hI
  cases hnew : (PcapStream.new d.fs f h.now.env).1 with
  | error err =>
    rw [startPacketCapture_error d hnew]
    exact ⟨hI.agree, hI.current, hI.guarded⟩
  | ok stream =>
    obtain ⟨h', s, s', heq, hnow, hs', hpast⟩ := startPacketCapture_ok d hnew
    rw [heq]
    refine hI.switch (m := .start f) hpast rfl (by rw [hs']; rfl) (by rw [hnow]; rfl) ?_
    rw [hnow]
    exact congrArg some (PcapStream.new_fileInfo d.fs hnew)

theorem recording_stopPacketCapture (reason : PcapFileInfo → CaptureStopReason) :
    Prog.Inv Recording (stopPacketCapture d reason) := by
  intro h hI
  obtain ⟨h', s, s', heq, hnow, hs', hpast⟩ := stopPacketCapture_spec d reason h
  rw [heq]
  refine hI.switch (m := .stop (stopReason reason h.now.conn).file) hpast rfl (by rw [hs']; rfl)
    (by rw [hnow]; rfl) ?_
  rw [hnow]
  rfl

theorem recording_writePcap (data : Bytes) : Prog.Inv Recording (writePcap d data) := by
  intro h hI
  unfold writePcap
  rw [conn_bind]
  cases hp : h.now.conn.pcapStream with
  | none => exact hI
  | some stream =>
    have hopen : openAfter none (marks h.past) = some stream.fileInfo := by
      rw [← hI.current, hp]
      rfl
    have hguarded : Guarded h.past (.pcapWrite stream.fileInfo data) h.now := by
      refine ⟨fun _ => hI.agree, ?_⟩
      rintro file data' ⟨⟩
      exact hopen
    have hmarks : marks (h.past ++ [(.pcapWrite stream.fileInfo data, h.now)]) = marks h.past :=
      marks_of_mark_none (by simp [Obs.mark]) _
    have henabled : captureEnabled (h.past ++ [(.pcapWrite stream.fileInfo data, h.now)]) =
        captureEnabled h.past := by
      unfold captureEnabled
      rw [lastOf_snoc_none rfl]
    refine Prog.inv_when (fun _ => recording_stopPacketCapture d _) _ ⟨?_, ?_, ?_⟩
    · exact (henabled.trans hI.agree).trans (by rw [hp]; rfl)
    · refine Eq.trans ?_ (congrArg (openAfter none) hmarks.symm)
      rw [hopen]
      exact congrArg some (PcapStream.write_fileInfo d.fs data stream h.now.env)
    · exact always_snoc.mpr ⟨hI.guarded, hguarded⟩

/-! ## Whole runs -/

theorem recording_receiveMessage : Prog.Inv Recording (receiveMessage d) := by
  refine Prog.inv_bind (inv_of_offCapture (step_ask (fun _ => rfl) _)) fun m => ?_
  cases m with
  | none => exact Prog.inv_pure _
  | some m =>
    refine Prog.inv_bind ?_ fun _ => Prog.inv_pure _
    cases m with
    | startPacketCapture f => exact recording_startPacketCapture d f
    | stopPacketCapture => exact recording_stopPacketCapture d _
    | disconnect => exact inv_of_offCapture (step_update fun _ => rfl)
    | _ =>
      refine inv_of_offCapture (ignoresControl_sameCapture.handleMessage d
        Obs.isOffCapture_of_isControl nofun rfl fun u _ => ?_)
      refine ignoresControl_sameCapture.handleUpdate d Obs.isOffCapture_of_isControl
        (fun tun => ?_) u
      exact step_updateTun d (fun _ _ => rfl) (fun _ _ => rfl) (fun _ _ => rfl) tun

theorem recording_onConnectionLoopEnd : Prog.Inv Recording (onConnectionLoopEnd d) := by
  refine Prog.inv_bind (inv_of_offCapture (step_emit rfl)) fun _ => ?_
  refine Prog.inv_bind inv_conn fun c => ?_
  refine Prog.inv_bind (Prog.inv_when fun _ => recording_stopPacketCapture d _) fun _ => ?_
  refine Prog.inv_bind inv_conn fun c => ?_
  split
  · exact Prog.inv_pure ()
  · exact inv_of_offCapture (ignoresControl_sameCapture.setState d Obs.isOffCapture_of_isControl _)

theorem keptByLoop_recording : KeptByLoop d Recording where
  toKeptByRounds := ignoresIo_sameCapture.keptByRounds (fun _ _ => rfl) (fun _ _ => rfl)
    (fun _ _ => Recording.offCapture)
    (inv_of_offCapture (step_pullLocalAgent d (fun _ _ _ => rfl) (fun _ => rfl)
      fun e he => by cases e <;> first | rfl | cases he))
    Obs.isOffCapture_of_isStreamIo (recording_writePcap d)
  clock := inv_of_offCapture (step_query _)
  resumed := inv_of_offCapture (step_onResumed d (fun _ _ _ => rfl) rfl)
  wait := inv_of_offCapture
    (step_waitForStreams d (fun _ _ => rfl) (fun _ => rfl) fun _ => rfl)
  receive := recording_receiveMessage d
  updateState := inv_of_offCapture (step_updateState d (fun _ _ _ => rfl) (fun _ _ => rfl)
    (fun _ _ _ => rfl) (fun _ => rfl) (fun _ => rfl) fun _ => rfl)
  loopEnd := recording_onConnectionLoopEnd d

theorem recording_new (cfg : InitialConfig) : Prog.Inv Recording (new d cfg) := by
  refine Prog.inv_bind inv_conn fun c => ?_
  refine Prog.inv_bind (inv_of_offCapture (Prog.rel_forEach (fun _ => step_inform rfl _) _))
    fun _ => ?_
  refine Prog.inv_bind (inv_of_offCapture
    (ignoresControl_sameCapture.announceNetwork d Obs.isOffCapture_of_isControl)) fun _ => ?_
  refine Prog.inv_bind ?_ fun _ => inv_of_offCapture
    (step_ifSome (IgnoresControl.watchLocalAgent d Obs.isOffCapture_of_isControl))
  cases cfg.pcapFile with
  | none => exact Prog.inv_pure ()
  | some f => exact recording_startPacketCapture d f

/-- **The client's capture and `pcap_stream`.** In every run the client's capture is enabled iff
`pcap_stream` is `Some`, at everything observed but the switch of the client's capture itself and at
the end; and a packet is written only to the file of the capture that was started last and has not
been stopped since. -/
theorem capture_guarded (cfg : InitialConfig) (streams : S) (env : E) (n : Nat) :
    Always (fun pre o s =>
        ((∀ enabled, o ≠ .setPacketCaptureEnabled enabled) →
          (captureEnabled pre = true ↔ s.conn.pcapStream.isSome = true)) ∧
        ∀ file data, o = .pcapWrite file data → openAfter none (marks pre) = some file)
      (exec d cfg streams env n).2.past ∧
    (captureEnabled (exec d cfg streams env n).2.past = true ↔
      (exec d cfg streams env n).2.now.conn.pcapStream.isSome = true) := by
  have hinit : Recording (Hist.init ⟨env, initial d cfg streams⟩ : Hist (Sys E S F) Obs) :=
    ⟨rfl, rfl, always_nil⟩
  have hend : Recording (exec d cfg streams env n).2 :=
    Prog.inv_bind (recording_new d cfg)
      (fun _ => (keptByLoop_recording d).keptByIterations.run n) _ hinit
  refine ⟨hend.guarded.imp fun pre o s hg => ⟨fun ho => ?_, hg.toOpen⟩, ?_⟩
  · have hswitch : o.captureSwitch = none := by
      cases o with
      | setPacketCaptureEnabled enabled => exact absurd rfl (ho enabled)
      | _ => rfl
    rw [hg.agree hswitch]
  · rw [hend.agree]

end PvpnConnection

end Protun
