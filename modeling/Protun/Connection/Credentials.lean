import Protun.Connection.Traffic
import Protun.Connection.Zoom

/-!
# The secrets of the local agent

In local-agent mode the client obtains a private key, a certificate and an API session, and hands
each of them to the app by writing it to a reserved stream. `handle_write` puts what is written
there into the app's cache, and the next connection starts from what the cache holds.

* `Action.secret`: the secret that an action of the client carries.
* **`puts_eq_secrets`**: in every run, what is put into the cache is what the client wrote to these
  streams, in order.
* `Owns`: nothing but `put` touches the cache.
* **`cache_exec`**: so a run leaves the cache with the secrets of the client put into it, in order.
-/

namespace Protun

open Trace

/-! ## Secrets -/

/-- The key under which `handle_write` caches what is written to `streamId`. -/
def ReservedIds.cacheKey (ids : ReservedIds) (streamId : StreamId) : Option CacheKey :=
  if streamId = ids.pcap then none
  else if streamId = ids.privkey then some .privateKey
  else if streamId = ids.cert then some .certificate
  else if streamId = ids.muonAuth then some .apiSession
  else none

/-- The data an action writes. -/
def ActionKind.written : ActionKind → Option Bytes
  | .openStream _ firstWrite => firstWrite
  | .write data => some data
  | _ => none

/-- The secret an action carries. -/
def Action.secret (ids : ReservedIds) (a : Action) : Option (CacheKey × Bytes) :=
  (ids.cacheKey a.streamId).bind fun key => a.kind.written.map (key, ·)

/-- The secret the client hands out. -/
def Obs.secret (ids : ReservedIds) : Obs → Option (CacheKey × Bytes)
  | .pulled (some action) => action.secret ids
  | _ => none

/-- What is put into the cache. -/
def Obs.cached : Obs → Option (CacheKey × Bytes)
  | .cachePut key data => some (key, data)
  | _ => none

/-- Neither of the two. -/
def Obs.isNeutral : Obs → Bool
  | .pulled _ | .cachePut .. => false
  | _ => true

theorem Obs.isNeutral_of_isOffStream (o : Obs) (h : o.isOffStream = true) : o.isNeutral = true := by
  cases o <;> first | rfl | cases h

section Ledgers

variable {E S F : Type}

/-- The secrets the client handed out, in order. -/
def secrets (ids : ReservedIds) (l : List (Obs × Sys E S F)) : List (CacheKey × Bytes) :=
  l.filterMap fun x => x.1.secret ids

/-- What was put into the cache, in order. -/
def puts (l : List (Obs × Sys E S F)) : List (CacheKey × Bytes) := l.filterMap fun x => x.1.cached

theorem secrets_snoc (ids : ReservedIds) (l : List (Obs × Sys E S F)) (o : Obs) (s : Sys E S F) :
    secrets ids (l ++ [(o, s)]) = secrets ids l ++ (o.secret ids).toList := by
  unfold secrets
  rw [List.filterMap_append]
  cases h : o.secret ids <;> simp [h]

theorem puts_snoc (l : List (Obs × Sys E S F)) (o : Obs) (s : Sys E S F) :
    puts (l ++ [(o, s)]) = puts l ++ o.cached.toList := by
  unfold puts
  rw [List.filterMap_append]
  cases h : o.cached <;> simp [h]

theorem puts_snoc_of_none (l : List (Obs × Sys E S F)) {o : Obs} (h : o.cached = none)
    (s : Sys E S F) : puts (l ++ [(o, s)]) = puts l := by
  rw [puts_snoc, h, Option.toList_none, List.append_nil]

theorem secrets_append_of_isNeutral (ids : ReservedIds) {l seg : List (Obs × Sys E S F)}
    (h : ∀ x ∈ seg, x.1.isNeutral = true) : secrets ids (l ++ seg) = secrets ids l := by
  have hseg : seg.filterMap (fun x => x.1.secret ids) = [] := by
    refine List.filterMap_eq_nil_iff.mpr fun x hx => ?_
    have hneutral := h x hx
    cases hx1 : x.1 <;> first | rfl | (rw [hx1] at hneutral; cases hneutral)
  unfold secrets
  rw [List.filterMap_append, hseg, List.append_nil]

theorem puts_append_of_isNeutral {l seg : List (Obs × Sys E S F)}
    (h : ∀ x ∈ seg, x.1.isNeutral = true) : puts (l ++ seg) = puts l := by
  have hseg : seg.filterMap (fun x => x.1.cached) = [] := by
    refine List.filterMap_eq_nil_iff.mpr fun x hx => ?_
    have hneutral := h x hx
    cases hx1 : x.1 <;> first | rfl | (rw [hx1] at hneutral; cases hneutral)
  unfold puts
  rw [List.filterMap_append, hseg, List.append_nil]

end Ledgers

namespace PvpnConnection

open Conn

variable {E S X F α : Type} (d : PvpnDependencies E S X F)

/-! ## From the pull to the write -/

/-- An `open_stream` always comes back, so that its first write is handled. -/
theorem returns_handleOpen (streamId : StreamId) (target : OpenStream) :
    Prog.Returns (handleOpen d streamId target : Conn E S F Unit) := by
  refine Prog.returns_bind (fun h => ⟨_, _, rfl⟩) fun result => ?_
  refine Prog.returns_bind (fun h => ⟨_, _, rfl⟩) fun _ => ?_
  cases result with
  | error e => exact Prog.returns_when fun h => ⟨_, _, rfl⟩
  | ok =>
    exact Prog.returns_bind (fun h => ⟨_, _, rfl⟩) fun _ => Prog.returns_when fun h => ⟨_, _, rfl⟩

/-- What has to be checked if the data of an action on the stream `streamId` is outstanding until
`handle_write` is done with it: `P` holds as long as it is, and `I` afterwards. -/
structure SettledByActions (streamId : StreamId) (P : Option Bytes → Hist (Sys E S F) Obs → Prop)
    (I : Hist (Sys E S F) Obs → Prop) : Prop where
  nothing : ∀ h, P none h → I h
  openStream : ∀ data target, Prog.Inv (P data) (handleOpen d streamId target)
  write : ∀ data h, P (some data) h → I (handleWrite d streamId data h).2
  close : Prog.Inv I (closeStream d streamId)
  shutdown : Prog.Inv I (shutdownWrite d streamId)

section Settled

variable {d} {I : Hist (Sys E S F) Obs → Prop}

theorem SettledByActions.handleAction {action : Action}
    {P : Option Bytes → Hist (Sys E S F) Obs → Prop}
    (hk : SettledByActions d action.streamId P I) {h : Hist (Sys E S F) Obs}
    (hP : P action.kind.written h) : I (handleAction d action h).2 := by
  obtain ⟨streamId, kind⟩ := action
  cases kind with
  | openStream target firstWrite =>
    have hopen : Prog.Triple (P firstWrite) (handleOpen d streamId target)
        (fun _ => P firstWrite) I :=
      (hk.openStream firstWrite target).triple_of_returns (returns_handleOpen d streamId target)
    refine Prog.Triple.leaves (Q := fun _ => I) (Prog.triple_bind hopen fun _ => ?_)
      (fun _ _ => id) hP
    cases firstWrite with
    | none => exact Prog.triple_pure hk.nothing
    | some data => exact Prog.triple_of_leaves (hk.write data) fun _ => id
  | write data => exact hk.write data h hP
  | close => exact hk.close h (hk.nothing h hP)
  | shutdown => exact hk.shutdown h (hk.nothing h hP)
  | setOption | read _ | error _ | done => exact hk.nothing h hP

/-- The rule of a round of `pull_from_client` whose action is outstanding, by `P`, until it has been
handled. -/
theorem inv_pullAction_of_settled {P : Option Action → Hist (Sys E S F) Obs → Prop}
    (hneed : Prog.Inv I (query d.client.needPull))
    (hpulled : Prog.Triple I (ask .pulled d.client.pull) P I) (hnone : ∀ h, P none h → I h)
    (hsome : ∀ action h, P (some action) h → I (handleAction d action h).2) :
    Prog.Inv I (pullAction d) := by
  refine Prog.inv_bind hneed fun b => ?_
  cases b with
  | false => exact Prog.inv_pure false
  | true =>
    refine Prog.Triple.inv (Prog.triple_bind hpulled fun a => ?_)
    cases a with
    | none => exact Prog.triple_pure hnone
    | some action =>
      exact Prog.triple_bind (Prog.triple_of_leaves (hsome action) fun _ => id) fun _ =>
        Prog.triple_pure fun _ => id

end Settled

/-! ## What is handed out is cached -/

/-- Neither pulling nor caching. -/
abbrev Neutral (h h' : Hist (Sys E S F) Obs) : Prop := Step Anyhow Obs.isNeutral h h'

/-- Of what the client handed out, `owed` has not been cached yet. -/
def Owing (ids : ReservedIds) (owed : Option (CacheKey × Bytes)) (h : Hist (Sys E S F) Obs) :
    Prop :=
  puts h.past ++ owed.toList = secrets ids h.past

theorem Owing.neutral {ids : ReservedIds} {owed : Option (CacheKey × Bytes)}
    {h h' : Hist (Sys E S F) Obs} (hs : Neutral h h') (hh : Owing ids owed h) :
    Owing ids owed h' := by
  obtain ⟨seg, hpast, hseg⟩ := hs.observed
  unfold Owing at hh ⊢
  rw [hpast, puts_append_of_isNeutral hseg, secrets_append_of_isNeutral ids hseg, hh]

theorem neutral_handleStreamError (streamId : StreamId) (e : IoError) :
    Prog.Rel Neutral (handleStreamError d streamId e : Conn E S F Unit) :=
  step_handleStreamError d (fun _ _ _ => trivial) (fun _ => rfl) e

theorem neutral_setPoll (streamId : StreamId) (wait : Bool) :
    Prog.Rel Neutral (setPollEnableWaitForWrite d streamId wait) :=
  step_streamsDo (fun _ _ => trivial) _

theorem neutral_dispatchWriteResult (streamId : StreamId) (res : StreamResult) :
    Prog.Rel Neutral (dispatchWriteResult d streamId res) := by
  cases res with
  | ok bytesCount startOffset wouldBlock pendingWrite =>
    exact Prog.rel_bind (neutral_setPoll d _ _) fun _ => Prog.rel_when fun _ => step_inform rfl _
  | err e => exact neutral_handleStreamError d streamId e
  | streamClosed => exact step_inform rfl _

theorem neutral_streamDo (streamId : StreamId) (stream : X) (f : X → E → Option (α × X × E)) :
    Prog.Rel Neutral (streamDo d streamId stream f : Conn E S F α) := by
  intro h
  unfold streamDo
  split
  · exact step_set trivial
  · exact refl_of Neutral h

theorem neutral_writeStream (streamId : StreamId) (write : X → E → Option (StreamResult × X × E)) :
    Prog.Rel Neutral (writeStream d streamId write) := by
  refine Prog.rel_bind step_conn fun c => ?_
  cases d.streams.getStream c.streams streamId with
  | none => exact Prog.rel_pure ()
  | some stream =>
    refine Prog.rel_bind (neutral_streamDo d streamId stream write) fun res => ?_
    refine Prog.rel_bind (step_emit rfl) fun _ => ?_
    refine Prog.rel_bind (step_noteTunResult d (fun _ _ => trivial) streamId res) fun _ => ?_
    exact Prog.rel_bind (neutral_dispatchWriteResult d streamId res) fun _ => step_emit rfl

theorem neutral_handleOpen (streamId : StreamId) (target : OpenStream) :
    Prog.Rel Neutral (handleOpen d streamId target) := by
  refine Prog.rel_bind (step_streamsDo (fun _ _ => trivial) _) fun result => ?_
  refine Prog.rel_bind (step_emit rfl) fun _ => ?_
  cases result with
  | error e => exact neutral_handleStreamError d streamId e
  | ok =>
    exact Prog.rel_bind (step_update fun _ => trivial) fun _ => Prog.rel_when fun _ =>
      neutral_setPoll d _ _

theorem neutral_closeStream (streamId : StreamId) :
    Prog.Rel Neutral (closeStream d streamId) :=
  Prog.rel_bind (step_streamsDo (fun _ _ => trivial) _) fun _ => step_emit rfl

theorem neutral_shutdownWrite (streamId : StreamId) :
    Prog.Rel Neutral (shutdownWrite d streamId) := by
  refine Prog.rel_bind step_conn fun c => ?_
  cases d.streams.getStream c.streams streamId with
  | none => exact Prog.rel_pure ()
  | some stream =>
    exact Prog.rel_bind (neutral_streamDo d streamId stream _) fun _ => step_emit rfl

theorem owing_putCache (key : CacheKey) (data : Bytes) (h : Hist (Sys E S F) Obs)
    (hh : Owing d.ids (some (key, data)) h) : Owing d.ids none (putCache d key data h).2 := by
  unfold Owing at hh ⊢
  show puts (h.past ++ [(.cachePut key data, h.now)]) ++ [] =
    secrets d.ids (h.past ++ [(.cachePut key data, h.now)])
  rw [puts_snoc, secrets_snoc, List.append_nil]
  simpa [Obs.cached, Obs.secret] using hh

/-- `handle_write` caches what is written to the stream of a secret. -/
theorem handleWrite_eq (streamId : StreamId) (data : Bytes) :
    (handleWrite d streamId data : Conn E S F Unit) =
      match d.ids.cacheKey streamId with
      | some key => putCache d key data
      | none =>
        if streamId = d.ids.pcap then writePcap d data
        else writeStream d streamId fun stream => d.streams.write stream data := by
  unfold handleWrite ReservedIds.cacheKey
  split_ifs <;> rfl

theorem owing_handleWrite (streamId : StreamId) (data : Bytes) (h : Hist (Sys E S F) Obs)
    (hh : Owing d.ids ((d.ids.cacheKey streamId).map (·, data)) h) :
    Owing d.ids none (handleWrite d streamId data h).2 := by
  rw [handleWrite_eq]
  cases hkey : d.ids.cacheKey streamId with
  | some key =>
    rw [hkey] at hh
    exact owing_putCache d key data h hh
  | none =>
    rw [hkey] at hh
    dsimp only
    split
    · refine hh.neutral (step_writePcap d (fun _ _ => trivial) (fun o ho => ?_) data h)
      cases o <;> first | rfl | cases ho
    · exact hh.neutral (neutral_writeStream d streamId _ h)

/-- An action is handled by caching its secret, if it has one. -/
theorem owing_handleAction (action : Action) (h : Hist (Sys E S F) Obs)
    (hh : Owing d.ids (action.secret d.ids) h) :
    Owing d.ids none (handleAction d action h).2 := by
  have hsettled : SettledByActions d action.streamId
      (fun data => Owing d.ids ((d.ids.cacheKey action.streamId).bind fun key =>
        data.map (key, ·))) (Owing d.ids none) := {
    nothing := fun h hh => by simpa using hh
    openStream := fun data target h hh => hh.neutral (neutral_handleOpen d _ target h)
    write := fun data h hh => by
      refine owing_handleWrite d action.streamId data h ?_
      cases hkey : d.ids.cacheKey action.streamId <;> (rw [hkey] at hh; exact hh)
    close := fun h hh => hh.neutral (neutral_closeStream d _ h)
    shutdown := fun h hh => hh.neutral (neutral_shutdownWrite d _ h) }
  exact hsettled.handleAction hh

/-- What was pulled is owed until it is handled. -/
theorem owing_pulled : Prog.Triple (Owing d.ids none) (ask .pulled d.client.pull)
    (fun a (h : Hist (Sys E S F) Obs) => Owing d.ids ((Obs.pulled a).secret d.ids) h)
    (Owing d.ids none) := by
  intro h hh
  unfold Owing at hh
  simp only [ask_eq, Owing, Hist.emit_past, Hist.set_past, puts_snoc, secrets_snoc, ← hh]
  simp [Obs.cached]

theorem owing_pullAction : Prog.Inv (Owing d.ids none) (pullAction d : Conn E S F Bool) :=
  inv_pullAction_of_settled (fun _ hh => hh) (owing_pulled d) (fun _ hh => hh)
    (owing_handleAction d)

/-- **What is cached is what the client handed out**, in every run, in order. -/
theorem puts_eq_secrets (cfg : InitialConfig) (streams : S) (env : E) (n : Nat) :
    puts (exec d cfg streams env n).2.past = secrets d.ids (exec d cfg streams env n).2.past := by
  have hneutral (h h' : Hist (Sys E S F) Obs) (hs : Neutral h h') (hh : Owing d.ids none h) :
      Owing d.ids none h' := hh.neutral hs
  have hagent : Prog.Inv (Owing d.ids none) (pullLocalAgent d : Conn E S F Bool) :=
    (step_pullLocalAgent_anyhow Obs.isNeutral_of_isOffStream).inv hneutral
  have hrounds : KeptByRounds d (Owing d.ids none) := {
    pull := owing_pullAction d
    agent := hagent
    readStream := fun n streamId => ((ignoresIo_anyhow.calls d streamId).keptByReads
      (fun _ => rfl) (fun _ => rfl) rfl (fun _ => rfl) hneutral).readStream (owing_pullAction d)
      hagent n
    write := fun streamId => (neutral_writeStream d streamId _).inv hneutral }
  have hwait : Prog.Rel Neutral (waitForStreams d : Conn E S F _) := by
    refine Prog.rel_bind (step_pollDeadline d) fun deadline => ?_
    refine Prog.rel_bind (step_emit rfl) fun _ => ?_
    refine Prog.rel_bind (step_streamsDo (fun _ _ => trivial) _) fun results => ?_
    exact Prog.rel_bind (step_emit rfl) fun _ => Prog.rel_pure _
  have hexec : Owing d.ids none (exec d cfg streams env n).2 :=
    exec_of_offStream Obs.isNeutral_of_isOffStream hneutral hrounds (hwait.inv hneutral) n rfl
  simpa [Owing] using hexec

/-! ## The cache -/

section Cache

variable {C : Type}

/-- `cache` is the part of the environment that `put` is called on, and only that call changes
it. -/
structure Owns (cache : E → C) (put : CacheKey → Bytes → C → C) : Prop where
  put : ∀ key data e, cache (d.cachePut key data e) = put key data (cache e)
  queries : ∀ {f}, Queries d f → ∀ e, cache (f e) = cache e
  asks : ∀ {f}, Asks d f → ∀ e, cache (f e).2 = cache e
  informs : ∀ {o f}, Informs d o f → o.cached = none → ∀ e, cache (f e) = cache e
  streams : ∀ {f}, StreamsCalls d f → ∀ s e, cache (f s e).2 = cache e
  stream : ∀ {f}, StreamCalls d f → ∀ {x x' e e'}, f x e = some (x', e') → cache e' = cache e
  poll : ∀ deadline s e, cache (d.streams.poll deadline s e).2.2 = cache e

/-- Put secrets into the cache, in order. -/
def putAll (put : CacheKey → Bytes → C → C) (secrets : List (CacheKey × Bytes)) (c : C) : C :=
  secrets.foldl (fun c secret => put secret.1 secret.2 c) c

theorem putAll_append (put : CacheKey → Bytes → C → C) (l l' : List (CacheKey × Bytes)) (c : C) :
    putAll put (l ++ l') c = putAll put l' (putAll put l c) :=
  List.foldl_append

theorem cached_of_isMark {o : Obs} (h : o.isMark = true) : o.cached = none := by
  cases o <;> first | rfl | cases h

variable {d}

theorem Asks.cached {f : E → Obs × E} (hf : Asks d f) (e : E) : (f e).1.cached = none := by
  cases hf <;> rfl

theorem Informs.of_cached {o : Obs} {f : E → E} (hf : Informs d o f) {key : CacheKey} {data : Bytes}
    (h : o.cached = some (key, data)) : f = d.cachePut key data := by
  cases hf <;> cases h
  rfl

variable {cache : E → C} {put : CacheKey → Bytes → C → C} (hd : Owns d cache put)
include hd

/-- The cache holds what was put into it since it was `c`. -/
theorem Letter.cache_eq {c : C} {h h' : Hist (Sys E S F) Obs} (hl : Letter d h h')
    (hh : cache h.now.env = putAll put (puts h.past) c) :
    cache h'.now.env = putAll put (puts h'.past) c := by
  cases hl with
  | assign c => exact hh
  | mark ho =>
    rw [Hist.emit_past, puts_snoc_of_none _ (cached_of_isMark ho)]
    exact hh
  | query hf => exact (hd.queries hf _).trans hh
  | ask hf =>
    rw [Hist.emit_past, puts_snoc_of_none _ (hf.cached _)]
    exact (hd.asks hf _).trans hh
  | @inform o f hf =>
    rw [Hist.set_past, Hist.emit_past]
    cases hcached : o.cached with
    | none =>
      rw [puts_snoc_of_none _ hcached]
      exact (hd.informs hf hcached _).trans hh
    | some secret =>
      rw [puts_snoc, hcached, putAll_append, ← hh, hf.of_cached hcached]
      exact hd.put _ _ _
  | streams hf => exact (hd.streams hf _ _).trans hh
  | stream s hf hx => exact (hd.stream hf hx).trans hh

/-- **A run puts the secrets of the client into the cache**, in order, and does nothing else to
it. -/
theorem cache_exec (cfg : InitialConfig) (streams : S) (env : E) (n : Nat) :
    cache (exec d cfg streams env n).2.now.env =
      putAll put (secrets d.ids (exec d cfg streams env n).2.past) (cache env) := by
  rw [← puts_eq_secrets]
  refine exec_inv (I := fun h => cache h.now.env = putAll put (puts h.past) (cache env))
    (fun _ _ hl => hl.cache_eq hd) (fun h deadline hh => ?_) rfl n
  show cache (d.streams.poll deadline _ _).2.2 = putAll put (puts (h.past ++ [_])) (cache env)
  rw [puts_snoc_of_none _ rfl]
  exact (hd.poll deadline _ _).trans hh

end Cache

end PvpnConnection

/-! ## An environment with a cache -/

section WithCache

variable {E S X F C : Type}

/-- `d` with a cache beside its environment. -/
def PvpnDependencies.withCache (d : PvpnDependencies E S X F) (put : CacheKey → Bytes → C → C) :
    PvpnDependencies (E × C) S X F :=
  { d.zoom Lens.beside with cachePut := fun key data e => (e.1, put key data e.2) }

theorem owns_withCache (d : PvpnDependencies E S X F) (put : CacheKey → Bytes → C → C) :
    PvpnConnection.Owns (d.withCache put) Prod.snd put where
  put _ _ _ := rfl
  queries hf e := by
    cases hf with
    | pcapNew file => exact PcapStream.kept_new Lens.spares_beside d.fs file e
    | pcapWrite data stream => exact PcapStream.kept_write Lens.spares_beside d.fs data stream e
    | pcapDrop stream => exact PcapStream.kept_dropOld Lens.spares_beside d.fs stream e
    | _ => rfl
  asks hf e := by cases hf <;> rfl
  informs hf hcached e := by
    cases hf with
    | cachePut key data => cases hcached
    | _ => rfl
  streams hf := hf.kept Lens.spares_beside rfl
  stream hf _ _ _ _ := hf.kept Lens.spares_beside rfl
  poll _ _ _ := rfl

end WithCache

end Protun
