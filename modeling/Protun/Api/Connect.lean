import Protun.Client

/-!
# Connecting (`connection.rs`, `connection_unix.rs`, `connection_windows.rs`, `type_conversions.rs`)

The calls of the public `Connection` with the message each of them sends, and
`create_pvpn_dependencies`, which the connection thread runs first: it opens the set of streams,
reads the secrets out of the app's cache and builds the client. On Unix a failure to open the
streams is met by `expect`, on Windows it is returned.

The parsers of the secrets and the client's builder belong to `pvpnclient` (`ClientLibrary`), and
opening the streams is an answer of the operating system. The clocks and the seed handed to the
builder are left out.
-/

namespace Protun

/-! ## Calls -/

/-- A call of a method of `Connection`. -/
inductive ApiCall where
  | updatePeers (peers : List PeerInfo)
  | update (update : ConfigUpdate)
  | onConnectivityChange (event : ConnectivityEvent)
  | disconnect
  | disconnectAndWait
  | startPacketCapture (file : PcapFileInfo)
  | stopPacketCapture
  | requestStats
  | updateLocalAgentSettings (settings : LocalAgentSettings)
  | requestLocalAgentStats
  | provideApiForkSelector (info : ForkSelectorInfo)
  | updateUnixTun (tunFd : TunStreamInfo)
  deriving DecidableEq

namespace ApiCall

/-- The message the call sends. -/
def message : ApiCall → PvpnMessage
  | .updatePeers peers => .update { peers := some peers, settings := none, tun := none }
  | .update u => .update u
  | .onConnectivityChange event => .connectivityChange event
  | .disconnect | .disconnectAndWait => .disconnect
  | .startPacketCapture file => .startPacketCapture file
  | .stopPacketCapture => .stopPacketCapture
  | .requestStats => .requestStats
  | .updateLocalAgentSettings settings =>
    .update { peers := none, settings := some settings, tun := none }
  | .requestLocalAgentStats => .requestLocalAgentStats
  | .provideApiForkSelector info => .provideApiForkSelector info
  | .updateUnixTun tunFd => .update { peers := none, settings := none, tun := some tunFd }

/-- `disconnect` and `disconnect_and_wait`. -/
def isDisconnect (call : ApiCall) : Bool := call.message = .disconnect

end ApiCall

/-! ## Dependencies -/

/-- `WgClientPrivateKey`. -/
abbrev WgClientPrivateKey := Vector UInt8 32

/-- `ConnectionMode`. -/
inductive ConnectionMode where
  | noLocalAgent (wgPrivateKey : WgClientPrivateKey)
  | localAgent (userAgent appVersion : String) (settings : LocalAgentSettings)

/-- `PvpnClientMode`, for private keys `K`, certificates `C` and API sessions `A`. -/
inductive PvpnClientMode (K C A : Type) where
  | localAgent (appVersion userAgent : String) (privateKey : Option K) (certificate : Option C)
      (muonAuth : Option A)
  | noLocalAgent (wgPrivateKey : WgClientPrivateKey)

/-- What `create_pvpn_dependencies` uses of `pvpnclient`. An error is given by its debug text. -/
structure ClientLibrary (K C A P L : Type) where
  /-- `Ed25519PrivateKey::from_pem`. -/
  privateKeyFromPem : Bytes → Except String K
  /-- `LocalAgentCertificate::from_pem`. -/
  certificateFromPem : Bytes → Except String C
  /-- `MuonAuth::try_from`. -/
  muonAuthTryFrom : Bytes → Except String A
  /-- `muon::App::new`. -/
  newApp : String → Except String P
  /-- `app.with_user_agent`. -/
  withUserAgent : P → String → P
  /-- `builder.with_local_agent(..).build()`. -/
  withLocalAgent : Option K → Option C → P → Option A → L
  /-- `builder.no_local_agent().with_wg_private_key(..).build()`. -/
  withWgPrivateKey : WgClientPrivateKey → L

variable {K C A P L D : Type} (lib : ClientLibrary K C A P L)

/-- A parser of cached data whose failure is reported as `InvalidData`. -/
def parseCached {α : Type} (what : String) (parse : Bytes → Except String α) (data : Bytes) :
    Except IoError α :=
  match parse data with
  | .ok a => .ok a
  | .error e => .error { kind := .invalidData, message := s!"Failed to parse {what}: {e}" }

/-- `to_certificate`. -/
def toCertificate : Bytes → Except IoError C := parseCached "certificate" lib.certificateFromPem

/-- `to_private_key`. -/
def toPrivateKey : Bytes → Except IoError K := parseCached "private key" lib.privateKeyFromPem

/-- `to_muon_auth`. -/
def toMuonAuth : Bytes → Except IoError A := parseCached "muon auth" lib.muonAuthTryFrom

/-- `x.map(f).transpose()`. -/
def mapTranspose {α β ε : Type} (f : α → Except ε β) : Option α → Except ε (Option β)
  | none => .ok none
  | some a => (f a).map some

/-- `ConnectionMode::to_pvpn_client_mode`. -/
def ConnectionMode.toPvpnClientMode (cache : CacheKey → Option Bytes) :
    ConnectionMode → Except IoError (PvpnClientMode K C A)
  | .noLocalAgent wgPrivateKey => .ok (.noLocalAgent wgPrivateKey)
  | .localAgent userAgent appVersion _ => do
    let privateKey ← mapTranspose (toPrivateKey lib) (cache .privateKey)
    let certificate ← mapTranspose (toCertificate lib) (cache .certificate)
    let muonAuth ← mapTranspose (toMuonAuth lib) (cache .apiSession)
    return .localAgent appVersion userAgent privateKey certificate muonAuth

/-- `PvpnClientImpl::new`. -/
def newClient : PvpnClientMode K C A → Except IoError L
  | .localAgent appVersion userAgent privateKey certificate muonAuth =>
    match lib.newApp appVersion with
    | .error e => .error { kind := .other, message := e }
    | .ok app =>
      .ok (lib.withLocalAgent privateKey certificate (lib.withUserAgent app userAgent) muonAuth)
  | .noLocalAgent wgPrivateKey => .ok (lib.withWgPrivateKey wgPrivateKey)

/-- How `create_pvpn_dependencies` ends. -/
inductive Creation (D L : Type) where
  | ok (streams : D) (client : L)
  | err (e : IoError)
  /-- `expect` on the streams: the process aborts. -/
  | panic (e : IoError)

/-- What opening the streams answers. -/
inductive Opening (D : Type) where
  /-- `MioStreams::new`. -/
  | mio (streams : Except IoError D)
  /-- `WindowsStreams::new`, which does not fail, on what `TunStreamWindows::new` answers. The error
  is given by its text. -/
  | windows (streams : Except String D)

/-- Both functions `create_pvpn_dependencies`, once the streams are open. -/
def createWithStreams (mode : ConnectionMode) (cache : CacheKey → Option Bytes) (streams : D) :
    Creation D L :=
  match mode.toPvpnClientMode lib cache >>= newClient lib with
  | .ok client => .ok streams client
  | .error e => .err e

/-- `create_pvpn_dependencies`, of `connection_unix.rs` and of `connection_windows.rs`. -/
def createPvpnDependencies (mode : ConnectionMode) (cache : CacheKey → Option Bytes) :
    Opening D → Creation D L
  | .mio (.error e) => .panic e
  | .mio (.ok streams) => createWithStreams lib mode cache streams
  | .windows (.error e) => .err { kind := .other, message := s!"Failed to create streams: {e}" }
  | .windows (.ok streams) => createWithStreams lib mode cache streams

/-! ## When the dependencies are there -/

/-- What is cached under `key`, if anything, can be parsed. -/
def Readable {α : Type} (parse : Bytes → Except String α) (cached : Option Bytes) : Prop :=
  ∀ data ∈ cached, ∃ a, parse data = .ok a

/-- Everything the mode needs can be parsed: in local-agent mode the cached secrets and the version
of the app. -/
def Acceptable (cache : CacheKey → Option Bytes) : ConnectionMode → Prop
  | .noLocalAgent _ => True
  | .localAgent _ appVersion _ =>
    Readable lib.privateKeyFromPem (cache .privateKey) ∧
      Readable lib.certificateFromPem (cache .certificate) ∧
      Readable lib.muonAuthTryFrom (cache .apiSession) ∧ ∃ app, lib.newApp appVersion = .ok app

theorem mapTranspose_parseCached {α : Type} (what : String) (parse : Bytes → Except String α)
    (cached : Option Bytes) :
    (∃ a, mapTranspose (parseCached what parse) cached = .ok a) ↔ Readable parse cached := by
  unfold Readable parseCached
  cases cached with
  | none => simp [mapTranspose]
  | some data =>
    cases hp : parse data <;> simp [mapTranspose, hp, Except.map]

theorem client_iff (mode : ConnectionMode) (cache : CacheKey → Option Bytes) :
    (∃ client, mode.toPvpnClientMode lib cache >>= newClient lib = .ok client) ↔
      Acceptable lib cache mode := by
  cases mode with
  | noLocalAgent wgPrivateKey =>
    simp [ConnectionMode.toPvpnClientMode, newClient, Acceptable, bind, Except.bind]
  | localAgent userAgent appVersion settings =>
    unfold Acceptable
    rw [← mapTranspose_parseCached "private key", ← mapTranspose_parseCached "certificate",
      ← mapTranspose_parseCached "muon auth"]
    unfold ConnectionMode.toPvpnClientMode toPrivateKey toCertificate toMuonAuth
    -- one after the other, as the `?`s are met
    cases mapTranspose (parseCached "private key" lib.privateKeyFromPem) (cache .privateKey) with
    | error e => simp [bind, Except.bind]
    | ok privateKey =>
      cases mapTranspose (parseCached "certificate" lib.certificateFromPem)
          (cache .certificate) with
      | error e => simp [bind, Except.bind]
      | ok certificate =>
        cases mapTranspose (parseCached "muon auth" lib.muonAuthTryFrom) (cache .apiSession) with
        | error e => simp [bind, Except.bind]
        | ok muonAuth =>
          cases happ : lib.newApp appVersion <;>
            simp [bind, Except.bind, pure, Except.pure, newClient, happ]

theorem createWithStreams_err (mode : ConnectionMode) (cache : CacheKey → Option Bytes)
    (streams : D) :
    (∃ e, createWithStreams lib mode cache streams = .err e) ↔ ¬ Acceptable lib cache mode := by
  rw [← client_iff]
  unfold createWithStreams
  cases mode.toPvpnClientMode lib cache >>= newClient lib <;> simp

/-- The `expect` of `connection_unix.rs` ends the process. -/
def Opening.Aborts (opening : Opening D) : Prop := ∃ e, opening = .mio (.error e)

/-- The streams are open. -/
def Opening.Succeeds (opening : Opening D) : Prop :=
  ∃ s, opening = .mio (.ok s) ∨ opening = .windows (.ok s)

/-- The thread ends without a connection, and the process goes on, exactly if nothing aborts it and
the streams could not be opened or something could not be parsed. -/
theorem createPvpnDependencies_err (mode : ConnectionMode) (cache : CacheKey → Option Bytes)
    (opening : Opening D) :
    (∃ e, createPvpnDependencies lib mode cache opening = .err e) ↔
      ¬ opening.Aborts ∧ ¬ (opening.Succeeds ∧ Acceptable lib cache mode) := by
  unfold Opening.Aborts Opening.Succeeds
  cases opening with
  | mio streams =>
    cases streams with
    | error e => simp [createPvpnDependencies]
    | ok s => simpa [createPvpnDependencies] using createWithStreams_err lib mode cache s
  | windows streams =>
    cases streams with
    | error e => simp [createPvpnDependencies]
    | ok s => simpa [createPvpnDependencies] using createWithStreams_err lib mode cache s

end Protun
