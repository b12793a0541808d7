import Protun.Api.Connect
import Protun.Connection.Credentials
import Protun.Connection.Script
import Protun.Data.Base64
import Protun.Data.Table

/-!
# The persistent cache (`internal/PersistentCache.kt`)

`PersistentCacheImpl` keeps the secrets of the local agent in the app's preferences, as Base64 of
what the app's cipher makes of them. `put` leaves the old entry if the encryption fails, `get`
answers nothing if the decryption fails, and throws if a text is not Base64.

The cipher is the app's: it may fail, and what it answers may depend on a keystore. A write to the
preferences is seen by every later read; that it reaches the disk is left to the system.

* `Represents`: the preferences hold a table of secrets.
* **`get_answers`**: after any sequence of calls `get` answers what was put last and could be
  encrypted, or nothing if that cannot be decrypted. It never throws.
* **`secrets_survive`**: with a cipher that works, the next connection is given the secrets that the
  clients of the connections before it wrote last.
-/

namespace Protun

/-- `key.name`. -/
def CacheKey.name : CacheKey → String
  | .certificate => "CERTIFICATE"
  | .privateKey => "PRIVATE_KEY"
  | .apiSession => "API_SESSION"

theorem CacheKey.name_inj {key key' : CacheKey} : key.name = key'.name ↔ key = key' := by
  constructor
  · cases key <;> cases key' <;> decide
  · rintro rfl
    rfl

namespace Android

variable {K : Type}

/-! ## The cipher -/

/-- `PersistentCacheCipher`, over the state `K` of a keystore. An error is given by its text. -/
structure PersistentCacheCipher (K : Type) where
  encrypt : Bytes → K → Except String Bytes × K
  decrypt : Bytes → K → Except String Bytes × K

namespace PersistentCacheCipher

variable (cipher : PersistentCacheCipher K)

/-- `stored` is what some encryption of `data` answered. -/
def Encrypts (data stored : Bytes) : Prop := ∃ k, (cipher.encrypt data k).1 = .ok stored

/-- What is decrypted is what was encrypted. -/
def Genuine : Prop :=
  ∀ {data stored plain : Bytes} {k : K}, cipher.Encrypts data stored →
    (cipher.decrypt stored k).1 = .ok plain → plain = data

/-- Nothing fails either. -/
structure Reliable : Prop where
  encrypts : ∀ data k, ∃ stored, (cipher.encrypt data k).1 = .ok stored
  decrypts : ∀ {data stored : Bytes}, cipher.Encrypts data stored →
    ∀ k, (cipher.decrypt stored k).1 = .ok data

theorem Reliable.genuine {cipher : PersistentCacheCipher K} (h : cipher.Reliable) :
    cipher.Genuine := by
  intro data stored plain k hstored hplain
  rw [h.decrypts hstored k] at hplain
  exact (Except.ok.inj hplain).symm

end PersistentCacheCipher

/-! ## The cache -/

/-- `PersistentCacheImpl`, with the state of its cipher's keystore. -/
structure PersistentCacheImpl (K : Type) where
  cipher : Option (PersistentCacheCipher K)
  prefs : Table String String
  keystore : K

namespace PersistentCacheImpl

/-- What `put` is going to store: nothing if the encryption fails. -/
def sealed (bytes : Bytes) (c : PersistentCacheImpl K) : Option Bytes × K :=
  match c.cipher with
  | some cipher =>
    ((cipher.encrypt bytes c.keystore).1.toOption, (cipher.encrypt bytes c.keystore).2)
  | none => (some bytes, c.keystore)

/-- `PersistentCacheImpl.put`. -/
def put (key : CacheKey) (bytes : Bytes) (c : PersistentCacheImpl K) : PersistentCacheImpl K :=
  match c.sealed bytes with
  | (some data, keystore) => { c with
      prefs := c.prefs.put key.name (String.ofList (Base64.encode data)), keystore }
  | (none, keystore) => { c with keystore }

/-- `PersistentCacheImpl.get`; `none` is the exception of `Base64.decode`. -/
def get (key : CacheKey) (c : PersistentCacheImpl K) :
    Option (Option Bytes) × PersistentCacheImpl K :=
  match c.prefs key.name with
  | none => (some none, c)
  | some text =>
    match Base64.decode text.toList with
    | none => (none, c)
    | some stored =>
      match c.cipher with
      | some cipher =>
        (some (cipher.decrypt stored c.keystore).1.toOption,
          { c with keystore := (cipher.decrypt stored c.keystore).2 })
      | none => (some (some stored), c)

/-- `PersistentCacheImpl.clear`. -/
def clear (c : PersistentCacheImpl K) : PersistentCacheImpl K := { c with prefs := fun _ => none }

/-! ## What the preferences hold -/

/-- `stored` stands for `data`. -/
def Stands (cipher : Option (PersistentCacheCipher K)) (data stored : Bytes) : Prop :=
  match cipher with
  | some cipher => cipher.Encrypts data stored
  | none => stored = data

/-- An entry of the preferences stands for the secret, if there is one. -/
inductive Entry (cipher : Option (PersistentCacheCipher K)) :
    Option Bytes → Option String → Prop where
  | absent : Entry cipher none none
  | present {data stored : Bytes} (h : Stands cipher data stored) :
      Entry cipher (some data) (some (String.ofList (Base64.encode stored)))

/-- The preferences hold the secrets of `m`. -/
def Represents (c : PersistentCacheImpl K) (m : Table CacheKey Bytes) : Prop :=
  ∀ key, Entry c.cipher (m key) (c.prefs key.name)

theorem stands_of_sealed {c : PersistentCacheImpl K} {bytes stored : Bytes} {k : K}
    (h : c.sealed bytes = (some stored, k)) : Stands c.cipher bytes stored := by
  unfold sealed at h
  unfold Stands
  cases hc : c.cipher with
  | none =>
    rw [hc] at h
    cases h
    rfl
  | some cipher =>
    rw [hc] at h
    refine ⟨c.keystore, ?_⟩
    have hok := congrArg Prod.fst h
    cases he : (cipher.encrypt bytes c.keystore).1 with
    | error e => simp [he, Except.toOption] at hok
    | ok data =>
      simp only [he, Except.toOption, Option.some.injEq] at hok
      rw [hok]

/-- `put` replaces the secret, unless the encryption fails. -/
theorem Represents.put {c : PersistentCacheImpl K} {m : Table CacheKey Bytes} (h : c.Represents m)
    (key : CacheKey) (bytes : Bytes) :
    (c.put key bytes).Represents (if (c.sealed bytes).1.isSome then m.put key bytes else m) := by
  unfold PersistentCacheImpl.put
  cases hs : c.sealed bytes with
  | mk data k =>
    cases data with
    | none => exact h
    | some data =>
      intro key'
      simp only [Option.isSome_some, if_true, Table.put, CacheKey.name_inj]
      by_cases hkey : key' = key
      · simp only [hkey, if_true]
        exact .present (stands_of_sealed hs)
      · simp only [hkey, if_false]
        exact h key'

theorem Represents.clear {c : PersistentCacheImpl K} : c.clear.Represents fun _ => none :=
  fun _ => .absent

theorem Represents.get {c : PersistentCacheImpl K} {m : Table CacheKey Bytes} (h : c.Represents m)
    (key : CacheKey) : (c.get key).2.Represents m := by
  unfold PersistentCacheImpl.get
  split
  · exact h
  split
  · exact h
  split
  · next cipher hc => exact fun key' => h key'
  · exact h

/-- The cipher cannot decrypt what is stored under `key`. -/
def Fails (c : PersistentCacheImpl K) (key : CacheKey) : Prop :=
  ∃ cipher stored err, c.cipher = some cipher ∧
    c.prefs key.name = some (String.ofList (Base64.encode stored)) ∧
    (cipher.decrypt stored c.keystore).1 = .error err

/-- `get` answers the secret, or nothing if the decryption fails. -/
theorem Represents.get_answer {c : PersistentCacheImpl K} {m : Table CacheKey Bytes}
    (h : c.Represents m) (hgen : ∀ cipher ∈ c.cipher, cipher.Genuine) (key : CacheKey) :
    (c.get key).1 = some (m key) ∨ (c.get key).1 = some none ∧ c.Fails key := by
  unfold PersistentCacheImpl.get Fails
  generalize hentry : c.prefs key.name = entry
  generalize hsecret : m key = secret
  have hkey := h key
  rw [hentry, hsecret] at hkey
  cases hkey with
  | absent => exact .inl rfl
  | @present data stored hstands =>
    simp only [String.toList_ofList, Base64.decode_encode]
    unfold Stands at hstands
    cases hc : c.cipher with
    | none =>
      rw [hc] at hstands
      exact .inl (by rw [hstands])
    | some cipher =>
      rw [hc] at hstands
      dsimp only
      cases hd : (cipher.decrypt stored c.keystore).1 with
      | error e => exact .inr ⟨rfl, cipher, stored, e, rfl, rfl, hd⟩
      | ok plain =>
        rw [hgen cipher hc hstands hd]
        exact .inl rfl

/-! ## Sequences of calls -/

/-- A call of the cache. -/
inductive CacheCall where
  | put (key : CacheKey) (bytes : Bytes)
  | get (key : CacheKey)
  | clear

/-- The cache after a call. -/
def perform (c : PersistentCacheImpl K) : CacheCall → PersistentCacheImpl K
  | .put key bytes => c.put key bytes
  | .get key => (c.get key).2
  | .clear => c.clear

/-- What a call does to the secrets: a `put` counts if `c` can encrypt. -/
def intended (c : PersistentCacheImpl K) (m : Table CacheKey Bytes) :
    CacheCall → Table CacheKey Bytes
  | .put key bytes => if (c.sealed bytes).1.isSome then m.put key bytes else m
  | .get _ => m
  | .clear => fun _ => none

/-- The cache and the secrets it should hold, call by call. -/
def after (calls : List CacheCall) (c : PersistentCacheImpl K) (m : Table CacheKey Bytes) :
    PersistentCacheImpl K × Table CacheKey Bytes :=
  calls.foldl (fun x call => (x.1.perform call, x.1.intended x.2 call)) (c, m)

theorem Represents.perform {c : PersistentCacheImpl K} {m : Table CacheKey Bytes}
    (h : c.Represents m) (call : CacheCall) : (c.perform call).Represents (c.intended m call) := by
  cases call with
  | put key bytes => exact h.put key bytes
  | get key => exact h.get key
  | clear => exact .clear

theorem cipher_perform (c : PersistentCacheImpl K) (call : CacheCall) :
    (c.perform call).cipher = c.cipher := by
  cases call with
  | put key bytes =>
    simp only [perform, put]
    split <;> rfl
  | get key =>
    simp only [perform, get]
    split
    · rfl
    split
    · rfl
    split <;> rfl
  | clear => rfl

theorem Represents.after {c : PersistentCacheImpl K} {m : Table CacheKey Bytes}
    (h : c.Represents m) (calls : List CacheCall) :
    (after calls c m).1.Represents (after calls c m).2 ∧ (after calls c m).1.cipher = c.cipher := by
  unfold PersistentCacheImpl.after
  induction calls generalizing c m with
  | nil => exact ⟨h, rfl⟩
  | cons call calls ih =>
    obtain ⟨hrep, hcipher⟩ := ih (h.perform call)
    exact ⟨hrep, hcipher.trans (cipher_perform c call)⟩

end PersistentCacheImpl

open PersistentCacheImpl

/-- **The cache is a table of secrets.** From empty preferences, after any sequence of calls, `get`
answers what was put last under the key and could be encrypted, or nothing if the cipher cannot
decrypt. It never throws. -/
theorem get_answers (cipher : Option (PersistentCacheCipher K)) (keystore : K)
    (hgen : ∀ c ∈ cipher, c.Genuine) (calls : List CacheCall) (key : CacheKey) :
    let (c, m) := after calls ⟨cipher, fun _ => none, keystore⟩ fun _ => none
    (c.get key).1 = some (m key) ∨ (c.get key).1 = some none ∧ c.Fails key := by
  have hempty : Represents ⟨cipher, fun _ => none, keystore⟩ fun _ => none := fun _ => .absent
  obtain ⟨hrep, hcipher⟩ := hempty.after calls
  exact hrep.get_answer (hcipher ▸ hgen) key

/-- A cipher that numbers what it encrypts and has no key for the texts before `first`. -/
def numbering (first : UInt8) : PersistentCacheCipher UInt8 where
  encrypt data k := (if k < first then .error "no key" else .ok (k :: data), k + 1)
  decrypt stored k := (.ok stored.tail, k)

theorem numbering_decrypts {first : UInt8} {data stored : Bytes}
    (h : (numbering first).Encrypts data stored) (k : UInt8) :
    ((numbering first).decrypt stored k).1 = .ok data := by
  obtain ⟨k', hstored⟩ := h
  simp only [numbering] at hstored ⊢
  split at hstored
  · cases hstored
  · cases hstored
    rfl

theorem numbering_genuine (first : UInt8) : (numbering first).Genuine := by
  intro data stored plain k hstored hplain
  rw [numbering_decrypts hstored k] at hplain
  exact (Except.ok.inj hplain).symm

/-- The first certificate cannot be encrypted; of the two that follow the last one counts. -/
def renewals : List CacheCall :=
  [.put .certificate [1], .put .apiSession [9], .put .certificate [2], .get .certificate,
   .put .certificate [3, 4]]

theorem renewals_answers :
    ((after renewals ⟨some (numbering 2), fun _ => none, 0⟩ fun _ => none).1.get .certificate).1 =
      some (some [3, 4]) := by
  obtain h | ⟨h, hfails⟩ := get_answers (some (numbering 2)) 0
    (by rintro _ ⟨⟩; exact numbering_genuine 2) renewals .certificate
  · exact h
  · obtain ⟨cipher, stored, err, hc, -, herr⟩ := hfails
    obtain rfl : numbering 2 = cipher := Option.some.inj hc
    cases herr

/-! ## From one connection to the next -/

/-- What a call is meant to do to the secrets. -/
def PersistentCacheImpl.CacheCall.holds (m : Table CacheKey Bytes) :
    CacheCall → Table CacheKey Bytes
  | .put key bytes => m.put key bytes
  | .get _ => m
  | .clear => fun _ => none

/-- A cache that holds the secrets of `m`, with a cipher that works or without one. -/
structure Keeps (c : PersistentCacheImpl K) (m : Table CacheKey Bytes) : Prop where
  represents : c.Represents m
  reliable : ∀ cipher ∈ c.cipher, cipher.Reliable

namespace Keeps

variable {c : PersistentCacheImpl K} {m : Table CacheKey Bytes}

theorem isSome_sealed (h : Keeps c m) (bytes : Bytes) : (c.sealed bytes).1.isSome = true := by
  unfold sealed
  cases hc : c.cipher with
  | none => rfl
  | some cipher =>
    obtain ⟨stored, hstored⟩ := (h.reliable cipher hc).encrypts bytes c.keystore
    simp [hstored, Except.toOption]

theorem perform (h : Keeps c m) (call : CacheCall) : Keeps (c.perform call) (call.holds m) where
  represents := by
    have hrep := h.represents.perform call
    cases call with
    | put key bytes =>
      rw [intended, if_pos (h.isSome_sealed bytes)] at hrep
      exact hrep
    | get key => exact hrep
    | clear => exact hrep
  reliable := by
    rw [cipher_perform]
    exact h.reliable

theorem putAll (h : Keeps c m) (secrets : List (CacheKey × Bytes)) :
    Keeps (PvpnConnection.putAll put secrets c)
      (PvpnConnection.putAll (fun key data m => m.put key data) secrets m) := by
  induction secrets generalizing c m with
  | nil => exact h
  | cons secret secrets ih => exact ih (h.perform (.put secret.1 secret.2))

theorem get_eq (h : Keeps c m) (key : CacheKey) : (c.get key).1 = some (m key) := by
  obtain hget | ⟨-, cipher, stored, err, hc, htext, herr⟩ :=
    h.represents.get_answer (fun cipher hc => (h.reliable cipher hc).genuine) key
  · exact hget
  · -- what is stored was encrypted, so that it can be decrypted
    exfalso
    have hentry := h.represents key
    rw [htext] at hentry
    generalize m key = secret at hentry
    generalize htext' : some (String.ofList (Base64.encode stored)) = text at hentry
    cases hentry with
    | absent => cases htext'
    | @present data stored' hstands =>
      have hstored : stored = stored' := by
        have hdecode := congrArg (fun t => Base64.decode t.toList) (Option.some.inj htext')
        simpa [Base64.decode_encode] using hdecode
      rw [hc] at hstands
      rw [hstored, (h.reliable cipher hc).decrypts hstands] at herr
      cases herr

end Keeps

section Connections

variable {E S X F PK Cert Auth App L : Type}

/-- `cache.get(key).map(parse).transpose()`; `none` is an exception of `get`. -/
def readSecret {α : Type} (parse : Bytes → Except IoError α) (key : CacheKey)
    (c : PersistentCacheImpl K) : Option (Except IoError (Option α) × PersistentCacheImpl K) :=
  (c.get key).1.map fun cached => (mapTranspose parse cached, (c.get key).2)

/-- `ConnectionMode::to_pvpn_client_mode`, reading out of the app's cache. -/
def clientMode (lib : ClientLibrary PK Cert Auth App L) (c : PersistentCacheImpl K) :
    ConnectionMode → Option (Except IoError (PvpnClientMode PK Cert Auth))
  | .noLocalAgent wgPrivateKey => some (.ok (.noLocalAgent wgPrivateKey))
  | .localAgent userAgent appVersion _ =>
    -- the first secret that cannot be parsed ends it, and the next one is not read
    (readSecret (toPrivateKey lib) .privateKey c).bind fun
    | (.error e, _) => some (.error e)
    | (.ok privateKey, c) =>
      (readSecret (toCertificate lib) .certificate c).bind fun
      | (.error e, _) => some (.error e)
      | (.ok certificate, c) =>
        (readSecret (toMuonAuth lib) .apiSession c).map fun
        | (.error e, _) => .error e
        | (.ok muonAuth, _) =>
          .ok (.localAgent appVersion userAgent privateKey certificate muonAuth)

theorem Keeps.get {c : PersistentCacheImpl K} {m : Table CacheKey Bytes} (h : Keeps c m)
    (key : CacheKey) : Keeps (c.get key).2 m :=
  h.perform (.get key)

theorem Keeps.readSecret_eq {α : Type} {c : PersistentCacheImpl K} {m : Table CacheKey Bytes}
    (h : Keeps c m) (parse : Bytes → Except IoError α) (key : CacheKey) :
    readSecret parse key c = some (mapTranspose parse (m key), (c.get key).2) := by
  rw [readSecret, h.get_eq, Option.map_some]

/-- What is read is what the cache holds. -/
theorem Keeps.clientMode_eq {c : PersistentCacheImpl K} {m : Table CacheKey Bytes} (h : Keeps c m)
    (lib : ClientLibrary PK Cert Auth App L) (mode : ConnectionMode) :
    clientMode lib c mode = some (mode.toPvpnClientMode lib m) := by
  cases mode with
  | noLocalAgent wgPrivateKey => rfl
  | localAgent userAgent appVersion settings =>
    have hcert := h.get .privateKey
    have hauth := hcert.get .certificate
    unfold clientMode ConnectionMode.toPvpnClientMode
    dsimp only
    rw [h.readSecret_eq, Option.bind_some]
    cases mapTranspose (toPrivateKey lib) (m .privateKey) with
    | error e => rfl
    | ok privateKey =>
      dsimp only
      rw [hcert.readSecret_eq, Option.bind_some]
      cases mapTranspose (toCertificate lib) (m .certificate) with
      | error e => rfl
      | ok certificate =>
        dsimp only
        rw [hauth.readSecret_eq, Option.map_some]
        cases mapTranspose (toMuonAuth lib) (m .apiSession) <;> rfl

/-- The run of a connection, up to its `n`-th iteration. -/
structure Session (E S X F : Type) where
  d : PvpnDependencies E S X F
  cfg : Protun.InitialConfig
  streams : S
  env : E
  n : Nat

namespace Session

/-- The environment it leaves. -/
def final (s : Session E S X F) : E :=
  (PvpnConnection.exec s.d s.cfg s.streams s.env s.n).2.now.env

/-- The secrets its client hands out, in order. -/
def secrets (s : Session E S X F) : List (CacheKey × Bytes) :=
  Protun.secrets s.d.ids (PvpnConnection.exec s.d s.cfg s.streams s.env s.n).2.past

end Session

/-- What happens to the cache: a call, by the app or by a connection that starts, or the run of a
connection. -/
inductive Happening (E S X F : Type) where
  | call (call : CacheCall)
  | session (s : Session E S X F)

/-- What it is meant to do to the secrets. -/
def Happening.holds (m : Table CacheKey Bytes) : Happening E S X F → Table CacheKey Bytes
  | .call c => c.holds m
  | .session s => PvpnConnection.putAll (fun key data m => m.put key data) s.secrets m

/-- The cache goes from `c` to `c'`, where `cache` is the cache of an environment. -/
inductive History (cache : E → PersistentCacheImpl K) :
    PersistentCacheImpl K → List (Happening E S X F) → PersistentCacheImpl K → Prop where
  | nil (c : PersistentCacheImpl K) : History cache c [] c
  | call {c c' : PersistentCacheImpl K} {l : List (Happening E S X F)} (call : CacheCall)
      (hl : History cache (c.perform call) l c') : History cache c (.call call :: l) c'
  | session {c c' : PersistentCacheImpl K} {l : List (Happening E S X F)} (s : Session E S X F)
      (hd : PvpnConnection.Owns s.d cache put) (hc : cache s.env = c)
      (hl : History cache (cache s.final) l c') : History cache c (.session s :: l) c'

theorem Keeps.history {cache : E → PersistentCacheImpl K} {c c' : PersistentCacheImpl K}
    {l : List (Happening E S X F)} (hl : History cache c l c') {m : Table CacheKey Bytes}
    (h : Keeps c m) : Keeps c' (l.foldl Happening.holds m) := by
  induction hl generalizing m with
  | nil c => exact h
  | call call hl ih => exact ih (h.perform call)
  | session s hd hc hl ih =>
    refine ih ?_
    have hfinal : cache s.final = PvpnConnection.putAll put s.secrets (cache s.env) :=
      PvpnConnection.cache_exec hd s.cfg s.streams s.env s.n
    rw [hfinal, hc]
    exact h.putAll s.secrets

/-- **The secrets survive.** From empty preferences, after any sequence of calls and connections, a
connection is given the secrets that were written last, by the client of an earlier connection or by
the app, if there is no cipher or the cipher works. -/
theorem secrets_survive (lib : ClientLibrary PK Cert Auth App L)
    {cipher : Option (PersistentCacheCipher K)} (hcipher : ∀ c ∈ cipher, c.Reliable) {keystore : K}
    {cache : E → PersistentCacheImpl K} {l : List (Happening E S X F)} {c : PersistentCacheImpl K}
    (hl : History cache ⟨cipher, fun _ => none, keystore⟩ l c) (mode : ConnectionMode) :
    clientMode lib c mode =
      some (mode.toPvpnClientMode lib (l.foldl Happening.holds fun _ => none)) := by
  have hempty : Keeps ⟨cipher, fun _ => none, keystore⟩ fun _ => none :=
    ⟨fun _ => .absent, hcipher⟩
  exact (hempty.history hl).clientMode_eq lib mode

end Connections

theorem numbering_reliable : (numbering 0).Reliable where
  encrypts data k := ⟨k :: data, by simp [numbering]⟩
  decrypts := numbering_decrypts

/-- A connection from the cache `c` whose client does `actions`. -/
def session (actions : List (Option Protun.Action)) (c : PersistentCacheImpl UInt8) :
    Session (Script × PersistentCacheImpl UInt8) Unit Unit Unit where
  d := scripted.withCache put
  cfg := Script.agentConfig
  streams := ()
  env := ({ actions }, c)
  n := 2

theorem history_session (actions : List (Option Protun.Action)) {c c' : PersistentCacheImpl UInt8}
    {l : List (Happening (Script × PersistentCacheImpl UInt8) Unit Unit Unit)}
    (hl : History Prod.snd (session actions c).final.2 l c') :
    History Prod.snd c (.session (session actions c) :: l) c' :=
  .session (session actions c) (owns_withCache scripted put) rfl hl

/-- A client obtains a private key and a certificate. -/
def firstSession : Session (Script × PersistentCacheImpl UInt8) Unit Unit Unit :=
  session [some ⟨-2, .write [7]⟩, some ⟨-3, .write [1]⟩]
    ⟨some (numbering 0), fun _ => none, 0⟩

/-- The next one renews the certificate. -/
def secondSession : Session (Script × PersistentCacheImpl UInt8) Unit Unit Unit :=
  session [some ⟨-3, .write [2]⟩] firstSession.final.2

theorem firstSession_secrets :
    firstSession.secrets = [(.privateKey, [7]), (.certificate, [1])] := by
  decide +kernel

theorem secondSession_secrets : secondSession.secrets = [(.certificate, [2])] := by
  decide +kernel

/-- A library that takes every secret as it is. -/
def plainLibrary : ClientLibrary Bytes Bytes Bytes String Unit where
  privateKeyFromPem := .ok
  certificateFromPem := .ok
  muonAuthTryFrom := .ok
  newApp := .ok
  withUserAgent app _ := app
  withLocalAgent _ _ _ _ := ()
  withWgPrivateKey _ := ()

/-- The third connection starts with the key of the first and the certificate of the second. -/
theorem secrets_survive_renewal :
    clientMode plainLibrary secondSession.final.2 (.localAgent "agent" "1.0" {}) =
      some (.ok (.localAgent "1.0" "agent" (some [7]) (some [2]) none)) := by
  have hl : History Prod.snd ⟨some (numbering 0), fun _ => none, 0⟩
      [.session firstSession, .session secondSession] secondSession.final.2 :=
    history_session _ (history_session _ (.nil _))
  rw [secrets_survive plainLibrary (by rintro _ ⟨⟩; exact numbering_reliable) hl]
  simp only [List.foldl, Happening.holds, firstSession_secrets, secondSession_secrets]
  rfl

end Android

end Protun
