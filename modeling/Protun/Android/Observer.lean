import Protun.Android.Manager

/-!
# The network observer (`NetworkObserver.kt`)

`NetworkObserverImpl` registers a callback with the `ConnectivityManager` and keeps the set of the
networks that are validated. A callback says something of one network only: that it is there, with
the capabilities it then has (none, if it is gone again), that its capabilities have changed, or
that it is lost.

* **`mem_observed_iff`**: a network is in the set iff the last callback about it found it validated.
-/

namespace Protun.Android

/-- The capabilities that `updateNetwork` asks for. -/
structure NetworkCapabilities where
  /-- `NET_CAPABILITY_INTERNET`. -/
  internet : Bool
  /-- `NET_CAPABILITY_VALIDATED`. -/
  validated : Bool
  deriving DecidableEq, Repr

/-- A method of the `NetworkCallback`; `onAvailable` comes with the answer of
`getNetworkCapabilities`. -/
inductive NetworkCallback where
  | onAvailable (network : Network) (capabilities : Option NetworkCapabilities)
  | onCapabilitiesChanged (network : Network) (capabilities : NetworkCapabilities)
  | onLost (network : Network)
  deriving DecidableEq, Repr

/-- The `validatedNetwork` of `updateNetwork`. -/
def validatedNetwork : Option NetworkCapabilities → Bool
  | none => false
  | some capabilities => capabilities.internet && capabilities.validated

/-- `updateNetwork`. -/
def updateNetwork (validatedNetworks : Finset Network) (network : Network)
    (capabilities : Option NetworkCapabilities) : Finset Network :=
  if validatedNetwork capabilities then
    if network ∉ validatedNetworks then insert network validatedNetworks else validatedNetworks
  else validatedNetworks.erase network

namespace NetworkCallback

/-- What the callback makes of `validatedNetworks.value`. -/
def apply (validatedNetworks : Finset Network) : NetworkCallback → Finset Network
  | .onAvailable network capabilities => updateNetwork validatedNetworks network capabilities
  | .onCapabilitiesChanged network capabilities =>
    updateNetwork validatedNetworks network (some capabilities)
  | .onLost network => validatedNetworks.erase network

def network : NetworkCallback → Network
  | .onAvailable network _ | .onCapabilitiesChanged network _ | .onLost network => network

/-- The callback finds its network validated. -/
def validates : NetworkCallback → Bool
  | .onAvailable _ capabilities => validatedNetwork capabilities
  | .onCapabilitiesChanged _ capabilities => validatedNetwork (some capabilities)
  | .onLost _ => false

end NetworkCallback

/-- `validatedNetworks.value` after the callbacks `callbacks`. -/
def observed (callbacks : List NetworkCallback) : Finset Network :=
  callbacks.foldl NetworkCallback.apply ∅

/-- The last callback about `network` found it validated. -/
def Validated (callbacks : List NetworkCallback) (network : Network) : Prop :=
  ((callbacks.filter fun c => c.network = network).getLast?.map NetworkCallback.validates) =
    some true

theorem mem_updateNetwork {validatedNetworks : Finset Network} {n network : Network}
    {capabilities : Option NetworkCapabilities} :
    n ∈ updateNetwork validatedNetworks network capabilities ↔
      if network = n then validatedNetwork capabilities = true else n ∈ validatedNetworks := by
  unfold updateNetwork
  by_cases h : network = n
  · subst h
    split
    · next hv => split <;> simp_all
    · next hv => simp [hv]
  · have hne : n ≠ network := fun he => h he.symm
    split
    · split <;> simp [hne]
    · simp [hne]

/-- A callback is about its own network. -/
theorem mem_apply {validatedNetworks : Finset Network} {n : Network} (c : NetworkCallback) :
    n ∈ c.apply validatedNetworks ↔
      if c.network = n then c.validates = true else n ∈ validatedNetworks := by
  cases c with
  | onAvailable network capabilities => exact mem_updateNetwork
  | onCapabilitiesChanged network capabilities => exact mem_updateNetwork
  | onLost network =>
    have : n ≠ network ↔ network ≠ n := ne_comm
    by_cases h : network = n <;>
      simp_all [NetworkCallback.apply, NetworkCallback.network, NetworkCallback.validates]

theorem validated_snoc {callbacks : List NetworkCallback} {n : Network} (c : NetworkCallback) :
    Validated (callbacks ++ [c]) n ↔
      if c.network = n then c.validates = true else Validated callbacks n := by
  unfold Validated
  by_cases h : c.network = n <;> simp [h]

/-- **The observer knows what it was told last of each network.** -/
theorem mem_observed_iff (callbacks : List NetworkCallback) (n : Network) :
    n ∈ observed callbacks ↔ Validated callbacks n := by
  induction callbacks using List.reverseRecOn with
  | nil => simp [observed, Validated]
  | append_singleton callbacks c ih =>
    have hsnoc : observed (callbacks ++ [c]) = c.apply (observed callbacks) := by simp [observed]
    rw [hsnoc, mem_apply, validated_snoc, ih]

end Protun.Android
