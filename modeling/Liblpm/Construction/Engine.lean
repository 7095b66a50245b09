import Liblpm.Construction.Ipaddress
import Liblpm.Construction.Exceptions

/-! The extension `_liblpm`, missing from the sources, as a record of calls with the spec's laws. -/

namespace Liblpm

/-- `INVALID_NEXT_HOP`, re-exported by `__init__.py` as `0xFFFFFFFF`: the engine's answer for an
address no stored route covers. -/
def invalidNextHop : Nat := 0xFFFFFFFF

/-- The extension object in `_trie` (`_LpmTrieIPv4` or `_LpmTrieIPv6`) as the calls the wrapper
makes on it, over its state `σ`; `Input` is what a lookup takes (an `int`, or packed bytes).
`add` and `delete` return the C status, `0` on success. -/
structure Engine (σ Input : Type) where
  create : String → Except PyException σ
  add : σ → List UInt8 → Nat → Nat → Int × σ
  delete : σ → List UInt8 → Nat → Int × σ
  lookup : σ → Input → Nat
  lookupBatch : σ → List Input → List Nat → List Nat
  close : σ → σ

/-- The read-only properties of the extension object in `_trie`, read with no check of `_closed`.
What they answer, and whether they raise once the handle is closed, is not in the source;
`num_wide_nodes` exists on `_LpmTrieIPv6` only. -/
structure EngineStats (σ : Type) where
  algorithm : σ → Except PyException String
  numPrefixes : σ → Except PyException Nat
  numNodes : σ → Except PyException Nat
  numWideNodes : σ → Except PyException Nat

section Keys
variable {width : Nat}

/-- The key of the route for `address` cut to `length` bits: the packed network and its length. -/
def prefixKey (width address length : Nat) : List UInt8 × Nat :=
  (toBytes (address &&& netmask width length) (width / 8), length)

/-- The key `add` and `delete` receive for a network: `network_address.packed` and `prefixlen`. -/
def IPNetwork.key (network : IPNetwork width) : List UInt8 × Nat :=
  (network.networkAddress.packed, network.prefixlen)

/-- The key of the network of `length` bits around an address is the key a lookup probes. -/
theorem IPNetwork.key_ofAddress (address : IPAddress width) (length : Nat) (within : length ≤ width) :
    (IPNetwork.ofAddress address length within).key = prefixKey width address.ip length := rfl

/-- Distinct networks reach the engine under distinct keys. -/
theorem IPNetwork.key_injective (wholeBytes : width % 8 = 0) {first second : IPNetwork width}
    (same : first.key = second.key) : first = second := by
  simp only [IPNetwork.key, Prod.mk.injEq] at same
  exact IPNetwork.ext (IPAddress.packed_injective wholeBytes same.1) same.2

end Keys

/-- Modelled from the spec: the next hop stored under the longest key of at most `length` bits
that covers `address` (§4.1 `lookup`). Keys are those the wrapper hands over: network bytes with
no bit set past the length. -/
def longestMatch (width : Nat) (routes : List UInt8 × Nat → Option Nat) (address : Nat) :
    Nat → Option Nat
  | 0 => routes (prefixKey width address 0)
  | length + 1 =>
      (routes (prefixKey width address (length + 1))).or (longestMatch width routes address length)

/-- Modelled from the spec: what §6 and §7 promise of the extension, seen through the routes
`routes state` it holds and the address `value input` a lookup input stands for. A new engine is
empty; `add` stores the next hop under its exact key, or fails and keeps its routes; `delete`
removes the key, or fails and keeps its routes; `lookup` answers with the longest covering key,
or `INVALID_NEXT_HOP`. -/
structure Engine.MeetsSpec {σ Input : Type} (engine : Engine σ Input) (width : Nat)
    (value : Input → Nat) (routes : σ → List UInt8 × Nat → Option Nat) : Prop where
  create_empty : ∀ algorithm state, engine.create algorithm = .ok state → routes state = fun _ => none
  add_stores : ∀ state network length nextHop, (engine.add state network length nextHop).1 = 0 →
    routes (engine.add state network length nextHop).2 =
      Function.update (routes state) (network, length) (some nextHop)
  add_fails : ∀ state network length nextHop, (engine.add state network length nextHop).1 ≠ 0 →
    routes (engine.add state network length nextHop).2 = routes state
  delete_removes : ∀ state network length, (engine.delete state network length).1 = 0 →
    routes (engine.delete state network length).2 = Function.update (routes state) (network, length) none
  delete_fails : ∀ state network length, (engine.delete state network length).1 ≠ 0 →
    routes (engine.delete state network length).2 = routes state
  lookup_longest : ∀ state input,
    engine.lookup state input = (longestMatch width (routes state) (value input) width).getD invalidNextHop

/-- Modelled from the spec: the batch contract of §4.4, as the extension's `lookup_batch` keeps
it: result slot `i` receives the single lookup of the `i`-th input, and the buffer keeps its
length. -/
def Engine.BatchWritesSlots {σ Input : Type} (engine : Engine σ Input) : Prop :=
  ∀ state inputs results, results.length = inputs.length →
    (engine.lookupBatch state inputs results).length = results.length ∧
      ∀ (index : Nat) (inside : index < inputs.length)
        (written : index < (engine.lookupBatch state inputs results).length),
        (engine.lookupBatch state inputs results)[index] = engine.lookup state inputs[index]

end Liblpm
