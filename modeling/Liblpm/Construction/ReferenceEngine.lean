import Liblpm.Construction.Engine

/-! A map of routes that meets the engine's interface laws. -/

namespace Liblpm

/-- Modelled from the spec: the map from (network bytes, length) keys to next hops that every
layout of §4 stands for, answering a lookup with the longest covering key (§4.1, §6). -/
def referenceEngine (width : Nat) {Input : Type} (value : Input → Nat) :
    Engine (List UInt8 × Nat → Option Nat) Input where
  create _ := .ok fun _ => none
  add routes network length nextHop := (0, Function.update routes (network, length) (some nextHop))
  delete routes network length :=
    if routes (network, length) = none then (-1, routes)
    else (0, Function.update routes (network, length) none)
  lookup routes input := (longestMatch width routes (value input) width).getD invalidNextHop
  lookupBatch routes inputs _ :=
    inputs.map fun input => (longestMatch width routes (value input) width).getD invalidNextHop
  close routes := routes

section Reference
variable (width : Nat) {Input : Type} (value : Input → Nat)

/-- The reference engine keeps the interface laws, with its state as its own routes. -/
theorem referenceEngine_meetsSpec : (referenceEngine width value).MeetsSpec width value id where
  create_empty _ _ created := (Except.ok.inj created).symm
  add_stores _ _ _ _ _ := rfl
  add_fails _ _ _ _ failed := absurd rfl failed
  delete_removes routes network length removed := by
    by_cases absent : routes (network, length) = none
    · simp [referenceEngine, absent] at removed
    · simp [referenceEngine, absent]
  delete_fails routes network length _ := by
    by_cases absent : routes (network, length) = none
    · simp [referenceEngine, absent]
    · simp [referenceEngine, absent] at *
  lookup_longest _ _ := rfl

/-- The reference engine keeps the batch contract. -/
theorem referenceEngine_batchWritesSlots : (referenceEngine width value).BatchWritesSlots := by
  intro routes inputs results sameLength
  refine ⟨by simp [referenceEngine, sameLength], fun index inside _ => ?_⟩
  simp [referenceEngine]

end Reference

end Liblpm
