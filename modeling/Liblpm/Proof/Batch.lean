import Liblpm.Proof.Methods
import Liblpm.Construction.ReferenceEngine

/-! On an open table `lookup_batch` answers, slot by slot, what `lookup` answers. -/

namespace Liblpm

section Except
variable {ε α β γ : Type}

/-- Changing each result inside `mapM` changes the returned list, and keeps where it fails. -/
theorem mapM_map_except (convert : α → Except ε β) (change : β → γ) (items : List α) :
    items.mapM (fun item => (convert item).map change) = (items.mapM convert).map (List.map change) := by
  induction items with
  | nil => rfl
  | cons item items inductionHypothesis =>
      simp only [List.mapM_cons, inductionHypothesis]
      cases convert item <;> cases items.mapM convert <;> rfl

/-- `mapM` in `Except` returns a list exactly when mapping gives its results, all `ok`. -/
theorem mapM_except_eq_ok_iff_map (convert : α → Except ε β) (items : List α) (results : List β) :
    items.mapM convert = .ok results ↔ items.map convert = results.map .ok := by
  induction items generalizing results with
  | nil => rw [List.mapM_nil]; cases results <;> simp [pure, Except.pure]
  | cons item items inductionHypothesis =>
      cases results with
      | nil =>
          simp only [List.mapM_cons, List.map_cons, List.map_nil, reduceCtorEq, iff_false]
          cases convert item <;> cases items.mapM convert <;> simp [bind, Except.bind, pure, Except.pure]
      | cons head tail =>
          simp only [List.mapM_cons, List.map_cons, List.cons.injEq, ← inductionHypothesis]
          cases convert item <;> cases items.mapM convert <;> simp [bind, Except.bind, pure, Except.pure]

/-- `mapM` in `Except` returns exactly the list of the items' own results. -/
theorem mapM_except_eq_ok_iff (convert : α → Except ε β) (items : List α) (results : List β) :
    items.mapM convert = .ok results ↔ results.length = items.length ∧
      ∀ (index : Nat) (inside : index < items.length) (within : index < results.length),
        convert items[index] = .ok results[index] := by
  rw [mapM_except_eq_ok_iff_map]
  constructor
  · intro same
    have sameLength : results.length = items.length := by simpa using (congrArg List.length same).symm
    refine ⟨sameLength, fun index inside within => ?_⟩
    simpa [inside, within] using congrArg (fun list => list[index]?) same
  · rintro ⟨sameLength, each⟩
    exact List.ext_getElem (by simp [sameLength]) fun index inside _ => by
      simpa using each index (by simpa using inside) (by simpa [sameLength] using inside)

end Except

/-- The batch contract read as a list: the filled buffer is the single lookups in order. -/
theorem Engine.BatchWritesSlots.eq_map {σ Input : Type} {engine : Engine σ Input}
    (batch : engine.BatchWritesSlots) (trie : σ) {inputs : List Input} {results : List Nat} (sameLength : results.length = inputs.length) :
    engine.lookupBatch trie inputs results = inputs.map (engine.lookup trie) := by
  obtain ⟨kept, written⟩ := batch trie inputs results sameLength
  exact List.ext_getElem (by simp [kept, sameLength]) fun index inside _ => by
    simpa using written index (by simpa [sameLength, kept] using inside) inside

namespace LpmTable

section Batch
variable {σ Input : Type} {width : Nat} (family : Family width Input) (engine : Engine σ Input)
  (lib : Ipaddress width)

/-- The loop of `lookup_batch` is `mapM` of the conversion, when every append keeps its value. -/
theorem convertAll_eq_mapM
    (appends : ∀ converted address,
      family.append converted (family.toInput address) = .ok (converted ++ [family.toInput address]))
    (addrs : List (AddressArg width)) :
    convertAll family lib addrs = addrs.mapM fun addr => (toAddress lib addr).map family.toInput := by
  suffices fromAny : ∀ converted : List Input,
      addrs.foldlM (fun converted addr => do family.append converted (family.toInput (← toAddress lib addr)))
          converted =
        (addrs.mapM fun addr => (toAddress lib addr).map family.toInput).map (converted ++ ·) by
    rw [convertAll, fromAny]
    cases addrs.mapM fun addr => (toAddress lib addr).map family.toInput <;> rfl
  induction addrs with
  | nil => intro converted; rw [List.mapM_nil]; simp [pure, Except.pure, Except.map]
  | cons addr addrs inductionHypothesis =>
      intro converted
      simp only [List.foldlM_cons, List.mapM_cons, bind, Except.bind, appends] at inductionHypothesis ⊢
      cases toAddress lib addr with
      | error error => rfl
      | ok address =>
          simp only [Except.map, inductionHypothesis]
          split <;> rename_i found <;> simp [found, pure, Except.pure]

/-- An IPv4 address always fits an `array('I')` slot, so the batch buffer never overflows. -/
theorem ipv4_appends (converted : List Nat) (address : IPAddress 32) :
    ipv4.append converted (ipv4.toInput address) = .ok (converted ++ [ipv4.toInput address]) := by
  have fits : fromBytes address.packed < 2 ^ 32 := by
    rw [IPAddress.fromBytes_packed (by decide)]
    exact address.ip_lt
  simp only [ipv4, uintArrayAppend, if_pos fits]

/-- The IPv6 buffer is a list, which takes every packed address. -/
theorem ipv6_appends (converted : List (List UInt8)) (address : IPAddress 128) :
    ipv6.append converted (ipv6.toInput address) = .ok (converted ++ [ipv6.toInput address]) := rfl

/-- On an open table, `lookup_batch` returns what `mapM lookup` returns, and raises what the
first failing single lookup raises. -/
theorem lookupBatch_outcome_eq_mapM
    (appends : ∀ converted address,
      family.append converted (family.toInput address) = .ok (converted ++ [family.toInput address]))
    (batch : engine.BatchWritesSlots) {table : Table σ} {trie : σ} (isOpen : table.closed = some false)
    (assigned : table.trie = some trie) (addrs : List (AddressArg width)) :
    outcome ((lookupBatch family engine lib addrs).run table) =
      addrs.mapM fun addr => outcome ((lookup family engine lib addr).run table) := by
  simp only [lookupBatch_outcome_open family engine lib isOpen assigned,
    lookup_outcome_open family engine lib isOpen assigned]
  have single : (fun addr => (toAddress lib addr).map fun address =>
      toNextHop (engine.lookup trie (family.toInput address))) =
      fun addr => ((toAddress lib addr).map family.toInput).map fun input =>
        toNextHop (engine.lookup trie input) := by
    funext addr
    cases toAddress lib addr <;> rfl
  rw [single, mapM_map_except, ← convertAll_eq_mapM family lib appends]
  split
  · rename_i empty
    obtain rfl := List.isEmpty_iff.mp empty
    rfl
  · cases converted : convertAll family lib addrs with
    | error error => rfl
    | ok inputs =>
        have sameLength : inputs.length = addrs.length := by
          rw [convertAll_eq_mapM family lib appends, mapM_except_eq_ok_iff] at converted
          exact converted.1
        have filled : (List.replicate addrs.length 0).length = inputs.length := by
          rw [List.length_replicate, sameLength]
        simp [Except.map, batch.eq_map trie filled]

/-- `lookup_batch` against `lookup` on every open table: the outcome of `mapM`, so a list as
long as the input whose slots are the single lookups' results, `None` exactly where theirs is. -/
structure BatchAgreesWithLookup : Prop where
  outcome_eq_mapM : ∀ (trie : σ) calls addrs,
    outcome ((lookupBatch family engine lib addrs).run ⟨some trie, some false, calls⟩) =
      addrs.mapM fun addr => outcome ((lookup family engine lib addr).run ⟨some trie, some false, calls⟩)
  returns_iff : ∀ (trie : σ) calls addrs results,
    outcome ((lookupBatch family engine lib addrs).run ⟨some trie, some false, calls⟩) = .ok results ↔
      results.length = addrs.length ∧
        ∀ (index : Nat) (inside : index < addrs.length) (within : index < results.length),
          outcome ((lookup family engine lib addrs[index]).run ⟨some trie, some false, calls⟩) =
            .ok results[index]

/-- Every class whose buffer takes every address, over an engine that keeps the batch contract,
answers a batch as the single lookups do. -/
theorem batchAgreesWithLookup
    (appends : ∀ converted address,
      family.append converted (family.toInput address) = .ok (converted ++ [family.toInput address]))
    (batch : engine.BatchWritesSlots) : BatchAgreesWithLookup family engine lib where
  outcome_eq_mapM _ _ addrs := lookupBatch_outcome_eq_mapM family engine lib appends batch rfl rfl addrs
  returns_iff _ _ addrs results := by
    rw [lookupBatch_outcome_eq_mapM family engine lib appends batch rfl rfl addrs, mapM_except_eq_ok_iff]

end Batch

end LpmTable

/-- Over engines whose `lookup_batch` fills slot `i` with the single lookup of input `i`, both
classes answer a batch on an open table exactly as the single lookups do. -/
theorem lookupBatch_agrees_with_lookup {σ τ : Type} (engine4 : Engine σ Nat) (lib4 : Ipaddress 32)
    (engine6 : Engine τ (List UInt8)) (lib6 : Ipaddress 128) (batch4 : engine4.BatchWritesSlots)
    (batch6 : engine6.BatchWritesSlots) :
    LpmTable.BatchAgreesWithLookup ipv4 engine4 lib4 ∧ LpmTable.BatchAgreesWithLookup ipv6 engine6 lib6 :=
  ⟨LpmTable.batchAgreesWithLookup ipv4 engine4 lib4 LpmTable.ipv4_appends batch4,
    LpmTable.batchAgreesWithLookup ipv6 engine6 lib6 LpmTable.ipv6_appends batch6⟩

theorem referenceEngine_lookupBatch_agrees :
    (referenceEngine 32 id).BatchWritesSlots ∧ (referenceEngine 128 fromBytes).BatchWritesSlots ∧
      LpmTable.BatchAgreesWithLookup ipv4 (referenceEngine 32 id) Ipaddress.objectsOnly ∧
      LpmTable.BatchAgreesWithLookup ipv6 (referenceEngine 128 fromBytes) Ipaddress.objectsOnly :=
  ⟨referenceEngine_batchWritesSlots 32 id, referenceEngine_batchWritesSlots 128 fromBytes,
    lookupBatch_agrees_with_lookup _ _ _ _ (referenceEngine_batchWritesSlots 32 id)
      (referenceEngine_batchWritesSlots 128 fromBytes)⟩

end Liblpm
