import Liblpm.Proof.Raises

/-! A `with` statement closes the object and lets the block's exception go on. -/

namespace Liblpm

namespace LpmTable

section Blocks
variable {σ Input : Type} {width : Nat} (family : Family width Input) (engine : Engine σ Input)
  (lib : Ipaddress width) (stats : EngineStats σ) (strRepr : String → String) (wideNodes : Bool)

/-- Every block keeps both slots assigned. -/
theorem runBlock_preserves_assigned :
    ∀ block : List (Statement width), Preserves Assigned (runBlock family engine lib stats strRepr wideNodes block)
  | [] => .pure _
  | .operation operation :: rest =>
      .bind (runOperation_preserves_assigned family engine lib stats strRepr wideNodes operation) fun _ =>
        runBlock_preserves_assigned rest
  | .raise _ :: _ => .throw _

/-- A block leaves an object a caller holds as one a caller holds. -/
theorem Reachable.afterBlock :
    ∀ (block : List (Statement width)) {table : Table σ},
      Reachable family engine lib stats strRepr wideNodes table →
        Reachable family engine lib stats strRepr wideNodes
          (stateAfter ((runBlock family engine lib stats strRepr wideNodes block).run table))
  | [], _, reached => reached
  | .raise _ :: _, _, reached => reached
  | .operation operation :: rest, table, reached => by
      have stepped := Reachable.step reached operation
      rw [runBlock, run_bind]
      cases ran : (runOperation family engine lib stats strRepr wideNodes operation).run table with
      | ok _ after =>
          rw [ran] at stepped
          exact Reachable.afterBlock rest stepped
      | error _ after =>
          rw [ran] at stepped
          exact stepped

end Blocks

section With
variable {σ : Type} {Input : Type} (engine : Engine σ Input) {table : Table σ}

/-- A `with` statement whose block keeps both slots assigned raises what the block raised, from
the object the block left after `__exit__` has closed it. -/
theorem withStatement_run {block : EStateM PyException (Table σ) Unit} (keeps : Preserves Assigned block)
    (held : Assigned table) :
    outcome ((withStatement engine block).run table) = outcome (block.run table) ∧
      stateAfter ((withStatement engine block).run table) =
        stateAfter ((close engine).run (stateAfter (block.run table))) ∧
      (stateAfter ((withStatement engine block).run table)).closed = some true := by
  obtain ⟨after, closes, flag⟩ := close_run_closes engine (keeps table held)
  cases ran : block.run table <;> simp only [ran, stateAfter_ok, stateAfter_error] at closes <;>
    simp [withStatement, enter, exit, run_bind, run_tryCatch, ran, closes, flag, outcome]

end With

section Contract
variable {σ Input : Type} {width : Nat} (family : Family width Input) (engine : Engine σ Input)
  (lib : Ipaddress width) (stats : EngineStats σ) (strRepr : String → String) (wideNodes : Bool)

/-- What `with table: block` does to an object a caller holds, whatever public operations the
block makes and whatever it raises of its own: the statement raises exactly what the block raised,
or returns when the block returned, and leaves the object closed and still one a caller holds. -/
structure ClosesOnExit : Prop where
  reraises : ∀ table, Reachable family engine lib stats strRepr wideNodes table → ∀ block,
    outcome ((withStatement engine (runBlock family engine lib stats strRepr wideNodes block)).run table) =
      outcome ((runBlock family engine lib stats strRepr wideNodes block).run table)
  closes : ∀ table, Reachable family engine lib stats strRepr wideNodes table → ∀ block,
    (stateAfter ((withStatement engine (runBlock family engine lib stats strRepr wideNodes block)).run
      table)).closed = some true
  reachable : ∀ table, Reachable family engine lib stats strRepr wideNodes table → ∀ block,
    Reachable family engine lib stats strRepr wideNodes
      (stateAfter ((withStatement engine (runBlock family engine lib stats strRepr wideNodes block)).run table))

/-- Each class keeps the context-manager contract, over any engine. -/
theorem closesOnExit : ClosesOnExit family engine lib stats strRepr wideNodes :=
  have ran := fun table (reached : Reachable family engine lib stats strRepr wideNodes table) block =>
    withStatement_run engine (runBlock_preserves_assigned family engine lib stats strRepr wideNodes block)
      (Reachable.assigned family engine lib stats strRepr reached)
  { reraises := fun table reached block => (ran table reached block).1
    closes := fun table reached block => (ran table reached block).2.2
    reachable := fun table reached block => by
      rw [(ran table reached block).2.1]
      exact Reachable.step (Reachable.afterBlock family engine lib stats strRepr wideNodes block reached)
        (.call .close) }

end Contract

end LpmTable

/-- A `with` statement on an object of either class that a caller holds, over any engine and any
block of public operations and raises, closes the object whether the block returned or raised,
and raises exactly what the block raised: `__exit__` never raises and never suppresses. -/
theorem withStatement_closes_reraises {σ τ : Type} (engine4 : Engine σ Nat) (lib4 : Ipaddress 32)
    (stats4 : EngineStats σ) (engine6 : Engine τ (List UInt8)) (lib6 : Ipaddress 128)
    (stats6 : EngineStats τ) (strRepr : String → String) :
    LpmTable.ClosesOnExit ipv4 engine4 lib4 stats4 strRepr false ∧
      LpmTable.ClosesOnExit ipv6 engine6 lib6 stats6 strRepr true :=
  ⟨LpmTable.closesOnExit ipv4 engine4 lib4 stats4 strRepr false,
    LpmTable.closesOnExit ipv6 engine6 lib6 stats6 strRepr true⟩

end Liblpm
