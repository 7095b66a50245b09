import Liblpm.Proof.Lifecycle

/-! The objects a caller can hold, whose two slots stay assigned. -/

namespace Liblpm

namespace LpmTable

section Slots
variable {σ α : Type}

/-- Both slots assigned, as `__init__` leaves them when it returns. -/
def Assigned (table : Table σ) : Prop :=
  table.trie.isSome ∧ table.closed.isSome

theorem callTrie_preserves_assigned (call : EngineCall) (method : σ → α × σ) :
    Preserves Assigned (callTrie call method) := by
  intro table held
  obtain ⟨trie, assigned⟩ := Option.isSome_iff_exists.mp held.1
  rw [callTrie_run_assigned assigned]
  exact ⟨rfl, held.2⟩

theorem readTrie_preserves_assigned (call : EngineCall) (read : σ → Except PyException α) :
    Preserves Assigned (readTrie call read) := by
  intro table held
  obtain ⟨trie, assigned⟩ := Option.isSome_iff_exists.mp held.1
  rw [readTrie_run_assigned assigned]
  cases read trie <;> exact held

theorem setClosed_preserves_assigned :
    Preserves Assigned
      (modify fun table => { table with closed := some true } : EStateM PyException (Table σ) PUnit) :=
  fun _ held => ⟨held.1, rfl⟩

end Slots

section Methods
variable {σ Input : Type} {width : Nat} (family : Family width Input) (engine : Engine σ Input)
  (lib : Ipaddress width) (stats : EngineStats σ) (strRepr : String → String)

theorem close_preserves_assigned : Preserves Assigned (close engine : EStateM PyException (Table σ) Unit) :=
  .bind .readClosed fun _ =>
    .ite (.bind (callTrie_preserves_assigned _ _) fun _ => setClosed_preserves_assigned) (.pure _)

/-- Every operation keeps both slots assigned. -/
theorem runOperation_preserves_assigned (wideNodes : Bool) (operation : Operation width) :
    Preserves Assigned (runOperation family engine lib stats strRepr wideNodes operation) := by
  cases operation with
  | call call =>
      cases call with
      | insert cidr nextHop =>
          exact .bind .checkOpen fun _ => .bind (.ite (.throw _) (.pure _)) fun _ =>
            .bind (.liftExcept _) fun _ => .bind (callTrie_preserves_assigned _ _) fun _ =>
              .ite (.throw _) (.pure _)
      | delete cidr =>
          exact .bind .checkOpen fun _ => .bind (.liftExcept _) fun _ =>
            .bind (callTrie_preserves_assigned _ _) fun _ => .ite (.throw _) (.pure _)
      | lookup addr =>
          exact .map _ (.bind .checkOpen fun _ => .bind (.liftExcept _) fun _ =>
            .bind (callTrie_preserves_assigned _ _) fun _ => .pure _)
      | lookupBatch addrs =>
          exact .map _ (.bind .checkOpen fun _ => .ite (.pure _) (.bind (.liftExcept _) fun _ =>
            .bind (callTrie_preserves_assigned _ _) fun _ => .pure _))
      | enter => exact .pure _
      | close => exact close_preserves_assigned engine
      | exit => exact .map _ (.bind (close_preserves_assigned engine) fun _ => .pure _)
      | del =>
          exact .bind .get fun _ =>
            .ite (.bind .readClosed fun _ => .ite (close_preserves_assigned engine) (.pure _)) (.pure _)
  | closed => exact .map _ .readClosed
  | algorithm => exact .map _ (readTrie_preserves_assigned _ _)
  | numPrefixes => exact .map _ (readTrie_preserves_assigned _ _)
  | numNodes => exact .map _ (readTrie_preserves_assigned _ _)
  | numWideNodes => exact .ite (.map _ (readTrie_preserves_assigned _ _)) (.throw _)
  | repr =>
      exact .map _ (.bind .readClosed fun _ => .bind (readTrie_preserves_assigned _ _) fun _ =>
        .bind (readTrie_preserves_assigned _ _) fun _ => .pure _)

/-- The objects a caller can hold: one a constructor returned, then after any public operation,
whether that operation returned or raised. -/
inductive Reachable (wideNodes : Bool) : Table σ → Prop
  | constructed {algorithm : AlgorithmArg} {table : Table σ}
      (built : (init family engine algorithm).run Table.new = .ok () table) : Reachable wideNodes table
  | step {table : Table σ} (reached : Reachable wideNodes table) (operation : Operation width) :
      Reachable wideNodes
        (stateAfter ((runOperation family engine lib stats strRepr wideNodes operation).run table))

/-- On every object a caller can hold, both slots are assigned. -/
theorem Reachable.assigned {wideNodes : Bool} {table : Table σ}
    (reached : Reachable family engine lib stats strRepr wideNodes table) : Assigned table := by
  induction reached with
  | constructed built =>
      obtain ⟨_, _, rfl⟩ := init_run_ok family engine built
      exact ⟨rfl, rfl⟩
  | step _ operation assigned =>
      exact runOperation_preserves_assigned family engine lib stats strRepr _ operation _ assigned

end Methods

end LpmTable

end Liblpm
