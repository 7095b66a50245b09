import Liblpm.Construction.Table

/-! One run lemma for each step the methods are made of. -/

namespace Liblpm

section Monad
variable {ε σ α β : Type}

@[simp] theorem run_pure (value : α) (state : σ) :
    (pure value : EStateM ε σ α).run state = .ok value state := rfl

@[simp] theorem run_throw (error : ε) (state : σ) :
    (throw error : EStateM ε σ α).run state = .error error state := rfl

@[simp] theorem run_get (state : σ) : (get : EStateM ε σ σ).run state = .ok state state := rfl

@[simp] theorem run_set (state next : σ) :
    (set next : EStateM ε σ PUnit).run state = .ok ⟨⟩ next := rfl

@[simp] theorem run_modify (change : σ → σ) (state : σ) :
    (modify change : EStateM ε σ PUnit).run state = .ok ⟨⟩ (change state) := rfl

theorem run_bind (program : EStateM ε σ α) (next : α → EStateM ε σ β) (state : σ) :
    (program >>= next).run state =
      match program.run state with
      | .ok value after => (next value).run after
      | .error error after => .error error after := rfl

@[simp] theorem run_map (change : α → β) (program : EStateM ε σ α) (state : σ) :
    (change <$> program).run state =
      match program.run state with
      | .ok value after => .ok (change value) after
      | .error error after => .error error after := rfl

/-- A program that returns hands its value and state to the rest. -/
theorem run_bind_ok {program : EStateM ε σ α} {state after : σ} {value : α}
    (returned : program.run state = .ok value after) (next : α → EStateM ε σ β) :
    (program >>= next).run state = (next value).run after := by
  rw [run_bind, returned]

/-- A program that raises skips the rest. -/
theorem run_bind_error {program : EStateM ε σ α} {state after : σ} {error : ε}
    (raised : program.run state = .error error after) (next : α → EStateM ε σ β) :
    (program >>= next).run state = .error error after := by
  rw [run_bind, raised]

@[simp] theorem run_liftExcept_ok (value : α) (state : σ) :
    (liftExcept (Except.ok value : Except ε α) : EStateM ε σ α).run state = .ok value state := rfl

@[simp] theorem run_liftExcept_error (error : ε) (state : σ) :
    (liftExcept (Except.error error : Except ε α) : EStateM ε σ α).run state = .error error state := rfl

/-- `try`/`except` hands a value on and runs the handler on an error, from the state it left. -/
theorem run_tryCatch (program : EStateM ε σ α) (handle : ε → EStateM ε σ α) (state : σ) :
    (tryCatch program handle : EStateM ε σ α).run state =
      match program.run state with
      | .ok value after => .ok value after
      | .error error after => (handle error).run after := by
  show (match program state with
      | .error error after => handle error after
      | returned => returned) =
    match program state with
    | .ok value after => .ok value after
    | .error error after => (handle error).run after
  cases program state <;> rfl

@[simp] theorem stateAfter_ok (value : α) (state : σ) :
    stateAfter (EStateM.Result.ok value state : EStateM.Result ε σ α) = state := rfl

@[simp] theorem stateAfter_error (error : ε) (state : σ) :
    stateAfter (EStateM.Result.error error state : EStateM.Result ε σ α) = state := rfl

@[simp] theorem stateAfter_map (change : α → β) (program : EStateM ε σ α) (state : σ) :
    stateAfter ((change <$> program).run state) = stateAfter (program.run state) := by
  rw [run_map]
  cases program.run state <;> rfl

end Monad

namespace LpmTable

section Slots
variable {σ α : Type} {table : Table σ}

theorem readClosed_run_assigned {closed : Bool} (assigned : table.closed = some closed) :
    readClosed.run table = .ok closed table := by
  simp [readClosed, run_bind, assigned]

theorem readClosed_run_unassigned (unassigned : table.closed = none) :
    readClosed.run table = .error (.attributeError "_closed") table := by
  simp [readClosed, run_bind, unassigned]

/-- The guard passes on an open table. -/
theorem checkOpen_run_open (isOpen : table.closed = some false) :
    checkOpen.run table = .ok () table := by
  simp [checkOpen, run_bind, readClosed_run_assigned isOpen]

/-- The guard raises `LpmClosedError` on a closed table, before any engine call. -/
theorem checkOpen_run_closed (isClosed : table.closed = some true) :
    checkOpen.run table = .error (.lpmClosedError "Table is closed") table := by
  simp [checkOpen, run_bind, readClosed_run_assigned isClosed]

theorem checkOpen_run_unassigned (unassigned : table.closed = none) :
    checkOpen.run table = .error (.attributeError "_closed") table := by
  simp [checkOpen, run_bind, readClosed_run_unassigned unassigned]

/-- An engine call replaces the handle's state and joins the record. -/
theorem callTrie_run_assigned {trie : σ} (assigned : table.trie = some trie) (call : EngineCall)
    (method : σ → α × σ) :
    (callTrie call method).run table =
      .ok (method trie).1 { table with trie := some (method trie).2, calls := table.calls ++ [call] } := by
  simp [callTrie, run_bind, assigned]

theorem callTrie_run_unassigned (unassigned : table.trie = none) (call : EngineCall)
    (method : σ → α × σ) :
    (callTrie call method).run table = .error (.attributeError "_trie") table := by
  simp [callTrie, run_bind, unassigned]

/-- A property read records the read and answers what the handle answers. -/
theorem readTrie_run_assigned {trie : σ} (assigned : table.trie = some trie) (call : EngineCall)
    (read : σ → Except PyException α) :
    (readTrie call read).run table =
      (liftExcept (read trie) : EStateM PyException (Table σ) α).run
        { table with calls := table.calls ++ [call] } := by
  simp [readTrie, run_bind, assigned]

/-- A property read on an object without `_trie` raises `AttributeError`. -/
theorem readTrie_run_unassigned (unassigned : table.trie = none) (call : EngineCall)
    (read : σ → Except PyException α) :
    (readTrie call read).run table = .error (.attributeError "_trie") table := by
  simp [readTrie, run_bind, unassigned]

end Slots

section Methods
variable {σ Input : Type} {width : Nat} (family : Family width Input) (engine : Engine σ Input)
  (lib : Ipaddress width) {table : Table σ}

/-- Once the name check passes, `__init__` raises exactly what the engine's constructor raises. -/
theorem init_run_accepted (algorithm : AlgorithmArg)
    (accepted : algorithm.algoStr ∈ [family.algorithms.1, family.algorithms.2]) (table : Table σ) :
    (init family engine algorithm).run table =
      match engine.create algorithm.algoStr with
      | .ok trie => .ok () { table with trie := some trie, closed := some false }
      | .error error => .error error table := by
  rw [init, if_neg (not_not.mpr accepted)]
  cases engine.create algorithm.algoStr <;> simp [run_bind]

/-- The constructor either raises with the object untouched, or assigns both slots. -/
theorem init_run_cases (algorithm : AlgorithmArg) (table : Table σ) :
    (∃ error, (init family engine algorithm).run table = .error error table) ∨
      ∃ trie, engine.create algorithm.algoStr = .ok trie ∧
        (init family engine algorithm).run table = .ok () { table with trie := some trie, closed := some false } := by
  by_cases accepted : algorithm.algoStr ∈ [family.algorithms.1, family.algorithms.2]
  · rw [init_run_accepted family engine algorithm accepted]
    cases engine.create algorithm.algoStr with
    | error error => exact .inl ⟨error, rfl⟩
    | ok trie => exact .inr ⟨trie, rfl, rfl⟩
  · exact .inl ⟨_, by rw [init, if_pos accepted]; rfl⟩

/-- A constructor call that returned leaves the engine's new handle, open, with no engine call. -/
theorem init_run_ok {algorithm : AlgorithmArg} {table : Table σ}
    (built : (init family engine algorithm).run Table.new = .ok () table) :
    ∃ trie, engine.create algorithm.algoStr = .ok trie ∧
      table = { trie := some trie, closed := some false, calls := [] } := by
  rcases init_run_cases family engine algorithm Table.new with ⟨_, raised⟩ | ⟨trie, created, ran⟩
  · rw [raised] at built
    cases built
  · rw [ran] at built
    cases built
    exact ⟨trie, created, rfl⟩

/-- `insert` on a closed table raises `LpmClosedError` with the object unchanged. -/
theorem insert_run_closed (isClosed : table.closed = some true) (cidr : PrefixArg width)
    (nextHop : Int) :
    (insert family engine lib cidr nextHop).run table = .error (.lpmClosedError "Table is closed") table :=
  run_bind_error (checkOpen_run_closed isClosed) _

/-- `delete` on a closed table raises `LpmClosedError` with the object unchanged. -/
theorem delete_run_closed (isClosed : table.closed = some true) (cidr : PrefixArg width) :
    (delete family engine lib cidr).run table = .error (.lpmClosedError "Table is closed") table :=
  run_bind_error (checkOpen_run_closed isClosed) _

/-- `lookup` on a closed table raises `LpmClosedError` with the object unchanged. -/
theorem lookup_run_closed (isClosed : table.closed = some true) (addr : AddressArg width) :
    (lookup family engine lib addr).run table = .error (.lpmClosedError "Table is closed") table :=
  run_bind_error (checkOpen_run_closed isClosed) _

/-- `lookup_batch` on a closed table raises `LpmClosedError` with the object unchanged. -/
theorem lookupBatch_run_closed (isClosed : table.closed = some true) (addrs : List (AddressArg width)) :
    (lookupBatch family engine lib addrs).run table = .error (.lpmClosedError "Table is closed") table :=
  run_bind_error (checkOpen_run_closed isClosed) _

/-- `close` on a closed table returns with the object unchanged. -/
theorem close_run_closed (isClosed : table.closed = some true) :
    (close engine).run table = .ok () table := by
  simp [close, run_bind, readClosed_run_assigned isClosed]

/-- `close` on an open table closes the handle once and sets `_closed`. -/
theorem close_run_open {trie : σ} (isOpen : table.closed = some false) (assigned : table.trie = some trie) :
    (close engine).run table =
      .ok () { table with
        trie := some (engine.close trie), closed := some true, calls := table.calls ++ [.close] } := by
  simp [close, run_bind, readClosed_run_assigned isOpen, callTrie_run_assigned assigned]

/-- `close` reaches the engine only from an open table holding a handle; otherwise it changes nothing. -/
theorem close_run_cases (table : Table σ) :
    (table.closed = some false ∧ ∃ trie, table.trie = some trie ∧
      (close engine).run table =
        .ok () { table with
          trie := some (engine.close trie), closed := some true, calls := table.calls ++ [.close] }) ∨
    stateAfter ((close engine).run table) = table := by
  rcases closed : table.closed with _ | _ | _
  · simp [close, run_bind, readClosed_run_unassigned closed]
  · cases assigned : table.trie with
    | none => simp [close, run_bind, readClosed_run_assigned closed, callTrie_run_unassigned assigned]
    | some trie => exact .inl ⟨rfl, trie, rfl, close_run_open engine closed assigned⟩
  · simp [close_run_closed engine closed]

/-- `__exit__` is `close`, returning `False`. -/
theorem exit_run (table : Table σ) :
    (exit engine).run table =
      match (close engine).run table with
      | .ok _ after => .ok false after
      | .error error after => .error error after := by
  simp only [exit, run_bind]
  cases (close engine).run table <;> rfl

/-- `__del__` on an object without `_trie` does nothing. -/
theorem del_run_unassigned (unassigned : table.trie = none) : (del engine).run table = .ok () table := by
  simp [del, run_bind, unassigned]

/-- `__del__` on a closed table does nothing. -/
theorem del_run_closed (isClosed : table.closed = some true) : (del engine).run table = .ok () table := by
  cases assigned : table.trie <;>
    simp [del, run_bind, assigned, readClosed_run_assigned isClosed]

/-- `__del__` on an object with `_trie` closes it unless `_closed` says it is closed. -/
theorem del_run_assigned {trie : σ} (assigned : table.trie = some trie) :
    (del engine).run table = (readClosed >>= fun closed => if !closed then close engine else pure ()).run table := by
  simp [del, run_bind, assigned]

/-- `insert` on an open table: the range check, the prefix conversion, then the engine's `add` and
its status. -/
theorem insert_run_open {trie : σ} (isOpen : table.closed = some false)
    (assigned : table.trie = some trie) (cidr : PrefixArg width) (nextHop : Int) :
    (insert family engine lib cidr nextHop).run table =
      if ¬(0 ≤ nextHop ∧ nextHop ≤ 0xFFFFFFFF) then
        .error (.valueError s!"next_hop must be 0-4294967295, got {nextHop}") table
      else
        match toNetwork family lib cidr with
        | .error error => .error error table
        | .ok network =>
            let added := engine.add trie network.networkAddress.packed network.prefixlen nextHop.toNat
            let after : Table σ := { table with trie := some added.2, calls := table.calls ++ [.add] }
            if added.1 ≠ 0 then
              .error (.lpmInsertError "Failed to insert prefix" (some (lib.networkText network)) (some nextHop)) after
            else .ok () after := by
  rw [insert, run_bind_ok (checkOpen_run_open isOpen), checkNextHop]
  split
  · rfl
  · rw [run_bind_ok (run_pure () table)]
    cases toNetwork family lib cidr with
    | error error => rfl
    | ok network =>
        rw [run_bind_ok (run_liftExcept_ok network table), run_bind_ok (callTrie_run_assigned assigned _ _)]
        by_cases status : (engine.add trie network.networkAddress.packed network.prefixlen nextHop.toNat).1 = 0 <;>
          simp [status]

/-- `delete` on an open table: the prefix conversion, then the engine's `delete` and its status. -/
theorem delete_run_open {trie : σ} (isOpen : table.closed = some false)
    (assigned : table.trie = some trie) (cidr : PrefixArg width) :
    (delete family engine lib cidr).run table =
      match toNetwork family lib cidr with
      | .error error => .error error table
      | .ok network =>
          let removed := engine.delete trie network.networkAddress.packed network.prefixlen
          let after : Table σ := { table with trie := some removed.2, calls := table.calls ++ [.delete] }
          if removed.1 ≠ 0 then
            .error (.lpmDeleteError "Failed to delete prefix" (some (lib.networkText network))) after
          else .ok () after := by
  rw [delete, run_bind_ok (checkOpen_run_open isOpen)]
  cases toNetwork family lib cidr with
  | error error => rfl
  | ok network =>
      rw [run_bind_ok (run_liftExcept_ok network table), run_bind_ok (callTrie_run_assigned assigned _ _)]
      by_cases status : (engine.delete trie network.networkAddress.packed network.prefixlen).1 = 0 <;>
        simp [status]

/-- `lookup` on an open table answers the engine's lookup of the converted address, the sentinel
read as `None`. -/
theorem lookup_outcome_open {trie : σ} (isOpen : table.closed = some false)
    (assigned : table.trie = some trie) (addr : AddressArg width) :
    outcome ((lookup family engine lib addr).run table) =
      (toAddress lib addr).map fun address => toNextHop (engine.lookup trie (family.toInput address)) := by
  rw [lookup, run_bind_ok (checkOpen_run_open isOpen)]
  cases converted : toAddress lib addr <;>
    simp [run_bind, converted, callTrie_run_assigned assigned, outcome, Except.map]

/-- `lookup` leaves both slots of an open table as they were. -/
theorem lookup_slots_open {trie : σ} (isOpen : table.closed = some false)
    (assigned : table.trie = some trie) (addr : AddressArg width) :
    (stateAfter ((lookup family engine lib addr).run table)).trie = table.trie ∧
      (stateAfter ((lookup family engine lib addr).run table)).closed = table.closed := by
  rw [lookup, run_bind_ok (checkOpen_run_open isOpen)]
  cases toAddress lib addr <;> simp [run_bind, callTrie_run_assigned assigned, assigned]

/-- `lookup_batch` on an open table answers the engine's batch over the converted addresses and a
zeroed buffer. -/
theorem lookupBatch_outcome_open {trie : σ} (isOpen : table.closed = some false)
    (assigned : table.trie = some trie) (addrs : List (AddressArg width)) :
    outcome ((lookupBatch family engine lib addrs).run table) =
      if addrs.isEmpty then .ok []
      else (convertAll family lib addrs).map fun inputs =>
        (engine.lookupBatch trie inputs (List.replicate addrs.length 0)).map toNextHop := by
  rw [lookupBatch, run_bind_ok (checkOpen_run_open isOpen)]
  split
  · rfl
  · cases convertAll family lib addrs <;>
      simp [run_bind, callTrie_run_assigned assigned, outcome, Except.map]

/-- `lookup_batch` leaves both slots of an open table as they were. -/
theorem lookupBatch_slots_open {trie : σ} (isOpen : table.closed = some false)
    (assigned : table.trie = some trie) (addrs : List (AddressArg width)) :
    (stateAfter ((lookupBatch family engine lib addrs).run table)).trie = table.trie ∧
      (stateAfter ((lookupBatch family engine lib addrs).run table)).closed = table.closed := by
  rw [lookupBatch, run_bind_ok (checkOpen_run_open isOpen)]
  split
  · exact ⟨rfl, rfl⟩
  · cases convertAll family lib addrs <;> simp [run_bind, callTrie_run_assigned assigned, assigned]

end Methods

/-- The members of `Algorithm` each class's `__init__` accepts: `STRIDE8` for both, `DIR24` for
`LpmTableIPv4` only and `WIDE16` for `LpmTableIPv6` only, so each default passes its own check. -/
theorem member_accepted_iff (algorithm : Algorithm) :
    ((AlgorithmArg.member algorithm).algoStr ∈ [ipv4.algorithms.1, ipv4.algorithms.2] ↔
        algorithm ≠ .WIDE16) ∧
      ((AlgorithmArg.member algorithm).algoStr ∈ [ipv6.algorithms.1, ipv6.algorithms.2] ↔
        algorithm ≠ .DIR24) := by
  cases algorithm <;> decide

end LpmTable

end Liblpm
