import Liblpm.Proof.Reachable
import Liblpm.Proof.Batch

/-! What each public operation raises, every check coming before the engine call. -/

namespace Liblpm

section Except
variable {ε α β : Type}

/-- A failing `mapM` in `Except` raises what one of the items raised. -/
theorem mapM_except_error (convert : α → Except ε β) (items : List α) {error : ε}
    (raised : items.mapM convert = .error error) : ∃ item ∈ items, convert item = .error error := by
  induction items with
  | nil => cases raised
  | cons item items inductionHypothesis =>
      simp only [List.mapM_cons, bind, Except.bind] at raised
      split at raised
      · rename_i first converted
        cases raised
        exact ⟨item, List.mem_cons_self _ _, converted⟩
      · split at raised
        · rename_i later rest
          cases raised
          obtain ⟨found, inside, failed⟩ := inductionHypothesis rest
          exact ⟨found, List.mem_cons_of_mem _ inside, failed⟩
        · cases raised

end Except

namespace LpmTable

section Conversions
variable {σ Input : Type} {width : Nat} (family : Family width Input) (lib : Ipaddress width)

/-- Every refusal of a prefix argument is an `LpmInvalidPrefixError`. -/
theorem toNetwork_error_class {cidr : PrefixArg width} {error : PyException}
    (refused : toNetwork family lib cidr = .error error) :
    error.exceptionClass = .LpmInvalidPrefixError := by
  cases cidr with
  | network given => cases refused
  | text text =>
      simp only [toNetwork] at refused
      split at refused <;> cases refused
      rfl
  | other typeName =>
      cases refused
      rfl

/-- Every refusal of an address argument is the `AddressValueError` of parsing a string. -/
theorem toAddress_error_class {addr : AddressArg width} {error : PyException}
    (refused : toAddress lib addr = .error error) : error.exceptionClass = .AddressValueError := by
  cases addr with
  | address given => cases refused
  | text text =>
      simp only [toAddress] at refused
      cases parsed : lib.address text <;> rw [parsed] at refused <;> cases refused
      rfl

/-- The conversion loop of `lookup_batch` raises only what converting an address raises, when
the buffer takes every address. -/
theorem convertAll_error_class
    (appends : ∀ converted address,
      family.append converted (family.toInput address) = .ok (converted ++ [family.toInput address]))
    {addrs : List (AddressArg width)} {error : PyException}
    (refused : convertAll family lib addrs = .error error) : error.exceptionClass = .AddressValueError := by
  rw [convertAll_eq_mapM family lib appends] at refused
  obtain ⟨addr, _, failed⟩ := mapM_except_error _ addrs refused
  cases converted : toAddress lib addr <;> rw [converted] at failed <;> cases failed
  exact toAddress_error_class lib converted

end Conversions

section Ends
variable {σ α : Type} (call : EngineCall) (early late : List ExceptionClass) (table : Table σ)

/-- An end of a method that leaves the object as it was and raises only one of `early`. -/
def EndsUnchanged (result : EStateM.Result PyException (Table σ) α) : Prop :=
  stateAfter result = table ∧ ∀ error, outcome result = .error error → error.exceptionClass ∈ early

/-- An end of a method after its single engine call `call`, which replaced the handle's state,
raising only one of `late`. -/
def EndsAfterCall (result : EStateM.Result PyException (Table σ) α) : Prop :=
  ∃ trie, stateAfter result = { table with trie := some trie, calls := table.calls ++ [call] } ∧
    ∀ error, outcome result = .error error → error.exceptionClass ∈ late

/-- A method that checks everything it checks before it calls the engine: on an object whose slots
are assigned it either raises one of `early` or returns with the object untouched, or makes the
one engine call `call` and then raises only one of `late`. -/
def ChecksThenCalls (program : EStateM PyException (Table σ) α) : Prop :=
  ∀ table, Assigned table →
    EndsUnchanged early table (program.run table) ∨ EndsAfterCall call late table (program.run table)

variable {call early late table}

theorem EndsUnchanged.error {error : PyException} (listed : error.exceptionClass ∈ early) :
    EndsUnchanged early table (.error error table : EStateM.Result PyException (Table σ) α) :=
  ⟨rfl, by rintro _ ⟨⟩; exact listed⟩

theorem EndsUnchanged.ok (value : α) : EndsUnchanged early table (.ok value table) :=
  ⟨rfl, by rintro _ ⟨⟩⟩

theorem EndsAfterCall.ok (value : α) (trie : σ) :
    EndsAfterCall call late table
      (.ok value { table with trie := some trie, calls := table.calls ++ [call] }) :=
  ⟨trie, rfl, by rintro _ ⟨⟩⟩

/-- The status check after an engine call raises one error with the object the call left. -/
theorem EndsAfterCall.status (failed : Prop) [Decidable failed] {error : PyException} (trie : σ)
    (listed : error.exceptionClass ∈ late) :
    EndsAfterCall call late table
      (if failed then .error error { table with trie := some trie, calls := table.calls ++ [call] }
        else .ok () { table with trie := some trie, calls := table.calls ++ [call] }) := by
  split
  · exact ⟨trie, rfl, by rintro _ ⟨⟩; exact listed⟩
  · exact .ok () trie

/-- Whatever such a method raises is one of `early` or one of `late`. -/
theorem ChecksThenCalls.raises {program : EStateM PyException (Table σ) α}
    (checks : ChecksThenCalls call early late program) (held : Assigned table) {error : PyException}
    (raised : outcome (program.run table) = .error error) : error.exceptionClass ∈ early ++ late := by
  rcases checks table held with ⟨_, only⟩ | ⟨_, _, only⟩
  · exact List.mem_append_left _ (only error raised)
  · exact List.mem_append_right _ (only error raised)

end Ends

section Methods
variable {σ Input : Type} {width : Nat} (family : Family width Input) (engine : Engine σ Input)
  (lib : Ipaddress width)

/-- `insert` rejects a closed table, a next hop out of range and a refused prefix before it calls
`add`, and after it raises only for the engine's status. -/
theorem insert_checksThenCalls (cidr : PrefixArg width) (nextHop : Int) :
    ChecksThenCalls .add [.LpmClosedError, .ValueError, .LpmInvalidPrefixError] [.LpmInsertError]
      (insert family engine lib cidr nextHop : EStateM PyException (Table σ) Unit) := by
  intro table held
  obtain ⟨trie, assigned⟩ := Option.isSome_iff_exists.mp held.1
  obtain ⟨closed, flag⟩ := Option.isSome_iff_exists.mp held.2
  cases closed
  · rw [insert_run_open family engine lib flag assigned]
    split
    · exact .inl (.error (by simp [PyException.exceptionClass]))
    · cases converted : toNetwork family lib cidr with
      | error refused => exact .inl (.error (by simp [toNetwork_error_class family lib converted]))
      | ok network => exact .inr (.status _ _ (by simp [PyException.exceptionClass]))
  · rw [insert_run_closed family engine lib flag]
    exact .inl (.error (by simp [PyException.exceptionClass]))

/-- `delete` rejects a closed table and a refused prefix before it calls the engine's `delete`,
and after it raises only for the engine's status. -/
theorem delete_checksThenCalls (cidr : PrefixArg width) :
    ChecksThenCalls .delete [.LpmClosedError, .LpmInvalidPrefixError] [.LpmDeleteError]
      (delete family engine lib cidr : EStateM PyException (Table σ) Unit) := by
  intro table held
  obtain ⟨trie, assigned⟩ := Option.isSome_iff_exists.mp held.1
  obtain ⟨closed, flag⟩ := Option.isSome_iff_exists.mp held.2
  cases closed
  · rw [delete_run_open family engine lib flag assigned]
    cases converted : toNetwork family lib cidr with
    | error refused => exact .inl (.error (by simp [toNetwork_error_class family lib converted]))
    | ok network => exact .inr (.status _ _ (by simp [PyException.exceptionClass]))
  · rw [delete_run_closed family engine lib flag]
    exact .inl (.error (by simp [PyException.exceptionClass]))

/-- `lookup` rejects a closed table and a refused address before it calls the engine, and never
raises after it. -/
theorem lookup_checksThenCalls (addr : AddressArg width) :
    ChecksThenCalls .lookup [.LpmClosedError, .AddressValueError] []
      (lookup family engine lib addr : EStateM PyException (Table σ) (Option Int)) := by
  intro table held
  obtain ⟨trie, assigned⟩ := Option.isSome_iff_exists.mp held.1
  obtain ⟨closed, flag⟩ := Option.isSome_iff_exists.mp held.2
  cases closed
  · rw [lookup, run_bind_ok (checkOpen_run_open flag)]
    cases converted : toAddress lib addr with
    | error refused =>
        rw [run_bind_error (run_liftExcept_error refused table)]
        exact .inl (.error (by simp [toAddress_error_class lib converted]))
    | ok address =>
        rw [run_bind_ok (run_liftExcept_ok address table), run_bind_ok (callTrie_run_assigned assigned _ _)]
        exact .inr (.ok _ trie)
  · rw [lookup_run_closed family engine lib flag]
    exact .inl (.error (by simp [PyException.exceptionClass]))

/-- `lookup_batch`, when the buffer takes every address, rejects a closed table and a refused
address before it calls the engine, answers an empty batch without calling it, and never raises
after it. -/
theorem lookupBatch_checksThenCalls
    (appends : ∀ converted address,
      family.append converted (family.toInput address) = .ok (converted ++ [family.toInput address]))
    (addrs : List (AddressArg width)) :
    ChecksThenCalls .lookupBatch [.LpmClosedError, .AddressValueError] []
      (lookupBatch family engine lib addrs : EStateM PyException (Table σ) (List (Option Int))) := by
  intro table held
  obtain ⟨trie, assigned⟩ := Option.isSome_iff_exists.mp held.1
  obtain ⟨closed, flag⟩ := Option.isSome_iff_exists.mp held.2
  cases closed
  · rw [lookupBatch, run_bind_ok (checkOpen_run_open flag)]
    split
    · exact .inl (.ok _)
    · cases converted : convertAll family lib addrs with
      | error refused =>
          rw [run_bind_error (run_liftExcept_error refused table)]
          exact .inl (.error (by simp [convertAll_error_class family lib appends converted]))
      | ok inputs =>
          rw [run_bind_ok (run_liftExcept_ok inputs table), run_bind_ok (callTrie_run_assigned assigned _ _)]
          exact .inr (.ok _ trie)
  · rw [lookupBatch_run_closed family engine lib flag]
    exact .inl (.error (by simp [PyException.exceptionClass]))

variable {table : Table σ}

/-- `close` returns on every object whose slots are assigned, leaving `_closed` true. -/
theorem close_run_closes (held : Assigned table) :
    ∃ after, (close engine).run table = .ok () after ∧ after.closed = some true := by
  obtain ⟨trie, assigned⟩ := Option.isSome_iff_exists.mp held.1
  obtain ⟨closed, flag⟩ := Option.isSome_iff_exists.mp held.2
  cases closed
  · exact ⟨_, close_run_open engine flag assigned, rfl⟩
  · exact ⟨table, close_run_closed engine flag, flag⟩

theorem close_returns (held : Assigned table) : ∃ after, (close engine).run table = .ok () after :=
  (close_run_closes engine held).imp fun _ => And.left

theorem del_returns (held : Assigned table) : ∃ after, (del engine).run table = .ok () after := by
  obtain ⟨trie, assigned⟩ := Option.isSome_iff_exists.mp held.1
  obtain ⟨closed, flag⟩ := Option.isSome_iff_exists.mp held.2
  obtain ⟨after, closes⟩ := close_returns engine held
  rw [del_run_assigned engine assigned, run_bind_ok (readClosed_run_assigned flag)]
  cases closed
  · exact ⟨after, closes⟩
  · exact ⟨table, rfl⟩

end Methods

section Properties
variable {σ Input : Type} {width : Nat} (family : Family width Input) (stats : EngineStats σ)
  (strRepr : String → String) {table : Table σ}

/-- A property read on an object holding a handle raises only what the handle's property raises. -/
theorem readTrie_raises {α : Type} {trie : σ} (assigned : table.trie = some trie) (call : EngineCall)
    (read : σ → Except PyException α) {error : PyException}
    (raised : outcome ((readTrie call read).run table) = .error error) : read trie = .error error := by
  rw [readTrie_run_assigned assigned] at raised
  cases answered : read trie <;> rw [answered] at raised <;> cases raised
  rfl

/-- `__repr__` on an object whose slots are assigned raises only what the handle's `algorithm`
or `num_prefixes` raises. -/
theorem repr_raises {trie : σ} (held : Assigned table) (assigned : table.trie = some trie)
    {error : PyException} (raised : outcome ((repr family stats strRepr).run table) = .error error) :
    stats.algorithm trie = .error error ∨ stats.numPrefixes trie = .error error := by
  obtain ⟨closed, flag⟩ := Option.isSome_iff_exists.mp held.2
  cases named : stats.algorithm trie with
  | error reason =>
      simp [repr, run_bind, readClosed_run_assigned flag, LpmTable.algorithm, readTrie, assigned, named,
        outcome] at raised
      exact .inl (raised ▸ rfl)
  | ok name =>
      cases counted : stats.numPrefixes trie with
      | error reason =>
          simp [repr, run_bind, readClosed_run_assigned flag, LpmTable.algorithm, LpmTable.numPrefixes,
            readTrie, assigned, named, counted, outcome] at raised
          exact .inr (raised ▸ rfl)
      | ok prefixes =>
          simp [repr, run_bind, readClosed_run_assigned flag, LpmTable.algorithm, LpmTable.numPrefixes,
            readTrie, assigned, named, counted, outcome] at raised

end Properties

section Contract
variable {σ Input : Type} {width : Nat} (family : Family width Input) (engine : Engine σ Input)
  (lib : Ipaddress width) (stats : EngineStats σ) (strRepr : String → String) (wideNodes : Bool)

/-- What each public operation can raise on an object a caller holds: `insert`, `delete`,
`lookup` and `lookup_batch` raise only the classes listed, `close`, `__exit__`, `__del__` and
`closed` never raise, and the property reads raise only what the handle's properties raise. -/
structure RaisesOnly : Prop where
  insert_raises : ∀ table, Reachable family engine lib stats strRepr wideNodes table →
    ∀ cidr nextHop error, outcome ((insert family engine lib cidr nextHop).run table) = .error error →
      error.exceptionClass ∈
        [ExceptionClass.LpmClosedError, .ValueError, .LpmInvalidPrefixError, .LpmInsertError]
  delete_raises : ∀ table, Reachable family engine lib stats strRepr wideNodes table →
    ∀ cidr error, outcome ((delete family engine lib cidr).run table) = .error error →
      error.exceptionClass ∈ [ExceptionClass.LpmClosedError, .LpmInvalidPrefixError, .LpmDeleteError]
  lookup_raises : ∀ table, Reachable family engine lib stats strRepr wideNodes table →
    ∀ addr error, outcome ((lookup family engine lib addr).run table) = .error error →
      error.exceptionClass ∈ [ExceptionClass.LpmClosedError, .AddressValueError]
  lookupBatch_raises : ∀ table, Reachable family engine lib stats strRepr wideNodes table →
    ∀ addrs error, outcome ((lookupBatch family engine lib addrs).run table) = .error error →
      error.exceptionClass ∈ [ExceptionClass.LpmClosedError, .AddressValueError]
  lifecycle_returns : ∀ table, Reachable family engine lib stats strRepr wideNodes table →
    (∃ after, (close engine).run table = .ok () after) ∧
      (∃ after, (exit engine).run table = .ok false after) ∧
      (∃ after, (del engine).run table = .ok () after) ∧
      ∃ isClosed, (LpmTable.closed : EStateM PyException (Table σ) Bool).run table = .ok isClosed table
  properties_raise : ∀ table, Reachable family engine lib stats strRepr wideNodes table →
    ∃ trie, table.trie = some trie ∧ ∀ error,
      (outcome ((algorithm stats).run table) = .error error → stats.algorithm trie = .error error) ∧
      (outcome ((numPrefixes stats).run table) = .error error → stats.numPrefixes trie = .error error) ∧
      (outcome ((numNodes stats).run table) = .error error → stats.numNodes trie = .error error) ∧
      (outcome ((repr family stats strRepr).run table) = .error error →
        stats.algorithm trie = .error error ∨ stats.numPrefixes trie = .error error)

/-- Each class whose batch buffer takes every address keeps the contract, over any engine. -/
theorem raisesOnly
    (appends : ∀ converted address,
      family.append converted (family.toInput address) = .ok (converted ++ [family.toInput address])) :
    RaisesOnly family engine lib stats strRepr wideNodes where
  insert_raises _ reached cidr nextHop _ :=
    (insert_checksThenCalls family engine lib cidr nextHop).raises reached.assigned
  delete_raises _ reached cidr _ := (delete_checksThenCalls family engine lib cidr).raises reached.assigned
  lookup_raises _ reached addr _ := (lookup_checksThenCalls family engine lib addr).raises reached.assigned
  lookupBatch_raises _ reached addrs _ :=
    (lookupBatch_checksThenCalls family engine lib appends addrs).raises reached.assigned
  lifecycle_returns table reached := by
    have held := reached.assigned
    obtain ⟨after, closes⟩ := close_returns engine held
    obtain ⟨isClosed, flag⟩ := Option.isSome_iff_exists.mp held.2
    exact ⟨⟨after, closes⟩, ⟨after, by rw [exit_run, closes]⟩, del_returns engine held,
      ⟨isClosed, readClosed_run_assigned flag⟩⟩
  properties_raise table reached := by
    have held := reached.assigned
    obtain ⟨trie, assigned⟩ := Option.isSome_iff_exists.mp held.1
    exact ⟨trie, assigned, fun _ => ⟨readTrie_raises assigned _ _, readTrie_raises assigned _ _,
      readTrie_raises assigned _ _, repr_raises family stats strRepr held assigned⟩⟩

end Contract

end LpmTable

/-- On every object a caller holds, of either class and over any engine, each public operation
raises only the exceptions listed: no slot read raises `AttributeError`, the IPv4 batch buffer
never raises `OverflowError`, and `close`, `__exit__`, `__del__` and `closed` never raise. -/
theorem operations_raise_only_listed {σ τ : Type} (engine4 : Engine σ Nat) (lib4 : Ipaddress 32)
    (stats4 : EngineStats σ) (engine6 : Engine τ (List UInt8)) (lib6 : Ipaddress 128)
    (stats6 : EngineStats τ) (strRepr : String → String) :
    LpmTable.RaisesOnly ipv4 engine4 lib4 stats4 strRepr false ∧
      LpmTable.RaisesOnly ipv6 engine6 lib6 stats6 strRepr true ∧
      ∀ table, LpmTable.Reachable ipv6 engine6 lib6 stats6 strRepr true table →
        ∃ trie, table.trie = some trie ∧ ∀ error,
          outcome ((LpmTableIPv6.numWideNodes stats6).run table) = .error error →
            stats6.numWideNodes trie = .error error :=
  ⟨LpmTable.raisesOnly ipv4 engine4 lib4 stats4 strRepr false LpmTable.ipv4_appends,
    LpmTable.raisesOnly ipv6 engine6 lib6 stats6 strRepr true LpmTable.ipv6_appends,
    fun _ reached => by
      obtain ⟨trie, assigned⟩ := Option.isSome_iff_exists.mp
        (LpmTable.Reachable.assigned ipv6 engine6 lib6 stats6 strRepr reached).1
      exact ⟨trie, assigned, fun _ => LpmTable.readTrie_raises assigned _ _⟩⟩

end Liblpm
