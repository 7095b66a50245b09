import Liblpm.Proof.Reachable

/-! After its close the engine handle receives nothing but property reads. -/

namespace Liblpm

/-- Whether an engine call only reads one of the handle's properties. -/
def EngineCall.isRead : EngineCall → Bool
  | .algorithm | .numPrefixes | .numNodes | .numWideNodes => true
  | _ => false

/-- Every call after the handle's close only reads one of its properties. -/
def ReadsAfterClose (calls : List EngineCall) : Prop :=
  ∀ before after, calls = before ++ .close :: after → ∀ call ∈ after, call.isRead

section Log
variable {calls : List EngineCall}

/-- A log without the handle's close has nothing after it. -/
theorem ReadsAfterClose.of_not_mem (absent : .close ∉ calls) : ReadsAfterClose calls :=
  fun before after split => (absent (by simp [split])).elim

/-- Closing a handle that was never closed leaves no call after the close. -/
theorem ReadsAfterClose.append_close (absent : .close ∉ calls) : ReadsAfterClose (calls ++ [.close]) := by
  intro before after split
  rcases List.eq_nil_or_concat after with empty | ⟨earlier, last, rfl⟩
  · simp [empty]
  · have same := List.append_inj'
      (show calls ++ [.close] = (before ++ .close :: earlier) ++ [last] by simpa using split) rfl
    exact absent.elim (by simp [same.1])

/-- Appending a property read keeps the log's shape. -/
theorem ReadsAfterClose.append_read (kept : ReadsAfterClose calls) {read : EngineCall}
    (isRead : read.isRead) : ReadsAfterClose (calls ++ [read]) := by
  intro before after split
  rcases List.eq_nil_or_concat after with empty | ⟨earlier, last, rfl⟩
  · simp [empty]
  · rw [List.concat_eq_append]
    have same := List.append_inj'
      (show calls ++ [read] = (before ++ .close :: earlier) ++ [last] by simpa using split) rfl
    intro call inside
    rcases List.mem_append.mp inside with early | final
    · exact kept before earlier same.1 call early
    · rw [List.mem_singleton.mp final, ← List.singleton_inj.mp same.2]
      exact isRead

end Log

namespace LpmTable

section Steps
variable {σ Input : Type} {width : Nat} (family : Family width Input) (engine : Engine σ Input)
  (lib : Ipaddress width) (stats : EngineStats σ) (strRepr : String → String) {table : Table σ}

/-- The invariant behind the log's shape: `_closed` tracks the handle's one close, after which only
property reads reach the handle. -/
def LogInvariant (table : Table σ) : Prop :=
  Lifecycle table ∧ ReadsAfterClose table.calls

/-- A property read appends only itself to the log, and leaves `_closed` as it is. -/
theorem readTrie_preserves_logInvariant {α : Type} {call : EngineCall} (isRead : call.isRead)
    (read : σ → Except PyException α) : Preserves LogInvariant (readTrie call read) := by
  intro table kept
  refine ⟨(readTrie_keepsLifecycle ?_ read).lifecycle kept.1, ?_⟩
  · rintro rfl
    exact Bool.false_ne_true isRead
  cases assigned : table.trie with
  | none => rw [readTrie_run_unassigned assigned]; exact kept.2
  | some trie =>
      rw [readTrie_run_assigned assigned]
      cases read trie <;> exact kept.2.append_read isRead

/-- A call on an open table whose log holds no close either closes the handle, last, or leaves
the log without a close. -/
theorem runCall_readsAfterClose (held : Assigned table) (kept : Lifecycle table)
    (log : ReadsAfterClose table.calls) (call : Call width) :
    ReadsAfterClose (stateAfter ((runCall family engine lib call).run table)).calls := by
  obtain ⟨trie, assigned⟩ := Option.isSome_iff_exists.mp held.1
  obtain ⟨closed, flag⟩ := Option.isSome_iff_exists.mp held.2
  cases closed
  · have absent : .close ∉ table.calls := by
      rw [Lifecycle, flag] at kept
      simpa [← List.count_pos_iff] using kept
    have unchanged : ∀ {α : Type} {program : EStateM PyException (Table σ) α}, KeepsLifecycle program →
        ReadsAfterClose (stateAfter (program.run table)).calls := fun keeps =>
      .of_not_mem fun present => absent (by
        rw [← List.count_pos_iff, ← (keeps.frame table).2]
        exact List.count_pos_iff.mpr present)
    cases call with
    | insert cidr nextHop => exact unchanged (insert_keepsLifecycle family engine lib cidr nextHop)
    | delete cidr => exact unchanged (delete_keepsLifecycle family engine lib cidr)
    | lookup addr => exact unchanged ((lookup_keepsLifecycle family engine lib addr).map _)
    | lookupBatch addrs => exact unchanged ((lookupBatch_keepsLifecycle family engine lib addrs).map _)
    | enter => exact log
    | close =>
        rw [runCall, close_run_open engine flag assigned]
        exact .append_close absent
    | exit =>
        simp only [runCall, stateAfter_map, exit_run, close_run_open engine flag assigned]
        exact .append_close absent
    | del =>
        rw [runCall, del_run_assigned engine assigned, run_bind_ok (readClosed_run_assigned flag)]
        simp only [Bool.not_false, if_true, close_run_open engine flag assigned]
        exact .append_close absent
  · rw [runCall_run_closed family engine lib flag]
    exact log

end Steps

section Log
variable {σ Input : Type} {width : Nat} (family : Family width Input) (engine : Engine σ Input)
  (lib : Ipaddress width) (stats : EngineStats σ) (strRepr : String → String)

/-- The engine-call log of an object: its handle closed at most once, `_closed` true exactly when
it was, and only property reads after its close. -/
structure HandleLog (table : Table σ) : Prop where
  closedAtMostOnce : table.calls.count .close ≤ 1
  closed_iff : table.closed = some true ↔ .close ∈ table.calls
  readsAfterClose : ∀ before after, table.calls = before ++ .close :: after →
    ∀ call ∈ after, call.isRead

/-- Every operation keeps the invariant behind the log's shape. -/
theorem runOperation_preserves_logInvariant {table : Table σ} (wideNodes : Bool) (held : Assigned table)
    (kept : LogInvariant table) (operation : Operation width) :
    LogInvariant (stateAfter ((runOperation family engine lib stats strRepr wideNodes operation).run table)) := by
  cases operation with
  | call call =>
      exact ⟨runCall_lifecycle family engine lib call kept.1,
        runCall_readsAfterClose family engine lib held kept.1 kept.2 call⟩
  | closed => exact Preserves.map _ .readClosed table kept
  | algorithm => exact Preserves.map _ (readTrie_preserves_logInvariant (by decide) _) table kept
  | numPrefixes => exact Preserves.map _ (readTrie_preserves_logInvariant (by decide) _) table kept
  | numNodes => exact Preserves.map _ (readTrie_preserves_logInvariant (by decide) _) table kept
  | numWideNodes =>
      exact Preserves.ite (.map _ (readTrie_preserves_logInvariant (by decide) _)) (.throw _) table kept
  | repr =>
      exact Preserves.map _ (.bind .readClosed fun _ =>
        .bind (readTrie_preserves_logInvariant (by decide) _) fun _ =>
          .bind (readTrie_preserves_logInvariant (by decide) _) fun _ => .pure _) table kept

/-- Every object a caller holds has the log's shape. -/
theorem Reachable.handleLog {wideNodes : Bool} {table : Table σ}
    (reached : Reachable family engine lib stats strRepr wideNodes table) : HandleLog table := by
  have invariant : LogInvariant table := by
    induction reached with
    | constructed built =>
        obtain ⟨_, _, rfl⟩ := init_run_ok family engine built
        exact ⟨rfl, .of_not_mem (List.not_mem_nil _)⟩
    | step reached operation invariant =>
        exact runOperation_preserves_logInvariant family engine lib stats strRepr _
          (Reachable.assigned family engine lib stats strRepr reached) invariant operation
  exact ⟨invariant.1.count_le, invariant.1.closed_iff, invariant.2⟩

end Log

end LpmTable

/-- Over any interleaving of the public operations of either class, property reads included, the
engine handle is closed at most once, `_closed` is true exactly when it was, and after its close
the handle receives nothing but property reads. -/
theorem handle_onlyRead_afterClose {σ τ : Type} (engine4 : Engine σ Nat) (lib4 : Ipaddress 32)
    (stats4 : EngineStats σ) (engine6 : Engine τ (List UInt8)) (lib6 : Ipaddress 128)
    (stats6 : EngineStats τ) (strRepr : String → String) :
    (∀ table, LpmTable.Reachable ipv4 engine4 lib4 stats4 strRepr false table → LpmTable.HandleLog table) ∧
      ∀ table, LpmTable.Reachable ipv6 engine6 lib6 stats6 strRepr true table → LpmTable.HandleLog table :=
  ⟨fun _ reached => LpmTable.Reachable.handleLog ipv4 engine4 lib4 stats4 strRepr reached,
    fun _ reached => LpmTable.Reachable.handleLog ipv6 engine6 lib6 stats6 strRepr reached⟩

end Liblpm
