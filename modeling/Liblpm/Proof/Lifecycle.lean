import Liblpm.Proof.Methods

/-! `_closed` tracks the engine handle's single close, and a closed table is inert. -/

namespace Liblpm

namespace LpmTable

section Frame
variable {σ α β : Type} {P : Table σ → Prop}

/-- A program after which the object still satisfies `P`, whether it returned or raised. -/
def Preserves (P : Table σ → Prop) (program : EStateM PyException (Table σ) α) : Prop :=
  ∀ table, P table → P (stateAfter (program.run table))

theorem Preserves.of_state {program : EStateM PyException (Table σ) α}
    (unchanged : ∀ table, stateAfter (program.run table) = table) : Preserves P program :=
  fun table held => by rw [unchanged]; exact held

theorem Preserves.pure (value : α) : Preserves P (Pure.pure value : EStateM PyException (Table σ) α) :=
  .of_state fun _ => rfl

theorem Preserves.throw (error : PyException) :
    Preserves P (MonadExcept.throw error : EStateM PyException (Table σ) α) :=
  .of_state fun _ => rfl

theorem Preserves.liftExcept (result : Except PyException α) :
    Preserves P (liftExcept result : EStateM PyException (Table σ) α) :=
  .of_state fun _ => by cases result <;> rfl

theorem Preserves.ite {condition : Prop} [Decidable condition]
    {yes no : EStateM PyException (Table σ) α} (onYes : Preserves P yes) (onNo : Preserves P no) :
    Preserves P (if condition then yes else no) := by
  split
  · exact onYes
  · exact onNo

/-- Two programs that keep `P`, one after the other, keep it. -/
theorem Preserves.bind {program : EStateM PyException (Table σ) α}
    {next : α → EStateM PyException (Table σ) β} (first : Preserves P program)
    (rest : ∀ value, Preserves P (next value)) : Preserves P (program >>= next) := by
  intro table held
  have after := first table held
  rw [run_bind]
  cases ran : program.run table with
  | ok value state => rw [ran] at after; exact rest value state after
  | error error state => rw [ran] at after; exact after

theorem Preserves.map {program : EStateM PyException (Table σ) α} (change : α → β)
    (kept : Preserves P program) : Preserves P (change <$> program) := by
  intro table held
  rw [stateAfter_map]
  exact kept table held

theorem Preserves.get : Preserves P (MonadState.get : EStateM PyException (Table σ) (Table σ)) :=
  .of_state fun _ => rfl

theorem Preserves.readClosed : Preserves P (readClosed : EStateM PyException (Table σ) Bool) :=
  .of_state fun table => by
    cases assigned : table.closed with
    | none => rw [readClosed_run_unassigned assigned]; rfl
    | some closed => rw [readClosed_run_assigned assigned]; rfl

theorem Preserves.checkOpen : Preserves P (checkOpen : EStateM PyException (Table σ) Unit) :=
  .bind .readClosed fun _ => .ite (.throw _) (.pure _)

/-- A program that leaves `_closed` as it is and makes no `close` call on the engine: it keeps
every value of the two. -/
def KeepsLifecycle (program : EStateM PyException (Table σ) α) : Prop :=
  ∀ closed count, Preserves (fun table => table.closed = closed ∧ table.calls.count .close = count) program

/-- A program that keeps the lifecycle leaves `_closed` and the handle's `close` calls as they were. -/
theorem KeepsLifecycle.frame {program : EStateM PyException (Table σ) α} (keeps : KeepsLifecycle program)
    (table : Table σ) :
    (stateAfter (program.run table)).closed = table.closed ∧
      (stateAfter (program.run table)).calls.count .close = table.calls.count .close :=
  keeps _ _ table ⟨rfl, rfl⟩

/-- A program that leaves `_closed` and the handle's `close` calls as they were keeps the lifecycle. -/
theorem KeepsLifecycle.of_frame {program : EStateM PyException (Table σ) α}
    (frame : ∀ table, (stateAfter (program.run table)).closed = table.closed ∧
      (stateAfter (program.run table)).calls.count .close = table.calls.count .close) :
    KeepsLifecycle program :=
  fun _ _ table ⟨flag, counted⟩ => ⟨(frame table).1.trans flag, (frame table).2.trans counted⟩

theorem KeepsLifecycle.map {program : EStateM PyException (Table σ) α} (change : α → β)
    (kept : KeepsLifecycle program) : KeepsLifecycle (change <$> program) :=
  fun closed count => (kept closed count).map change

/-- An engine call other than `close` keeps the lifecycle. -/
theorem callTrie_keepsLifecycle {call : EngineCall} (notClose : call ≠ .close) (method : σ → α × σ) :
    KeepsLifecycle (callTrie call method) := .of_frame fun table => by
  cases assigned : table.trie with
  | none => rw [callTrie_run_unassigned assigned]; exact ⟨rfl, rfl⟩
  | some trie =>
      rw [callTrie_run_assigned assigned]
      simp [List.count_append, List.count_singleton', notClose.symm]

/-- A property read keeps the lifecycle. -/
theorem readTrie_keepsLifecycle {call : EngineCall} (notClose : call ≠ .close)
    (read : σ → Except PyException α) : KeepsLifecycle (readTrie call read) := .of_frame fun table => by
  cases assigned : table.trie with
  | none => rw [readTrie_run_unassigned assigned]; exact ⟨rfl, rfl⟩
  | some trie =>
      rw [readTrie_run_assigned assigned]
      cases read trie <;> simp [List.count_append, List.count_singleton', notClose.symm]

end Frame

section Methods
variable {σ Input : Type} {width : Nat} (family : Family width Input) (engine : Engine σ Input)
  (lib : Ipaddress width) {table : Table σ}

/-- `insert` neither sets `_closed` nor closes the handle. -/
theorem insert_keepsLifecycle (cidr : PrefixArg width) (nextHop : Int) :
    KeepsLifecycle (insert family engine lib cidr nextHop) := fun _ _ =>
  .bind .checkOpen fun _ => .bind (.ite (.throw _) (.pure _)) fun _ =>
    .bind (.liftExcept _) fun _ => .bind (callTrie_keepsLifecycle (by decide) _ _ _) fun _ =>
      .ite (.throw _) (.pure _)

/-- `delete` neither sets `_closed` nor closes the handle. -/
theorem delete_keepsLifecycle (cidr : PrefixArg width) :
    KeepsLifecycle (delete family engine lib cidr) := fun _ _ =>
  .bind .checkOpen fun _ => .bind (.liftExcept _) fun _ =>
    .bind (callTrie_keepsLifecycle (by decide) _ _ _) fun _ => .ite (.throw _) (.pure _)

/-- `lookup` neither sets `_closed` nor closes the handle. -/
theorem lookup_keepsLifecycle (addr : AddressArg width) :
    KeepsLifecycle (lookup family engine lib addr) := fun _ _ =>
  .bind .checkOpen fun _ => .bind (.liftExcept _) fun _ =>
    .bind (callTrie_keepsLifecycle (by decide) _ _ _) fun _ => .pure _

/-- `lookup_batch` neither sets `_closed` nor closes the handle. -/
theorem lookupBatch_keepsLifecycle (addrs : List (AddressArg width)) :
    KeepsLifecycle (lookupBatch family engine lib addrs) := fun _ _ =>
  .bind .checkOpen fun _ => .ite (.pure _) (.bind (.liftExcept _) fun _ =>
    .bind (callTrie_keepsLifecycle (by decide) _ _ _) fun _ => .pure _)

end Methods

section Invariant
variable {σ Input : Type} {width : Nat} (family : Family width Input) (engine : Engine σ Input)
  (lib : Ipaddress width) {table : Table σ}

/-- `_closed` is true exactly when the engine handle was closed, and it was closed at most once. -/
def Lifecycle (table : Table σ) : Prop :=
  table.calls.count .close = if table.closed = some true then 1 else 0

/-- Under the invariant, `_closed` is true exactly when the handle was closed. -/
theorem Lifecycle.closed_iff (kept : Lifecycle table) : table.closed = some true ↔ .close ∈ table.calls := by
  rw [← List.count_pos_iff, kept]
  split <;> simp_all

/-- Under the invariant, the handle was closed at most once. -/
theorem Lifecycle.count_le (kept : Lifecycle table) : table.calls.count .close ≤ 1 := by
  rw [kept]
  split <;> simp

/-- A program that keeps the lifecycle keeps the invariant. -/
theorem KeepsLifecycle.lifecycle {α : Type} {program : EStateM PyException (Table σ) α}
    (keeps : KeepsLifecycle program) (kept : Lifecycle table) : Lifecycle (stateAfter (program.run table)) := by
  unfold Lifecycle
  rw [(keeps.frame table).1, (keeps.frame table).2]
  exact kept

/-- `close` keeps the invariant: it closes the handle only when it sets `_closed`. -/
theorem close_lifecycle (kept : Lifecycle table) : Lifecycle (stateAfter ((close engine).run table)) := by
  rcases close_run_cases engine table with ⟨isOpen, trie, _, ran⟩ | unchanged
  · rw [Lifecycle, isOpen] at kept
    simp [ran, Lifecycle, List.count_append, kept]
  · rw [unchanged]
    exact kept

/-- `__exit__` keeps the invariant. -/
theorem exit_lifecycle (kept : Lifecycle table) : Lifecycle (stateAfter ((exit engine).run table)) := by
  have closed := close_lifecycle engine kept
  rw [exit_run]
  cases outcome : (close engine).run table <;> rw [outcome] at closed <;> exact closed

/-- `__del__` keeps the invariant. -/
theorem del_lifecycle (kept : Lifecycle table) : Lifecycle (stateAfter ((del engine).run table)) := by
  cases assigned : table.trie with
  | none => rw [del_run_unassigned engine assigned]; exact kept
  | some trie =>
      rw [del_run_assigned engine assigned]
      rcases closed : table.closed with _ | _ | _
      · simp [run_bind, readClosed_run_unassigned closed, kept]
      · simpa [run_bind, readClosed_run_assigned closed] using close_lifecycle engine kept
      · simp [run_bind, readClosed_run_assigned closed, kept]

/-- Every call keeps the invariant. -/
theorem runCall_lifecycle (call : Call width) (kept : Lifecycle table) :
    Lifecycle (stateAfter ((runCall family engine lib call).run table)) := by
  cases call with
  | insert cidr nextHop => exact (insert_keepsLifecycle family engine lib cidr nextHop).lifecycle kept
  | delete cidr => exact (delete_keepsLifecycle family engine lib cidr).lifecycle kept
  | lookup addr => exact ((lookup_keepsLifecycle family engine lib addr).map _).lifecycle kept
  | lookupBatch addrs => exact ((lookupBatch_keepsLifecycle family engine lib addrs).map _).lifecycle kept
  | enter => exact kept
  | close => exact close_lifecycle engine kept
  | exit =>
      have exited := exit_lifecycle engine kept
      simp only [runCall, run_map]
      cases outcome : (exit engine).run table <;> rw [outcome] at exited <;> exact exited
  | del => exact del_lifecycle engine kept

/-- Every run keeps the invariant. -/
theorem runCalls_lifecycle (calls : List (Call width)) (kept : Lifecycle table) :
    Lifecycle (runCalls family engine lib table calls) := by
  induction calls generalizing table with
  | nil => exact kept
  | cons call calls inductionHypothesis =>
      exact inductionHypothesis (runCall_lifecycle family engine lib call kept)

/-- The object the constructor leaves, raised or not, meets the invariant. -/
theorem init_lifecycle (algorithm : AlgorithmArg) :
    Lifecycle (stateAfter ((init family engine algorithm).run (Table.new : Table σ))) := by
  rcases init_run_cases family engine algorithm Table.new with ⟨error, raised⟩ | ⟨trie, _, built⟩
  · rw [raised]; rfl
  · rw [built]; rfl

end Invariant

section Closed
variable {σ Input : Type} {width : Nat} (family : Family width Input) (engine : Engine σ Input)
  (lib : Ipaddress width)

/-- How a table answers once its engine handle is closed: every operation raises
`LpmClosedError` and `close`, `__exit__` and `__del__` return, all with the object unchanged, so
with no further engine call. -/
structure AnswersClosed (table : Table σ) : Prop where
  insert_raises : ∀ cidr nextHop,
    (insert family engine lib cidr nextHop).run table = .error (.lpmClosedError "Table is closed") table
  delete_raises : ∀ cidr,
    (delete family engine lib cidr).run table = .error (.lpmClosedError "Table is closed") table
  lookup_raises : ∀ addr,
    (lookup family engine lib addr).run table = .error (.lpmClosedError "Table is closed") table
  lookupBatch_raises : ∀ addrs,
    (lookupBatch family engine lib addrs).run table = .error (.lpmClosedError "Table is closed") table
  close_returns : (close engine).run table = .ok () table
  exit_returns : (exit engine).run table = .ok false table
  del_returns : (del engine).run table = .ok () table

/-- A table whose `_closed` is true answers as a closed table does. -/
theorem answersClosed_of_closed {table : Table σ} (isClosed : table.closed = some true) :
    AnswersClosed family engine lib table where
  insert_raises := insert_run_closed family engine lib isClosed
  delete_raises := delete_run_closed family engine lib isClosed
  lookup_raises := lookup_run_closed family engine lib isClosed
  lookupBatch_raises := lookupBatch_run_closed family engine lib isClosed
  close_returns := close_run_closed engine isClosed
  exit_returns := by rw [exit_run, close_run_closed engine isClosed]
  del_returns := del_run_closed engine isClosed

/-- A closed table is inert: every call leaves it exactly as it was. -/
theorem runCall_run_closed {table : Table σ} (isClosed : table.closed = some true) (call : Call width) :
    stateAfter ((runCall family engine lib call).run table) = table := by
  cases call <;>
    simp [runCall, insert_run_closed family engine lib isClosed, delete_run_closed family engine lib isClosed,
      lookup_run_closed family engine lib isClosed, lookupBatch_run_closed family engine lib isClosed,
      close_run_closed engine isClosed, exit_run, del_run_closed engine isClosed, enter]

/-- A closed table is a fixed point of every run. -/
theorem runCalls_of_closed {table : Table σ} (isClosed : table.closed = some true)
    (calls : List (Call width)) : runCalls family engine lib table calls = table := by
  induction calls with
  | nil => rfl
  | cons call calls inductionHypothesis =>
      rw [runCalls, runCall_run_closed family engine lib isClosed]
      exact inductionHypothesis

/-- The lifecycle of one class, over every run that follows its constructor, raised or not. -/
structure LifecycleLaw : Prop where
  closed_iff_engineClosed : ∀ algorithm calls,
    let table := runCalls family engine lib (stateAfter ((init family engine algorithm).run Table.new)) calls
    table.closed = some true ↔ .close ∈ table.calls
  engineClosed_atMostOnce : ∀ algorithm calls,
    (runCalls family engine lib (stateAfter ((init family engine algorithm).run Table.new)) calls).calls.count
      .close ≤ 1
  answersClosed : ∀ algorithm calls,
    let table := runCalls family engine lib (stateAfter ((init family engine algorithm).run Table.new)) calls
    .close ∈ table.calls → AnswersClosed family engine lib table
  del_after_failedInit : ∀ algorithm error (table : Table σ),
    (init family engine algorithm).run Table.new = .error error table →
      (del engine).run table = .ok () table ∧ table.calls = []

/-- Each class keeps the lifecycle law, over any engine. -/
theorem lifecycleLaw : LifecycleLaw family engine lib where
  closed_iff_engineClosed algorithm calls :=
    (runCalls_lifecycle family engine lib calls (init_lifecycle family engine algorithm)).closed_iff
  engineClosed_atMostOnce algorithm calls :=
    (runCalls_lifecycle family engine lib calls (init_lifecycle family engine algorithm)).count_le
  answersClosed algorithm calls engineClosed :=
    answersClosed_of_closed family engine lib
      ((runCalls_lifecycle family engine lib calls (init_lifecycle family engine algorithm)).closed_iff.mpr
        engineClosed)
  del_after_failedInit algorithm error table raised := by
    rcases init_run_cases family engine algorithm Table.new with ⟨_, untouched⟩ | ⟨trie, _, built⟩
    · rw [untouched] at raised
      cases raised
      exact ⟨del_run_unassigned engine rfl, rfl⟩
    · rw [built] at raised
      cases raised

end Closed

end LpmTable

/-- Both classes keep `_closed` equal to whether their engine was closed, close it at most once,
and answer every call on a closed table, or on an object whose constructor raised, without it. -/
theorem closedFlag_tracks_engineClose {σ τ : Type} (engine4 : Engine σ Nat) (lib4 : Ipaddress 32)
    (engine6 : Engine τ (List UInt8)) (lib6 : Ipaddress 128) :
    LpmTable.LifecycleLaw ipv4 engine4 lib4 ∧ LpmTable.LifecycleLaw ipv6 engine6 lib6 :=
  ⟨LpmTable.lifecycleLaw ipv4 engine4 lib4, LpmTable.lifecycleLaw ipv6 engine6 lib6⟩

end Liblpm
