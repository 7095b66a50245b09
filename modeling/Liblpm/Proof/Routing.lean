import Liblpm.Proof.Lifecycle
import Liblpm.Proof.Batch

/-! Lookups answer with the longest live prefix, by a simulation of the engine's routes. -/

namespace Liblpm

section Live
variable {width : Nat}

/-- The next hop a live prefix of `length` bits containing `address` was last inserted with. -/
def liveAt (live : IPNetwork width → Option Int) (address : IPAddress width) (length : Nat) :
    Option Int :=
  if within : length ≤ width then live (IPNetwork.ofAddress address length within) else none

/-- The next hop of the longest live prefix, of at most `length` bits, containing `address`. -/
def bestRoute (live : IPNetwork width → Option Int) (address : IPAddress width) : Nat → Option Int
  | 0 => liveAt live address 0
  | length + 1 => (liveAt live address (length + 1)).or (bestRoute live address length)

/-- A live prefix of exactly `length` bits contains the address. -/
theorem liveAt_eq_some_iff (live : IPNetwork width → Option Int) (address : IPAddress width)
    (length : Nat) (nextHop : Int) :
    liveAt live address length = some nextHop ↔
      ∃ network : IPNetwork width, network.contains address ∧ network.prefixlen = length ∧
        live network = some nextHop := by
  constructor
  · intro found
    unfold liveAt at found
    split at found
    · exact ⟨_, IPNetwork.ofAddress_contains _ _ _, rfl, found⟩
    · cases found
  · rintro ⟨network, inside, rfl, found⟩
    rw [liveAt, dif_pos network.prefixlen_le, (IPNetwork.contains_iff network address).mp inside, found]

/-- No live prefix of exactly `length` bits contains the address. -/
theorem liveAt_eq_none_iff (live : IPNetwork width → Option Int) (address : IPAddress width)
    (length : Nat) :
    liveAt live address length = none ↔
      ∀ network : IPNetwork width, network.contains address → network.prefixlen = length →
        live network = none := by
  constructor
  · intro missing network inside exact
    cases found : live network with
    | none => rfl
    | some nextHop =>
        rw [(liveAt_eq_some_iff live address length nextHop).mpr ⟨network, inside, exact, found⟩] at missing
        cases missing
  · intro missing
    cases found : liveAt live address length with
    | none => rfl
    | some nextHop =>
        obtain ⟨network, inside, exact, present⟩ := (liveAt_eq_some_iff live address length nextHop).mp found
        rw [missing network inside exact] at present
        cases present

/-- No live prefix of at most `length` bits contains the address exactly when the answer is `none`. -/
theorem bestRoute_eq_none_iff (live : IPNetwork width → Option Int) (address : IPAddress width)
    (length : Nat) :
    bestRoute live address length = none ↔
      ∀ network : IPNetwork width, network.contains address → network.prefixlen ≤ length →
        live network = none := by
  induction length with
  | zero =>
      rw [bestRoute, liveAt_eq_none_iff]
      exact forall_congr' fun network => forall_congr' fun _ => by
        constructor <;> intro missing within <;> exact missing (by omega)
  | succ length inductionHypothesis =>
      rw [bestRoute, Option.or_eq_none, liveAt_eq_none_iff, inductionHypothesis]
      constructor
      · rintro ⟨atLength, below⟩ network inside within
        rcases Nat.lt_or_eq_of_le within with shorter | exact
        · exact below network inside (by omega)
        · exact atLength network inside exact
      · intro missing
        exact ⟨fun network inside exact => missing network inside exact.le,
          fun network inside within => missing network inside (by omega)⟩

/-- The longest-match answer: `some` exactly for the next hop of a live prefix containing the
address that no longer live prefix of at most `length` bits contains. -/
theorem bestRoute_eq_some_iff (live : IPNetwork width → Option Int) (address : IPAddress width)
    (length : Nat) (nextHop : Int) :
    bestRoute live address length = some nextHop ↔
      ∃ network : IPNetwork width, network.contains address ∧ network.prefixlen ≤ length ∧
        live network = some nextHop ∧
        ∀ other : IPNetwork width, other.contains address → other.prefixlen ≤ length →
          (live other).isSome → other.prefixlen ≤ network.prefixlen := by
  induction length with
  | zero =>
      rw [bestRoute, liveAt_eq_some_iff]
      constructor
      · rintro ⟨network, inside, exact, found⟩
        exact ⟨network, inside, exact.le, found, fun other _ within _ => by omega⟩
      · rintro ⟨network, inside, within, found, _⟩
        exact ⟨network, inside, by omega, found⟩
  | succ length inductionHypothesis =>
      rw [bestRoute]
      cases atLength : liveAt live address (length + 1) with
      | some found =>
          obtain ⟨longest, inside, exact, live_longest⟩ := (liveAt_eq_some_iff _ _ _ _).mp atLength
          rw [show (some found).or (bestRoute live address length) = some found from rfl, Option.some.injEq]
          constructor
          · rintro rfl
            exact ⟨longest, inside, exact.le, live_longest, fun other _ within _ => by omega⟩
          · rintro ⟨network, contains, within, answer, maximal⟩
            have longer := maximal longest inside exact.le (by simp [live_longest])
            rw [IPNetwork.eq_of_contains contains inside (by omega), live_longest] at answer
            exact Option.some.inj answer
      | none =>
          rw [Option.none_or, inductionHypothesis]
          have missing := (liveAt_eq_none_iff _ _ _).mp atLength
          constructor
          · rintro ⟨network, contains, within, answer, maximal⟩
            refine ⟨network, contains, by omega, answer, fun other inside otherWithin present => ?_⟩
            rcases Nat.lt_or_eq_of_le otherWithin with shorter | exact
            · exact maximal other inside (by omega) present
            · simp [missing other inside exact] at present
          · rintro ⟨network, contains, within, answer, maximal⟩
            have notLongest : network.prefixlen ≠ length + 1 := fun exact => by
              simp [missing network contains exact] at answer
            exact ⟨network, contains, by omega, answer,
              fun other inside otherWithin present => maximal other inside (by omega) present⟩

end Live

/-- The network a prefix argument names: a network object itself, or the text with its host
bits cleared; any other object names none. -/
def PrefixArg.maskedNetwork {width : Nat} (lib : Ipaddress width) : PrefixArg width → Option (IPNetwork width)
  | .network given => some given
  | .text spelled => (lib.nonstrictNetwork spelled).toOption
  | .other _ => none

/-- What a call that returned does to the live prefixes: an insert or a delete sets or clears the
entry of its masked network, and every other call leaves them. -/
def Call.applyTo {width : Nat} (lib : Ipaddress width) (live : IPNetwork width → Option Int) :
    Call width → IPNetwork width → Option Int
  | .insert cidr nextHop =>
      match cidr.maskedNetwork lib with
      | some network => Function.update live network (some nextHop)
      | none => live
  | .delete cidr =>
      match cidr.maskedNetwork lib with
      | some network => Function.update live network none
      | none => live
  | _ => live

/-- The calls after which the engine handle is closed. -/
def Call.closes {width : Nat} : Call width → Bool
  | .close | .exit | .del => true
  | _ => false

/-- The live prefixes after a history of calls, each with whether it returned: a prefix is live
when an insert of it returned and no later delete of it did, with its last inserted next hop. -/
def liveRoutes {width : Nat} (lib : Ipaddress width) (live : IPNetwork width → Option Int) :
    List (Call width × Bool) → IPNetwork width → Option Int
  | [] => live
  | (call, returned) :: history =>
      liveRoutes lib (if returned then call.applyTo lib live else live) history

section Sentinel
variable {width : Nat} (lib : Ipaddress width)

/-- No live prefix carries the sentinel as its next hop. -/
def SentinelFree (live : IPNetwork width → Option Int) : Prop :=
  ∀ network, live network ≠ some 0xFFFFFFFF

/-- Setting an entry other than the sentinel keeps the live prefixes sentinel-free. -/
theorem SentinelFree.update {live : IPNetwork width → Option Int} (free : SentinelFree live)
    (changed : IPNetwork width) {entry : Option Int} (notSentinel : entry ≠ some 0xFFFFFFFF) :
    SentinelFree (Function.update live changed entry) := fun network => by
  rw [Function.update_apply]
  split
  · exact notSentinel
  · exact free network

/-- A call that inserts no sentinel keeps the live prefixes sentinel-free. -/
theorem SentinelFree.applyTo {live : IPNetwork width → Option Int} (free : SentinelFree live)
    (call : Call width) (notSentinel : ∀ cidr, call ≠ .insert cidr 0xFFFFFFFF) :
    SentinelFree (call.applyTo lib live) := by
  cases call with
  | insert cidr nextHop =>
      have other : some nextHop ≠ some 0xFFFFFFFF := fun same =>
        notSentinel cidr (by rw [Option.some.inj same])
      simp only [Call.applyTo]
      split
      · exact free.update _ other
      · exact free
  | delete cidr =>
      simp only [Call.applyTo]
      split
      · exact free.update _ Option.noConfusion
      · exact free
  | lookup _ | lookupBatch _ | enter | close | exit | del => exact free

/-- A history that inserts no sentinel keeps the live prefixes sentinel-free. -/
theorem SentinelFree.liveRoutes {live : IPNetwork width → Option Int} (free : SentinelFree live)
    (history : List (Call width × Bool))
    (notSentinel : ∀ entry ∈ history, ∀ cidr, entry.1 ≠ .insert cidr 0xFFFFFFFF) :
    SentinelFree (liveRoutes lib live history) := by
  induction history generalizing live with
  | nil => exact free
  | cons entry history inductionHypothesis =>
      obtain ⟨call, returned⟩ := entry
      have first := notSentinel _ (List.mem_cons_self _ _)
      have rest := fun later inside => notSentinel later (List.mem_cons_of_mem _ inside)
      cases returned
      · exact inductionHypothesis free rest
      · exact inductionHypothesis (free.applyTo lib call first) rest

/-- Reading the sentinel as a miss changes nothing when no live prefix carries it. -/
@[simp] theorem SentinelFree.filter_bestRoute {live : IPNetwork width → Option Int}
    (free : SentinelFree live) (address : IPAddress width) (length : Nat) :
    (bestRoute live address length).filter (fun nextHop => nextHop != 0xFFFFFFFF) =
      bestRoute live address length := by
  cases found : bestRoute live address length with
  | none => rfl
  | some nextHop =>
      obtain ⟨network, _, _, present, _⟩ := (bestRoute_eq_some_iff live address length nextHop).mp found
      have notSentinel : nextHop ≠ 0xFFFFFFFF := fun same => free network (same ▸ present)
      simp [Option.filter, notSentinel]

end Sentinel

section Longest
variable {width : Nat}

/-- The engine's longest match, over routes that hold the live prefixes under their keys, is the
longest live prefix. -/
theorem longestMatch_eq_bestRoute {stored : List UInt8 × Nat → Option Nat}
    {live : IPNetwork width → Option Int}
    (agree : ∀ network : IPNetwork width, stored network.key = (live network).map Int.toNat)
    (address : IPAddress width) :
    ∀ length, length ≤ width →
      longestMatch width stored address.ip length = (bestRoute live address length).map Int.toNat := by
  have probe : ∀ length, length ≤ width →
      stored (prefixKey width address.ip length) = (liveAt live address length).map Int.toNat :=
    fun length within => by rw [liveAt, dif_pos within, ← agree, IPNetwork.key_ofAddress]
  intro length
  induction length with
  | zero => exact probe 0
  | succ length inductionHypothesis =>
      intro within
      rw [longestMatch, bestRoute, probe (length + 1) within, inductionHypothesis (by omega), ← Option.map_or']

end Longest

namespace LpmTable

section Simulation
variable {σ Input : Type} {width : Nat} (family : Family width Input) (engine : Engine σ Input)
  (lib : Ipaddress width)

/-- The conversion `insert` and `delete` share accepts exactly the prefixes that name a masked
network, and gives that network. -/
theorem toNetwork_eq_ok_iff (cidr : PrefixArg width) (network : IPNetwork width) :
    toNetwork family lib cidr = .ok network ↔ cidr.maskedNetwork lib = some network := by
  cases cidr with
  | network given => simp [toNetwork, PrefixArg.maskedNetwork]
  | text text =>
      simp only [toNetwork, PrefixArg.maskedNetwork]
      cases lib.nonstrictNetwork text <;> simp [Except.toOption]
  | other typeName => simp [toNetwork, PrefixArg.maskedNetwork]

/-- Each call of a run made on the object, with whether it returned; `runCalls` is the object
after them. -/
def history (table : Table σ) : List (Call width) → List (Call width × Bool)
  | [] => []
  | call :: calls =>
      let result := (runCall family engine lib call).run table
      (call, (outcome result).toBool) :: history (stateAfter result) calls

/-- The history lists the calls of the run, in order. -/
theorem history_calls (table : Table σ) (calls : List (Call width)) :
    (history family engine lib table calls).map Prod.fst = calls := by
  induction calls generalizing table with
  | nil => rfl
  | cons call calls inductionHypothesis => simp [history, inductionHypothesis]

/-- An open table whose engine holds exactly the live prefixes under their keys, each with the
next hop it was inserted with, and every such next hop passed the range check. -/
structure Holds (routes : σ → List UInt8 × Nat → Option Nat) (table : Table σ)
    (live : IPNetwork width → Option Int) : Prop where
  isOpen : table.closed = some false
  stored : ∃ trie, table.trie = some trie ∧
    ∀ network : IPNetwork width, routes trie network.key = (live network).map Int.toNat
  inRange : ∀ network nextHop, live network = some nextHop → 0 ≤ nextHop ∧ nextHop ≤ 0xFFFFFFFF

/-- `Holds` reads only the two slots. -/
theorem Holds.of_slots {routes : σ → List UInt8 × Nat → Option Nat} {table after : Table σ}
    {live : IPNetwork width → Option Int} (held : Holds routes table live)
    (slots : after.trie = table.trie ∧ after.closed = table.closed) : Holds routes after live where
  isOpen := slots.2.trans held.isOpen
  stored := by rw [slots.1]; exact held.stored
  inRange := held.inRange

/-- Storing one entry in the engine and in the live prefixes keeps the two in step, since
distinct networks reach the engine under distinct keys. -/
theorem agree_update (wholeBytes : width % 8 = 0) {stored : List UInt8 × Nat → Option Nat}
    {live : IPNetwork width → Option Int}
    (agree : ∀ network : IPNetwork width, stored network.key = (live network).map Int.toNat)
    (changed : IPNetwork width) (entry : Option Int) (network : IPNetwork width) :
    Function.update stored changed.key (entry.map Int.toNat) network.key =
      (Function.update live changed entry network).map Int.toNat := by
  by_cases same : network = changed
  · subst same
    simp
  · have distinct : network.key ≠ changed.key := fun equal => same (IPNetwork.key_injective wholeBytes equal)
    rw [Function.update_noteq distinct, Function.update_noteq same, agree]

/-- Every next hop the longest match can answer with passed the range check. -/
theorem Holds.bestRoute_inRange {routes : σ → List UInt8 × Nat → Option Nat} {table : Table σ}
    {live : IPNetwork width → Option Int} (held : Holds routes table live) (address : IPAddress width)
    {nextHop : Int} (found : bestRoute live address width = some nextHop) :
    0 ≤ nextHop ∧ nextHop ≤ 0xFFFFFFFF := by
  obtain ⟨network, _, _, present, _⟩ := (bestRoute_eq_some_iff live address width nextHop).mp found
  exact held.inRange network nextHop present

section Handle
variable {routes : σ → List UInt8 × Nat → Option Nat} {table : Table σ}
  {live : IPNetwork width → Option Int} {trie changedTrie : σ}

/-- A new handle with the same routes keeps the engine in step. -/
theorem Holds.replace (held : Holds routes table live) (assigned : table.trie = some trie)
    (same : routes changedTrie = routes trie) (calls : List EngineCall) :
    Holds routes { table with trie := some changedTrie, calls := calls } live := by
  obtain ⟨_, assigned', agree⟩ := held.stored
  rw [assigned, Option.some.injEq] at assigned'
  subst assigned'
  exact ⟨held.isOpen, ⟨changedTrie, rfl, fun network => by rw [same]; exact agree network⟩, held.inRange⟩

/-- A new handle whose routes change at one network's key as the live prefixes change at that
network, by an entry that passed the range check, keeps the engine in step. -/
theorem Holds.update (wholeBytes : width % 8 = 0) (held : Holds routes table live)
    (assigned : table.trie = some trie) (network : IPNetwork width) (entry : Option Int)
    (stored : routes changedTrie = Function.update (routes trie) network.key (entry.map Int.toNat))
    (entryInRange : ∀ nextHop, entry = some nextHop → 0 ≤ nextHop ∧ nextHop ≤ 0xFFFFFFFF)
    (calls : List EngineCall) :
    Holds routes { table with trie := some changedTrie, calls := calls } (Function.update live network entry) := by
  obtain ⟨_, assigned', agree⟩ := held.stored
  rw [assigned, Option.some.injEq] at assigned'
  subst assigned'
  refine ⟨held.isOpen, ⟨changedTrie, rfl, fun other => ?_⟩, fun other nextHop found => ?_⟩
  · rw [stored]
    exact agree_update wholeBytes agree network entry other
  · rw [Function.update_apply] at found
    split at found
    · exact entryInRange nextHop found
    · exact held.inRange other nextHop found

end Handle

section Step
variable {value : Input → Nat} {routes : σ → List UInt8 × Nat → Option Nat}
  (spec : engine.MeetsSpec width value routes) {table : Table σ} {live : IPNetwork width → Option Int}
include spec

/-- `insert` keeps the engine in step, changing the live prefixes only when it returns. -/
theorem insert_holds (held : Holds routes table live) (cidr : PrefixArg width) (nextHop : Int) :
    Holds routes (stateAfter ((insert family engine lib cidr nextHop).run table))
      (if (outcome ((insert family engine lib cidr nextHop).run table)).toBool then
        (Call.insert cidr nextHop).applyTo lib live else live) := by
  obtain ⟨trie, assigned, _⟩ := held.stored
  rw [insert_run_open family engine lib held.isOpen assigned]
  split
  · exact held
  · rename_i range
    cases converted : toNetwork family lib cidr with
    | error error => exact held
    | ok network =>
        dsimp only
        split
        · rename_i failed
          exact held.replace assigned (spec.add_fails _ _ _ _ failed) _
        · rename_i stored
          simp only [stateAfter, outcome, Except.toBool, if_true, Call.applyTo,
            (toNetwork_eq_ok_iff family lib cidr network).mp converted]
          exact held.update family.wholeBytes assigned network (some nextHop)
            (spec.add_stores _ _ _ _ (not_not.mp stored)) (fun _ same => Option.some.inj same ▸ not_not.mp range) _

/-- `delete` keeps the engine in step, changing the live prefixes only when it returns. -/
theorem delete_holds (held : Holds routes table live) (cidr : PrefixArg width) :
    Holds routes (stateAfter ((delete family engine lib cidr).run table))
      (if (outcome ((delete family engine lib cidr).run table)).toBool then
        (Call.delete cidr).applyTo lib live else live) := by
  obtain ⟨trie, assigned, _⟩ := held.stored
  rw [delete_run_open family engine lib held.isOpen assigned]
  cases converted : toNetwork family lib cidr with
  | error error => exact held
  | ok network =>
      dsimp only
      split
      · rename_i failed
        exact held.replace assigned (spec.delete_fails _ _ _ failed) _
      · rename_i removed
        simp only [stateAfter, outcome, Except.toBool, if_true, Call.applyTo,
          (toNetwork_eq_ok_iff family lib cidr network).mp converted]
        exact held.update family.wholeBytes assigned network none
          (spec.delete_removes _ _ _ (not_not.mp removed)) (fun _ => Option.noConfusion) _

/-- One call on a table that stays open keeps the engine in step with the live prefixes,
changed only when the call returned. -/
theorem runCall_holds (held : Holds routes table live) (call : Call width)
    (staysOpen : call.closes = false) :
    Holds routes (stateAfter ((runCall family engine lib call).run table))
      (if (outcome ((runCall family engine lib call).run table)).toBool then call.applyTo lib live
        else live) := by
  obtain ⟨trie, assigned, _⟩ := held.stored
  cases call with
  | insert cidr nextHop => exact insert_holds family engine lib spec held cidr nextHop
  | delete cidr => exact delete_holds family engine lib spec held cidr
  | lookup addr =>
      simp only [Call.applyTo, ite_self, runCall, stateAfter_map]
      exact held.of_slots (lookup_slots_open family engine lib held.isOpen assigned addr)
  | lookupBatch addrs =>
      simp only [Call.applyTo, ite_self, runCall, stateAfter_map]
      exact held.of_slots (lookupBatch_slots_open family engine lib held.isOpen assigned addrs)
  | enter => simpa [Call.applyTo] using held
  | close | exit | del => cases staysOpen

omit spec in
/-- A closing call on an open table closes it. -/
theorem runCall_closes (held : Holds routes table live) (call : Call width)
    (closing : call.closes = true) :
    (stateAfter ((runCall family engine lib call).run table)).closed = some true := by
  obtain ⟨trie, assigned, _⟩ := held.stored
  cases call with
  | close => simp [runCall, close_run_open engine held.isOpen assigned]
  | exit => simp [runCall, exit_run, close_run_open engine held.isOpen assigned]
  | del => simp [runCall, del_run_assigned engine assigned, run_bind, readClosed_run_assigned held.isOpen,
      close_run_open engine held.isOpen assigned]
  | insert _ _ | delete _ | lookup _ | lookupBatch _ | enter => cases closing

/-- A run with no closing call keeps the engine in step with the live prefixes of its history. -/
theorem runCalls_holds (held : Holds routes table live) (calls : List (Call width))
    (staysOpen : calls.any Call.closes = false) :
    Holds routes (runCalls family engine lib table calls) (liveRoutes lib live (history family engine lib table calls)) := by
  induction calls generalizing table live with
  | nil => exact held
  | cons call calls inductionHypothesis =>
      rw [List.any_cons, Bool.or_eq_false_iff] at staysOpen
      exact inductionHypothesis (runCall_holds family engine lib spec held call staysOpen.1) staysOpen.2

/-- A run with a closing call ends closed: the first one closes the table, which no later call
reopens. -/
theorem runCalls_closed (held : Holds routes table live) (calls : List (Call width))
    (closing : calls.any Call.closes = true) : (runCalls family engine lib table calls).closed = some true := by
  induction calls generalizing table live with
  | nil => cases closing
  | cons call calls inductionHypothesis =>
      rw [runCalls]
      cases closes : call.closes
      · rw [List.any_cons, closes, Bool.false_or] at closing
        exact inductionHypothesis (runCall_holds family engine lib spec held call closes) closing
      · have closed := runCall_closes family engine lib held call closes
        rw [runCalls_of_closed family engine lib closed]
        exact closed

/-- A constructor that returned leaves an open table whose engine holds no route. -/
theorem init_holds {algorithm : AlgorithmArg}
    (built : (init family engine algorithm).run Table.new = .ok () table) :
    Holds routes table fun (_ : IPNetwork width) => none := by
  rcases init_run_cases family engine algorithm Table.new with ⟨error, raised⟩ | ⟨trie, created, ran⟩
  · rw [raised] at built
    cases built
  · rw [ran] at built
    cases built
    exact ⟨rfl, ⟨trie, rfl, fun network => by rw [spec.create_empty _ _ created]; rfl⟩,
      fun _ _ found => by cases found⟩

/-- On a table whose engine holds the live prefixes, `lookup` answers with the longest live
prefix's next hop, read as `None` when that next hop is the sentinel. -/
theorem lookup_holds (decodes : ∀ address, value (family.toInput address) = address.ip)
    (held : Holds routes table live) (addr : AddressArg width) :
    outcome ((lookup family engine lib addr).run table) =
      (toAddress lib addr).map fun address =>
        (bestRoute live address width).filter fun nextHop => nextHop != 0xFFFFFFFF := by
  obtain ⟨trie, assigned, agree⟩ := held.stored
  rw [lookup_outcome_open family engine lib held.isOpen assigned]
  congr 1
  funext address
  rw [spec.lookup_longest, decodes, longestMatch_eq_bestRoute agree address width le_rfl]
  cases found : bestRoute live address width with
  | none => rfl
  | some nextHop =>
      obtain ⟨low, high⟩ := held.bestRoute_inRange address found
      have cast : ((nextHop.toNat : Nat) : Int) = nextHop := Int.toNat_of_nonneg low
      by_cases sentinel : nextHop = 0xFFFFFFFF
      · subst sentinel
        rfl
      · have notSentinel : nextHop.toNat ≠ invalidNextHop := fun same => sentinel (by
          rw [← cast, same]
          rfl)
        simp [toNextHop, notSentinel, cast, Option.filter, sentinel]

/-- The same for `lookup_batch`, address by address, over an engine that keeps the batch contract. -/
theorem lookupBatch_holds
    (appends : ∀ converted address,
      family.append converted (family.toInput address) = .ok (converted ++ [family.toInput address]))
    (batch : engine.BatchWritesSlots) (decodes : ∀ address, value (family.toInput address) = address.ip)
    (held : Holds routes table live) (addrs : List (AddressArg width)) :
    outcome ((lookupBatch family engine lib addrs).run table) =
      addrs.mapM fun addr => (toAddress lib addr).map fun address =>
        (bestRoute live address width).filter fun nextHop => nextHop != 0xFFFFFFFF := by
  obtain ⟨trie, assigned, _⟩ := held.stored
  rw [lookupBatch_outcome_eq_mapM family engine lib appends batch held.isOpen assigned]
  simp only [lookup_holds family engine lib spec decodes held]

end Step

/-- The routing law of one class, over every run of calls that follows a constructor that returned:
once a call has closed the handle, `lookup` and `lookup_batch` raise `LpmClosedError`; until then
they answer each address with the next hop of the longest live prefix covering it (see
`bestRoute_eq_some_iff` and `bestRoute_eq_none_iff`), the sentinel read as `None`, and with exactly
that next hop when no insert of the run passes the sentinel. -/
structure AnswersLongestLive : Prop where
  lookup_answers : ∀ (algorithm : AlgorithmArg) (table : Table σ),
    (init family engine algorithm).run Table.new = .ok () table →
    ∀ (calls : List (Call width)) (addr : AddressArg width),
      outcome ((lookup family engine lib addr).run (runCalls family engine lib table calls)) =
        if calls.any Call.closes then .error (.lpmClosedError "Table is closed")
        else (toAddress lib addr).map fun address =>
          (bestRoute (liveRoutes lib (fun _ => none) (history family engine lib table calls)) address
            width).filter fun nextHop => nextHop != 0xFFFFFFFF
  lookup_exact : ∀ (algorithm : AlgorithmArg) (table : Table σ),
    (init family engine algorithm).run Table.new = .ok () table →
    ∀ calls : List (Call width), calls.any Call.closes = false →
    (∀ cidr, Call.insert cidr 0xFFFFFFFF ∉ calls) → ∀ addr : AddressArg width,
      outcome ((lookup family engine lib addr).run (runCalls family engine lib table calls)) =
        (toAddress lib addr).map fun address =>
          bestRoute (liveRoutes lib (fun _ => none) (history family engine lib table calls)) address width
  lookupBatch_answers : engine.BatchWritesSlots → ∀ (algorithm : AlgorithmArg) (table : Table σ),
    (init family engine algorithm).run Table.new = .ok () table →
    ∀ (calls : List (Call width)) (addrs : List (AddressArg width)),
      outcome ((lookupBatch family engine lib addrs).run (runCalls family engine lib table calls)) =
        if calls.any Call.closes then .error (.lpmClosedError "Table is closed")
        else addrs.mapM fun addr => (toAddress lib addr).map fun address =>
          (bestRoute (liveRoutes lib (fun _ => none) (history family engine lib table calls)) address
            width).filter fun nextHop => nextHop != 0xFFFFFFFF

section Law
variable {value : Input → Nat} {routes : σ → List UInt8 × Nat → Option Nat}
  (spec : engine.MeetsSpec width value routes)
  (decodes : ∀ address, value (family.toInput address) = address.ip)
  (appends : ∀ converted address,
    family.append converted (family.toInput address) = .ok (converted ++ [family.toInput address]))
include spec decodes

/-- `lookup` after any run on a new table. -/
theorem lookup_after_runCalls {algorithm : AlgorithmArg} {table : Table σ}
    (built : (init family engine algorithm).run Table.new = .ok () table) (calls : List (Call width))
    (addr : AddressArg width) :
    outcome ((lookup family engine lib addr).run (runCalls family engine lib table calls)) =
      if calls.any Call.closes then .error (.lpmClosedError "Table is closed")
      else (toAddress lib addr).map fun address =>
        (bestRoute (liveRoutes lib (fun _ => none) (history family engine lib table calls)) address
          width).filter fun nextHop => nextHop != 0xFFFFFFFF := by
  have held := init_holds family engine spec built
  split
  · rename_i closing
    rw [lookup_run_closed family engine lib (runCalls_closed family engine lib spec held calls closing)]
    rfl
  · rename_i staysOpen
    exact lookup_holds family engine lib spec decodes
      (runCalls_holds family engine lib spec held calls (Bool.not_eq_true _ ▸ staysOpen)) addr

/-- `lookup` after a run that stays open and inserts no sentinel answers exactly the longest live
prefix's next hop. -/
theorem lookup_after_runCalls_exact {algorithm : AlgorithmArg} {table : Table σ}
    (built : (init family engine algorithm).run Table.new = .ok () table) (calls : List (Call width))
    (staysOpen : calls.any Call.closes = false) (noSentinel : ∀ cidr, Call.insert cidr 0xFFFFFFFF ∉ calls)
    (addr : AddressArg width) :
    outcome ((lookup family engine lib addr).run (runCalls family engine lib table calls)) =
      (toAddress lib addr).map fun address =>
        bestRoute (liveRoutes lib (fun _ => none) (history family engine lib table calls)) address width := by
  have free : SentinelFree (liveRoutes lib (fun _ => none) (history family engine lib table calls)) :=
    SentinelFree.liveRoutes lib (fun _ => Option.noConfusion) _ fun entry inside cidr same =>
      noSentinel cidr (by
        rw [← same, ← history_calls family engine lib table calls]
        exact List.mem_map_of_mem Prod.fst inside)
  rw [lookup_after_runCalls family engine lib spec decodes built calls addr, staysOpen, if_neg Bool.false_ne_true]
  simp only [free.filter_bestRoute]

include appends in
/-- `lookup_batch` after any run on a new table. -/
theorem lookupBatch_after_runCalls (batch : engine.BatchWritesSlots) {algorithm : AlgorithmArg}
    {table : Table σ} (built : (init family engine algorithm).run Table.new = .ok () table)
    (calls : List (Call width)) (addrs : List (AddressArg width)) :
    outcome ((lookupBatch family engine lib addrs).run (runCalls family engine lib table calls)) =
      if calls.any Call.closes then .error (.lpmClosedError "Table is closed")
      else addrs.mapM fun addr => (toAddress lib addr).map fun address =>
        (bestRoute (liveRoutes lib (fun _ => none) (history family engine lib table calls)) address
          width).filter fun nextHop => nextHop != 0xFFFFFFFF := by
  have held := init_holds family engine spec built
  split
  · rename_i closing
    rw [lookupBatch_run_closed family engine lib (runCalls_closed family engine lib spec held calls closing)]
    rfl
  · rename_i staysOpen
    exact lookupBatch_holds family engine lib spec appends batch decodes
      (runCalls_holds family engine lib spec held calls (Bool.not_eq_true _ ▸ staysOpen)) addrs

include appends in
/-- Each class keeps the routing law over an engine that keeps the interface. -/
theorem answersLongestLive : AnswersLongestLive family engine lib where
  lookup_answers _ _ built := lookup_after_runCalls family engine lib spec decodes built
  lookup_exact _ _ built := lookup_after_runCalls_exact family engine lib spec decodes built
  lookupBatch_answers batch _ _ built :=
    lookupBatch_after_runCalls family engine lib spec decodes appends batch built

end Law

end Simulation

end LpmTable

/-- Over engines that keep the interface, both classes answer every lookup and batch lookup after
any run of calls with the longest live prefix's next hop, a stored sentinel read as `None`, or with
`LpmClosedError` once a call has closed the handle. -/
theorem lookup_answers_longestLivePrefix {σ τ : Type} (engine4 : Engine σ Nat)
    (routes4 : σ → List UInt8 × Nat → Option Nat) (lib4 : Ipaddress 32) (engine6 : Engine τ (List UInt8))
    (routes6 : τ → List UInt8 × Nat → Option Nat) (lib6 : Ipaddress 128)
    (spec4 : engine4.MeetsSpec 32 id routes4) (spec6 : engine6.MeetsSpec 128 fromBytes routes6) :
    LpmTable.AnswersLongestLive ipv4 engine4 lib4 ∧ LpmTable.AnswersLongestLive ipv6 engine6 lib6 :=
  ⟨LpmTable.answersLongestLive ipv4 engine4 lib4 spec4 (IPAddress.fromBytes_packed (by decide))
      LpmTable.ipv4_appends,
    LpmTable.answersLongestLive ipv6 engine6 lib6 spec6 (IPAddress.fromBytes_packed (by decide))
      LpmTable.ipv6_appends⟩

/-- The reference engine keeps the interface, so both classes keep the routing law over it. -/
theorem referenceEngine_answers_longestLivePrefix :
    (referenceEngine 32 id).MeetsSpec 32 id id ∧ (referenceEngine 128 fromBytes).MeetsSpec 128 fromBytes id ∧
      LpmTable.AnswersLongestLive ipv4 (referenceEngine 32 id) Ipaddress.objectsOnly ∧
      LpmTable.AnswersLongestLive ipv6 (referenceEngine 128 fromBytes) Ipaddress.objectsOnly :=
  ⟨referenceEngine_meetsSpec 32 id, referenceEngine_meetsSpec 128 fromBytes,
    lookup_answers_longestLivePrefix _ _ _ _ _ _ (referenceEngine_meetsSpec 32 id)
      (referenceEngine_meetsSpec 128 fromBytes)⟩

/-- The scenario of the spec's testable properties, run on the reference engine. -/
example :
    let engine := referenceEngine 32 id
    let built := stateAfter ((LpmTableIPv4.init engine LpmTableIPv4.defaultAlgorithm).run Table.new)
    let inserted := LpmTableIPv4.runCalls engine Ipaddress.objectsOnly built
      [.insert (.network (IPNetwork.ofAddress ⟨3232235520, by decide⟩ 16 (by decide))) 16,
        .insert (.network (IPNetwork.ofAddress ⟨3232235776, by decide⟩ 24 (by decide))) 24,
        .insert (.network (IPNetwork.ofAddress ⟨3232235904, by decide⟩ 25 (by decide))) 25]
    let deleted := LpmTableIPv4.runCalls engine Ipaddress.objectsOnly inserted
      [.delete (.network (IPNetwork.ofAddress ⟨3232235776, by decide⟩ 24 (by decide)))]
    outcome ((LpmTableIPv4.lookupBatch engine Ipaddress.objectsOnly
        [.address ⟨3232235777, by decide⟩, .address ⟨3232235905, by decide⟩,
          .address ⟨3232236033, by decide⟩]).run inserted) = .ok [some 24, some 25, some 16] ∧
      outcome ((LpmTableIPv4.lookup engine Ipaddress.objectsOnly (.address ⟨3232235777, by decide⟩)).run
        deleted) = .ok (some 16) :=
  ⟨rfl, rfl⟩

/-- A table built with the default algorithm accepts the default route 0.0.0.0/0 with next hop
0xFFFFFFFF, and then answers `None` for 1.2.3.4, which that live prefix covers. -/
theorem insert_accepts_sentinel_lookup_misses :
    (IPNetwork.ofAddress (⟨0, by decide⟩ : IPAddress 32) 0 (by decide)).contains ⟨16909060, by decide⟩ ∧
      outcome ((LpmTableIPv4.insert (referenceEngine 32 id) Ipaddress.objectsOnly
          (.network (IPNetwork.ofAddress ⟨0, by decide⟩ 0 (by decide))) 0xFFFFFFFF).run
        (stateAfter ((LpmTableIPv4.init (referenceEngine 32 id) LpmTableIPv4.defaultAlgorithm).run
          Table.new))) = .ok () ∧
      outcome ((LpmTableIPv4.lookup (referenceEngine 32 id) Ipaddress.objectsOnly
          (.address ⟨16909060, by decide⟩)).run
        (stateAfter ((LpmTableIPv4.insert (referenceEngine 32 id) Ipaddress.objectsOnly
          (.network (IPNetwork.ofAddress ⟨0, by decide⟩ 0 (by decide))) 0xFFFFFFFF).run
        (stateAfter ((LpmTableIPv4.init (referenceEngine 32 id) LpmTableIPv4.defaultAlgorithm).run
          Table.new))))) = .ok none :=
  ⟨by decide, rfl, rfl⟩

end Liblpm
