import Liblpm.Construction.Engine

/-! The classes of `table.py`, as programs over an object's slots and its log of engine calls. -/

namespace Liblpm

/-- A call the wrapper makes on the engine handle in `_trie`. -/
inductive EngineCall where
  | add
  | delete
  | lookup
  | lookupBatch
  | close
  | algorithm
  | numPrefixes
  | numNodes
  | numWideNodes
  deriving DecidableEq, Repr

/-- The `__slots__` `_trie` and `_closed` of one table object, `none` while unassigned, and the
calls made so far on the engine handle, oldest first. -/
structure Table (σ : Type) where
  trie : Option σ
  closed : Option Bool
  calls : List EngineCall

/-- The object `__new__` hands to `__init__`: no slot assigned and no engine call made. -/
def Table.new {σ : Type} : Table σ := ⟨none, none, []⟩

/-- The object after a method, whether it returned or raised. -/
def stateAfter {ε σ α : Type} : EStateM.Result ε σ α → σ
  | .ok _ state => state
  | .error _ state => state

/-- What a method returned, or what it raised. -/
def outcome {ε σ α : Type} : EStateM.Result ε σ α → Except ε α
  | .ok value _ => .ok value
  | .error error _ => .error error

/-- `Algorithm`, the `str` enum of engine names. -/
inductive Algorithm where
  | DIR24
  | WIDE16
  | STRIDE8
  deriving DecidableEq, Repr

/-- The string value of each member. -/
def Algorithm.value : Algorithm → String
  | .DIR24 => "dir24"
  | .WIDE16 => "wide16"
  | .STRIDE8 => "stride8"

/-- The `algorithm` argument: a member of `Algorithm`, or any other object through `str()`. -/
inductive AlgorithmArg where
  | member (algorithm : Algorithm)
  | other (text : String)

/-- This is `algo_str`: `algorithm.value` for a member, `str(algorithm)` for anything else. -/
def AlgorithmArg.algoStr : AlgorithmArg → String
  | .member algorithm => algorithm.value
  | .other text => text

/-- A `prefix` argument: a network of the table's family, a string, or another object, seen
through the name of its type. -/
inductive PrefixArg (width : Nat) where
  | network (network : IPNetwork width)
  | text (text : String)
  | other (typeName : String)

/-- An `addr` argument: an address of the table's family, or a string. -/
inductive AddressArg (width : Nat) where
  | address (address : IPAddress width)
  | text (text : String)

/-- What `LpmTableIPv4` and `LpmTableIPv6` do differently: the names in their messages, the two
algorithms they accept, and how an address is handed to the engine, one at a time or stored in
the batch buffer. -/
structure Family (width : Nat) (Input : Type) where
  name : String
  algorithms : String × String
  networkType : String
  wholeBytes : width % 8 = 0
  toInput : IPAddress width → Input
  append : List Input → Input → Except PyException (List Input)

/-- The engine's answer as the wrapper returns it: `result if result != INVALID_NEXT_HOP else None`. -/
def toNextHop (result : Nat) : Option Int :=
  if result ≠ invalidNextHop then some result else none

namespace LpmTable

section Slots
variable {σ : Type}

/-- Reading `self._closed`. -/
def readClosed : EStateM PyException (Table σ) Bool := do
  match (← get).closed with
  | some closed => pure closed
  | none => throw (.attributeError "_closed")

/-- The guard of each operation: `if self._closed: raise LpmClosedError("Table is closed")`. -/
def checkOpen : EStateM PyException (Table σ) Unit := do
  if ← readClosed then throw (.lpmClosedError "Table is closed")

/-- A call `self._trie.method(...)`: it runs on the engine's state and joins the record. -/
def callTrie {α : Type} (call : EngineCall) (method : σ → α × σ) : EStateM PyException (Table σ) α := do
  let table ← get
  match table.trie with
  | none => throw (.attributeError "_trie")
  | some trie =>
      set { table with trie := some (method trie).2, calls := table.calls ++ [call] }
      pure (method trie).1

/-- Reading a property `self._trie.name`, which is read on the handle whatever `_closed` says. -/
def readTrie {α : Type} (call : EngineCall) (read : σ → Except PyException α) :
    EStateM PyException (Table σ) α := do
  let table ← get
  match table.trie with
  | none => throw (.attributeError "_trie")
  | some trie =>
      set { table with calls := table.calls ++ [call] }
      liftExcept (read trie)

end Slots

section Methods
variable {σ Input : Type} {width : Nat} (family : Family width Input) (engine : Engine σ Input)
  (lib : Ipaddress width)

/-- The conversion `insert` and `delete` both make: a string is read with `strict=False`, and
anything that is then not a network of the family is refused. -/
def toNetwork : PrefixArg width → Except PyException (IPNetwork width)
  | .network network => .ok network
  | .text text =>
      match lib.nonstrictNetwork text with
      | .ok network => .ok network
      | .error reason => .error (.lpmInvalidPrefixError "Invalid prefix" (some text) (some reason))
  | .other typeName =>
      let networkType := family.networkType
      .error (.lpmInvalidPrefixError "Invalid prefix" none (some s!"Expected {networkType}, got {typeName}"))

/-- `IPv4Address(addr)` for a string; the parser's error escapes unchanged. -/
def toAddress : AddressArg width → Except PyException (IPAddress width)
  | .address address => .ok address
  | .text text => (lib.address text).mapError .addressValueError

/-- The loop of `lookup_batch` that converts each address and appends it to the buffer. -/
def convertAll (addrs : List (AddressArg width)) : Except PyException (List Input) :=
  addrs.foldlM (fun converted addr => do family.append converted (family.toInput (← toAddress lib addr))) []

/-- `__init__`: the algorithm name is checked before the engine is built. -/
def init (algorithm : AlgorithmArg) : EStateM PyException (Table σ) Unit :=
  let algoStr := algorithm.algoStr
  let first := family.algorithms.1
  let second := family.algorithms.2
  let name := family.name
  if algoStr ∉ [first, second] then
    throw (.valueError s!"Invalid {name} algorithm: {algoStr}. Must be '{first}' or '{second}'.")
  else do
    let trie ← liftExcept (engine.create algoStr)
    modify fun table => { table with trie := some trie }
    modify fun table => { table with closed := some false }

/-- `__enter__` returns the object itself. -/
def enter : EStateM PyException (Table σ) Unit :=
  pure ()

/-- `close`: only the first call reaches the engine. -/
def close : EStateM PyException (Table σ) Unit := do
  if !(← readClosed) then
    callTrie .close fun trie => ((), engine.close trie)
    modify fun table => { table with closed := some true }
  else pure ()

/-- `__exit__` closes the table and lets any exception of the block go on. -/
def exit : EStateM PyException (Table σ) Bool := do
  close engine
  pure false

/-- `__del__`: `if hasattr(self, '_trie') and not self._closed: self.close()`. -/
def del : EStateM PyException (Table σ) Unit := do
  if (← get).trie.isSome then
    if !(← readClosed) then close engine else pure ()
  else pure ()

/-- The check `if not (0 <= next_hop <= 0xFFFFFFFF): raise ValueError(...)` of `insert`. -/
def checkNextHop (nextHop : Int) : EStateM PyException (Table σ) Unit :=
  if ¬(0 ≤ nextHop ∧ nextHop ≤ 0xFFFFFFFF) then
    throw (.valueError s!"next_hop must be 0-4294967295, got {nextHop}")
  else pure ()

/-- `insert`: the guard, the next hop's range, the prefix, then the engine's `add`. -/
def insert (cidr : PrefixArg width) (nextHop : Int) : EStateM PyException (Table σ) Unit := do
  checkOpen
  checkNextHop nextHop
  let network ← liftExcept (toNetwork family lib cidr)
  let result ← callTrie .add fun trie =>
    engine.add trie network.networkAddress.packed network.prefixlen nextHop.toNat
  if result ≠ 0 then
    throw (.lpmInsertError "Failed to insert prefix" (some (lib.networkText network)) (some nextHop))

/-- `delete`: the guard, the prefix, then the engine's `delete`. -/
def delete (cidr : PrefixArg width) : EStateM PyException (Table σ) Unit := do
  checkOpen
  let network ← liftExcept (toNetwork family lib cidr)
  let result ← callTrie .delete fun trie =>
    engine.delete trie network.networkAddress.packed network.prefixlen
  if result ≠ 0 then
    throw (.lpmDeleteError "Failed to delete prefix" (some (lib.networkText network)))

/-- `lookup`: the guard, the address, then the engine's `lookup`. -/
def lookup (addr : AddressArg width) : EStateM PyException (Table σ) (Option Int) := do
  checkOpen
  let address ← liftExcept (toAddress lib addr)
  let result ← callTrie .lookup fun trie => (engine.lookup trie (family.toInput address), trie)
  pure (toNextHop result)

/-- `lookup_batch`: the guard, the empty case, the conversion loop, then one engine call that
fills a zeroed buffer of the same length. -/
def lookupBatch (addrs : List (AddressArg width)) :
    EStateM PyException (Table σ) (List (Option Int)) := do
  checkOpen
  if addrs.isEmpty then pure []
  else do
    let addrArray ← liftExcept (convertAll family lib addrs)
    let resultArray ← callTrie .lookupBatch fun trie =>
      (engine.lookupBatch trie addrArray (List.replicate addrs.length 0), trie)
    pure (resultArray.map toNextHop)

end Methods

section Properties
variable {σ Input : Type} {width : Nat} (family : Family width Input) (stats : EngineStats σ)

/-- The property `closed`. -/
def closed : EStateM PyException (Table σ) Bool :=
  readClosed

/-- The property `algorithm`. -/
def algorithm : EStateM PyException (Table σ) String :=
  readTrie .algorithm stats.algorithm

/-- The property `num_prefixes`. -/
def numPrefixes : EStateM PyException (Table σ) Nat :=
  readTrie .numPrefixes stats.numPrefixes

/-- The property `num_nodes`. -/
def numNodes : EStateM PyException (Table σ) Nat :=
  readTrie .numNodes stats.numNodes

/-- The property `num_wide_nodes`, of `LpmTableIPv6` only. -/
def numWideNodes : EStateM PyException (Table σ) Nat :=
  readTrie .numWideNodes stats.numWideNodes

/-- The text `__repr__` builds once `status`, `self.algorithm` and `self.num_prefixes` are read;
`strRepr` is Python's `repr` of a `str`. -/
def reprText (strRepr : String → String) (algorithm status : String) (prefixes : Nat) : String :=
  let name := family.name
  let algorithmRepr := strRepr algorithm
  let statusRepr := strRepr status
  s!"LpmTable{name}(algorithm={algorithmRepr}, prefixes={prefixes}, status={statusRepr})"

/-- `__repr__`: `status` from `_closed`, then the f-string reads `algorithm` and `num_prefixes`. -/
def repr (strRepr : String → String) : EStateM PyException (Table σ) String := do
  let status := if ← readClosed then "closed" else "open"
  let algorithm ← algorithm stats
  let prefixes ← numPrefixes stats
  pure (reprText family strRepr algorithm status prefixes)

end Properties

end LpmTable

/-- `array.array('I').append`: a slot of C `unsigned int`, 32 bits wide, refuses a larger value. -/
def uintArrayAppend (array : List Nat) (value : Nat) : Except PyException (List Nat) :=
  if value < 2 ^ 32 then .ok (array ++ [value])
  else .error (.overflowError "unsigned int is greater than maximum")

/-- `LpmTableIPv4` hands the engine `int.from_bytes(addr.packed, 'big')`, one by one or in an
`array('I')`. -/
def ipv4 : Family 32 Nat where
  name := "IPv4"
  algorithms := ("dir24", "stride8")
  networkType := "IPv4Network"
  wholeBytes := rfl
  toInput address := fromBytes address.packed
  append := uintArrayAppend

/-- `LpmTableIPv6` hands the engine `addr.packed`, one by one or in a list. -/
def ipv6 : Family 128 (List UInt8) where
  name := "IPv6"
  algorithms := ("wide16", "stride8")
  networkType := "IPv6Network"
  wholeBytes := rfl
  toInput address := address.packed
  append list value := .ok (list ++ [value])

/-- One call a caller makes on a table object once its constructor has run. -/
inductive Call (width : Nat) where
  | insert (cidr : PrefixArg width) (nextHop : Int)
  | delete (cidr : PrefixArg width)
  | lookup (addr : AddressArg width)
  | lookupBatch (addrs : List (AddressArg width))
  | enter
  | close
  | exit
  | del

namespace LpmTable

section Runs
variable {σ Input : Type} {width : Nat} (family : Family width Input) (engine : Engine σ Input)
  (lib : Ipaddress width)

/-- The method a call runs, its return value dropped. -/
def runCall : Call width → EStateM PyException (Table σ) Unit
  | .insert cidr nextHop => insert family engine lib cidr nextHop
  | .delete cidr => delete family engine lib cidr
  | .lookup addr => (fun _ => ()) <$> lookup family engine lib addr
  | .lookupBatch addrs => (fun _ => ()) <$> lookupBatch family engine lib addrs
  | .enter => enter
  | .close => close engine
  | .exit => (fun _ => ()) <$> exit engine
  | .del => del engine

/-- The object after a run of calls, each made on the state the one before left, whether that
one returned or raised. -/
def runCalls (table : Table σ) : List (Call width) → Table σ
  | [] => table
  | call :: calls => runCalls (stateAfter ((runCall family engine lib call).run table)) calls

end Runs

end LpmTable

/-- A public operation on a table object: one of the calls, or a read of a property or of
`repr()`. -/
inductive Operation (width : Nat) where
  | call (call : Call width)
  | closed
  | algorithm
  | numPrefixes
  | numNodes
  | numWideNodes
  | repr

namespace LpmTable

section Operations
variable {σ Input : Type} {width : Nat} (family : Family width Input) (engine : Engine σ Input)
  (lib : Ipaddress width) (stats : EngineStats σ) (strRepr : String → String)

/-- The method an operation runs, its value dropped. `num_wide_nodes` is a property of
`LpmTableIPv6` only (`wideNodes`): on `LpmTableIPv4` the attribute lookup raises
`AttributeError`. -/
def runOperation (wideNodes : Bool) : Operation width → EStateM PyException (Table σ) Unit
  | .call call => runCall family engine lib call
  | .closed => (fun _ => ()) <$> closed
  | .algorithm => (fun _ => ()) <$> algorithm stats
  | .numPrefixes => (fun _ => ()) <$> numPrefixes stats
  | .numNodes => (fun _ => ()) <$> numNodes stats
  | .numWideNodes =>
      if wideNodes then (fun _ => ()) <$> numWideNodes stats
      else throw (.attributeError "num_wide_nodes")
  | .repr => (fun _ => ()) <$> repr family stats strRepr

end Operations

end LpmTable

/-- A statement of the block of a `with` statement: a public operation, or a `raise` of the
caller's own. -/
inductive Statement (width : Nat) where
  | operation (operation : Operation width)
  | raise (error : PyException)

namespace LpmTable

section Blocks
variable {σ Input : Type} {width : Nat} (family : Family width Input) (engine : Engine σ Input)
  (lib : Ipaddress width) (stats : EngineStats σ) (strRepr : String → String)

/-- A block of statements, run in order until one raises. -/
def runBlock (wideNodes : Bool) : List (Statement width) → EStateM PyException (Table σ) Unit
  | [] => pure ()
  | .operation operation :: rest => do
      runOperation family engine lib stats strRepr wideNodes operation
      runBlock wideNodes rest
  | .raise error :: _ => throw error

/-- Python's statement `with table: block`, as the language reference expands it: after
`__enter__` the block runs, and `__exit__` runs whether the block returned or raised; an exception
of the block goes on unless `__exit__` returns a true value. -/
def withStatement (block : EStateM PyException (Table σ) Unit) : EStateM PyException (Table σ) Unit := do
  enter
  let raised ← tryCatch (do block; pure none) fun error => pure (some error)
  match raised with
  | none => (fun _ => ()) <$> exit engine
  | some error => if ← exit engine then pure () else throw error

end Blocks

end LpmTable

namespace LpmTableIPv4
variable {σ : Type} (engine : Engine σ Nat) (lib : Ipaddress 32)

/-- The default argument `Algorithm.DIR24`. -/
def defaultAlgorithm : AlgorithmArg := .member .DIR24

def init (algorithm : AlgorithmArg) : EStateM PyException (Table σ) Unit :=
  LpmTable.init ipv4 engine algorithm

def enter : EStateM PyException (Table σ) Unit := LpmTable.enter

def close : EStateM PyException (Table σ) Unit := LpmTable.close engine

def exit : EStateM PyException (Table σ) Bool := LpmTable.exit engine

def del : EStateM PyException (Table σ) Unit := LpmTable.del engine

def insert (cidr : PrefixArg 32) (nextHop : Int) : EStateM PyException (Table σ) Unit :=
  LpmTable.insert ipv4 engine lib cidr nextHop

def delete (cidr : PrefixArg 32) : EStateM PyException (Table σ) Unit :=
  LpmTable.delete ipv4 engine lib cidr

def lookup (addr : AddressArg 32) : EStateM PyException (Table σ) (Option Int) :=
  LpmTable.lookup ipv4 engine lib addr

def lookupBatch (addrs : List (AddressArg 32)) : EStateM PyException (Table σ) (List (Option Int)) :=
  LpmTable.lookupBatch ipv4 engine lib addrs

def runCalls (table : Table σ) (calls : List (Call 32)) : Table σ :=
  LpmTable.runCalls ipv4 engine lib table calls

def closed : EStateM PyException (Table σ) Bool := LpmTable.closed

def algorithm (stats : EngineStats σ) : EStateM PyException (Table σ) String :=
  LpmTable.algorithm stats

def numPrefixes (stats : EngineStats σ) : EStateM PyException (Table σ) Nat :=
  LpmTable.numPrefixes stats

def numNodes (stats : EngineStats σ) : EStateM PyException (Table σ) Nat :=
  LpmTable.numNodes stats

def repr (stats : EngineStats σ) (strRepr : String → String) : EStateM PyException (Table σ) String :=
  LpmTable.repr ipv4 stats strRepr

/-- An operation on an `LpmTableIPv4`, which has no `num_wide_nodes`. -/
def runOperation (stats : EngineStats σ) (strRepr : String → String) (operation : Operation 32) :
    EStateM PyException (Table σ) Unit :=
  LpmTable.runOperation ipv4 engine lib stats strRepr false operation

end LpmTableIPv4

namespace LpmTableIPv6
variable {σ : Type} (engine : Engine σ (List UInt8)) (lib : Ipaddress 128)

/-- The default argument `Algorithm.WIDE16`. -/
def defaultAlgorithm : AlgorithmArg := .member .WIDE16

def init (algorithm : AlgorithmArg) : EStateM PyException (Table σ) Unit :=
  LpmTable.init ipv6 engine algorithm

def enter : EStateM PyException (Table σ) Unit := LpmTable.enter

def close : EStateM PyException (Table σ) Unit := LpmTable.close engine

def exit : EStateM PyException (Table σ) Bool := LpmTable.exit engine

def del : EStateM PyException (Table σ) Unit := LpmTable.del engine

def insert (cidr : PrefixArg 128) (nextHop : Int) : EStateM PyException (Table σ) Unit :=
  LpmTable.insert ipv6 engine lib cidr nextHop

def delete (cidr : PrefixArg 128) : EStateM PyException (Table σ) Unit :=
  LpmTable.delete ipv6 engine lib cidr

def lookup (addr : AddressArg 128) : EStateM PyException (Table σ) (Option Int) :=
  LpmTable.lookup ipv6 engine lib addr

def lookupBatch (addrs : List (AddressArg 128)) :
    EStateM PyException (Table σ) (List (Option Int)) :=
  LpmTable.lookupBatch ipv6 engine lib addrs

def runCalls (table : Table σ) (calls : List (Call 128)) : Table σ :=
  LpmTable.runCalls ipv6 engine lib table calls

def closed : EStateM PyException (Table σ) Bool := LpmTable.closed

def algorithm (stats : EngineStats σ) : EStateM PyException (Table σ) String :=
  LpmTable.algorithm stats

def numPrefixes (stats : EngineStats σ) : EStateM PyException (Table σ) Nat :=
  LpmTable.numPrefixes stats

def numNodes (stats : EngineStats σ) : EStateM PyException (Table σ) Nat :=
  LpmTable.numNodes stats

def numWideNodes (stats : EngineStats σ) : EStateM PyException (Table σ) Nat :=
  LpmTable.numWideNodes stats

def repr (stats : EngineStats σ) (strRepr : String → String) : EStateM PyException (Table σ) String :=
  LpmTable.repr ipv6 stats strRepr

/-- An operation on an `LpmTableIPv6`. -/
def runOperation (stats : EngineStats σ) (strRepr : String → String) (operation : Operation 128) :
    EStateM PyException (Table σ) Unit :=
  LpmTable.runOperation ipv6 engine lib stats strRepr true operation

end LpmTableIPv6

end Liblpm
