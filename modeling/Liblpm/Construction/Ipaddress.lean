import Mathlib.Logic.Function.Basic
import Mathlib.Data.Nat.Bitwise

/-! The parts of the standard `ipaddress` module the wrapper relies on. -/

namespace Liblpm

/-- An `IPv4Address` or `IPv6Address`: the integer `_ip` of an address of `width` bits. -/
@[ext]
structure IPAddress (width : Nat) where
  ip : Nat
  ip_lt : ip < 2 ^ width
  deriving DecidableEq

/-- This is `_ip_int_from_prefix`: `_ALL_ONES ^ (_ALL_ONES >> prefixlen)`. -/
def netmask (width prefixlen : Nat) : Nat :=
  (2 ^ width - 1) ^^^ ((2 ^ width - 1) >>> prefixlen)

/-- An `IPv4Network` or `IPv6Network`: no bit of its network address lies past `prefixlen`. -/
@[ext]
structure IPNetwork (width : Nat) where
  networkAddress : IPAddress width
  prefixlen : Nat
  prefixlen_le : prefixlen ≤ width
  hostBitsClear : networkAddress.ip &&& netmask width prefixlen = networkAddress.ip
  deriving DecidableEq

section Masking
variable {width : Nat}

/-- The address with the bits past `prefixlen` cleared: `packed & int(self.netmask)`. -/
def IPAddress.mask (address : IPAddress width) (prefixlen : Nat) : IPAddress width :=
  ⟨address.ip &&& netmask width prefixlen, by
    rw [Nat.land_comm]
    exact Nat.and_lt_two_pow _ address.ip_lt⟩

/-- Masking clears the bits past the length. -/
@[simp] theorem IPAddress.mask_ip (address : IPAddress width) (prefixlen : Nat) :
    (address.mask prefixlen).ip = address.ip &&& netmask width prefixlen := rfl

/-- The network `IPv4Network((address, prefixlen), strict=False)` builds: host bits cleared. -/
def IPNetwork.ofAddress (address : IPAddress width) (prefixlen : Nat) (within : prefixlen ≤ width) :
    IPNetwork width :=
  ⟨address.mask prefixlen, prefixlen, within, by
    simp only [IPAddress.mask_ip, Nat.land_assoc, Nat.and_self]⟩

@[simp] theorem IPNetwork.ofAddress_networkAddress (address : IPAddress width) (prefixlen : Nat)
    (within : prefixlen ≤ width) :
    (IPNetwork.ofAddress address prefixlen within).networkAddress = address.mask prefixlen := rfl

@[simp] theorem IPNetwork.ofAddress_prefixlen (address : IPAddress width) (prefixlen : Nat)
    (within : prefixlen ≤ width) :
    (IPNetwork.ofAddress address prefixlen within).prefixlen = prefixlen := rfl

/-- `address in network`, decided as `_BaseNetwork.__contains__` does. -/
def IPNetwork.contains (network : IPNetwork width) (address : IPAddress width) : Prop :=
  address.ip &&& netmask width network.prefixlen = network.networkAddress.ip

instance (network : IPNetwork width) (address : IPAddress width) :
    Decidable (network.contains address) :=
  inferInstanceAs (Decidable (_ = _))

/-- A network of each length contains a given address: the address with its host bits cleared. -/
theorem IPNetwork.contains_iff (network : IPNetwork width) (address : IPAddress width) :
    network.contains address ↔
      IPNetwork.ofAddress address network.prefixlen network.prefixlen_le = network := by
  constructor
  · intro inside
    exact IPNetwork.ext (IPAddress.ext inside) rfl
  · intro same
    rw [← same]
    rfl

/-- The network cut around an address contains it. -/
theorem IPNetwork.ofAddress_contains (address : IPAddress width) (prefixlen : Nat)
    (within : prefixlen ≤ width) : (IPNetwork.ofAddress address prefixlen within).contains address :=
  (IPNetwork.contains_iff _ address).mpr rfl

/-- Of each length, one network contains a given address. -/
theorem IPNetwork.eq_of_contains {network other : IPNetwork width} {address : IPAddress width}
    (inside : network.contains address) (otherInside : other.contains address)
    (sameLength : network.prefixlen = other.prefixlen) : network = other := by
  rw [← (IPNetwork.contains_iff network address).mp inside,
    ← (IPNetwork.contains_iff other address).mp otherInside]
  congr 1

end Masking

/-- `value.to_bytes(count, 'big')`, for a value below `256 ^ count`. -/
def toBytes (value : Nat) : Nat → List UInt8
  | 0 => []
  | count + 1 => toBytes (value / 256) count ++ [UInt8.ofNat value]

/-- `int.from_bytes(data, 'big')`. -/
def fromBytes (data : List UInt8) : Nat :=
  data.foldl (fun value byte => value * 256 + byte.toNat) 0

/-- `to_bytes(count)` gives `count` bytes. -/
@[simp] theorem length_toBytes (value count : Nat) : (toBytes value count).length = count := by
  induction count generalizing value with
  | zero => rfl
  | succ count inductionHypothesis => simp [toBytes, inductionHypothesis]

/-- One more byte shifts the value by a byte and adds it. -/
theorem fromBytes_append_byte (data : List UInt8) (byte : UInt8) :
    fromBytes (data ++ [byte]) = fromBytes data * 256 + byte.toNat := by
  simp only [fromBytes, List.foldl_append, List.foldl_cons, List.foldl_nil]

/-- Reading the bytes back gives the value modulo the bytes' range. -/
theorem fromBytes_toBytes (value count : Nat) :
    fromBytes (toBytes value count) = value % 256 ^ count := by
  induction count generalizing value with
  | zero => simp [toBytes, fromBytes, Nat.mod_one]
  | succ count inductionHypothesis =>
      have lowByte : (UInt8.ofNat value).toNat = value % 256 := by
        simp [UInt8.ofNat, UInt8.toNat, Fin.ofNat]
      rw [toBytes, fromBytes_append_byte, inductionHypothesis, lowByte, Nat.pow_succ',
        Nat.mod_mul]
      omega

/-- This is `_max_prefixlen // 8` bytes, read with `2 ^ width` as a power of 256. -/
theorem two_pow_eq_byte_pow {width : Nat} (wholeBytes : width % 8 = 0) :
    2 ^ width = 256 ^ (width / 8) := by
  rw [show (256 : Nat) = 2 ^ 8 from rfl, ← Nat.pow_mul]
  congr 1
  omega

section Packing
variable {width : Nat}

/-- The `packed` bytes of an address: `v4_int_to_packed` or `v6_int_to_packed`. -/
def IPAddress.packed (address : IPAddress width) : List UInt8 :=
  toBytes address.ip (width / 8)

/-- `int.from_bytes(addr.packed, 'big')` is the address's integer. -/
theorem IPAddress.fromBytes_packed (wholeBytes : width % 8 = 0) (address : IPAddress width) :
    fromBytes address.packed = address.ip := by
  rw [IPAddress.packed, fromBytes_toBytes, ← two_pow_eq_byte_pow wholeBytes]
  exact Nat.mod_eq_of_lt address.ip_lt

/-- Distinct addresses pack to distinct bytes. -/
theorem IPAddress.packed_injective (wholeBytes : width % 8 = 0) {first second : IPAddress width}
    (same : first.packed = second.packed) : first = second := by
  have values := congrArg fromBytes same
  rw [IPAddress.fromBytes_packed wholeBytes, IPAddress.fromBytes_packed wholeBytes] at values
  exact IPAddress.ext values

end Packing

/-- What the wrapper takes from the standard `ipaddress` module for one family: its two text
parsers, each giving the `ValueError` message when the text is refused, and `str()` of a network.
The network parser yields the address and prefix length the text spells, before the host bits
are looked at. -/
structure Ipaddress (width : Nat) where
  address : String → Except String (IPAddress width)
  network : String → Except String (IPAddress width × Fin (width + 1))
  networkText : IPNetwork width → String

/-- `IPv4Network(text, strict=False)`: the host bits the text sets are cleared, not refused. -/
def Ipaddress.nonstrictNetwork {width : Nat} (lib : Ipaddress width) (text : String) :
    Except String (IPNetwork width) :=
  (lib.network text).map fun parsed =>
    IPNetwork.ofAddress parsed.1 parsed.2.val (Nat.lt_succ_iff.mp parsed.2.isLt)

/-- The module as a caller that passes only address and network objects meets it: no text is read. -/
def Ipaddress.objectsOnly {width : Nat} : Ipaddress width where
  address text := .error s!"{text} is not read"
  network text := .error s!"{text} is not read"
  networkText _ := ""

end Liblpm
