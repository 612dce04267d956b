import Multicast.Bits
import Multicast.Endpoint

/-!
# `Multicast.Membership` — requests to join a group

A group is joined by setting one option of its socket. Which option it is, and how its value is laid
out, depends on the family of the group and on whether it is restricted to a source. Addresses are
in network order, the other numbers in the order of the machine.

## Contents
- **Options.** `OptionName`, with level and number, and `OptionValue`.
- **Fields.** `uint32?` and `int32?`, numbers that fit their field; `uint32?_natCast` and
  `int32?_natCast`, how those are laid out.
- **Layouts.** `socketAddress?`, `sourceRequest?` and the three shorter requests.
- **Requests.** `Membership.request?`.
-/

namespace Multicast

/-! ## Options -/

/-- The socket options that are set. -/
inductive OptionName where
  | reuseAddress
  | ttl4
  | interface4
  | join4
  | joinSource4
  | hops6
  | interface6
  | join6
  | joinSource6
deriving Repr, DecidableEq

namespace OptionName

/-- The protocol level of an option. -/
def level : OptionName → Nat
  | reuseAddress => 1
  | ttl4 | interface4 | join4 | joinSource4 => 0
  | hops6 | interface6 | join6 | joinSource6 => 41

/-- The number of an option on its level. -/
def number : OptionName → Nat
  | reuseAddress => 2
  | ttl4 => 33
  | interface4 => 32
  | join4 => 35
  | joinSource4 => 39
  | hops6 => 18
  | interface6 => 17
  | join6 => 20
  | joinSource6 => 46

end OptionName

/-- The value of an option. -/
inductive OptionValue where
  | number (n : Int)
  | bytes (bs : Octets)
deriving Repr, DecidableEq

/-! ## Fields -/

/-- An unsigned number of 16 bits in machine order. -/
def uint16? (n : Int) : Option Octets :=
  if fitsUnsigned 16 n then some (littleEndian 2 n.toNat) else none

/-- An unsigned number of 32 bits in machine order. -/
def uint32? (n : Int) : Option Octets :=
  if fitsUnsigned 32 n then some (littleEndian 4 n.toNat) else none

/-- A signed number of 32 bits in machine order. -/
def int32? (n : Int) : Option Octets :=
  if fitsSigned 32 n then some (littleEndian 4 (n % 2 ^ 32).toNat) else none

/-- Numbers that fit are laid out as they are. -/
theorem uint32?_natCast {n : Nat} (h : n < 2 ^ 32) : uint32? n = some (littleEndian 4 n) := by
  have hfits : fitsUnsigned 32 n = true := by
    rw [fitsUnsigned_iff]
    omega
  rw [uint32?, if_pos hfits, Int.toNat_natCast]

theorem int32?_natCast {n : Nat} (h : n < 2 ^ 31) : int32? n = some (littleEndian 4 n) := by
  have hfits : fitsSigned 32 n = true := by
    rw [fitsSigned_iff]
    omega
  have hmod : ((n : Int) % 2 ^ 32).toNat = n := by omega
  rw [int32?, if_pos hfits, hmod]

/-! ## Layouts -/

/-- Fills a byte string up with zero bytes; a longer one is left as it is. -/
def fillTo (width : Nat) (bs : Octets) : Octets := bs ++ zeros (width - bs.length)

/-- A socket address of 128 bytes on port 0. The address of IPv6 lies behind the port and the flow,
that of any other family behind the port. -/
def socketAddress? (family : Int) (packed : Octets) : Option Octets := do
  let head ← uint16? family
  let body :=
    if family = Family.inet6.number then zeros 2 ++ zeros 4 ++ packed ++ zeros 4
    else zeros 2 ++ packed
  some (fillTo 128 (head ++ body))

/-- The request for a group and a source of either family: the interface, aligned to eight bytes,
and the two socket addresses. -/
def sourceRequest? (interface : Int) (target origin : Endpoint) : Option Octets := do
  let head ← uint32? interface
  let group ← socketAddress? target.family.number target.packed
  let source ← socketAddress? origin.family.number origin.packed
  some (head ++ zeros 4 ++ group ++ source)

/-- The interface of an IPv4 option: an address, no local address, and the interface's index. -/
def interfaceRequest4? (packed : Octets) (interface : Int) : Option Octets :=
  (int32? interface).map (packed ++ zeros 4 ++ ·)

/-- The request for an IPv6 group from any source. -/
def groupRequest6? (packed : Octets) (interface : Int) : Option Octets :=
  (uint32? interface).map (packed ++ ·)

/-! ## Requests -/

/-- The option that joins a group, with its value. Only a source of an IPv4 group is received on a
local address, all other groups on the interface's index; an index that does not fit its field gives
none. -/
def Membership.request? (target : Endpoint) (origin : Option Endpoint) (interface : Int)
    (localAddress : Octets) : Option (OptionName × Octets) :=
  match target.family, origin with
  | .inet, some source => some (.joinSource4, target.packed ++ localAddress ++ source.packed)
  | .inet, none => (interfaceRequest4? target.packed interface).map (.join4, ·)
  | .inet6, some source => (sourceRequest? interface target source).map (.joinSource6, ·)
  | .inet6, none => (groupRequest6? target.packed interface).map (.join6, ·)

end Multicast
