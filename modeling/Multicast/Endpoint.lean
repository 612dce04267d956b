import Multicast.Address.Text
import Multicast.Fault
import Multicast.Text.Quoted

/-!
# `Multicast.Endpoint` — addresses with a port

The destination of a group's datagrams, or the source that a join is restricted to.

## Contents
- `Endpoint`, its family and text, and `Endpoint.step` to the next group's endpoint.
- **Reading.** `Endpoint.read` from a text of either family, `Endpoint.readAs` from one of a given
  family, and `Endpoint.ofPacked` from bytes.
-/

namespace Multicast

/-- An address and a UDP port; the port is 0 where it plays no part. -/
structure Endpoint where
  address : Address
  port : Int
deriving Repr, DecidableEq

namespace Endpoint

/-- The family of the address. -/
def family (e : Endpoint) : Family := e.address.family

/-- The printed form of the address. -/
def text (e : Endpoint) : String := e.address.text

/-- The bytes of the address. -/
def packed (e : Endpoint) : Octets := e.address.packed

/-- The endpoint of the next group, on the same port. -/
def step (e : Endpoint) : Endpoint := { e with address := e.address.step }

/-- The endpoints of the next groups. -/
def following (e : Endpoint) : Nat → List Endpoint
  | 0 => []
  | n + 1 => e.step :: e.step.following n

/-- What an endpoint of a family is called. -/
def title : Family → String
  | .inet => "IPv4Endpoint"
  | .inet6 => "IPv6Endpoint"

/-- The printed form of an endpoint. -/
def describe (e : Endpoint) : String :=
  s!"{title e.family}({Text.quoted e.text}, port={e.port})"

/-! ## Reading -/

/-- Reads an address of a family. -/
def readAs (family : Family) (text : String) (port : Int) : Except SetupError Endpoint :=
  match Address.readAs? family text with
  | some address => .ok ⟨address, port⟩
  | none => .error (.badGroup text)

/-- Reads an address of the family that its text shows. -/
def read (text : String) (port : Int) : Except SetupError Endpoint :=
  readAs (Family.ofText text) text port

/-- The address of a family with the given bytes. -/
def ofPacked (family : Family) (packed : Octets) (port : Int) : Except SetupError Endpoint :=
  match Address.ofPacked? family packed with
  | some address => .ok ⟨address, port⟩
  | none => .error (.badLength packed.length)

end Endpoint

end Multicast
