import Multicast.Address.Text

/-!
# `Multicast.Address.Numbers` — numbers and dots

The address of the interface in a source join may be written in the older notation of one to four
numbers between dots, where the last number fills all bytes that are left. A number with a leading
zero is octal, any other decimal; hexadecimal digits and colons, the other characters an interface
address is read with, fit in no number.

## Contents
- `readNumber?`, one number, and `Address.readNumbers?`, the four bytes of an address.
-/

namespace Multicast

/-- A number: octal after a leading zero, decimal otherwise. -/
def readNumber? (cs : List Char) : Option Nat := do
  let ds ← cs.mapM decimalValue?
  match ds with
  | [] => none
  | 0 :: rest => if rest.all (· < 8) then some (valueOf 8 rest) else none
  | _ => some (valueOf 10 ds)

/-- The address that numbers stand for: all but the last are one byte, the last is the rest. -/
def ofNumbers? : List Nat → Option Nat
  | [] => none
  | ns =>
    let front := ns.dropLast
    let last := ns.getLastD 0
    let left := 4 - front.length
    if ns.length ≤ 4 ∧ front.all (· < 256) ∧ last < 256 ^ left then
      some (valueOf 256 front * 256 ^ left + last)
    else none

namespace Address

/-- Reads an IPv4 address in numbers-and-dots notation, as its four bytes. -/
def readNumbers? (text : String) : Option Octets := do
  let ns ← (text.toList.splitOn '.').mapM readNumber?
  (ofNumbers? ns).map (bigEndian 4)

end Address

end Multicast
