import Multicast.Address

/-!
# `Multicast.Address.Text` — reading and writing addresses

IPv4 addresses are four decimal octets, none with a leading zero. IPv6 addresses are eight
hexadecimal words of up to four digits, of which the last two may be written as an IPv4 address; one
run of zero words may be left out and is then marked by two colons. Each address has one printed
form: lower case, no leading zeros, the longest run of at least two zero words left out (the first
of several), and the last 32 bits in IPv4 form where the address embeds one.

## Contents
- **Pieces.** `readOctet?` and `readWord?`, one field of either family.
- **IPv4.** `readDotted?` and `dotted`.
- **IPv6.** `readColons?` over `splitGap?`; `colons` over `zeroGap`; `ofWords` and `words` between
  them.
- **Addresses.** `Family.ofText`, `Address.read?` and `Address.text`.
-/

namespace Multicast

/-! ## Pieces -/

/-- The value of an ASCII decimal digit. -/
def decimalValue? (c : Char) : Option Nat :=
  if '0' ≤ c ∧ c ≤ '9' then some (c.toNat - 48) else none

/-- The value of an ASCII hexadecimal digit of either case. -/
def hexValue? (c : Char) : Option Nat :=
  if '0' ≤ c ∧ c ≤ '9' then some (c.toNat - 48)
  else if 'a' ≤ c ∧ c ≤ 'f' then some (c.toNat - 87)
  else if 'A' ≤ c ∧ c ≤ 'F' then some (c.toNat - 55)
  else none

/-- The number that digits write in a base, most significant first. -/
def valueOf (base : Nat) (ds : List Nat) : Nat := ds.foldl (fun n d => base * n + d) 0

/-- One octet of a dotted address: decimal digits up to 255, no leading zero. -/
def readOctet? (cs : List Char) : Option Nat := do
  let ds ← cs.mapM decimalValue?
  let n := valueOf 10 ds
  if cs ≠ [] ∧ (cs.length = 1 ∨ cs.head? ≠ some '0') ∧ n ≤ 255 then some n else none

/-- One word of a colon address: one to four hexadecimal digits. -/
def readWord? (cs : List Char) : Option Nat := do
  let ds ← cs.mapM hexValue?
  if cs ≠ [] ∧ cs.length ≤ 4 then some (valueOf 16 ds) else none

/-! ## IPv4 -/

/-- Reads four octets between dots as one number. -/
def readDotted? (cs : List Char) : Option (BitVec 32) := do
  let octets ← (cs.splitOn '.').mapM readOctet?
  if octets.length = 4 then some (BitVec.ofNat 32 (valueOf 256 octets)) else none

/-- The four octets of a number between dots. -/
def dotted (host : BitVec 32) : List Char :=
  let n := host.toNat
  ['.'].intercalate
    ([n / 2 ^ 24, n / 2 ^ 16 % 256, n / 2 ^ 8 % 256, n % 256].map (Nat.toDigits 10))

/-! ## IPv6 -/

/-- The text before and after the first two colons in a row, if there are any. -/
def splitGap? : List Char → Option (List Char × List Char)
  | [] => none
  | ':' :: ':' :: cs => some ([], cs)
  | c :: cs => (splitGap? cs).map fun (before, after) => (c :: before, after)

/-- Words between colons; the last field may be a dotted address and is then two words. -/
def readFields? : List (List Char) → Option (List Nat)
  | [] => some []
  | [last] =>
    if last.contains '.' then do
      let host ← readDotted? last
      some [host.toNat / 2 ^ 16, host.toNat % 2 ^ 16]
    else (readWord? last).map ([·])
  | field :: fields => do
    let word ← readWord? field
    let rest ← readFields? fields
    some (word :: rest)

/-- The fields between colons; an empty text has none. -/
def colonFields (cs : List Char) : List (List Char) :=
  if cs = [] then [] else cs.splitOn ':'

/-- The address with eight given words. -/
def ofWords (ws : List Nat) : Address :=
  .v6 (BitVec.ofNat 96 (valueOf (2 ^ 16) (ws.take 6)))
    (BitVec.ofNat 32 (valueOf (2 ^ 16) (ws.drop 6)))

/-- Reads an address of eight words, with at most one run of zero words left out. -/
def readColons? (cs : List Char) : Option Address :=
  match splitGap? cs with
  | none => do
    let ws ← readFields? (cs.splitOn ':')
    if ws.length = 8 then some (ofWords ws) else none
  | some (before, after) => do
    let left ← (colonFields before).mapM readWord?
    let right ← readFields? (colonFields after)
    let known := left.length + right.length
    if known ≤ 7 then some (ofWords (left ++ List.replicate (8 - known) 0 ++ right)) else none

/-- The eight words of an IPv6 address. -/
def wordsOf (net : BitVec 96) (host : BitVec 32) : List Nat :=
  [80, 64, 48, 32, 16, 0].map (fun shift => net.toNat / 2 ^ shift % 2 ^ 16) ++
    [host.toNat / 2 ^ 16, host.toNat % 2 ^ 16]

/-- The number of zero words from a position on. -/
def zerosFrom (ws : List Nat) (start : Nat) : Nat :=
  ((ws.drop start).takeWhile (· == 0)).length

/-- Start and length of the longest run of zero words, the first one of several. -/
def longestZeros (ws : List Nat) : Nat × Nat :=
  (List.range ws.length).foldl
    (fun best start => if best.2 < zerosFrom ws start then (start, zerosFrom ws start) else best)
    (0, 0)

/-- The run of zero words that is left out; a single zero word is not. -/
def zeroGap (ws : List Nat) : Option (Nat × Nat) :=
  let (start, length) := longestZeros ws
  if 2 ≤ length then some (start, length) else none

/-- Hexadecimal words between colons. -/
def hexWords (ws : List Nat) : List Char := [':'].intercalate (ws.map (Nat.toDigits 16))

/-- Whether the last 32 bits are shown as an IPv4 address: the gap reaches from the start to them,
or to the word of ones in front of them. -/
def embedsDotted (ws : List Nat) (start length : Nat) : Bool :=
  start = 0 && (length = 6 || (length = 5 && ws[5]? = some 0xffff))

/-- The printed form of an IPv6 address. -/
def colons (net : BitVec 96) (host : BitVec 32) : List Char :=
  let ws := wordsOf net host
  match zeroGap ws with
  | none => hexWords ws
  | some (start, length) =>
    let right := ws.drop (start + length)
    hexWords (ws.take start) ++ [':', ':'] ++
      if embedsDotted ws start length then
        [':'].intercalate ((right.take (right.length - 2)).map (Nat.toDigits 16) ++ [dotted host])
      else hexWords right

/-! ## Addresses -/

/-- The family that an address text belongs to: a colon means IPv6. -/
def Family.ofText (text : String) : Family :=
  if text.toList.contains ':' then .inet6 else .inet

namespace Address

/-- Reads an address of a given family. -/
def readAs? (family : Family) (text : String) : Option Address :=
  match family with
  | .inet => (readDotted? text.toList).map .v4
  | .inet6 => readColons? text.toList

/-- Reads an address of the family that its text belongs to. -/
def read? (text : String) : Option Address := readAs? (Family.ofText text) text

/-- The printed form of an address. -/
def text : Address → String
  | v4 host => String.ofList (dotted host)
  | v6 net host => String.ofList (colons net host)

end Address

end Multicast
