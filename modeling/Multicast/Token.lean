import Multicast.Endpoint
import Multicast.Fault

/-!
# `Multicast.Token` — group tokens

A group token names one or more groups, `[SOURCE,]GROUP[+NUM]`: an optional source address that the
groups are restricted to, the first group, and how many consecutive groups there are. The count
stands behind the last plus sign, the source in front of the first comma; blanks around the token,
the source and the group are dropped.

## Contents
- **Parts.** `Token`, the parts of a token, and `Token.read`.
- **Groups.** `Pair`, a source and a group; `consecutive`, the groups from a first one on; `worded`,
  the refusal of a number; and `Token.expand`, which checks the count against the room before the
  group is read.
-/

namespace Multicast

open Text

/-! ## Parts -/

/-- The parts of a group token. -/
structure Token where
  source : Option String
  group : String
  count : Int
deriving Repr, DecidableEq

/-- A source address, if the group is restricted to one, and a group address, both as text. -/
abbrev Pair := Option String × String

namespace Token

/-- A trimmed text, unless nothing is left of it. -/
def field? (cs : List Char) : Option String :=
  let trimmed := trim cs
  if trimmed = [] then none else some (String.ofList trimmed)

/-- Source and group of a token without its count. -/
def splitSource (body : List Char) : Option String × List Char :=
  match splitFirst? ',' body with
  | some (source, group) => (field? source, group)
  | none => (none, body)

/-- The text in front of the count, and the count; a token without a plus sign counts one group. -/
def splitCount (token : String) : Except Fault (List Char × Int) :=
  let body := trim token.toList
  match splitLast? '+' body with
  | none => .ok (body, 1)
  | some (before, digits) =>
    if digits ≠ [] ∧ digits.all isDigitLike then
      match readInteger (String.ofList digits) with
      | .ok n => .ok (before, n)
      | .error e => .error (.numeral e)
    else .error (.setup (.badCount token))

/-- Reads a group token. -/
def read (token : String) : Except Fault Token := do
  let (body, count) ← splitCount token
  let (source, group) := splitSource body
  match field? group with
  | some group => .ok ⟨source, group, count⟩
  | none => .error (.setup (.missingGroup token))

/-! ## Groups -/

/-- The printed forms of the `n` addresses that follow one. -/
def following (a : Address) : Nat → List String
  | 0 => []
  | n + 1 => a.step.text :: following a.step n

/-- The `n` groups from a first one on, which keeps the text that it was given as. -/
def consecutive (group : String) (a : Address) : Nat → List String
  | 0 => []
  | n + 1 => group :: following a n

/-- The refusal of a number in words that hold it. Where the number has too many digits to be written,
there is only the failure to write it. -/
def worded (n : Int) (e : SetupError) : Fault :=
  match writeInteger n with
  | .ok _ => .setup e
  | .error limit => .numeral limit

/-- The pairs that a token stands for. `count` takes the place of the token's own count, `room`
bounds it; both are checked before the group is read as an address. -/
def expand (token : String) (count room : Option Int) : Except Fault (List Pair) := do
  let parts ← read token
  let n := count.getD parts.count
  if n < 1 then .error (worded n (.tooFew n))
  else if room.any (· < n) then .error (worded n (.noRoom n (room.getD 0)))
  else
    match Address.read? parts.group with
    | none => .error (.setup (.badGroup parts.group))
    | some a => .ok ((consecutive parts.group a n.toNat).map (parts.source, ·))

/-- The remark that is logged for each pair of an expansion. -/
def remark (pair : Pair) : String :=
  let source := match pair.1 with
    | some s => if s = "" then "*" else s
    | none => "*"
  s!"Adding (S,G) {source},{pair.2} to list ..."

end Token

end Multicast
