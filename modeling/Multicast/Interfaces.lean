import Multicast.Text.Word
import Multicast.World

/-!
# `Multicast.Interfaces` — finding interfaces and their addresses

The interface to use is the one of the default route, and its address is the first one that it has.
Both are read from the listings of the system's own tools, with fallbacks for systems without them.

## Contents
- **Scanning.** `afterBlanks?` and `keyword?`, pieces of the two listings' grammar.
- **Routes.** `routeInterface?` finds the default route in a listing of routes, `tableInterface?` in
  the system's routing table; `Act.defaultInterface` tries both, then the first interface but the
  loopback.
- **Addresses.** `listedAddress?` finds an address in a listing; `Act.interfaceAddress`.
- **Numbers.** `Act.interfaceIndex`.
-/

namespace Multicast

open Text

namespace Interfaces

/-! ## Scanning -/

/-- What follows a text that stands at the front. -/
def after? : List Char → List Char → Option (List Char)
  | [], cs => some cs
  | _ :: _, [] => none
  | c :: word, d :: cs => if c = d then after? word cs else none

/-- What follows at least one blank at the front, without the blanks. -/
def afterBlanks? : List Char → Option (List Char)
  | [] => none
  | c :: cs => if isBlank c then some (cs.dropWhile isBlank) else none

/-- What follows a word that starts here and the blanks behind it. -/
def keyword? (word : String) (previous : Option Char) (cs : List Char) : Option (List Char) :=
  if startsWord previous (cs.headD ' ') then (after? word.toList cs).bind afterBlanks? else none

/-! ## Routes -/

/-- The interface behind the first `dev` on the rest of a line, read up to the next blank. -/
def deviceName? (previous : Option Char) : List Char → Option (List Char)
  | [] => none
  | c :: cs =>
    let here := (keyword? "dev" previous (c :: cs)).bind fun rest =>
      let name := rest.takeWhile (!isBlank ·)
      if name = [] then none else some name
    match here with
    | some name => some name
    | none => if c = '\n' then none else deviceName? (some c) cs

/-- The interface of a route listed from here on, if it is the default route. -/
def defaultRoute? (cs : List Char) : Option (List Char) :=
  match after? "default".toList cs with
  | some (c :: rest) => if isBlank c then deviceName? (some c) rest else none
  | _ => none

/-- The interface of the first default route that a listing shows at the start of a line. -/
def routeInterface? (lineStart : Bool) : List Char → Option (List Char)
  | [] => none
  | c :: cs =>
    match (if lineStart then defaultRoute? (c :: cs) else none) with
    | some name => some name
    | none => routeInterface? (c = '\n') cs

/-- The interface whose destination in the routing table is zero; the first line is a heading. -/
def tableInterface? (table : String) : Option String :=
  (newlineSeparated table.toList).drop 1 |>.findSome? fun line =>
    match words line with
    | name :: destination :: _ =>
      if destination = "00000000".toList then some (String.ofList name) else none
    | _ => none

/-! ## Addresses -/

/-- Characters of an address in a listing. -/
def isAddressChar (c : Char) : Bool :=
  ('0' ≤ c && c ≤ '9') || ('a' ≤ c && c ≤ 'f') || ('A' ≤ c && c ≤ 'F') || c == '.' || c == ':'

/-- The address in front of a slash and a digit. -/
def prefixed? (cs : List Char) : Option (List Char) :=
  let address := cs.takeWhile isAddressChar
  match cs.dropWhile isAddressChar with
  | '/' :: d :: _ => if address ≠ [] ∧ isDecimal d then some address else none
  | _ => none

/-- The first address of a listing that is marked as one of either family and has a length behind a
slash. -/
def listedAddress? (previous : Option Char) : List Char → Option (List Char)
  | [] => none
  | c :: cs =>
    let marked := (keyword? "inet" previous (c :: cs)).orElse fun _ =>
      keyword? "inet6" previous (c :: cs)
    match marked.bind prefixed? with
    | some address => some address
    | none => listedAddress? (some c) cs

/-- The families that are looked through, by number; zero asks for both. -/
def familiesOf (family : Int) : List Int := if family = 0 then [2, 10] else [family]

/-- The command that lists the addresses of an interface. -/
def addressCommand (interface : String) (family : Int) : String :=
  let flag := if family = 2 then "-4" else "-6"
  s!"ip -o {flag} addr show dev {interface} 2>/dev/null"

/-- The address that stands for any other, of a family by number. -/
def anyAddress (family : Int) : String :=
  if family = 10 then Family.inet6.anyAddress else Family.inet.anyAddress

/-- The command that lists the default routes. -/
def routeCommand : String := "ip route show default 2>/dev/null"

end Interfaces

namespace Act

open Interfaces

/-- What a shell command prints. -/
def output (command : String) : Act String := do
  call (.command command)
  pure (((← get).host.commands.lookup command).getD "")

/-- The names of all interfaces, none if the system does not tell. -/
def interfaceNames : Act (List String) :=
  recover (do check .interfaceNames; pure ((← get).host.interfaces.map (·.2))) Fault.isSystem
    fun _ => pure []

/-- The interface of the default route, or else the first one that is not the loopback, or an empty
name. -/
def defaultInterface : Act String := do
  let listing ← output routeCommand
  match routeInterface? true listing.toList with
  | some name => pure (String.ofList name)
  | none =>
    match (← get).host.routes.bind tableInterface? with
    | some name => pure name
    | none => pure (((← interfaceNames).find? (· ≠ "lo")).getD "")

/-- The first listed address of an interface in the given families. -/
def firstAddress (interface : String) : List Int → Act (Option String)
  | [] => pure none
  | family :: families => do
    let listing ← if interface = "" then pure "" else output (addressCommand interface family)
    match listedAddress? none listing.toList with
    | some address => pure (some (String.ofList address))
    | none => firstAddress interface families

/-- The first address of the host's name, if the system knows one. -/
def hostAddress (family : Int) : Act (Option String) :=
  recover
    (do
      let host := (← get).host
      attempt .lookup (.lookup host.name family)
      pure host.addresses.head?)
    Fault.isSystem fun _ => pure none

/-- The first address of an interface. Without one, the host's own address is tried if `fallback`
allows it, and then the address that stands for any. -/
def interfaceAddress (interface : String) (family : Int) (fallback : Bool) : Act String := do
  match ← firstAddress interface (familiesOf family) with
  | some address => pure address
  | none =>
    let first := (familiesOf family).headD 2
    let own ← if fallback then hostAddress first else pure none
    pure (own.getD (anyAddress first))

/-- The index of an interface, 0 for none and for one that does not exist. -/
def interfaceIndex (interface : String) : Act Int := do
  if interface = "" then pure 0
  else
    match (← get).host.interfaces.find? (·.2 = interface) with
    | some (index, _) => pure index
    | none =>
      log .debug s!"No such interface '{interface}'"
      pure 0

end Act

end Multicast
