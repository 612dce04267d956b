import Multicast.Fault
import Multicast.Log

/-!
# `Multicast.Options` — the settings of a run

Options come from the command line, and from the run before where the command line does not name
them. They are checked in a fixed order, and the first one that cannot be used is reported; what
passes is the settings of the run.

## Contents
- **Options.** `Options`, what was asked for, with `Options.next`, what a run leaves to the next
  one.
- **Settings.** `Settings`, with `Settings.isPrivileged`; `verbosity?`, what a log level's name asks
  for.
- **Checking.** `Options.settings`, made of `Options.needed` and `Options.demand`.
-/

namespace Multicast

/-! ## Options -/

/-- What is asked for. An option that is given no more than a double dash is emptied: it has no
value, not even the usual one. -/
structure Options where
  /-- The size of a payload. -/
  bytes : Option Int := some 100
  /-- The packets for each group, 0 for no end. -/
  count : Option Int := some 0
  /-- Whether the program stays in the foreground. -/
  foreground : Bool := true
  /-- The milliseconds between two packets, or the longest wait for one. -/
  period : Option Int := some 100
  /-- The interface, an empty name for that of the default route. -/
  interface : Option String := some ""
  /-- Whether the program receives. -/
  join : Bool := true
  logLevel : Option String := some "notice"
  /-- A file to log to as well, an empty name for none. -/
  logFile : Option String := some ""
  /-- Whether the output is plain. -/
  plain : Bool := false
  port : Option Int := some 1234
  ttl : Option Int := some 1
  /-- The seconds to wait before anything is opened. -/
  wait : Option Int := some 0
  groups : List String := []
deriving Repr, DecidableEq

/-- The options that the next run starts from; groups are named anew each time. -/
def Options.next (o : Options) : Options := { o with groups := [] }

/-! ## Settings -/

/-- The settings of a run. An emptied option asks for nothing where nothing can be asked for: no
interface, no file, no wait. -/
structure Settings where
  bytes : Int
  count : Int
  foreground : Bool
  period : Int
  interface : String
  join : Bool
  /-- The level from which on records are kept, or no log at all. -/
  verbosity : Option Level
  logFile : String
  plain : Bool
  port : Int
  ttl : Int
  wait : Int
  groups : List String
deriving Repr, DecidableEq

namespace Settings

/-- The longest name of an interface. -/
def maxInterface : Nat := 15

/-- The largest payload. -/
def maxBytes : Nat := 1624

/-- Whether the port is reserved for the superuser, and the user is not the superuser. -/
def isPrivileged (s : Settings) (user : Int) : Bool := s.port < 1024 && user ≠ 0

/-- The remark on a reserved port. -/
def privilegeRemark : String := "Must be root to use privileged ports (< 1024)"

end Settings

/-- What a log level's name asks for: the level from which on records are kept, or no log at all.
Case does not matter. -/
def verbosity? (name : String) : Option (Option Level) :=
  [("none", none), ("error", some .error), ("warning", some .warning), ("notice", some .info),
    ("info", some .info), ("debug", some .debug)].lookup name.toLower

/-! ## Checking -/

namespace Options

/-- The value of an option that is about to be used. -/
def needed {α : Type} (use : ValueUse) : Option α → Except Fault α
  | some a => .ok a
  | none => .error (.emptied use)

/-- Only an option that is not emptied has a value. -/
@[simp] theorem needed_eq_ok {α : Type} {use : ValueUse} {o : Option α} {a : α} :
    needed use o = .ok a ↔ o = some a := by
  cases o <;> simp [needed]

/-- Fails if a condition does not hold. -/
def demand (p : Prop) [Decidable p] (e : SetupError) : Except Fault Unit :=
  if p then .ok () else .error (.setup e)

/-- A demand is met exactly when its condition holds. -/
@[simp] theorem demand_eq_ok {p : Prop} [Decidable p] {e : SetupError} {u : Unit} :
    demand p e = .ok u ↔ p := by
  by_cases hp : p <;> simp [demand, hp]

/-- The settings that are asked for, if all of them can be used. -/
def settings (o : Options) : Except Fault Settings := do
  let bytes ← needed .leastValue o.bytes
  demand (0 ≤ bytes ∧ bytes ≤ Settings.maxBytes) (.payload Settings.maxBytes)
  let interface := o.interface.getD ""
  demand (Text.size interface ≤ Settings.maxInterface) (.interfaceName Settings.maxInterface)
  let level ← needed .name o.logLevel
  let verbosity ← ((verbosity? level).map .ok).getD (.error (.setup (.logLevel level)))
  let period ← needed .leastValue o.period
  demand (1 ≤ period) (.period period)
  let count ← needed .leastValue o.count
  demand (0 ≤ count) (.count count)
  let port ← needed .openRange o.port
  demand (0 < port ∧ port < 65536) (.port port)
  let ttl ← needed .closedRange o.ttl
  demand (0 ≤ ttl ∧ ttl < 256) (.ttl ttl)
  return { o with
    bytes, interface, verbosity, period, count, port, ttl,
    logFile := o.logFile.getD "", wait := o.wait.getD 0 }

end Options

end Multicast
