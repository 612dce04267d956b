import Multicast.Calendar
import Multicast.Room
import Multicast.Text.Numeral

/-!
# `Multicast.Fault` — what can go wrong

Everything that ends a step early is a `Fault`. The causes are grouped by what they mean to the
program: a setup that cannot be used is reported and ends the start-up, a failure of the transport
ends the loop with a message of its own, and anything else is unexpected.

## Contents
- **Setup.** `SetupError`: options, tokens, addresses and the room in the table.
- **System.** `SystemError`: a refused system call, with its number.
- **Resources.** `ResourceError`: the descriptor limit.
- **Transport.** `TransportError`: the five places where sending or receiving fails for good.
- **Log region.** `LimitError`: how many lines are kept.
- **Emptied options.** `ValueUse`: what an option without a value was needed for.
- **All.** `Fault`, its `message`, and the classes that handlers tell apart.
-/

namespace Multicast

open Text

/-! ## Setup -/

/-- Options and groups that cannot be used. -/
inductive SetupError where
  /-- What follows the last plus sign of a token is no count. -/
  | badCount (token : String)
  /-- A token without a group. -/
  | missingGroup (token : String)
  /-- Fewer than one group asked for. -/
  | tooFew (count : Int)
  /-- More groups asked for than there is room. -/
  | noRoom (count : Int) (room : Int)
  /-- One group more than the table holds. -/
  | tableFull (label : String) (capacity : Int)
  /-- Several groups more than the table holds. -/
  | tooMany (count : Nat) (capacity : Int)
  /-- A group that is no address of its family. -/
  | badGroup (text : String)
  /-- A source that is no address of its group's family. -/
  | badSource (source group : String)
  /-- An address with a wrong number of bytes. -/
  | badLength (length : Nat)
  /-- A payload that does not fit a datagram. -/
  | payload (limit : Nat)
  /-- An interface name that is too long. -/
  | interfaceName (limit : Nat)
  | logLevel (text : String)
  | period (msec : Int)
  | count (n : Int)
  | port (n : Int)
  | ttl (n : Int)
deriving Repr, DecidableEq

/-- The wording of a setup error. -/
def SetupError.message : SetupError → String
  | badCount token => s!"Invalid number of groups in '{token}'"
  | missingGroup token => s!"Missing group in '{token}'"
  | tooFew n => s!"Invalid number of groups given ({n})"
  | noRoom n room => s!"Cannot add {n} groups, only {max room 0} slots left"
  | tableFull label capacity => s!"Cannot add {label}, max ({capacity}) reached"
  | tooMany n capacity => s!"Invalid number of groups given ({n}), or max ({capacity}) reached"
  | badGroup text => s!"{text} is not a valid multicast group"
  | badSource source group => s!"{source} is not a valid source for {group}"
  | badLength n => s!"Invalid address length {n}"
  | payload limit => s!"Too long payload, max {limit} bytes"
  | interfaceName limit => s!"Too long interface name, max {limit} chars."
  | logLevel text => s!"Invalid log level: {text}"
  | period msec => s!"Invalid period: {msec} msec"
  | count n => s!"Invalid count: {n}"
  | port n => s!"Invalid port: {n}"
  | ttl n => s!"Invalid TTL: {n}"

/-! ## System -/

/-- A failure that the system reports, mostly with a number. -/
structure SystemError where
  number : Option Int
  text : String
deriving Repr, DecidableEq

namespace SystemError

/-- The wording of a system failure. -/
def message (e : SystemError) : String :=
  match e.number with
  | some n => s!"[Errno {n}] {e.text}"
  | none => e.text

/-- Whether the failure only says that a call would have to wait. -/
def wouldBlock (e : SystemError) : Bool :=
  e.number == some 11 || e.number == some 114 || e.number == some 115

/-- A read from a socket that holds nothing. -/
def nothingToRead : SystemError := ⟨some 11, "Resource temporarily unavailable"⟩

/-- A number that a call has no use for. -/
def invalid : SystemError := ⟨some 22, "Invalid argument"⟩

/-- Text that is no address in numbers-and-dots notation. -/
def notNumbers : SystemError := ⟨none, "illegal IP address string passed to inet_aton"⟩

end SystemError

/-! ## Resources -/

/-- Failures with the limit on open descriptors. -/
inductive ResourceError where
  | reading (cause : String)
  | bounded (wanted hard : Int)
  | raising (wanted : Int) (cause : String)
deriving Repr, DecidableEq

/-- The wording of a resource failure. -/
def ResourceError.message : ResourceError → String
  | reading cause => s!"Failed reading RLIMIT_NOFILE: {cause}"
  | bounded wanted hard => s!"Failed setting RLIMIT_NOFILE soft limit to {wanted}, max {hard}"
  | raising wanted cause => s!"Failed setting RLIMIT_NOFILE soft limit to {wanted}: {cause}"

/-! ## Transport -/

/-- Failures that end sending or receiving for good. -/
inductive TransportError where
  /-- A sending socket could not be set up. -/
  | setup (cause : String)
  | sending (group cause : String)
  | joining (label cause : String)
  | waiting (cause : String)
  | receiving (group cause : String)
  /-- A failure in other words. -/
  | other (text : String)
deriving Repr, DecidableEq

/-- The wording of a transport failure. -/
def TransportError.message : TransportError → String
  | setup cause => s!"Failed setting up sender socket: {cause}"
  | sending group cause => s!"Failed sending to {group}: {cause}"
  | joining label cause => s!"Failed joining {label}: {cause}"
  | waiting cause => s!"Failed waiting for packets: {cause}"
  | receiving group cause => s!"Failed receiving on {group}: {cause}"
  | other text => text

/-! ## Log region -/

/-- Why a number of lines is no limit of a log region. -/
inductive LimitError where
  /-- Less than no lines. -/
  | negative
  /-- More than can be counted in 64 bits, or as far below zero. -/
  | uncountable
deriving Repr, DecidableEq

/-- The wording of a limit that cannot be had. -/
def LimitError.message : LimitError → String
  | negative => "maxlen must be non-negative"
  | uncountable => "Python int too large to convert to C ssize_t"

/-! ## Emptied options -/

/-- What the value of an option is needed for. -/
inductive ValueUse where
  /-- To be compared with the least value. -/
  | leastValue
  /-- To be placed in a range without its lower end. -/
  | openRange
  /-- To be placed in a range with its lower end. -/
  | closedRange
  /-- To be looked up without regard to case. -/
  | name
deriving Repr, DecidableEq

/-- The wording of the lack of a value. -/
def ValueUse.message : ValueUse → String
  | leastValue => "'<' not supported between instances of 'list' and 'int'"
  | openRange => "'<' not supported between instances of 'int' and 'list'"
  | closedRange => "'<=' not supported between instances of 'int' and 'list'"
  | name => "'list' object has no attribute 'lower'"

/-! ## All -/

/-- Whatever ends a step early. -/
inductive Fault where
  | setup (e : SetupError)
  | numeral (e : NumeralError)
  | system (e : SystemError)
  | resource (e : ResourceError)
  | transport (e : TransportError)
  /-- A failed operation on the screen. -/
  | screen (text : String)
  | locale (text : String)
  /-- An invalid argument of a system call. -/
  | value (text : String)
  | runtime (text : String)
  /-- The user's interrupt. -/
  | interrupt (text : String)
  /-- A session number that the table does not have. -/
  | noSession (index : Int)
  /-- The last character of an empty group. -/
  | emptyGroup
  /-- A window that is wider than the history. -/
  | wideWindow
  /-- An endpoint that was not resolved. -/
  | unresolved
  /-- A socket that is not known where it is looked up. -/
  | unknownSocket
  /-- A number that does not fit its field of a request, which is of 32 bits. -/
  | fieldRange (signed : Bool) (n : Int)
  /-- A number that is too large for a span of time. -/
  | tooLarge
  /-- A number out of the range in which a call takes it. -/
  | outOfRange (text : String)
  /-- A number that an option takes for bytes, as it does not fit. -/
  | notBytes
  /-- A clock without a date. -/
  | date (e : Calendar.DateError)
  /-- A size that cannot be had. -/
  | room (e : RoomError)
  /-- A log region of a size that cannot be had. -/
  | limit (e : LimitError)
  /-- Something that only a receiver does. -/
  | unsupported
  /-- An option without the value that is needed. -/
  | emptied (use : ValueUse)
  /-- The process leaves at once, as the parent of a daemon does. -/
  | departed
deriving Repr, DecidableEq

namespace Fault

/-- The wording of a number that does not fit its field of 32 bits. One that does not even fit 64
bits is worded shorter. -/
def fieldMessage (signed : Bool) (n : Int) : String :=
  let wide := if signed then fitsSigned 64 n else fitsUnsigned 64 n
  if !wide then "argument out of range"
  else if signed then "'i' format requires -2147483648 <= number <= 2147483647"
  else "'I' format requires 0 <= number <= 4294967295"

/-- The wording of a session number that the table does not have. One that does not fit 64 bits is
worded like a size that does not. -/
def indexMessage (index : Int) : String :=
  if fitsSigned 64 index then "list index out of range" else RoomError.uncountable.message

/-- The wording of a fault, where it has one. -/
def message : Fault → String
  | setup e => e.message
  | numeral e => e.message
  | system e => e.message
  | resource e => e.message
  | transport e => e.message
  | screen text | locale text | value text | runtime text | interrupt text | outOfRange text => text
  | noSession index => indexMessage index
  | emptyGroup => "string index out of range"
  | wideWindow => "Indices for islice() must be None or an integer: 0 <= x <= sys.maxsize."
  | tooLarge => "int too large to convert to float"
  | notBytes => "a bytes-like object is required, not 'int'"
  | date e => e.message
  | room e => e.message
  | limit e => e.message
  | fieldRange signed n => fieldMessage signed n
  | emptied use => use.message
  | unresolved | unknownSocket | unsupported | departed => ""

/-- Faults that stand for a refused system call, wherever they were noticed. -/
def isSystem : Fault → Bool
  | system _ | resource _ | transport _ => true
  | _ => false

/-- Faults that a refused resource call can show as: refused, or called with an invalid argument. -/
def isRefusal : Fault → Bool
  | value _ | setup _ | numeral _ | wideWindow => true
  | f => f.isSystem

/-- Faults of operations on the screen. -/
def isScreen : Fault → Bool
  | screen _ => true
  | _ => false

/-- Faults of setting a locale. -/
def isLocale : Fault → Bool
  | locale _ => true
  | _ => false

/-- Faults that no handler for errors sees: the user's interrupt and the departure of the
process. -/
def endsProcess : Fault → Bool
  | interrupt _ | departed => true
  | _ => false

end Fault

end Multicast
