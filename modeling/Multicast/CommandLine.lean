import Multicast.Options
import Multicast.Text.Quoted

/-!
# `Multicast.CommandLine` — reading the command line

Arguments are options or groups. An option has a short or a long name; short options without a value
can stand together in one argument, a value follows its option in the same argument or in the next
one, and long names can be shortened as long as they stay unique. A double dash ends the options;
attached to an option, it empties the option. The groups have to stand together: what follows them
behind another option is not recognised.

## Contents
- **Options.** `Switch`, with names, and `UsageError`, what can be wrong with an argument.
- **Words.** `Word.ofArgument`, one argument by itself.
- **Reading.** `Switch.cluster`, the options in one argument; `CommandLine.readWords` and
  `CommandLine.read`.
- **Texts.** `CommandLine.usage`, `CommandLine.help` and `CommandLine.version`.
-/

namespace Multicast

open Text

/-! ## Options -/

/-- The options of the command line. -/
inductive Switch where
  | help
  | bytes
  | count
  | daemon
  | period
  | interface
  | join
  | logLevel
  | logFile
  | plain
  | port
  | send
  | ttl
  | version
  | wait
deriving Repr, DecidableEq

namespace Switch

/-- All names of options, in the order in which they are tried. -/
def table : List (String × Switch) :=
  [("-h", help), ("--help", help), ("-b", bytes), ("-c", count), ("-d", daemon), ("-f", period),
    ("-i", interface), ("-j", join), ("-l", logLevel), ("--logfile", logFile), ("-o", plain),
    ("-p", port), ("-s", send), ("-t", ttl), ("-v", version), ("--version", version), ("-w", wait)]

/-- The option of a name. -/
def ofName? (name : List Char) : Option Switch := table.lookup (String.ofList name)

/-- How an option is called in messages: all its names. -/
def title (s : Switch) : String :=
  "/".intercalate ((table.filter (·.2 = s)).map (·.1))

/-- Whether an option has a value. -/
def takesValue : Switch → Bool
  | help | daemon | join | plain | send | version => false
  | bytes | count | period | interface | logLevel | logFile | port | ttl | wait => true

end Switch

/-- What can be wrong with the command line. -/
inductive UsageError where
  /-- A shortened name that fits several options. -/
  | ambiguous (argument : String) (names : List String)
  /-- A value for an option that has none. -/
  | needlessValue (s : Switch) (value : String)
  | missingValue (s : Switch)
  | notNumber (s : Switch) (value : String)
  | unrecognised (arguments : List String)
deriving Repr, DecidableEq

/-- The wording of a usage error. -/
def UsageError.message : UsageError → String
  | ambiguous argument names =>
    s!"ambiguous option: {argument} could match " ++ ", ".intercalate names
  | needlessValue s value => s!"argument {s.title}: ignored explicit argument {quoted value}"
  | missingValue s => s!"argument {s.title}: expected one argument"
  | notNumber s value => s!"argument {s.title}: invalid int value: {quoted value}"
  | unrecognised arguments => "unrecognized arguments: " ++ " ".intercalate arguments

/-- Why reading stops early. -/
inductive Halt where
  | help
  | version
  | refused (e : UsageError)
deriving Repr, DecidableEq

/-! ## Words -/

/-- One argument by itself. -/
inductive Word where
  /-- An option, and the text that is attached to it. -/
  | option (s : Switch) (long : Bool) (attached : Option (List Char))
  /-- What looks like an option but is none. -/
  | unknown (text : String)
  | plain (text : String)
  /-- The double dash that ends the options. -/
  | marker
deriving Repr, DecidableEq

namespace Word

/-- Whether a text starts with another. -/
def startsWith : List Char → List Char → Bool
  | _, [] => true
  | [], _ :: _ => false
  | c :: cs, d :: ds => c = d && startsWith cs ds

/-- Whether a text is a negative number, with or without a fraction; a line feed may follow. -/
def isNegative (cs : List Char) : Bool :=
  match cs with
  | '-' :: rest =>
    let body := if rest.getLast? = some '\n' then rest.dropLast else rest
    let fraction := body.dropWhile isDecimal
    match fraction with
    | [] => body ≠ []
    | '.' :: digits => digits ≠ [] && digits.all isDecimal
    | _ => false
  | _ => false

/-- The options that a shortened long name can mean. -/
def longMatches (name : List Char) : List (String × Switch) :=
  Switch.table.filter fun (full, _) => startsWith full.toList name

/-- An argument that starts with two dashes. -/
def ofLong (text : List Char) : Except UsageError Word :=
  let (name, value) := match splitFirst? '=' text with
    | some (name, value) => (name, some value)
    | none => (text, none)
  match Switch.ofName? text, Switch.ofName? name with
  | some s, _ => .ok (.option s true none)
  | none, some s => .ok (.option s true value)
  | none, none =>
    match longMatches name with
    | [(_, s)] => .ok (.option s true value)
    | [] =>
      .ok (if text.contains ' ' then .plain (String.ofList text) else .unknown (String.ofList text))
    | several => .error (.ambiguous (String.ofList text) (several.map (·.1)))

/-- An argument that starts with one dash, which more characters follow; a value may be set off by
an equals sign. -/
def ofShort (text : List Char) : Word :=
  match Switch.ofName? (text.take 2) with
  | some s =>
    let attached := text.drop 2
    if attached = [] then .option s false none
    else if attached.head? = some '=' then .option s false (some attached.tail)
    else .option s false (some attached)
  | none =>
    if isNegative text ∨ text.contains ' ' then .plain (String.ofList text)
    else .unknown (String.ofList text)

/-- An argument in front of any double dash. -/
def ofArgument (argument : String) : Except UsageError Word :=
  match argument.toList with
  | '-' :: '-' :: rest => ofLong ('-' :: '-' :: rest)
  | '-' :: c :: rest => .ok (ofShort ('-' :: c :: rest))
  | _ => .ok (.plain argument)

/-- All arguments; behind the double dash there are no options. -/
def ofArguments : List String → Except UsageError (List Word)
  | [] => .ok []
  | a :: rest => do
    if a = "--" then pure (marker :: rest.map plain)
    else
      let w ← ofArgument a
      let ws ← ofArguments rest
      pure (w :: ws)

end Word

/-! ## Reading -/

/-- The options in one argument: those without a value, and at its end one that may have one. The
text behind an option without a value is read as further options. -/
def Switch.cluster (s : Switch) (long : Bool) :
    List Char → Except UsageError (List Switch × Switch × Option String)
  | [] => if s.takesValue then .ok ([], s, some "") else .error (.needlessValue s "")
  | c :: rest =>
    if s.takesValue then .ok ([], s, some (String.ofList (c :: rest)))
    else if long then .error (.needlessValue s (String.ofList (c :: rest)))
    else
      match Switch.ofName? ['-', c] with
      | none => .error (.needlessValue s (String.ofList (c :: rest)))
      | some t =>
        if rest = [] then .ok ([s], t, none)
        else (t.cluster false rest).map fun (front, last) => (s :: front, last)

namespace CommandLine

/-- Where the groups are. -/
inductive Phase where
  | before
  | within
  | behind
deriving Repr, DecidableEq

/-- What was read so far. -/
structure Draft where
  options : Options
  phase : Phase := .before
  unrecognised : List String := []

/-- What an attached double dash leaves of a value: nothing, so that the option is emptied. -/
def content? (value : String) : Option String := if value = "--" then none else some value

/-- Sets an option that has a value, or empties it. -/
def setValue (o : Options) (s : Switch) (value : String) : Except Halt Options :=
  let number (f : Option Int → Options) : Except Halt Options :=
    match content? value with
    | none => .ok (f none)
    | some numeral =>
      match readInteger numeral with
      | .ok n => .ok (f n)
      | .error _ => .error (.refused (.notNumber s numeral))
  match s with
  | .bytes => number fun bytes => { o with bytes }
  | .count => number fun count => { o with count }
  | .period => number fun period => { o with period }
  | .port => number fun port => { o with port }
  | .ttl => number fun ttl => { o with ttl }
  | .wait => number fun wait => { o with wait }
  | .interface => .ok { o with interface := content? value }
  | .logLevel => .ok { o with logLevel := content? value }
  | .logFile => .ok { o with logFile := content? value }
  | _ => .ok o

/-- Sets an option that has no value. -/
def setFlag (o : Options) : Switch → Except Halt Options
  | .help => .error .help
  | .version => .error .version
  | .daemon => .ok { o with foreground := false }
  | .join => .ok { o with join := true }
  | .plain => .ok { o with plain := true }
  | .send => .ok { o with join := false }
  | _ => .ok o

/-- Sets the options of one argument in order; the last of them has a value if it takes one. -/
def setAll (o : Options) (front : List Switch) (last : Switch) (value : Option String) :
    Except Halt Options := do
  let o ← front.foldlM setFlag o
  match value with
  | some v => setValue o last v
  | none => setFlag o last

/-- A group, if the groups have not ended yet. -/
def Draft.addPlain (p : Draft) (text : String) : Draft :=
  match p.phase with
  | .behind => { p with unrecognised := p.unrecognised ++ [text] }
  | _ =>
    let groups := p.options.groups ++ [text]
    { p with phase := .within, options := { p.options with groups } }

/-- The double dash: it starts the groups, or is not recognised behind them. -/
def Draft.addMarker (p : Draft) : Draft :=
  match p.phase with
  | .behind => { p with unrecognised := p.unrecognised ++ ["--"] }
  | _ => { p with phase := .within }

/-- An option ends the groups. -/
def Draft.endGroups (p : Draft) : Draft :=
  match p.phase with
  | .within => { p with phase := .behind }
  | _ => p

/-- The options in the argument of one word. -/
def expand (s : Switch) (long : Bool) (attached : Option (List Char)) :
    Except Halt (List Switch × Switch × Option String) :=
  match attached with
  | none => .ok ([], s, none)
  | some text =>
    match s.cluster long text with
    | .ok r => .ok r
    | .error e => .error (.refused e)

/-- Reads words in order. An option whose value is not attached to it takes the next word. -/
def readWords (p : Draft) : List Word → Except Halt Draft
  | [] => .ok p
  | .plain text :: rest => readWords (p.addPlain text) rest
  | .marker :: rest => readWords p.addMarker rest
  | .unknown text :: rest =>
    readWords { p.endGroups with unrecognised := p.unrecognised ++ [text] } rest
  | .option s long attached :: rest =>
    match expand s long attached with
    | .error e => .error e
    | .ok (front, last, value) =>
      if last.takesValue ∧ value.isNone then
        match rest with
        | .plain text :: rest =>
          match setAll p.options front last (some text) with
          | .ok o => readWords { p.endGroups with options := o } rest
          | .error e => .error e
        | _ => .error (.refused (.missingValue last))
      else
        match setAll p.options front last value with
        | .ok o => readWords { p.endGroups with options := o } rest
        | .error e => .error e

/-- Reads a command line; what it does not set is taken over. -/
def read (defaults : Options) (arguments : List String) : Except Halt Options :=
  match Word.ofArguments arguments with
  | .error e => .error (.refused e)
  | .ok words =>
    match readWords { options := defaults.next } words with
    | .error e => .error e
    | .ok p =>
      if p.unrecognised = [] then .ok p.options
      else .error (.refused (.unrecognised p.unrecognised))

/-! ## Texts -/

/-- How the program is called. -/
def usage : String :=
  "usage: mcjoin [-h] [-b BYTES] [-c COUNT] [-d] [-f MSEC] [-i IFACE] [-j]\n" ++
  "              [-l LEVEL] [--logfile LOGFILE] [-o] [-p PORT] [-s] [-t TTL] [-v]\n" ++
  "              [-w SEC]\n" ++
  "              [[SOURCE,]GROUP[+NUM] ...]\n"

/-- What the options mean. -/
def help : String := usage ++
  "\nJoin a multicast group and/or generate UDP test data\n" ++
  "\npositional arguments:\n" ++
  "  [SOURCE,]GROUP[+NUM]  Groups to join or send to, default 225.1.2.3\n" ++
  "\noptions:\n" ++
  "  -h, --help            show this help message and exit\n" ++
  "  -b BYTES              Payload in bytes over IP/UDP header (42 bytes),\n" ++
  "                        default 100\n" ++
  "  -c COUNT              Stop sending/receiving after COUNT packets (per group)\n" ++
  "  -d                    Run as daemon in background, output to syslog\n" ++
  "  -f MSEC               Frequency, poll/send every MSEC milliseconds, default\n" ++
  "                        100\n" ++
  "  -i IFACE              Interface to use, default interface of default route\n" ++
  "  -j                    Join groups, default unless acting as sender\n" ++
  "  -l LEVEL              Set log level; none, notice*, debug\n" ++
  "  --logfile LOGFILE     Also log to this file, default none\n" ++
  "  -o                    Old (plain/ordinary) output, no fancy progress bars\n" ++
  "  -p PORT               UDP port number to send/listen to, default 1234\n" ++
  "  -s                    Act as sender, sends packets to select groups\n" ++
  "  -t TTL                TTL to use when sending multicast packets, default 1\n" ++
  "  -v, --version         Display program version\n" ++
  "  -w SEC                Initial wait before opening sockets\n"

/-- The version of the program. -/
def version : String := "0.1.0\n"

end CommandLine

end Multicast
