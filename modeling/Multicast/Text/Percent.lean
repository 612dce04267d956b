import Multicast.Bits
import Multicast.Quantity
import Multicast.Text.Numeral
import Multicast.Text.Quoted
import Multicast.Text.Runs

/-!
# `Multicast.Text.Percent` — messages with arguments

A message can hold directives, which start with a percent sign and are filled in with arguments in
order: `%d` for a whole number, `%s` for any text, `%x` and `%o` for other bases, `%c` for a
character, `%f`, `%e` and `%g` for decimals. Between the sign and the letter there may be flags, a
width and a precision, the latter two also taken from the arguments by a star, and one letter for a
size, which means nothing here. If the only argument is a mapping, directives can name its keys, in
parentheses right behind the sign. A directive can ask for far more than it has to say, so messages
are made as runs.

## Contents
- **Arguments.** `Argument`, what each of them is as a text, a whole number or a quantity, and
  `entries?`, the keys that directives can name.
- **Directives.** `Directive` and `Directive.write`.
- **Messages.** `Reading`, a directive in the making, and `fill`, which reads a message code point by
  code point. It gives nothing if a directive is unknown or does not fit its argument, or if
  arguments are missing or, unless they have names, left over.
-/

namespace Multicast.Text

/-! ## Arguments -/

/-- What a directive is filled in with. -/
inductive Argument where
  | number (n : Int)
  | quantity (q : Quantity)
  | text (s : String)
  | truth (b : Bool)
  /-- No value. -/
  | nothing
  | list (items : List Argument)
  /-- Values by their keys. -/
  | mapping (entries : List (String × Argument))
deriving Repr, Inhabited

namespace Argument

/-- The whole number that an argument is; true and false count as one and zero. -/
def whole? : Argument → Option Int
  | number n => some n
  | truth b => some (if b then 1 else 0)
  | _ => none

/-- The whole number that an argument is cut down to. -/
def truncated? : Argument → Option Int
  | quantity q => q.truncated?
  | a => a.whole?

/-- The quantity that an argument is, or the fraction nearest to it. -/
def quantity? : Argument → Option Quantity
  | quantity q => some q
  | a => (a.whole?.bind Fraction.ofInt?).map .finite

mutual

/-- The text of an argument, in quotes if it is a text itself. -/
def described : Argument → String
  | number n => toString n
  | quantity q => q.plain
  | text s => quoted s
  | truth b => if b then "True" else "False"
  | nothing => "None"
  | list items => "[" ++ String.intercalate ", " (describedItems items) ++ "]"
  | mapping entries => "\x7b" ++ String.intercalate ", " (describedEntries entries) ++ "\x7d"

/-- The texts of the items of a list. -/
def describedItems : List Argument → List String
  | [] => []
  | a :: rest => described a :: describedItems rest

/-- The texts of the entries of a mapping, each with its key. -/
def describedEntries : List (String × Argument) → List String
  | [] => []
  | (key, a) :: rest => (quoted key ++ ": " ++ described a) :: describedEntries rest

end

/-- The text of an argument; a text stands for itself. -/
def plain : Argument → String
  | text s => s
  | a => a.described

/-- The code point that an argument is. -/
def point? : Argument → Option Nat
  | text s =>
    match points s.toList with
    | [p] => some p
    | _ => none
  | a => do
    let n ← a.whole?
    if 0 ≤ n ∧ n < 0x110000 then some n.toNat else none

/-- The entries that directives can name: those of a mapping that is the only argument, unless it is
empty. -/
def entries? : List Argument → Option (List (String × Argument))
  | [mapping (entry :: rest)] => some (entry :: rest)
  | _ => none

end Argument

/-! ## Directives -/

/-- A directive, as far as it was read. -/
structure Directive where
  leftAligned : Bool := false
  signed : Bool := false
  spaced : Bool := false
  alternate : Bool := false
  zeroFilled : Bool := false
  width : Nat := 0
  precision : Option Nat := none
deriving Repr, DecidableEq

namespace Directive

/-- The largest precision that can be asked for. -/
def maxPrecision : Nat := 2 ^ 31 - 1

/-- The largest precision for whole numbers, which leaves room for a sign and the mark of a base. -/
def maxWholePrecision : Nat := maxPrecision - 3

/-- The largest width. Memory for more is not asked for. -/
def maxWidth : Nat := 2 ^ 35

/-- Fills a text up to the width with blanks. -/
def align (d : Directive) (rs : Runs) : Runs :=
  let fill := Runs.repeated (d.width - rs.size) ' '
  if d.leftAligned then rs ++ fill else fill ++ rs

/-- The sign that is written in front of a number. -/
def sign (d : Directive) (negative : Bool) : List Char :=
  if negative then ['-'] else if d.signed then ['+'] else if d.spaced then [' '] else []

/-- A number from its sign, what marks its base, and its digits; zeros fill in behind the mark. -/
def number (d : Directive) (negative : Bool) (mark : List Char) (digits : Runs) : Runs :=
  let front := Runs.ofChars (d.sign negative ++ mark)
  let fill := d.width - (front.size + digits.size)
  if d.zeroFilled && !d.leftAligned then front ++ Runs.repeated fill '0' ++ digits
  else d.align (front ++ digits)

/-- A whole number in a base, with as many digits as the precision asks for; the mark of the base is
written on request. -/
def whole (d : Directive) (base : Nat) (mark : String) (n : Int) : Runs :=
  let digits := Nat.toDigits base n.natAbs
  let zeros := Runs.repeated (d.precision.getD 0 - digits.length) '0'
  d.number (n < 0) (if d.alternate then mark.toList else []) (zeros ++ Runs.ofChars digits)

/-- A text, cut to the precision. -/
def text (d : Directive) (s : String) : Runs :=
  let ps := points s.toList
  d.align (Runs.ofPoints ((d.precision.map ps.take).getD ps))

/-- A quantity, its fractions in one of their decimal forms, with six places or digits if there is no
precision. -/
def decimal (d : Directive) (form : Nat → Fraction → Decimal) : Quantity → Runs
  | .finite x => d.number x.negative [] ((form (d.precision.getD 6) x).runs d.alternate)
  | .infinite negative => d.number negative [] (Runs.ofChars Quantity.infinity.toList)
  | .undefined => d.number false [] (Runs.ofChars Quantity.noNumber.toList)

/-- A fraction with a power of ten. One digit more than the places are counted, so that the largest
precision has gone past its end and counts as none. -/
def powered (places : Nat) (x : Fraction) : Decimal :=
  x.withPower (if places < maxPrecision then places else 0)

/-- The characters of a text in quotes, those beyond ASCII escaped. -/
def escapedText (s : String) : String :=
  String.ofList (s.toList.flatMap fun c => if c.toNat < 0x80 then [c] else escapeCode c.toNat)

/-- Whether the width and the precision can be had. -/
def fits (d : Directive) (letter : Char) : Bool :=
  let most := if ['d', 'i', 'u', 'o', 'x', 'X'].contains letter then maxWholePrecision else maxPrecision
  d.width ≤ maxWidth && d.precision.getD 0 ≤ most

/-- An argument as the letter of a directive asks for it. -/
def write (d : Directive) (letter : Char) (a : Argument) : Option Runs :=
  if !d.fits letter then none
  else
    match letter with
    | 's' => some (d.text a.plain)
    | 'r' => some (d.text a.described)
    | 'a' => some (d.text (escapedText a.described))
    | 'c' => a.point?.map fun p => d.align (Runs.ofPoints [p])
    | 'd' | 'i' | 'u' => a.truncated?.map (d.whole 10 "")
    | 'o' => a.whole?.map (d.whole 8 "0o")
    | 'x' => a.whole?.map (d.whole 16 "0x")
    | 'X' => a.whole?.map fun n => (d.whole 16 "0x" n).capitals
    | 'f' => a.quantity?.map (d.decimal Fraction.withPlaces)
    | 'F' => a.quantity?.map fun q => (d.decimal Fraction.withPlaces q).capitals
    | 'e' => a.quantity?.map (d.decimal powered)
    | 'E' => a.quantity?.map fun q => (d.decimal powered q).capitals
    | 'g' => a.quantity?.map (d.decimal (Fraction.general · d.alternate))
    | 'G' => a.quantity?.map fun q =>
      (d.decimal (Fraction.general · d.alternate) q).capitals
    | _ => none

end Directive

/-! ## Messages -/

/-- Where in a directive the next character stands. -/
inductive Stage where
  /-- Outside of any directive. -/
  | text
  /-- Right behind the percent sign. -/
  | start
  /-- In a key, inside of some parentheses of its own. -/
  | key (depth : Nat) (name : String)
  /-- Behind a key or flags. -/
  | flags
  | width
  /-- Behind a width that was taken from the arguments. -/
  | widthTaken
  /-- Behind the point of a precision. -/
  | point
  | precision
  /-- Behind a precision that was taken from the arguments. -/
  | precisionTaken
  /-- Only the letter can follow. -/
  | letter
deriving Repr, DecidableEq

/-- The value of a decimal digit. -/
def asciiDigit? (c : Char) : Option Nat := if c.isDigit then some (c.toNat - 48) else none

/-- The directive with one more flag, if a character is one. -/
def flag? (c : Char) (d : Directive) : Option Directive :=
  if c = '-' then some { d with leftAligned := true }
  else if c = '+' then some { d with signed := true }
  else if c = ' ' then some { d with spaced := true }
  else if c = '#' then some { d with alternate := true }
  else if c = '0' then some { d with zeroFilled := true }
  else none

/-- The directive with a width from the arguments, of 64 bits; a negative one aligns to the left. One
whose opposite does not fit counts as none. -/
def starWidth? (n : Int) (d : Directive) : Option Directive :=
  if !fitsSigned 64 n then none
  else
    let width := if fitsSigned 64 (-n) then n.natAbs else 0
    some { d with width, leftAligned := d.leftAligned || n < 0 }

/-- The directive with a precision from the arguments, of 32 bits; a negative one counts as zero. -/
def starPrecision? (n : Int) (d : Directive) : Option Directive :=
  if fitsSigned 32 n then some { d with precision := some n.toNat } else none

/-- A directive that was read up to a stage, the arguments that are left, and the entries that can be
named. -/
structure Reading where
  stage : Stage := .text
  directive : Directive := {}
  arguments : List Argument
  entries : Option (List (String × Argument))

namespace Reading

/-- Whether flags can follow. -/
def beforeWidth (r : Reading) : Bool := r.stage = .start || r.stage = .flags

/-- Whether the message can end here: outside of any directive, with no argument left over. -/
def isComplete (r : Reading) : Bool :=
  r.stage = .text && (r.entries.isSome || r.arguments.isEmpty)

/-- Takes a code point of a key; the key's own parentheses are balanced. Behind the key, its value is
the only argument. -/
def readKey (r : Reading) (depth : Nat) (name : String) (p : Nat) : Option Reading :=
  let c := Char.ofNat p
  let longer := name ++ String.ofList (charsOf p)
  match depth with
  | 0 =>
    if c = ')' then
      (r.entries.bind (·.lookup name)).map fun a => { r with stage := .flags, arguments := [a] }
    else some { r with stage := .key (if c = '(' then 1 else 0) longer }
  | inner + 1 =>
    let depth := if c = ')' then inner else if c = '(' then depth + 1 else depth
    some { r with stage := .key depth longer }

/-- Goes on to a key or the precision, or past a letter for a size. -/
def pass (r : Reading) (c : Char) : Option Reading :=
  if c = '(' ∧ r.stage = .start ∧ r.entries.isSome then some { r with stage := .key 0 "" }
  else if c = '.' ∧ (r.beforeWidth ∨ r.stage = .width ∨ r.stage = .widthTaken) then
    some { r with stage := .point, directive := { r.directive with precision := some 0 } }
  else if (c = 'h' ∨ c = 'l' ∨ c = 'L') ∧ r.stage ≠ .letter then some { r with stage := .letter }
  else none

/-- Takes a width or a precision from the arguments. -/
def star (r : Reading) : Option Reading := do
  let a ← r.arguments.head?
  let n ← a.whole?
  let rest := { r with arguments := r.arguments.tail }
  match r.stage with
  | .start | .flags =>
    (starWidth? n r.directive).map fun d =>
      { rest with stage := .widthTaken, directive := d }
  | .point =>
    (starPrecision? n r.directive).map fun d =>
      { rest with stage := .precisionTaken, directive := d }
  | _ => none

/-- Takes a digit of a width or a precision. -/
def digit (r : Reading) (n : Nat) : Option Reading :=
  let d := r.directive
  match r.stage with
  | .start | .flags => some { r with stage := .width, directive := { d with width := n } }
  | .width => some { r with directive := { d with width := d.width * 10 + n } }
  | .point => some { r with stage := .precision, directive := { d with precision := some n } }
  | .precision => some { r with directive := { d with precision := d.precision.map (· * 10 + n) } }
  | _ => none

/-- Reads on inside a directive, unless a character is its letter. -/
def next (r : Reading) (c : Char) : Option Reading :=
  match (if r.beforeWidth then flag? c r.directive else none), asciiDigit? c with
  | some d, _ => some { r with stage := .flags, directive := d }
  | none, some n => r.digit n
  | none, none => if c = '*' then r.star else r.pass c

/-- What a directive writes that ends with a letter, and the arguments that are left; a second
percent sign right behind the first writes one. -/
def finish (r : Reading) (letter : Char) : Option (Runs × List Argument) :=
  if letter = '%' ∧ r.stage = .start then some (Runs.ofChars ['%'], r.arguments)
  else
    match r.arguments with
    | [] => none
    | a :: rest => (r.directive.write letter a).map (·, rest)

end Reading

/-- Fills in the directives of the rest of a message. No half of a surrogate pair has a meaning inside
of a directive. -/
def fillFrom (r : Reading) : List Nat → Option Runs
  | [] => if r.isComplete then some [] else none
  | p :: ps =>
    let c := Char.ofNat p
    match r.stage with
    | .text =>
      if c = '%' then fillFrom { r with stage := .start, directive := {} } ps
      else (fillFrom r ps).map (⟨p, 1⟩ :: ·)
    | .key depth name =>
      match r.readKey depth name p with
      | some r => fillFrom r ps
      | none => none
    | _ =>
      match r.next c with
      | some r => fillFrom r ps
      | none =>
        match r.finish c with
        | some (here, rest) =>
          (fillFrom { r with stage := .text, arguments := rest } ps).map (here ++ ·)
        | none => none

/-- Fills in the directives of a message; one that comes without any arguments is left as it is. -/
def fill (message : String) (args : List Argument) : Option Runs :=
  let ps := points message.toList
  if args.isEmpty then some (Runs.ofPoints ps)
  else fillFrom { arguments := args, entries := Argument.entries? args } ps

end Multicast.Text
