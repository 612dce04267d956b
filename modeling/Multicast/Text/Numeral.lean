import Multicast.Text.Split
import Multicast.Text.Quoted

/-!
# `Multicast.Text.Numeral` — integers as users type and see them

A numeral is an optional sign and decimal digits of any script, with single underscores between
digits and blanks around the whole. Numerals of more than 4300 digits are refused, because reading
and writing them takes time out of proportion to their use.

## Contents
- **Scanning.** `scanDigits` reads the digits in front of a text and says what is left.
- **Reading.** `readInteger`, with its causes of failure in `NumeralError`.
- **Writing.** `writeInteger`, which refuses numbers that are not `writable`, for as many digits.
-/

namespace Multicast.Text

/-- Why a text is not read as an integer, or an integer not written. -/
inductive NumeralError where
  /-- The text is no numeral. -/
  | malformed (text : String)
  /-- The numeral has more digits than are read. -/
  | tooLong (digits : Nat)
  /-- The number has more digits than are written. -/
  | unwritable
deriving Repr, DecidableEq

/-- The most digits that a numeral may have. -/
def maxDigits : Nat := 4300

/-- The wording of a failure; a long text is cut after 200 characters of its quoted form. -/
def NumeralError.message : NumeralError → String
  | .malformed text =>
    "invalid literal for int() with base 10: " ++ String.ofList ((quoted text).toList.take 200)
  | .tooLong digits =>
    s!"Exceeds the limit ({maxDigits} digits) for integer string conversion: value has {digits} " ++
    "digits; use sys.set_int_max_str_digits() to increase the limit"
  | .unwritable =>
    s!"Exceeds the limit ({maxDigits} digits) for integer string conversion; " ++
    "use sys.set_int_max_str_digits() to increase the limit"

/-! ## Scanning -/

/-- Digits in front of a text, with single underscores between them, and the rest of the text.
`afterDigit` tells whether a digit came just before; fails where an underscore has no digit on both
sides, or where there is no digit at all. -/
def scanDigits (afterDigit : Bool) : List Char → Option (List Nat × List Char)
  | [] => if afterDigit then some ([], []) else none
  | c :: cs =>
    match digitValue? c with
    | some d => (scanDigits true cs).map fun (ds, rest) => (d :: ds, rest)
    | none =>
      if c = '_' then (if afterDigit then scanDigits false cs else none)
      else if afterDigit then some ([], c :: cs) else none

/-- The number that decimal digits write, most significant first. -/
def ofDigits (ds : List Nat) : Nat := ds.foldl (fun n d => 10 * n + d) 0

/-! ## Reading -/

/-- Blanks that may stand around a numeral: all but the four separators of ASCII. -/
def isNumeralPadding (c : Char) : Bool :=
  isBlank c && !('\x1c' ≤ c && c ≤ '\x1f')

/-- The sign in front of a numeral and what follows it; `true` is the minus. -/
def splitSign : List Char → Bool × List Char
  | '-' :: cs => (true, cs)
  | '+' :: cs => (false, cs)
  | cs => (false, cs)

/-- Reads a numeral. The digit limit is checked before what follows the digits. -/
def readInteger (s : String) : Except NumeralError Int :=
  let body := s.toList.dropWhile isNumeralPadding
  let (negative, unsigned) := splitSign body
  match scanDigits false unsigned with
  | none => .error (.malformed s)
  | some (ds, rest) =>
    if ds.length > maxDigits then .error (.tooLong ds.length)
    else if rest.all isNumeralPadding then
      .ok (if negative then -(ofDigits ds : Int) else ofDigits ds)
    else .error (.malformed s)

/-! ## Writing -/

/-- The least number with too many digits, which no proof is to compute. -/
@[irreducible] def firstTooLong : Nat := 10 ^ maxDigits

/-- Whether a number has few enough digits to be written. -/
def writable (n : Int) : Bool := n.natAbs < firstTooLong

/-- Writes a number, unless it has too many digits. -/
def writeInteger (n : Int) : Except NumeralError String :=
  if writable n then .ok (toString n) else .error .unwritable

end Multicast.Text
