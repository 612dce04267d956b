import Multicast.Text.Point
import Multicast.Text.Printable

/-!
# `Multicast.Text.Quoted` — text in quotes

Messages that repeat what the user typed show it quoted, so that blanks and control characters can
be seen. The single quote is the usual mark; text that holds single quotes and no double quote is
put into double quotes instead.

## Contents
- **Escapes.** `escapeCode` writes a code point with the shortest of three escape lengths, `escape`
  writes it between quotes.
- **Quoting.** `quoted`.
-/

namespace Multicast.Text

/-- A number in lower-case hexadecimal, with zeros on the left up to `width` digits. -/
def hexPadded (width n : Nat) : List Char :=
  let digits := Nat.toDigits 16 n
  List.replicate (width - digits.length) '0' ++ digits

/-- The escape of a code point: two, four or eight hexadecimal digits, as few as hold it. -/
def escapeCode (n : Nat) : List Char :=
  if n < 0x100 then '\\' :: 'x' :: hexPadded 2 n
  else if n < 0x10000 then '\\' :: 'u' :: hexPadded 4 n
  else '\\' :: 'U' :: hexPadded 8 n

/-- One code point between quotes of the kind `mark`. -/
def escape (mark : Char) (p : Nat) : List Char :=
  let c := Char.ofNat p
  if isHalf p then escapeCode p
  else if c = mark ∨ c = '\\' then ['\\', c]
  else if c = '\n' then ['\\', 'n']
  else if c = '\r' then ['\\', 'r']
  else if c = '\t' then ['\\', 't']
  else if isPrintable c then [c]
  else escapeCode p

/-- The mark that a text is quoted with. -/
def quoteMark (cs : List Char) : Char :=
  if cs.contains '\'' && !(cs.contains '"') then '"' else '\''

/-- A text in quotes, every character visible. -/
def quoted (s : String) : String :=
  let mark := quoteMark s.toList
  String.ofList (mark :: (points s.toList).flatMap (escape mark) ++ [mark])

end Multicast.Text
