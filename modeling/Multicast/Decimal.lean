import Multicast.Fraction
import Multicast.Text.Runs

/-!
# `Multicast.Decimal` — fractions in decimal notation

A fraction can be written with a fixed number of places, with a leading digit and a power of ten, or
with the fewest digits that are read as the same fraction. Digits are chosen from the exact value,
and of two equally near numerals the even one is taken.

## Contents
- **Notation.** `Decimal`, a numeral in its parts, with `Decimal.positional`, `Decimal.scientific`
  and `Decimal.runs`, its text. Zeros that only fill up the places are counted and not kept.
- **Digits.** `Fraction.leading`, the power of ten of the first digit; `Fraction.significant`, a
  number of digits; `Fraction.fewest`, as many as it takes.
- **Forms.** `Fraction.withPlaces`, `Fraction.withPower`, `Fraction.general` and
  `Fraction.shortest`; `Fraction.fixed` and `Fraction.plain` are whole texts.
-/

namespace Multicast

/-! ## Notation -/

/-- The parts of a decimal numeral. -/
structure Decimal where
  whole : List Char
  fraction : List Char
  /-- How many zeros follow in the fraction. -/
  zeros : Nat := 0
  /-- The power of ten that is written behind the digits. -/
  power : Option Int := none
deriving Repr, DecidableEq

namespace Decimal

/-- Digits, filled up with zeros. -/
def filled (count : Nat) (digits : List Char) : List Char :=
  digits ++ List.replicate (count - digits.length) '0'

/-- Digits around a point, `count` of them at least; the first stands for a power of ten. -/
def positional (count : Nat) (digits : List Char) (leading : Int) : Decimal :=
  if leading < 0 then
    ⟨['0'], List.replicate (-leading - 1).toNat '0' ++ digits, count - digits.length, none⟩
  else
    let places := leading.toNat + 1
    ⟨filled places (digits.take places), digits.drop places, count - max digits.length places, none⟩

/-- The first digit, the others behind the point, `count` of them at least with the first, and its
power of ten. -/
def scientific (count : Nat) (digits : List Char) (leading : Int) : Decimal :=
  ⟨digits.take 1, digits.drop 1, count - digits.length, some leading⟩

/-- The numeral without zeros at its end. -/
def trimmed (d : Decimal) : Decimal :=
  { d with fraction := (d.fraction.reverse.dropWhile (· = '0')).reverse, zeros := 0 }

/-- A power of ten behind its mark: a sign and at least two digits. -/
def powerText (power : Int) : List Char :=
  let digits := Nat.toDigits 10 power.natAbs
  (if power < 0 then '-' else '+') :: (List.replicate (2 - digits.length) '0' ++ digits)

/-- The text of a numeral; a point without places behind it is written on request. -/
def runs (d : Decimal) (pointed : Bool) : Text.Runs :=
  let point := if d.fraction ≠ [] ∨ d.zeros ≠ 0 ∨ pointed then ['.'] else []
  let power := match d.power with
    | some p => 'e' :: powerText p
    | none => []
  .ofChars (d.whole ++ point ++ d.fraction) ++ .repeated d.zeros '0' ++ .ofChars power

/-- The text of a numeral as one string. -/
def text (d : Decimal) : String := (d.runs false).text

end Decimal

/-! ## Digits -/

namespace Fraction

/-- The power of ten of the first digit: `10 ^ k ≤ |x| < 10 ^ (k + 1)`; 0 for zero. -/
def leading (x : Fraction) : Int :=
  if x.units = 0 then 0
  else
    let n := x.units
    let d := 2 ^ x.scale
    let k : Int := (Nat.toDigits 10 n).length - (Nat.toDigits 10 d).length
    if d * 10 ^ k.toNat ≤ n * 10 ^ (-k).toNat then k else k - 1

/-- The size of a fraction in units of `10 ^ power`, as a quotient. -/
def inUnits (x : Fraction) (power : Int) : Nat × Nat :=
  (x.units * 10 ^ (-power).toNat, 2 ^ x.scale * 10 ^ power.toNat)

/-- Digits for a whole number of units of `10 ^ power`, with the power of ten of the first. -/
def spelled (n : Nat) (power : Int) : List Char × Int :=
  let digits := Nat.toDigits 10 n
  (digits, power + digits.length - 1)

/-- The first `count` digits, rounded, with the power of ten of the first of them. There are fewer
if the fraction ends before; a carry adds a zero at the end. -/
def significant (count : Nat) (x : Fraction) : List Char × Int :=
  if x.units = 0 then (['0'], 0)
  else
    let power := max (x.leading + 1 - count) (-x.scale)
    let (n, d) := x.inUnits power
    let (digits, leading) := spelled (roundQuotient n d) power
    (digits.take count, leading)

/-- Whether `n * 10 ^ power` is read as this fraction, but for the sign. -/
def isReadFrom (x : Fraction) (n : Nat) (power : Int) : Bool :=
  (ofDecimal? false n power).any x.sameSize

/-- The numeral of `count` digits that is read as this fraction: the nearest one if possible, else
its neighbour on the other side. -/
def candidate? (x : Fraction) (count : Nat) : Option (List Char × Int) :=
  let power := x.leading + 1 - count
  let (n, d) := x.inUnits power
  let near := roundQuotient n d
  let far := if near = n / d then near + 1 else near - 1
  ([near, far].find? fun m => x.isReadFrom m power).map fun m => spelled m power

/-- As many digits as any fraction needs. -/
def enough : Nat := 17

/-- The fewest digits that are read as this fraction, with the power of ten of the first. -/
def fewest (x : Fraction) : List Char × Int :=
  ((List.range enough).findSome? fun i => x.candidate? (i + 1)).getD (x.significant enough)

/-! ## Forms -/

/-- The numeral with a number of places. -/
def withPlaces (places : Nat) (x : Fraction) : Decimal :=
  let own := min places x.scale
  let (n, d) := x.inUnits (-own)
  let rounded := roundQuotient n d
  let fraction := if own = 0 then [] else Nat.toDigits 10 (rounded % 10 ^ own)
  ⟨Nat.toDigits 10 (rounded / 10 ^ own), List.replicate (own - fraction.length) '0' ++ fraction,
    places - own, none⟩

/-- The numeral with a power of ten and a number of places. -/
def withPower (places : Nat) (x : Fraction) : Decimal :=
  let (digits, leading) := x.significant (places + 1)
  Decimal.scientific (places + 1) digits leading

/-- The numeral with a number of digits, at least one: with a power of ten if the first digit stands
behind three zeros or more, or in front of more digits than asked for. Zeros at the end are kept on
request. -/
def general (count : Nat) (keepZeros : Bool) (x : Fraction) : Decimal :=
  let count := max count 1
  let (digits, leading) := x.significant count
  let numeral :=
    if -4 ≤ leading ∧ leading < count then Decimal.positional count digits leading
    else Decimal.scientific count digits leading
  if keepZeros then numeral else numeral.trimmed

/-- The numeral with the fewest digits that are read as this fraction: with a power of ten outside
of `10 ^ -4` to `10 ^ 16`, else with a place at least. -/
def shortest (x : Fraction) : Decimal :=
  let (digits, leading) := x.fewest
  if -4 ≤ leading ∧ leading < 16 then
    let numeral := (Decimal.positional 0 digits leading).trimmed
    { numeral with fraction := Decimal.filled 1 numeral.fraction }
  else (Decimal.scientific 0 digits leading).trimmed

/-- The sign in front of a numeral. -/
def sign (x : Fraction) : String := if x.negative then "-" else ""

/-- The text with a number of places. -/
def fixed (places : Nat) (x : Fraction) : String :=
  x.sign ++ (x.withPlaces places).text

/-- The text with the fewest digits. -/
def plain (x : Fraction) : String := x.sign ++ x.shortest.text

end Fraction

end Multicast
