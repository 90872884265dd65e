import PureService.Number.Binary64

/-!
# Shortest decimal text of a number

The digits of a finite number are the fewest that read back as the same number; of several such
decimals the nearest one is taken. A layout then decides where the decimal point stands, when an
exponent is written, and how.
-/

namespace PureService.Binary64

/-- The decimal `digits * 10 ^ exponent`. -/
structure Decimal where
  digits : Nat
  exponent : Int
  deriving DecidableEq, Repr

/-- The most decimal digits that a number needs to be told from its neighbours. -/
def maxDigits : Nat := 17

/-- A positive number as a quotient. -/
def quotient (mantissa : Nat) (exponent : Int) : Nat × Nat :=
  if exponent ≥ 0 then (mantissa * Nat.pow 2 exponent.toNat, 1)
  else (mantissa, Nat.pow 2 (-exponent).toNat)

/-- The greatest decimal exponent `e` with `10 ^ e` not above the quotient, searched downwards
from a bound that is reached by no quotient of the given size. -/
def decimalOrder (numerator denominator : Nat) : Nat → Int → Int
  | 0, order => order
  | fuel + 1, order =>
    let reached : Bool :=
      if order ≥ 0 then denominator * Nat.pow 10 order.toNat ≤ numerator
      else denominator ≤ numerator * Nat.pow 10 (-order).toNat
    if reached then order else decimalOrder numerator denominator fuel (order - 1)

/-- The two decimals with the given exponent around a quotient. -/
def neighbours (numerator denominator : Nat) (exponent : Int) : Nat × Nat :=
  let (scaledNumerator, scaledDenominator) :=
    if exponent ≥ 0 then (numerator, denominator * Nat.pow 10 exponent.toNat)
    else (numerator * Nat.pow 10 (-exponent).toNat, denominator)
  let below := scaledNumerator / scaledDenominator
  (below, below + 1)

/-- The lower of two decimals is nearer to the quotient than the higher one; a tie goes to the
even one. -/
def lowerIsNearer (numerator denominator : Nat) (exponent : Int) (below : Nat) : Bool :=
  let (scaledNumerator, scaledDenominator) :=
    if exponent ≥ 0 then (numerator, denominator * Nat.pow 10 exponent.toNat)
    else (numerator * Nat.pow 10 (-exponent).toNat, denominator)
  let double := 2 * (scaledNumerator % scaledDenominator)
  double < scaledDenominator || (double = scaledDenominator && below % 2 = 0)

/-- The decimal with the given exponent that reads back, if there is one. -/
def decimalAt? (mantissa : Nat) (binaryExponent : Int) (exponent : Int) : Option Decimal :=
  let (numerator, denominator) := quotient mantissa binaryExponent
  let (below, above) := neighbours numerator denominator exponent
  let readsBack (digits : Nat) : Bool :=
    ofDecimal false digits exponent == finite false mantissa binaryExponent
  match readsBack below, readsBack above with
  | true, true =>
    some ⟨if lowerIsNearer numerator denominator exponent below then below else above, exponent⟩
  | true, false => some ⟨below, exponent⟩
  | false, true => some ⟨above, exponent⟩
  | false, false => none

/-- Take zeros off the end of the digits. -/
def stripZeros : Nat → Decimal → Decimal
  | 0, decimal => decimal
  | fuel + 1, decimal =>
    if decimal.digits ≠ 0 && decimal.digits % 10 = 0 then
      stripZeros fuel ⟨decimal.digits / 10, decimal.exponent + 1⟩
    else decimal

/-- The shortest decimal that reads back as a positive number. -/
def shortest (mantissa : Nat) (binaryExponent : Int) : Decimal :=
  if mantissa = 0 then ⟨0, 0⟩
  else
    let (numerator, denominator) := quotient mantissa binaryExponent
    let order := decimalOrder numerator denominator (2 * decimalRange) decimalRange
    let candidates := (List.range maxDigits).filterMap fun (count : Nat) =>
      decimalAt? mantissa binaryExponent (order - count)
    stripZeros (2 * decimalRange) (candidates.head?.getD ⟨mantissa, binaryExponent⟩)

/-- How the decimal of a number is written. -/
structure Layout where
  /-- Decimal exponents of the leading digit for which the number is written out. -/
  writtenOut : Int → Bool
  /-- The text of an exponent that is written after the digits. -/
  exponentText : Int → String
  infinity : String
  negativeInfinity : String
  notANumber : String

/-- The digits with the decimal point at its place; a whole number ends in `.0`. -/
def positional (decimal : Decimal) : String :=
  let digits := toString decimal.digits
  if decimal.exponent ≥ 0 then
    digits ++ String.ofList (List.replicate decimal.exponent.toNat '0') ++ ".0"
  else
    let places := (-decimal.exponent).toNat
    let padded := List.replicate (places + 1 - digits.length) '0' ++ digits.toList
    String.ofList (padded.take (padded.length - places)) ++ "." ++
      String.ofList (padded.drop (padded.length - places))

/-- The digits with the point after the first one, without a point if there is only one digit. -/
def leading (decimal : Decimal) : String :=
  match (toString decimal.digits).toList with
  | [] => ""
  | [digit] => String.ofList [digit]
  | digit :: rest => String.ofList (digit :: '.' :: rest)

/-- The text of a number in a layout. -/
def text (layout : Layout) : Binary64 → String
  | .notANumber => layout.notANumber
  | .infinite negative => if negative then layout.negativeInfinity else layout.infinity
  | .finite negative mantissa exponent =>
    let decimal := shortest mantissa exponent
    let order := decimal.exponent + (toString decimal.digits).length - 1
    (if negative then "-" else "") ++
      if layout.writtenOut order then positional decimal
      else leading decimal ++ layout.exponentText order

/-- Every number is written out. -/
def writtenOut : Layout :=
  ⟨fun _ => true, fun _ => "", "inf", "-inf", "NaN"⟩

/-- Numbers from `1e-5` up to `1e16` are written out, others with an exponent that has a sign and
at least two digits. -/
def compact : Layout where
  writtenOut order := -5 ≤ order && order < 16
  exponentText order :=
    let size := toString order.natAbs
    (if order < 0 then "e-" else "e+") ++ (if size.length < 2 then "0" else "") ++ size
  infinity := "inf"
  negativeInfinity := "-inf"
  notANumber := "NaN"

end PureService.Binary64
