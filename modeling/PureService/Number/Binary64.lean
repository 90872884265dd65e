/-!
# Binary floating point numbers of 64 bits

A finite number is a mantissa times a power of two; the mantissa has at most 53 binary digits and
the exponent is bounded from below. A decimal is read as the nearest such number, and of two
nearest ones as the one with the even mantissa; beyond the greatest finite number it is infinite.
-/

namespace PureService

inductive Binary64 where
  /-- The number `mantissa * 2 ^ exponent`, or its opposite. -/
  | finite (negative : Bool) (mantissa : Nat) (exponent : Int)
  | infinite (negative : Bool)
  | notANumber
  deriving DecidableEq, Repr

namespace Binary64

/-- Binary digits of a mantissa. -/
def mantissaDigits : Nat := 53

def leastExponent : Int := -1074

def greatestExponent : Int := 971

/-- Decimal exponents beyond this one lead out of the range of finite numbers, whichever digit
precedes them. -/
def decimalRange : Nat := 400

/-- The quotient rounded to the nearest natural number, a tie to the even one. -/
def divRound (numerator denominator : Nat) : Nat :=
  let quotient := numerator / denominator
  let double := 2 * (numerator % denominator)
  if double > denominator || (double = denominator && quotient % 2 = 1) then quotient + 1
  else quotient

/-- The quotient of two natural numbers times a power of two, rounded to the nearest natural
number. -/
def scaledRound (numerator denominator : Nat) (exponent : Int) : Nat :=
  if exponent ≥ 0 then divRound (numerator * Nat.pow 2 exponent.toNat) denominator
  else divRound numerator (denominator * Nat.pow 2 (-exponent).toNat)

/-- The number nearest to a quotient of two positive natural numbers. -/
def ofQuotient (negative : Bool) (numerator denominator : Nat) : Binary64 :=
  let estimate : Int := (numerator.log2 : Int) - denominator.log2 - mantissaDigits
  let enough (exponent : Int) : Bool :=
    if exponent ≥ 0 then numerator < denominator * Nat.pow 2 (mantissaDigits + exponent.toNat)
    else numerator * Nat.pow 2 (-exponent).toNat < denominator * Nat.pow 2 mantissaDigits
  let fitting := if enough estimate then estimate else
    if enough (estimate + 1) then estimate + 1 else estimate + 2
  let exponent := max fitting leastExponent
  let mantissa := scaledRound numerator denominator (-exponent)
  let (mantissa, exponent) :=
    if mantissa = Nat.pow 2 mantissaDigits then (Nat.pow 2 (mantissaDigits - 1), exponent + 1)
    else (mantissa, exponent)
  if exponent > greatestExponent then infinite negative else finite negative mantissa exponent

/-- The number nearest to `digits * 10 ^ exponent`, or to its opposite. -/
def ofDecimal (negative : Bool) (digits : Nat) (exponent : Int) : Binary64 :=
  if digits = 0 then finite negative 0 leastExponent
  else if exponent > decimalRange then infinite negative
  else if exponent + digits.log2 < -(decimalRange : Int) then finite negative 0 leastExponent
  else if exponent ≥ 0 then ofQuotient negative (digits * Nat.pow 10 exponent.toNat) 1
  else ofQuotient negative digits (Nat.pow 10 (-exponent).toNat)

def isFinite : Binary64 → Bool
  | finite _ _ _ => true
  | _ => false

end Binary64

end PureService
