import PureService.Decoding.Cause
import PureService.Yaml.Node

/-!
# What scalars mean

A plain scalar is empty, a truth value, a number or a text, as its spelling says; a scalar with
one of the standard tags is what the tag says, if its spelling fits; all other scalars are texts.
Numbers may have a sign; whole numbers may be written to another base, but not with zeros in front.
-/

namespace PureService.Yaml.Scalar

open Decoding

/-- The tag of a standard type. -/
def standardTag (name : String) : List Char :=
  ("tag:yaml.org,2002:" ++ name).toList

def isNull (text : List Char) : Bool :=
  ["~", "null", "Null", "NULL"].any fun word => word.toList = text

def bool? (text : List Char) : Option Bool :=
  if ["true", "True", "TRUE"].any fun word => word.toList = text then some true
  else if ["false", "False", "FALSE"].any fun word => word.toList = text then some false
  else none

/-- A sign that may stand before a number, and what follows it. -/
def splitSign : List Char → Option Bool × List Char
  | '-' :: rest => (some true, rest)
  | '+' :: rest => (some false, rest)
  | text => (none, text)

/-- Several digits of which the first one is zero write a text, not a number. -/
def hasLeadingZero (text : List Char) : Bool :=
  let digits := (splitSign text).2
  2 ≤ digits.length && digits.head? = some '0' && digits.all Char.isDigit

def digit? (base : Nat) (char : Char) : Option Nat := do
  let value ← Scan.hexValue? char
  guard (value < base)
  return value

/-- The number that digits to a base write; there has to be a digit. -/
def digits? (base : Nat) (text : List Char) : Option Nat := do
  guard !text.isEmpty
  text.foldlM (fun number char => (digit? base char).map (number * base + ·)) 0

/-- The number that is written without its sign, to base ten or to another base after a zero and a
letter. -/
def magnitude? : List Char → Option Nat
  | '0' :: 'x' :: rest => digits? 16 rest
  | '0' :: 'o' :: rest => digits? 8 rest
  | '0' :: 'b' :: rest => digits? 2 rest
  | text => if hasLeadingZero text then none else digits? 10 text

/-- A whole number without a minus sign. -/
def natural? (text : List Char) : Option Nat :=
  match text with
  | '+' :: rest => magnitude? rest
  | _ => magnitude? text

/-- A whole number with a minus sign. -/
def negative? : List Char → Option Int
  | '-' :: rest => (magnitude? rest).map fun number => -(number : Int)
  | _ => none

/-- A whole number of at most 128 bits; whether it fits into 64 bits shows in what it is. -/
def integer? (text : List Char) : Option Found :=
  match natural? text, negative? text with
  | some number, _ =>
    if number < Nat.pow 2 64 then some (.int number)
    else if number < Nat.pow 2 128 then some (.wideInt number)
    else none
  | none, some number =>
    if -Int.ofNat (Nat.pow 2 63) ≤ number then some (.int number)
    else if -Int.ofNat (Nat.pow 2 127) ≤ number then some (.wideInt number)
    else none
  | none, none => none

def decimalOf (digits : List Char) : Nat :=
  digits.foldl (fun number digit => number * 10 + (digit.toNat - '0'.toNat)) 0

/-- The exponent at the end of a number: none, or a letter, a sign and digits. -/
def exponent? : List Char → Option Int
  | [] => some 0
  | letter :: rest =>
    if letter = 'e' || letter = 'E' then
      let (sign, digits) := splitSign rest
      if digits.isEmpty || !digits.all Char.isDigit then none
      else
        let size : Int := decimalOf digits
        some (if sign = some true then -size else size)
    else none

/-- A decimal with digits before or after its point, which may be missing, and with an exponent
that may be missing. It has to be near a finite number. -/
def decimal? (negative : Bool) (text : List Char) : Option Binary64 := do
  let whole := text.takeWhile Char.isDigit
  let rest := text.drop whole.length
  let (places, rest) := match rest with
    | '.' :: rest => (rest.takeWhile Char.isDigit, rest.dropWhile Char.isDigit)
    | _ => ([], rest)
  guard !(whole ++ places).isEmpty
  let exponent ← exponent? rest
  let number := Binary64.ofDecimal negative (decimalOf (whole ++ places))
    (exponent - places.length)
  guard number.isFinite
  return number

/-- A floating point number. -/
def float? (text : List Char) : Option Binary64 :=
  let (sign, rest) := splitSign text
  if [".inf", ".Inf", ".INF"].any fun word => word.toList = rest then
    some (.infinite (sign = some true))
  else if sign = none && [".nan", ".NaN", ".NAN"].any fun word => word.toList = rest then
    some .notANumber
  else decimal? (sign = some true) rest

/-- What a plain scalar is by its spelling. -/
def ofSpelling (text : List Char) : Found :=
  if text.isEmpty || isNull text then .null
  else match bool? text, integer? text with
    | some value, _ => .bool value
    | none, some number => number
    | none, none =>
      match if hasLeadingZero text then none else float? text with
      | some number => .float number
      | none => .text (String.ofList text)

/-- What a scalar is by its tag, its style and its spelling. -/
def meaning (tag : Option (List Char)) (style : ScalarStyle) (text : List Char) :
    Except Cause Found :=
  let forced (read : Option Found) (expected : String) : Except Cause Found :=
    match read with
    | some found => .ok found
    | none => .error (.wrongValue (.text (String.ofList text)) (.word expected))
  match tag with
  | none => .ok (if style = .plain then ofSpelling text else .text (String.ofList text))
  | some tag =>
    if tag = standardTag "bool" then forced ((bool? text).map .bool) "a boolean"
    else if tag = standardTag "int" then forced (integer? text) "an integer"
    else if tag = standardTag "float" then forced ((float? text).map .float) "a float"
    else if tag = standardTag "null" then
      forced (if isNull text then some .null else none) "null"
    else .ok (if tag.head? = some '!' && style = .plain then ofSpelling text
      else .text (String.ofList text))

/-- A scalar whose spelling may be read as a truth value or a number where one is expected. -/
def isSpelled (type : String) (tag : Option (List Char)) (style : ScalarStyle) : Bool :=
  style = .plain || (style = .literal && tag = some (standardTag type))

end PureService.Yaml.Scalar
