import PureService.Number.Shortest
import PureService.Value.Basic

/-!
# Values as JSON text

A value is printed on one line or, for reading, with every item of a list and every field of a
record on a line of its own, indented by two spaces for each level. In a text the quote, the
backslash and the control characters are escaped and all others stand for themselves.
-/

namespace PureService.Value

/-- The form of one character in a JSON text. -/
def jsonChar (char : Char) : List Char :=
  if char = '"' then ['\\', '"']
  else if char = '\\' then ['\\', '\\']
  else if char = '\n' then ['\\', 'n']
  else if char = '\r' then ['\\', 'r']
  else if char = '\t' then ['\\', 't']
  else if char.toNat = 8 then ['\\', 'b']
  else if char.toNat = 12 then ['\\', 'f']
  else if char.toNat < 0x20 then
    let digits := Nat.toDigits 16 char.toNat
    ['\\', 'u'] ++ List.replicate (4 - digits.length) '0' ++ digits
  else [char]

def jsonText (text : String) : String :=
  String.ofList ('"' :: text.toList.flatMap jsonChar ++ ['"'])

/-- Whether a value is spread over lines, and how far its lines are indented. -/
inductive Spread where
  | oneLine
  | lines (depth : Nat)

namespace Spread

def deeper : Spread → Spread
  | oneLine => oneLine
  | lines depth => lines (depth + 1)

/-- The break before an item or before the closing bracket. -/
def lineBreak : Spread → String
  | oneLine => ""
  | lines depth => "\n" ++ String.ofList (List.replicate (2 * depth) ' ')

/-- What stands between a key and its value. -/
def colon : Spread → String
  | oneLine => ":"
  | lines _ => ": "

/-- Bracketed items, separated by commas. -/
def bracketed (spread : Spread) (opening closing : String) : List String → String
  | [] => opening ++ closing
  | items =>
    let break_ := spread.deeper.lineBreak
    opening ++ break_ ++ String.intercalate ("," ++ break_) items ++ spread.lineBreak ++ closing

end Spread

mutual

/-- The text of a value. -/
def print (spread : Spread) : Value → String
  | null => "null"
  | bool value => if value then "true" else "false"
  | int value => toString value
  | float value => if value.isFinite then value.text Binary64.compact else "null"
  | text value => jsonText value
  | list items => spread.bracketed "[" "]" (printItems spread.deeper items)
  | record entries => spread.bracketed "\x7b" "\x7d" (printEntries spread.deeper entries)

def printItems (spread : Spread) : List Value → List String
  | [] => []
  | item :: rest => print spread item :: printItems spread rest

def printEntries (spread : Spread) : List (Value × Value) → List String
  | [] => []
  | (key, value) :: rest =>
    (print spread key ++ spread.colon ++ print spread value) :: printEntries spread rest

end

def printLine (value : Value) : String :=
  value.print .oneLine

def printLines (value : Value) : String :=
  value.print (.lines 0)

end PureService.Value
