import PureService.Text.Invisible

/-!
# Quoted text in messages

A message that shows a piece of input puts it between double quotes. Quotes, backslashes and the
common control characters are escaped by a letter, every other invisible character by its code
point in hexadecimal.
-/

namespace PureService.Text

/-- The form of one character between the quotes. -/
def quotedChar (char : Char) : List Char :=
  if char = '\n' then ['\\', 'n']
  else if char = '\t' then ['\\', 't']
  else if char = '\r' then ['\\', 'r']
  else if char = '"' then ['\\', '"']
  else if char = '\\' then ['\\', '\\']
  else if char.toNat = 0 then ['\\', '0']
  else if isInvisible char then
    ['\\', 'u', '\x7b'] ++ Nat.toDigits 16 char.toNat ++ ['\x7d']
  else [char]

/-- A text between double quotes, with every character in its visible form. -/
def quoted (text : String) : String :=
  String.ofList ('"' :: text.toList.flatMap quotedChar ++ ['"'])

end PureService.Text
