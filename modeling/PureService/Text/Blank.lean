/-!
# Blank characters

A character is blank when Unicode gives it the property `White_Space`. Trimming takes blank
characters off the ends of a text; a text of blank characters alone counts as missing wherever a
name or a descriptor is required.
-/

namespace PureService.Text

/-- The characters with the Unicode property `White_Space`. -/
def isBlank (char : Char) : Bool :=
  let code := char.toNat
  (9 ≤ code && code ≤ 13) || code == 0x20 || code == 0x85 || code == 0xA0 || code == 0x1680 ||
    (0x2000 ≤ code && code ≤ 0x200A) || code == 0x2028 || code == 0x2029 || code == 0x202F ||
    code == 0x205F || code == 0x3000

def trimStart (text : List Char) : List Char :=
  text.dropWhile isBlank

def trimEnd (text : List Char) : List Char :=
  (text.reverse.dropWhile isBlank).reverse

/-- A text without the blank characters at either end. -/
def trim (text : List Char) : List Char :=
  trimEnd (trimStart text)

/-- No character of the text is visible: it is empty or consists of blank characters. -/
def allBlank (text : List Char) : Bool :=
  text.all isBlank

/-- No character of the string is visible: it is empty or consists of blank characters. -/
def isAllBlank (text : String) : Bool :=
  allBlank text.toList

end PureService.Text
