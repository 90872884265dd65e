/-!
# Places in a YAML text

A cursor is a place in a text: the characters that follow, and how many characters and lines come
before it. Reading moves the cursor forward. A carriage return with a line feed is one line break,
and most line breaks are read as a line feed.
-/

namespace PureService.Yaml

/-- A space or a tab. -/
def isSpacing (char : Char) : Bool :=
  char = ' ' || char = '\t'

def isBreak (char : Char) : Bool :=
  char = '\n' || char = '\r' || char.toNat = 0x85 || char.toNat = 0x2028 || char.toNat = 0x2029

def isSpacingOrBreak (char : Char) : Bool :=
  isSpacing char || isBreak char

/-- A character of names: of anchors, of directives and of tag handles. -/
def isNameChar (char : Char) : Bool :=
  char.isAlphanum || char = '_' || char = '-'

/-- A word ends before a space, a tab or a line break, and at the end of the text. -/
def endsWord : Option Char → Bool
  | none => true
  | some char => isSpacingOrBreak char

/-- A line ends before a line break and at the end of the text. -/
def endsLine : Option Char → Bool
  | none => true
  | some char => isBreak char

/-- The character as which a line break is read. -/
def readBreak (char : Char) : Char :=
  if char.toNat = 0x2028 || char.toNat = 0x2029 then char else '\n'

structure Cursor where
  rest : List Char
  offset : Nat
  line : Nat
  column : Nat
  deriving DecidableEq, Repr

/-- Reading from a cursor onwards; a text that cannot be read on has no further place. -/
abbrev Scan := StateT Cursor Option

namespace Cursor

def start (text : List Char) : Cursor :=
  ⟨text, 0, 0, 0⟩

/-- Move over the given number of characters, none of which is a line break. -/
def advance (cursor : Cursor) (count : Nat) : Cursor :=
  ⟨cursor.rest.drop count, cursor.offset + count, cursor.line, cursor.column + count⟩

/-- Move over the line break that follows. -/
def advanceBreak (cursor : Cursor) : Cursor :=
  let width := match cursor.rest with
    | '\r' :: '\n' :: _ => 2
    | _ => 1
  ⟨cursor.rest.drop width, cursor.offset + width, cursor.line + 1, 0⟩

def peek (cursor : Cursor) : Option Char :=
  cursor.rest.head?

/-- The character after the given number of others. -/
def peekAt (cursor : Cursor) (count : Nat) : Option Char :=
  (cursor.rest.drop count).head?

/-- A line begins here with a mark between documents: three equal characters that end a word. -/
def isAtMark (cursor : Cursor) (char : Char) : Bool :=
  cursor.column = 0 && [char, char, char].isPrefixOf cursor.rest && endsWord (cursor.peekAt 3)

def isAtDocumentMark (cursor : Cursor) : Bool :=
  cursor.isAtMark '-' || cursor.isAtMark '.'

end Cursor

namespace Scan

def peek : Scan (Option Char) :=
  return (← get).peek

def skip (count : Nat) : Scan Unit :=
  modify (·.advance count)

def fail {α : Type} : Scan α :=
  fun _ => none

def require (condition : Bool) : Scan Unit :=
  if condition then pure () else fail

/-- Read on while the characters satisfy a condition that no line break satisfies. -/
def takeWhile (condition : Char → Bool) : Scan (List Char) := do
  let taken := (← get).rest.takeWhile condition
  skip taken.length
  return taken

def skipWhile (condition : Char → Bool) : Scan Unit :=
  discard (takeWhile condition)

/-- Read the line break that follows, if one does. -/
def lineBreak? : Scan (Option Char) := do
  match ← peek with
  | some char =>
    if isBreak char then
      modify Cursor.advanceBreak
      return some (readBreak char)
    else return none
  | none => return none

/-- Skip the rest of a line that holds nothing but a comment, and the line break. -/
def skipCommentLine : Scan Unit := do
  skipWhile isSpacing
  if (← peek) = some '#' then
    skipWhile fun char => !isBreak char
  require (endsLine (← peek))
  discard lineBreak?

end Scan

end PureService.Yaml
