/-!
# Lines of a text

A line feed ends a line and is no part of it; a carriage return before the line feed is dropped as
well. A last line needs no line feed, and nothing after a line feed is not a line.
-/

namespace PureService.Text

/-- The parts of a text between the occurrences of a separator, at least one. -/
def splitAt (separator : Char) : List Char → List (List Char)
  | [] => [[]]
  | char :: rest =>
    if char = separator then [] :: splitAt separator rest
    else match splitAt separator rest with
      | [] => [[char]]
      | part :: parts => (char :: part) :: parts

def dropCarriageReturn (line : List Char) : List Char :=
  if line.getLast? = some '\r' then line.dropLast else line

/-- The lines of a text in order. -/
def lines (text : List Char) : List (List Char) :=
  let parts := splitAt '\n' text
  let ended := parts.dropLast.map dropCarriageReturn
  match parts.getLast? with
  | none | some [] => ended
  | some last => ended ++ [last]

end PureService.Text
