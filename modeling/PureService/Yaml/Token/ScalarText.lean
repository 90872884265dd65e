import PureService.Yaml.Cursor
import PureService.Yaml.Token

/-!
# The text of scalars

Plain and quoted scalars may run over several lines: a single line break between two words counts
as a space, and of several line breaks the first one is dropped. In block scalars lines are kept
or folded, and what follows the last line is chomped as their header says.
-/

namespace PureService.Yaml

/-- What stands between two words of a scalar. -/
inductive Gap where
  | spaces (chars : List Char)
  /-- Line breaks; an escaped line break comes first without being one. -/
  | breaks (first : Option Char) (others : List Char)
  deriving DecidableEq, Repr

namespace Gap

def none : Gap := spaces []

/-- The gap as it is read. -/
def folded : Gap → List Char
  | spaces chars => chars
  | breaks (some '\n') [] => [' ']
  | breaks (some '\n') others => others
  | breaks first others => first.toList ++ others

def hasBreak : Gap → Bool
  | spaces _ => false
  | breaks _ _ => true

end Gap

namespace Scan

/-- Read spaces, tabs and line breaks. Spaces next to a line break are dropped. After a line break
no tab may stand in a column below `leastColumn`. The first number bounds the runs that are read. -/
def gap (leastColumn : Nat) : Nat → Gap → Scan Gap
  | 0, read => pure read
  | bound + 1, read => do
    let column := (← get).column
    let spaces ← takeWhile isSpacing
    let read ← match read with
      | .spaces chars => pure (.spaces (chars ++ spaces))
      | .breaks first others => do
        require !((spaces.take (leastColumn - column)).contains '\t')
        pure (.breaks first others)
    match ← lineBreak? with
    | Option.none => return read
    | some char =>
      match read with
      | .spaces _ => gap leastColumn bound (.breaks (some char) [])
      | .breaks first others => gap leastColumn bound (.breaks first (others ++ [char]))

/-- The beginning of a text up to the end of a plain word, where it can end. Brackets and commas
end a word in flow collections only, where a colon must not stand before them. -/
def plainWordOf (inFlow : Bool) : List Char → Option (List Char)
  | [] => some []
  | char :: rest =>
    if isSpacingOrBreak char then some []
    else if inFlow && char = ':' && rest.head?.any ",?[]\x7b\x7d".toList.contains then
      Option.none
    else if char = ':' && endsWord rest.head? then some []
    else if inFlow && ",[]\x7b\x7d".toList.contains char then some []
    else (plainWordOf inFlow rest).map (char :: ·)

/-- Read the words of a plain scalar and the gaps before and between them, and the gap after them.
Outside flow collections the words have to stand in columns from `leastColumn` on. -/
def plainWords (inFlow : Bool) (leastColumn : Nat) : Nat → Gap → Scan (List Char × Gap)
  | 0, before => pure ([], before)
  | bound + 1, before => do
    let cursor ← get
    if cursor.isAtDocumentMark || cursor.peek = some '#' then return ([], before)
    let word ← StateT.lift (plainWordOf inFlow cursor.rest)
    skip word.length
    let text := if word.isEmpty then [] else before.folded ++ word
    let before := if word.isEmpty then before else .none
    match ← peek with
    | some char =>
      if isSpacingOrBreak char then
        let after ← gap leastColumn (bound + 1) before
        if !inFlow && (← get).column < leastColumn then return (text, after)
        let (rest, last) ← plainWords inFlow leastColumn bound after
        return (text ++ rest, last)
      else return (text, before)
    | Option.none => return (text, before)

/-- Read a plain scalar in the given indentation, and whether it was followed by a line break. -/
def plainScalar (inFlow : Bool) (leastColumn : Nat) : Scan (List Char × Bool) := do
  let bound := (← get).rest.length + 1
  let (text, after) ← plainWords inFlow leastColumn bound .none
  return (text, after.hasBreak)

def hexValue? (char : Char) : Option Nat :=
  if char.isDigit then some (char.toNat - '0'.toNat)
  else if 'a' ≤ char && char ≤ 'f' then some (char.toNat - 'a'.toNat + 10)
  else if 'A' ≤ char && char ≤ 'F' then some (char.toNat - 'A'.toNat + 10)
  else Option.none

/-- The number that hexadecimal digits write. -/
def hexNumber? (digits : List Char) : Option Nat :=
  digits.foldlM (fun number digit => (hexValue? digit).map (number * 16 + ·)) 0

/-- The character written by a number of hexadecimal digits, and how many were read. -/
def numberedChar? (digits : Nat) (rest : List Char) : Option (Char × Nat) := do
  let written := rest.take digits
  guard (written.length = digits)
  let code ← hexNumber? written
  guard (code.isValidChar)
  return (Char.ofNat code, digits)

/-- The character that an escape stands for, and how many characters follow the backslash. -/
def escaped? : List Char → Option (Char × Nat)
  | [] => Option.none
  | char :: rest =>
    let one (code : Nat) : Option (Char × Nat) := some (Char.ofNat code, 1)
    let numbered (digits : Nat) : Option (Char × Nat) :=
      (numberedChar? digits rest).map fun (read, count) => (read, count + 1)
    match char with
    | '0' => one 0
    | 'a' => one 7
    | 'b' => one 8
    | 't' | '\t' => one 9
    | 'n' => one 10
    | 'v' => one 11
    | 'f' => one 12
    | 'r' => one 13
    | 'e' => one 27
    | ' ' => one 0x20
    | '"' => one 0x22
    | '/' => one 0x2F
    | '\\' => one 0x5C
    | 'N' => one 0x85
    | '_' => one 0xA0
    | 'L' => one 0x2028
    | 'P' => one 0x2029
    | 'x' => numbered 2
    | 'u' => numbered 4
    | 'U' => numbered 8
    | _ => Option.none

/-- A character that stands for itself between quotes. -/
def isQuotable (isSingle : Bool) (char : Char) : Bool :=
  !isSpacingOrBreak char && char ≠ (if isSingle then '\'' else '"') && (isSingle || char ≠ '\\')

/-- Read a word between quotes up to a gap or to the closing quote. The answer holds the word and
whether an escaped line break ended it. -/
def quotedWord (isSingle : Bool) : Nat → Scan (List Char × Bool)
  | 0 => pure ([], false)
  | bound + 1 => do
    let run ← takeWhile (isQuotable isSingle)
    match (← get).rest with
    | '\'' :: '\'' :: _ =>
      skip 2
      let (rest, escapedBreak) ← quotedWord isSingle bound
      return (run ++ '\'' :: rest, escapedBreak)
    | '\\' :: rest =>
      if rest.head?.any isBreak then
        skip 1
        modify Cursor.advanceBreak
        return (run, true)
      let (read, count) ← StateT.lift (escaped? rest)
      skip (1 + count)
      let (rest, escapedBreak) ← quotedWord isSingle bound
      return (run ++ read :: rest, escapedBreak)
    | _ => return (run, false)

/-- Read the words between quotes and the gaps around them, and the closing quote. -/
def quotedWords (isSingle : Bool) : Nat → Scan (List Char)
  | 0 => fail
  | bound + 1 => do
    let cursor ← get
    require !cursor.isAtDocumentMark
    require cursor.peek.isSome
    let (word, escapedBreak) ← quotedWord isSingle (bound + 1)
    if (← peek) = some (if isSingle then '\'' else '"') then
      skip 1
      return word
    let between ← gap 0 (bound + 1) (if escapedBreak then .breaks Option.none [] else .none)
    return word ++ between.folded ++ (← quotedWords isSingle bound)

/-- Read a quoted scalar from its opening quote on. -/
def quotedScalar (isSingle : Bool) : Scan (List Char) := do
  skip 1
  let bound := (← get).rest.length + 1
  quotedWords isSingle bound

/-- What happens to the line breaks at the end of a block scalar. -/
inductive Chomping where
  | strip | clip | keep
  deriving DecidableEq, Repr

def chomping? : Option Char → Option Chomping
  | some '+' => some .keep
  | some '-' => some .strip
  | _ => Option.none

/-- Read the indentation number of a block scalar, if one stands here. It cannot be zero. -/
def indentNumber? : Scan (Option Nat) := do
  match ← peek with
  | some char =>
    if char.isDigit then
      require (char ≠ '0')
      skip 1
      return some (char.toNat - '0'.toNat)
    else return Option.none
  | Option.none => return Option.none

/-- Read the header of a block scalar, up to the end of its line. -/
def blockHeader : Scan (Chomping × Option Nat) := do
  skip 1
  let header ← match chomping? (← peek) with
    | some chomping => do
      skip 1
      pure (chomping, ← indentNumber?)
    | Option.none => do
      let number ← indentNumber?
      match number, chomping? (← peek) with
      | some _, some chomping => do
        skip 1
        pure (chomping, number)
      | _, _ => pure (.clip, number)
  skipCommentLine
  return header

/-- Read line breaks and the spaces before and after them, up to the column `indent` if it is
known. The answer holds the line breaks and the greatest column that was reached. -/
def blockBreaks (indent : Option Nat) : Nat → Nat → List Char → Scan (List Char × Nat)
  | 0, greatest, read => pure (read, greatest)
  | bound + 1, greatest, read => do
    let cursor ← get
    let spaces := match indent with
      | Option.none => cursor.rest.takeWhile (· = ' ')
      | some indent => (cursor.rest.take (indent - cursor.column)).takeWhile (· = ' ')
    skip spaces.length
    let column := (← get).column
    let greatest := max greatest column
    let isIndented := match indent with
      | Option.none => false
      | some indent => indent ≤ column
    require !(!isIndented && (← peek) = some '\t')
    match ← lineBreak? with
    | some char => blockBreaks indent bound greatest (read ++ [char])
    | Option.none => return (read, greatest)

/-- Read the lines of a block scalar that stand in the column `indent`. The other arguments hold
the line break before the line, the empty lines before it, and whether the previous line began with
a space. The answer holds the text, and the last line break with the empty lines after it. -/
def blockLines (isLiteral : Bool) (indent : Nat) :
    Nat → Option Char → List Char → Bool → Scan (List Char × Option Char × List Char)
  | 0, before, empty, _ => pure ([], before, empty)
  | bound + 1, before, empty, wasSpaced => do
    let cursor ← get
    match cursor.peek with
    | some first =>
      if cursor.column = indent then
        let isSpaced := isSpacing first
        let joined :=
          if !isLiteral && before = some '\n' && !wasSpaced && !isSpaced then
            if empty.isEmpty then [' '] else []
          else before.toList
        let line ← takeWhile fun char => !isBreak char
        let after ← lineBreak?
        let (breaks, _) ← blockBreaks (some indent) (bound + 1) 0 []
        let (rest, last) ← blockLines isLiteral indent bound after breaks isSpaced
        return (joined ++ empty ++ line ++ rest, last)
      else return ([], before, empty)
    | Option.none => return ([], before, empty)

/-- Read a block scalar from its indicator on. Its lines stand below the given indentation, by as
much as the header says or as the first line with text shows. -/
def blockScalar (isLiteral : Bool) (parentIndent : Int) : Scan (List Char) := do
  let (chomping, number) ← blockHeader
  let bound := (← get).rest.length + 1
  let given := number.map fun number =>
    if parentIndent ≥ 0 then parentIndent.toNat + number else number
  let (empty, greatest) ← blockBreaks given bound 0 []
  let indent := given.getD (max greatest (max (parentIndent + 1).toNat 1))
  let (text, before, empty) ← blockLines isLiteral indent bound Option.none empty false
  return match chomping with
    | .strip => text
    | .clip => text ++ before.toList
    | .keep => text ++ before.toList ++ empty

end Scan

end PureService.Yaml
