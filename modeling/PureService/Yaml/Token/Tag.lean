import PureService.Yaml.Cursor
import PureService.Yaml.Token

/-!
# Tags, anchors and directives

A tag is written in full between angle brackets or as a handle with a suffix; a handle stands for
the beginning of a tag, as a directive says. In tags a character may be written by the numbers of
its UTF-8 bytes.
-/

namespace PureService.Yaml

/-- A character of tags. Between angle brackets commas and square brackets count as well. -/
def isTagChar (isFull : Bool) (char : Char) : Bool :=
  isNameChar char || ";/?:@&=+$.!~*'()%".toList.contains char ||
    (isFull && ",[]".toList.contains char)

namespace Scan

def hexByte? : List Char → Option (Nat × List Char)
  | '%' :: first :: second :: rest => do
    let value (char : Char) : Option Nat :=
      if char.isDigit then some (char.toNat - '0'.toNat)
      else if 'a' ≤ char.toLower && char.toLower ≤ 'f' then
        some (char.toLower.toNat - 'a'.toNat + 10)
      else none
    return ((← value first) * 16 + (← value second), rest)
  | _ => none

/-- The bytes that continue a character, and the number that they complete. -/
def continuation? : Nat → Nat → List Char → Option Nat
  | 0, code, _ => some code
  | count + 1, code, rest => do
    let (byte, rest) ← hexByte? rest
    guard (0x80 ≤ byte && byte < 0xC0)
    continuation? count (code * 64 + (byte - 0x80)) rest

/-- The character that is written by the numbers of its bytes, and how many characters write it. -/
def byteEscape? (text : List Char) : Option (Char × Nat) := do
  let (byte, rest) ← hexByte? text
  let (count, start) ←
    if byte < 0x80 then some (0, byte)
    else if 0xC0 ≤ byte && byte < 0xE0 then some (1, byte - 0xC0)
    else if 0xE0 ≤ byte && byte < 0xF0 then some (2, byte - 0xE0)
    else if 0xF0 ≤ byte && byte < 0xF8 then some (3, byte - 0xF0)
    else none
  let code ← continuation? count start rest
  guard (code.isValidChar)
  return (Char.ofNat code, 3 * (count + 1))

/-- Read the characters of a tag; the first number bounds them. -/
def tagChars (isFull : Bool) : Nat → List Char → Scan (List Char)
  | 0, read => pure read
  | bound + 1, read => do
    match (← get).rest with
    | [] => return read
    | char :: rest =>
      if char = '%' then
        let (escaped, count) ← StateT.lift (byteEscape? (char :: rest))
        skip count
        tagChars isFull bound (read ++ [escaped])
      else if isTagChar isFull char then
        skip 1
        tagChars isFull bound (read ++ [char])
      else return read

/-- Read the rest of a tag of which some characters were read already. It cannot be empty. -/
def tagText (isFull : Bool) (read : List Char) : Scan (List Char) := do
  let bound := (← get).rest.length
  let text ← tagChars isFull bound []
  require !(read ++ text).isEmpty
  return read.drop 1 ++ text

/-- Read a handle: an exclamation mark, and a name with another one after it. Where a tag is
meant, the second mark may be missing. -/
def tagHandle (isDirective : Bool) : Scan (List Char) := do
  require ((← peek) = some '!')
  skip 1
  let name ← takeWhile isNameChar
  if (← peek) = some '!' then
    skip 1
    return '!' :: name ++ ['!']
  require (!isDirective || name.isEmpty)
  return '!' :: name

/-- Read a tag as a handle and a suffix. A tag in full has an empty handle. -/
def tag : Scan Token := do
  let token ← if (← get).peekAt 1 = some '<' then do
      skip 2
      let suffix ← tagText true []
      require ((← peek) = some '>')
      skip 1
      pure (.tag [] suffix)
    else do
      let handle ← tagHandle false
      if 2 ≤ handle.length && handle.getLast? = some '!' then
        let suffix ← tagText false []
        pure (.tag handle suffix)
      else
        let suffix ← tagText false handle
        pure (if suffix.isEmpty then .tag [] ['!'] else .tag ['!'] suffix)
  return token

/-- Read the name of an anchor or of an alias to one. -/
def anchorName : Scan (List Char) := do
  skip 1
  let name ← takeWhile isNameChar
  let next ← peek
  require !name.isEmpty
  require (endsWord next || next.any "?:,]\x7d%@\x60".toList.contains)
  return name

/-- Read one part of a version: at most nine digits. -/
def versionNumber : Scan Nat := do
  let digits ← takeWhile Char.isDigit
  require (1 ≤ digits.length && digits.length ≤ 9)
  return digits.foldl (fun number digit => number * 10 + (digit.toNat - '0'.toNat)) 0

/-- Read a directive, up to the end of its line. -/
def directive : Scan Token := do
  skip 1
  let name ← takeWhile isNameChar
  require !name.isEmpty
  require (endsWord (← peek))
  let token ←
    if name = "YAML".toList then do
      skipWhile isSpacing
      let major ← versionNumber
      require ((← peek) = some '.')
      skip 1
      let minor ← versionNumber
      pure (.versionDirective major minor)
    else if name = "TAG".toList then do
      skipWhile isSpacing
      let handle ← tagHandle true
      require ((← peek).any isSpacing)
      skipWhile isSpacing
      let lead ← tagText true []
      require (endsWord (← peek))
      pure (.tagDirective handle lead)
    else fail
  skipCommentLine
  return token

end Scan

end PureService.Yaml
