import PureService.Yaml.Token.ScalarText
import PureService.Yaml.Token.Tag

/-!
# Scanning a text into tokens

Tokens are scanned one after the other, but a token that may turn out to be the key of an entry
waits: the sign of the key is put before it when the colon is found. Tokens are delivered only when
nothing can come before them any more, so a text that breaks off yields the tokens that were
certain by then.
-/

namespace PureService.Yaml

/-- A place at which the key of an entry may have begun. -/
structure KeyCandidate where
  /-- There is no other way to go on than with a colon. -/
  isRequired : Bool
  /-- The number of the first token of the key. -/
  token : Nat
  offset : Nat
  line : Nat
  column : Nat
  deriving DecidableEq, Repr

structure Scanner where
  cursor : Cursor
  /-- The column in which the innermost block collection stands, before all columns if none. -/
  indent : Int
  outerIndents : List Int
  /-- A key may begin at the next token. -/
  keyAllowed : Bool
  /-- The key candidate of the block level, and of each flow collection that is open. -/
  blockKey : Option KeyCandidate
  flowKeys : List (Option KeyCandidate)
  /-- How many tokens have been delivered. -/
  delivered : Nat
  waiting : List Token

namespace Scanner

/-- The longest key, in characters. -/
def maxKeyLength : Nat := 1024

/-- The beginning of a text. A byte order mark is skipped but takes a column. -/
def start (text : List Char) : Scanner :=
  let cursor := Cursor.start text
  { cursor := if text.head? = some '\uFEFF' then cursor.advance 1 else cursor
    indent := -1, outerIndents := [], keyAllowed := true
    blockKey := none, flowKeys := [], delivered := 0, waiting := [.streamStart] }

def inFlow (scanner : Scanner) : Bool :=
  !scanner.flowKeys.isEmpty

def candidate (scanner : Scanner) : Option KeyCandidate :=
  match scanner.flowKeys with
  | [] => scanner.blockKey
  | key :: _ => key

def setCandidate (scanner : Scanner) (key : Option KeyCandidate) : Scanner :=
  match scanner.flowKeys with
  | [] => { scanner with blockKey := key }
  | _ :: outer => { scanner with flowKeys := key :: outer }

def candidates (scanner : Scanner) : List KeyCandidate :=
  (scanner.flowKeys ++ [scanner.blockKey]).filterMap id

def enqueue (scanner : Scanner) (token : Token) : Scanner :=
  { scanner with waiting := scanner.waiting ++ [token] }

/-- Put a token before the waiting token with the given number. -/
def insertBefore (scanner : Scanner) (number : Nat) (token : Token) : Scanner :=
  { scanner with waiting := scanner.waiting.insertIdx (number - scanner.delivered) token }

/-- A candidate cannot be the key any more: its line has ended or it has become too long. -/
def isStale (scanner : Scanner) (key : KeyCandidate) : Bool :=
  key.line < scanner.cursor.line || key.offset + maxKeyLength < scanner.cursor.offset

/-- Give up the candidates that are stale. None of them may be required. -/
def dropStale (scanner : Scanner) : Option Scanner :=
  if scanner.candidates.any fun key => key.isRequired && scanner.isStale key then none
  else
    let fresh (key : Option KeyCandidate) : Option KeyCandidate :=
      key.filter fun key => !scanner.isStale key
    some { scanner with
      blockKey := fresh scanner.blockKey, flowKeys := scanner.flowKeys.map fresh }

/-- Give up the candidate of the innermost level, which may not be required. -/
def dropCandidate (scanner : Scanner) : Option Scanner :=
  if scanner.candidate.any KeyCandidate.isRequired then none
  else some (scanner.setCandidate none)

/-- The next token may begin a key, if keys are allowed here. -/
def saveCandidate (scanner : Scanner) : Option Scanner :=
  if scanner.keyAllowed then do
    let cursor := scanner.cursor
    return (← scanner.dropCandidate).setCandidate (some
      { isRequired := !scanner.inFlow && scanner.indent = cursor.column
        token := scanner.delivered + scanner.waiting.length
        offset := cursor.offset, line := cursor.line, column := cursor.column })
  else some scanner

/-- Open a block collection in the given column, unless one stands there. Its token comes before
the given number or, without one, last. -/
def openBlock (scanner : Scanner) (column : Nat) (number : Option Nat) (token : Token) :
    Scanner :=
  if !scanner.inFlow && scanner.indent < column then
    let opened := { scanner with
      indent := column, outerIndents := scanner.indent :: scanner.outerIndents }
    match number with
    | some number => opened.insertBefore number token
    | none => opened.enqueue token
  else scanner

/-- Close the block collections that stand right of the given column. -/
def closeBlocks (scanner : Scanner) (column : Int) : Scanner :=
  if scanner.inFlow then scanner
  else
    let columns := scanner.indent :: scanner.outerIndents
    let closed := columns.takeWhile fun indent => column < indent
    match columns.drop closed.length with
    | [] => scanner
    | indent :: outerIndents =>
      { scanner with
        indent, outerIndents
        waiting := scanner.waiting ++ List.replicate closed.length .blockEnd }

/-- Run a reader from the cursor on. -/
def scan {α : Type} (scanner : Scanner) (read : Scan α) : Option (α × Scanner) :=
  (read.run scanner.cursor).map fun (result, cursor) => (result, { scanner with cursor })

/-- Take a token of the given width. -/
def take (scanner : Scanner) (width : Nat) (token : Token) : Scanner :=
  { scanner with cursor := scanner.cursor.advance width }.enqueue token

def allowKey (scanner : Scanner) (keyAllowed : Bool) : Scanner :=
  { scanner with keyAllowed }

/-- Skip spaces, comments and line breaks up to the next token. A tab may stand where no key can
begin. The number bounds the lines that are skipped. -/
def skipToToken : Nat → Scanner → Scanner
  | 0, scanner => scanner
  | bound + 1, scanner =>
    let isSkipped (char : Char) : Bool :=
      char = ' ' || (char = '\t' && (scanner.inFlow || !scanner.keyAllowed))
    let spaces := scanner.cursor.rest.takeWhile isSkipped
    let cursor := scanner.cursor.advance spaces.length
    let cursor :=
      if cursor.peek = some '#' then
        cursor.advance (cursor.rest.takeWhile fun char => !isBreak char).length
      else cursor
    if cursor.peek.any isBreak then
      skipToToken bound { scanner with
        cursor := cursor.advanceBreak, keyAllowed := scanner.keyAllowed || !scanner.inFlow }
    else { scanner with cursor }

/-- The text has ended, and its last line with it: all block collections are closed. -/
def fetchEnd (scanner : Scanner) : Option Scanner := do
  let cursor := scanner.cursor
  let ended :=
    if cursor.column = 0 then cursor else { cursor with line := cursor.line + 1, column := 0 }
  let closed := { scanner with cursor := ended }.closeBlocks (-1)
  return ((← closed.dropCandidate).allowKey false).enqueue .streamEnd

/-- Fetch a token that stands between documents. -/
def fetchBetween (scanner : Scanner) (read : Scan Token) : Option Scanner := do
  let (token, scanner) ← ((← (scanner.closeBlocks (-1)).dropCandidate).allowKey false).scan read
  return scanner.enqueue token

def fetchFlowStart (scanner : Scanner) (token : Token) : Option Scanner := do
  let saved ← scanner.saveCandidate
  return ({ saved with flowKeys := none :: saved.flowKeys }.allowKey true).take 1 token

def fetchFlowEnd (scanner : Scanner) (token : Token) : Option Scanner := do
  let dropped ← scanner.dropCandidate
  return ({ dropped with flowKeys := dropped.flowKeys.drop 1 }.allowKey false).take 1 token

def fetchFlowEntry (scanner : Scanner) : Option Scanner := do
  return ((← scanner.dropCandidate).allowKey true).take 1 .flowEntry

/-- Fetch the sign of an entry of a block sequence. In flow collections it is no entry, which is
found out later. -/
def fetchBlockEntry (scanner : Scanner) : Option Scanner := do
  guard (scanner.inFlow || scanner.keyAllowed)
  let opened := scanner.openBlock scanner.cursor.column none .blockSequenceStart
  return ((← opened.dropCandidate).allowKey true).take 1 .blockEntry

/-- Fetch the sign of a key that may itself be a collection. -/
def fetchKey (scanner : Scanner) : Option Scanner := do
  guard (scanner.inFlow || scanner.keyAllowed)
  let opened := scanner.openBlock scanner.cursor.column none .blockMappingStart
  return ((← opened.dropCandidate).allowKey !scanner.inFlow).take 1 .key

/-- Fetch the sign of a value. The candidate, if there is one, is the key to it. -/
def fetchValue (scanner : Scanner) : Option Scanner :=
  match scanner.candidate with
  | some key =>
    let keyed := (scanner.insertBefore key.token .key).openBlock key.column key.token
      .blockMappingStart
    some (((keyed.setCandidate none).allowKey false).take 1 .value)
  | none => do
    guard (scanner.inFlow || scanner.keyAllowed)
    let opened := scanner.openBlock scanner.cursor.column none .blockMappingStart
    return (opened.allowKey !scanner.inFlow).take 1 .value

/-- Fetch a token with which a key may begin. -/
def fetchNodePart (scanner : Scanner) (read : Scan Token) : Option Scanner := do
  let (token, scanner) ← ((← scanner.saveCandidate).allowKey false).scan read
  return scanner.enqueue token

def fetchBlockScalar (scanner : Scanner) (isLiteral : Bool) : Option Scanner := do
  let (text, scanner) ← ((← scanner.dropCandidate).allowKey true).scan
    (Scan.blockScalar isLiteral scanner.indent)
  return scanner.enqueue (.scalar (if isLiteral then .literal else .folded) text)

/-- Fetch a plain scalar. If its last line has ended, a key may follow. -/
def fetchPlain (scanner : Scanner) : Option Scanner := do
  let ((text, hasEnded), scanner) ← ((← scanner.saveCandidate).allowKey false).scan
    (Scan.plainScalar scanner.inFlow (scanner.indent + 1).toNat)
  return (scanner.allowKey hasEnded).enqueue (.scalar .plain text)

/-- A tag ends before the end of a word or, in flow collections, before a comma. -/
def readTag (inFlow : Bool) : Scan Token := do
  let token ← Scan.tag
  let next ← Scan.peek
  Scan.require (endsWord next || (inFlow && next = some ','))
  return token

/-- A plain scalar can begin here. Signs that would have a meaning of their own before a space can
begin one before anything else. -/
def canBeginPlain (scanner : Scanner) : Bool :=
  let next := scanner.cursor.peekAt 1
  match scanner.cursor.peek with
  | none => false
  | some char =>
    !(isSpacingOrBreak char || "-?:,[]\x7b\x7d#&*!|>'\"%@\x60".toList.contains char) ||
      (char = '-' && !next.any isSpacing) ||
      (!scanner.inFlow && (char = '?' || char = ':') && !endsWord next)

/-- Fetch the token that begins at the cursor, where the given character stands. -/
def fetchAt (scanner : Scanner) (char : Char) : Option Scanner :=
  let cursor := scanner.cursor
  let isWord := endsWord (cursor.peekAt 1)
  if cursor.column = 0 && char = '%' then scanner.fetchBetween Scan.directive
  else if cursor.isAtMark '-' then
    scanner.fetchBetween do Scan.skip 3; return .documentStart
  else if cursor.isAtMark '.' then
    scanner.fetchBetween do Scan.skip 3; return .documentEnd
  else match char with
    | '[' => scanner.fetchFlowStart .flowSequenceStart
    | '\x7b' => scanner.fetchFlowStart .flowMappingStart
    | ']' => scanner.fetchFlowEnd .flowSequenceEnd
    | '\x7d' => scanner.fetchFlowEnd .flowMappingEnd
    | ',' => scanner.fetchFlowEntry
    | '*' => scanner.fetchNodePart do return .aliasTo (← Scan.anchorName)
    | '&' => scanner.fetchNodePart do return .anchor (← Scan.anchorName)
    | '!' => scanner.fetchNodePart (readTag scanner.inFlow)
    | '\'' => scanner.fetchNodePart do return .scalar .singleQuoted (← Scan.quotedScalar true)
    | '"' => scanner.fetchNodePart do return .scalar .doubleQuoted (← Scan.quotedScalar false)
    | _ =>
      if char = '-' && isWord then scanner.fetchBlockEntry
      else if char = '?' && (scanner.inFlow || isWord) then scanner.fetchKey
      else if char = ':' && (scanner.inFlow || isWord) then scanner.fetchValue
      else if char = '|' && !scanner.inFlow then scanner.fetchBlockScalar true
      else if char = '>' && !scanner.inFlow then scanner.fetchBlockScalar false
      else if scanner.canBeginPlain then scanner.fetchPlain
      else none

/-- Fetch one more token, and those that come with it. -/
def fetch (scanner : Scanner) : Option Scanner := do
  let here := skipToToken (scanner.cursor.rest.length + 1) scanner
  let fresh ← here.dropStale
  match fresh.cursor.peek with
  | none => fresh.fetchEnd
  | some char => (fresh.closeBlocks fresh.cursor.column).fetchAt char

/-- The waiting tokens before which nothing can be put any more. -/
def certain (scanner : Scanner) : List Token :=
  match scanner.candidates.map (fun key => key.token - scanner.delivered) |>.min? with
  | none => scanner.waiting
  | some count => scanner.waiting.take count

/-- Deliver tokens and fetch more, as often as the number says. -/
def tokensWithin : Nat → Scanner → List Token
  | 0, _ => []
  | bound + 1, scanner =>
    match scanner.dropStale with
    | none => []
    | some fresh =>
      let certain := fresh.certain
      certain ++
        if certain.getLast? = some .streamEnd then []
        else
          let rest := { fresh with
            delivered := fresh.delivered + certain.length
            waiting := fresh.waiting.drop certain.length }
          match rest.fetch with
          | none => []
          | some next => tokensWithin bound next

end Scanner

/-- A character that may stand in a YAML text. -/
def isReadable (char : Char) : Bool :=
  let code := char.toNat
  code = 9 || code = 10 || code = 13 || (0x20 ≤ code && code ≤ 0x7E) || code = 0x85 ||
    (0xA0 ≤ code && code ≠ 0xFFFE && code ≠ 0xFFFF)

/-- The tokens of a text. They end with the end of the stream if the whole text could be scanned,
and before the first flaw otherwise. -/
def tokens (text : List Char) : List Token :=
  if text.all isReadable then (Scanner.start text).tokensWithin (text.length + 3)
  else [.streamStart]

end PureService.Yaml
