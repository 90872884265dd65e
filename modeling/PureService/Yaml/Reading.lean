import PureService.Decoding.Config
import PureService.Decoding.Declaration
import PureService.Yaml.Scalar

/-!
# Decoding from YAML documents

The nodes of a document as a source. A failure is told with the path of the value where it was
found. Aliases are followed, but only so often that a small text cannot stand for an enormous
value, and collections may be nested only so deep.
-/

namespace PureService.Yaml

open Decoding

/-- A step from a node to one inside it. -/
inductive PathStep where
  | key (name : String)
  | index (place : Nat)
  /-- The value of an entry whose key is no scalar. -/
  | unnamed
  deriving DecidableEq, Repr

/-- The steps from the root to a node, the last one first. -/
abbrev Path := List PathStep

namespace Path

/-- The written form of a path; the root has none. -/
def text : Path → String
  | [] => ""
  | .index place :: parent => text parent ++ "[" ++ toString place ++ "]"
  | .key name :: [] => name
  | .key name :: parent => text parent ++ "." ++ name
  | .unnamed :: [] => "?"
  | .unnamed :: parent => text parent ++ ".?"

end Path

/-- Why a document cannot be decoded, and the path of the value, once it is known. -/
structure Failure where
  path : Option Path
  cause : Cause
  deriving DecidableEq, Repr

/-- What is said about a failure, if anything is. -/
def Failure.message? (failure : Failure) : Option String :=
  (failure.cause.message? .yaml).map fun message =>
    match failure.path with
    | none | some [] => message
    | some path => path.text ++ ": " ++ message

/-- Decoding counts how many more aliases may be followed. -/
abbrev Reading := StateT Nat (Except Failure)

/-- A node with its path and the number of levels that may still be nested in it. -/
structure Spot where
  node : Node
  path : Path
  depth : Nat

namespace Reading

def reject {α : Type} (cause : Cause) : Reading α :=
  throw ⟨none, cause⟩

/-- A failure whose path is not known yet is one of the given path. -/
def locate {α : Type} (path : Path) (reading : Reading α) : Reading α :=
  fun budget => (reading.run budget).mapError fun failure =>
    { failure with path := failure.path <|> some path }

/-- The cause of a failure when something else was expected than the node. -/
def mismatch (expected : Expected) : Node → Cause
  | .scalar tag style text =>
    match Scalar.meaning tag style text with
    | .ok found => .wrongType found expected
    | .error cause => cause
  | .sequence _ _ => .wrongType .list expected
  | .mapping _ _ => .wrongType .record expected
  | .aliasTo _ | .broken => .unreadable

/-- The node itself, or the node to which an alias leads. -/
def follow (document : Document) : Node → Reading Node
  | .aliasTo number => do
    match ← get, document.target? number with
    | budget + 1, some node => set budget; return node
    | _, _ => reject .unreadable
  | node => return node

/-- The spot of a node inside another one. -/
def inside (spot : Spot) (step : PathStep) (node : Node) : Reading Spot :=
  match spot.depth with
  | 0 => reject .unreadable
  | depth + 1 => return ⟨node, step :: spot.path, depth⟩

/-- No collection may be nested here any more. -/
def requireDepth (spot : Spot) : Reading Unit :=
  if spot.depth = 0 then reject .unreadable else pure ()

def text (document : Document) (spot : Spot) : Reading String := locate spot.path do
  match ← follow document spot.node with
  | .scalar _ _ text => return String.ofList text
  | node => reject (mismatch .text node)

def flag (document : Document) (spot : Spot) : Reading Bool := locate spot.path do
  let node ← follow document spot.node
  match node with
  | .scalar tag style text =>
    match if Scalar.isSpelled "bool" tag style then Scalar.bool? text else none with
    | some value => return value
    | none => reject (mismatch .flag node)
  | _ => reject (mismatch .flag node)

def number (document : Document) (kind : NumberKind) (spot : Spot) : Reading Nat :=
  locate spot.path do
    let node ← follow document spot.node
    match node with
    | .scalar tag style text =>
      match if Scalar.isSpelled "int" tag style then Scalar.natural? text else none with
      | some value =>
        if value ≥ Nat.pow 2 64 then reject (mismatch (.number kind) node)
        else if value ≥ kind.bound then reject (.wrongValue (.int value) (.number kind))
        else return value
      | none => reject (mismatch (.number kind) node)
    | _ => reject (mismatch (.number kind) node)

def optional {α : Type} (document : Document) (decode : Spot → Reading α) (spot : Spot) :
    Reading (Option α) := do
  let node ← follow document spot.node
  match node with
  | .scalar none .plain text =>
    if text.isEmpty || Scalar.isNull text then return none
    else return some (← decode { spot with node })
  | _ => return some (← decode { spot with node })

/-- The node is left out: a plain scalar without text. -/
def isEmpty : Node → Bool
  | .scalar _ .plain [] => true
  | _ => false

def items {α : Type} (decode : Spot → Reading α) (spot : Spot) :
    (place : Nat) → List Node → Reading (List α)
  | _, [] => return []
  | place, node :: rest => do
    let item ← decode (← inside spot (.index place) node)
    return item :: (← items decode spot (place + 1) rest)

def list {α : Type} (document : Document) (decode : Spot → Reading α) (spot : Spot) :
    Reading (List α) := locate spot.path do
  let node ← follow document spot.node
  match node with
  | .sequence _ nodes =>
    requireDepth spot
    items decode spot 0 nodes
  | _ => if isEmpty node then return [] else reject (mismatch .list node)

/-- The name of a local tag: one that begins with an exclamation mark. -/
def localTag? : Node → Option String
  | .scalar (some ('!' :: name)) _ _ | .sequence (some ('!' :: name)) _
  | .mapping (some ('!' :: name)) _ =>
    some (String.ofList (if name.isEmpty then ['!'] else name))
  | _ => none

/-- The content of a choice that is named by a tag has to be empty. -/
def emptyContent : Node → Except Cause Unit
  | .scalar _ style text =>
    if style = .plain && (text.isEmpty || Scalar.isNull text) then .ok ()
    else .error (.wrongValue (.text (String.ofList text)) (.word "null"))
  | .sequence _ _ => .error (.wrongType .list (.word "unit"))
  | .mapping _ _ => .error (.wrongType .record (.word "unit"))
  | .aliasTo _ | .broken => .error .unreadable

def lift {α : Type} (result : Except Cause α) : Reading α :=
  match result with
  | .ok value => return value
  | .error cause => reject cause

/-- A choice is named by the text of a scalar or by a local tag. -/
def choice {α : Type} (document : Document) (choice : Choice α) (spot : Spot) : Reading α := do
  let node ← locate spot.path (follow document spot.node)
  match localTag? node, node with
  | some word, _ =>
    let value ← lift (choice.ofWord word)
    locate spot.path (lift (emptyContent node))
    return value
  | none, .scalar _ _ text =>
    return ← locate spot.path (lift (choice.ofWord (String.ofList text)))
  | none, _ =>
    return ← locate spot.path (reject (mismatch (.word "a YAML tag starting with '!'") node))

/-- The step to the value of an entry. -/
def stepOf : Node → PathStep
  | .scalar _ _ text => .key (String.ofList text)
  | _ => .unnamed

/-- The name that the key of an entry gives. -/
def keyName (document : Document) (path : Path) (key : Node) : Reading String := locate path do
  match ← follow document key with
  | .scalar _ _ text => return String.ofList text
  | node => reject (mismatch (.word "field identifier") node)

/-- Read the entries of a record in order; `present` holds the fields read so far. -/
def entries {α : Type} (document : Document) (format : RecordFormat Spot Reading α)
    (spot : Spot) : (present : List String) → α → List (Node × Node) → Reading α
  | present, record, [] =>
    match format.missing? present with
    | some field => reject (.missingField field)
    | none => return record
  | present, record, (key, value) :: rest => do
    let name ← keyName document spot.path key
    if format.fields.contains name then
      if present.contains name then reject (.duplicateField name)
      let update ← format.update name (← inside spot (stepOf key) value)
      entries document format spot (name :: present) (update record) rest
    else
      if !value.isWhole then reject .unreadable
      entries document format spot present record rest

def record {α : Type} (document : Document) (format : RecordFormat Spot Reading α)
    (spot : Spot) : Reading α := locate spot.path do
  let node ← follow document spot.node
  match node with
  | .mapping _ nodes =>
    requireDepth spot
    entries document format spot [] format.initial nodes
  | _ =>
    if isEmpty node then entries document format spot [] format.initial []
    else reject (mismatch (.record format.name) node)

/-- A scalar as a value that is kept aside. -/
def scalarValue (expected : String) (node : Node) : Except Cause Value :=
  match mismatch (.word expected) node with
  | .wrongType found _ =>
    match found with
    | .null => .ok .null
    | .bool value => .ok (.bool value)
    | .int value => .ok (.int value)
    | .float value => .ok (.float value)
    | .text value => .ok (.text value)
    | _ => .error (.wrongType found (.word expected))
  | cause => .error cause

/-- Read the entries of a mapping with a reader for the nodes inside it. -/
def keptEntries (keep : Spot → Reading Value) (spot : Spot) :
    List (Node × Node) → Reading (List (Value × Value))
  | [] => return []
  | (key, value) :: rest => do
    let keptKey ← keep ⟨key, spot.path, spot.depth - 1⟩
    let kept ← keep (← inside spot (stepOf key) value)
    return (keptKey, kept) :: (← keptEntries keep spot rest)

/-- Keep a node aside as a value; the depth bounds how far it may be nested. -/
def keepWithin (document : Document) : (depth : Nat) → Spot → Reading Value
  | depth, spot => locate spot.path do
    let node ← follow document spot.node
    if (localTag? node).isSome then reject .unreadable
    match node, depth with
    | .sequence _ nodes, depth + 1 =>
      return .list (← items (keepWithin document depth) { spot with depth := depth + 1 } 0 nodes)
    | .mapping _ nodes, depth + 1 =>
      return .record
        (← keptEntries (keepWithin document depth) { spot with depth := depth + 1 } nodes)
    | .sequence _ _, 0 | .mapping _ _, 0 => reject .unreadable
    | _, _ => lift (scalarValue "any value" node)

def keep (document : Document) (spot : Spot) : Reading Value :=
  keepWithin document spot.depth spot

/-- Take the entry with the given key out of the entries, which must hold it once, and keep the
others aside. -/
def splitEntries {α : Type} (document : Document) (field : String) (choice : Choice α)
    (spot : Spot) : Option α → List (Value × Value) → List (Node × Node) → Reading (α × Value)
  | none, _, [] => reject (.missingField field)
  | some chosen, others, [] => return (chosen, .record others.reverse)
  | found, others, (key, value) :: rest => do
    let keySpot : Spot := ⟨key, spot.path, spot.depth - 1⟩
    let keyValue ← match ← follow document key with
      | .scalar tag style text => locate spot.path do
        let node := Node.scalar tag style text
        if (localTag? node).isSome then reject .unreadable
        lift (scalarValue ("a type tag `" ++ field ++ "` or any other value") node)
      | node => keep document { keySpot with node }
    let valueSpot ← inside spot (stepOf key) value
    match keyValue with
    | .text name =>
      if name = field then
        if found.isSome then reject (.duplicateField field)
        let chosen ← locate valueSpot.path do
          match ← follow document value with
          | .scalar _ _ text => lift (choice.ofWord (String.ofList text))
          | node => reject (mismatch (.word "variant identifier") node)
        splitEntries document field choice spot (some chosen) others rest
      else
        let kept ← keep document valueSpot
        splitEntries document field choice spot found ((keyValue, kept) :: others) rest
    | _ =>
      let kept ← keep document valueSpot
      splitEntries document field choice spot found ((keyValue, kept) :: others) rest

def alternative {α : Type} (document : Document) (field union : String) (choice : Choice α)
    (spot : Spot) : Reading (α × Value) := locate spot.path do
  let node ← follow document spot.node
  if (localTag? node).isSome then reject (.wrongType .variant (.taggedUnion union))
  match node with
  | .mapping _ nodes =>
    requireDepth spot
    splitEntries document field choice spot none [] nodes
  | .sequence _ [] => reject (.missingField field)
  | .sequence _ (first :: rest) =>
    requireDepth spot
    let firstSpot ← inside spot (.index 0) first
    let chosen ← locate firstSpot.path do
      match ← follow document first with
      | .scalar _ _ text => lift (choice.ofWord (String.ofList text))
      | node => reject (mismatch (.word "variant identifier") node)
    return (chosen, .list (← items (keep document) spot 1 rest))
  | _ => reject (mismatch (.taggedUnion union) node)

end Reading

/-- The nodes of a document as a source. -/
def source (document : Document) : Source Spot Reading where
  text := Reading.text document
  flag := Reading.flag document
  number := Reading.number document
  optional := Reading.optional document
  list := Reading.list document
  choice := Reading.choice document
  record := Reading.record document
  alternative := Reading.alternative document
  reject := Reading.reject

/-- How deep collections may be nested. -/
def maxDepth : Nat := 128

/-- How many aliases may be followed for each event of a document. -/
def aliasesPerEvent : Nat := 100

/-- Decode the only document of a text. A document without a root is read like an empty node. -/
def decode {α : Type} (text : String) (read : Source Spot Reading → Spot → Reading α) :
    Except Failure α :=
  let document := Document.ofText text
  let root : Spot := ⟨document.root.getD (.scalar none .plain []), [], maxDepth⟩
  match (read (source document) root).run (aliasesPerEvent * document.eventCount) with
  | .error failure => .error failure
  | .ok (value, _) =>
    if document.isSound then .ok value else .error ⟨none, .unreadable⟩

end PureService.Yaml
