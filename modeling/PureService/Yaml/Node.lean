import PureService.Yaml.Event
import PureService.Yaml.Token.OfText

/-!
# The nodes of a YAML document

A document is a tree of nodes with aliases to nodes that bear an anchor. Where the text breaks off
in the middle of a document, the tree ends with a mark at this place, so that everything before it
can still be read.

Anchors are numbered by how many names are known when they are set. Of several anchors with one
number the last one counts.
-/

namespace PureService.Yaml

inductive Node where
  | scalar (tag : Option (List Char)) (style : ScalarStyle) (text : List Char)
  | sequence (tag : Option (List Char)) (items : List Node)
  | mapping (tag : Option (List Char)) (entries : List (Node × Node))
  | aliasTo (number : Nat)
  /-- The text breaks off here. -/
  | broken

namespace Node

mutual

/-- The text does not break off within the node. -/
def isWhole : Node → Bool
  | scalar _ _ _ => true
  | sequence _ items => areWhole items
  | mapping _ entries => haveWholeEntries entries
  | aliasTo _ => true
  | broken => false

def areWhole : List Node → Bool
  | [] => true
  | item :: rest => item.isWhole && areWhole rest

def haveWholeEntries : List (Node × Node) → Bool
  | [] => true
  | (key, value) :: rest => key.isWhole && value.isWhole && haveWholeEntries rest

end

/-- The nodes of a mapping as its entries; a last key without a value breaks off. -/
def entriesOf : List Node → List (Node × Node)
  | key :: value :: rest => (key, value) :: entriesOf rest
  | [key] => [(key, broken)]
  | [] => []

end Node

/-- A node that bears an anchor: the number of the anchor and the place where the node starts. -/
structure Anchored where
  number : Nat
  place : Nat
  node : Node

/-- A collection whose end has not been reached. -/
structure OpenNode where
  isMapping : Bool
  tag : Option (List Char)
  /-- The number of the anchor, if there is one, and the place where the collection starts. -/
  anchor : Option (Nat × Nat)
  /-- The nodes inside, the last one first. -/
  children : List Node

/-- A document that is being put together. -/
structure Assembly where
  /-- The collections that are open, the innermost one first. -/
  openNodes : List OpenNode
  root : Option Node
  /-- The known names of anchors with their numbers. -/
  names : List (List Char × Nat)
  anchored : List Anchored
  /-- How many events have been used. -/
  count : Nat

/-- A document: its root, if there is one, and the nodes to which aliases lead. -/
structure Document where
  root : Option Node
  anchored : List Anchored
  /-- How many events make up the document. -/
  eventCount : Nat
  /-- The text has no flaw and holds no other document. -/
  isSound : Bool

namespace Assembly

def start : Assembly :=
  ⟨[], none, [], [], 0⟩

/-- Give the next number to an anchor. -/
def register (assembly : Assembly) : Option (List Char) → Option (Nat × Nat) × Assembly
  | none => (none, assembly)
  | some name =>
    let number := assembly.names.length
    (some (number, assembly.count),
      { assembly with names := (name, number) :: assembly.names.filter (·.1 ≠ name) })

/-- Add a complete node. -/
def add (assembly : Assembly) (anchor : Option (Nat × Nat)) (node : Node) : Assembly :=
  let anchored := match anchor with
    | none => assembly.anchored
    | some (number, place) => ⟨number, place, node⟩ :: assembly.anchored
  match assembly.openNodes with
  | [] => { assembly with anchored, root := some node }
  | inner :: outer =>
    { assembly with
      anchored, openNodes := { inner with children := node :: inner.children } :: outer }

/-- Close the innermost collection. -/
def close (assembly : Assembly) : Assembly :=
  match assembly.openNodes with
  | [] => assembly
  | inner :: outer =>
    let children := inner.children.reverse
    { assembly with openNodes := outer }.add inner.anchor
      (if inner.isMapping then .mapping inner.tag (Node.entriesOf children)
      else .sequence inner.tag children)

/-- Use one event. An alias needs an anchor that is known. -/
def use (assembly : Assembly) (event : Event) : Option Assembly :=
  let counted (next : Assembly) : Assembly := { next with count := next.count + 1 }
  let opened (isMapping : Bool) (anchor tag : Option (List Char)) : Assembly :=
    let (anchor, next) := assembly.register anchor
    { next with openNodes := ⟨isMapping, tag, anchor, []⟩ :: next.openNodes }
  match event with
  | .aliasTo name => (assembly.names.lookup name).map fun number =>
    counted (assembly.add none (.aliasTo number))
  | .scalar anchor tag style text =>
    let (anchor, next) := assembly.register anchor
    some (counted (next.add anchor (.scalar tag style text)))
  | .sequenceStart anchor tag => some (counted (opened false anchor tag))
  | .mappingStart anchor tag => some (counted (opened true anchor tag))
  | .sequenceEnd | .mappingEnd => some (counted assembly.close)
  | .streamEnd | .documentStart | .documentEnd => some assembly

/-- The text breaks off here: all open collections end with a broken node. A root that is complete
stays as it is. -/
def breakOff (assembly : Assembly) : Assembly :=
  if assembly.openNodes.isEmpty then assembly
  else assembly.openNodes.foldl (fun current _ => current.close) (assembly.add none .broken)

/-- Use the events of a document up to its end, and say whether the end was reached and which
events come after it. -/
def useAll : Assembly → List Event → Assembly × Bool × List Event
  | assembly, [] => (assembly.breakOff, false, [])
  | assembly, .documentEnd :: rest => (assembly, true, rest)
  | assembly, event :: rest =>
    match assembly.use event with
    | none => (assembly.breakOff, false, [])
    | some next => useAll next rest

end Assembly

/-- The first document of a stream. A stream without documents has an empty one. -/
def Document.ofEvents (events : List Event) : Document :=
  match events with
  | [.streamEnd] => ⟨none, [], 1, true⟩
  | _ =>
    let (assembly, isComplete, rest) := Assembly.start.useAll events
    ⟨some (assembly.root.getD .broken), assembly.anchored, assembly.count,
      isComplete && rest = [.streamEnd]⟩

/-- The first document of a text. -/
def Document.ofText (text : String) : Document :=
  .ofEvents (events (tokens text.toList))

/-- The node to which the alias with the given number leads. -/
def Document.target? (document : Document) (number : Nat) : Option Node :=
  let candidates := document.anchored.filter (·.number = number)
  let latest := (candidates.map Anchored.place).max?
  (candidates.find? fun anchored => some anchored.place = latest).map Anchored.node

end PureService.Yaml
