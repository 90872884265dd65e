import PureService.Diagnostic.Basic
import PureService.Sorting

/-!
# State of an analysis

The documents of the default module share one state: how many of them have been seen and how many
are expected, the transformers that were recorded, and a latch that is claimed by whoever reports
that there are none. Names are read out in the order of the documents and of the declarations in
them, so it does not matter in which order they were recorded.
-/

namespace PureService.Analysis

/-- The place of a declaration in its module. -/
structure DeclarationKey where
  document : Nat
  declaration : Nat
  deriving DecidableEq, Repr

namespace DeclarationKey

def compare (left right : DeclarationKey) : Ordering :=
  (Ord.compare left.document right.document).then (Ord.compare left.declaration right.declaration)

end DeclarationKey

/-- A recorded transformer. -/
structure Transformer where
  key : DeclarationKey
  name : String
  deriving DecidableEq, Repr

def Transformer.precedes (left right : Transformer) : Bool :=
  (left.key.compare right.key).isLE

structure State where
  /-- How many countable documents have been seen. -/
  visited : Nat
  /-- How many countable documents the module has. -/
  expected : Nat
  /-- The transformers in the order in which they were recorded. -/
  recorded : List Transformer
  /-- A transformer has been recorded. -/
  found : Bool
  /-- The absence of transformers has been reported. -/
  reported : Bool
  deriving DecidableEq, Repr

namespace State

def expecting (total : Nat) : State :=
  ⟨0, total, [], false, false⟩

def expect (state : State) (total : Nat) : State :=
  { state with expected := total }

/-- Count one more document as seen. -/
def visit (state : State) : State :=
  { state with visited := state.visited + 1 }

/-- Keep the name of a transformer; that one was found is a separate step. -/
def keep (state : State) (transformer : Transformer) : State :=
  { state with recorded := state.recorded ++ [transformer] }

def markFound (state : State) : State :=
  { state with found := true }

def record (state : State) (transformer : Transformer) : State :=
  (state.keep transformer).markFound

/-- Try to claim the latch: the answer says whether it was still free. -/
def claim (state : State) : Bool × State :=
  (!state.reported, { state with reported := true })

/-- The names of the recorded transformers in module order. -/
def names (state : State) : List String :=
  (Sorting.sort Transformer.precedes state.recorded).map Transformer.name

/-- Report at the given place that no transformer was found, unless one was found or the absence
has been reported. -/
def reportAbsence (state : State) (location : Location) : Option Diagnostic × State :=
  if state.found then (none, state)
  else
    let (claimed, next) := state.claim
    (if claimed then some (.ofRule .someTransformer location) else none, next)

/-- A countable document has been seen. The one that completes the expected number settles
whether there are transformers. -/
def documentProcessed (state : State) (location : Location) : Option Diagnostic × State :=
  let next := state.visit
  if next.visited = next.expected then next.reportAbsence location else (none, next)

/-- All documents have been delivered. This settles a module of which none is countable. -/
def moduleFinished (state : State) (location : Location) : Option Diagnostic × State :=
  if state.expected = 0 then state.reportAbsence location else (none, state)

end State

end PureService.Analysis
