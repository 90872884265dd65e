import PureService.Declaration
import PureService.Text.Line

/-!
# Documents and modules

A module of a project consists of documents, each with its imports and declarations. A document is
a test document when it is marked as one or imports something that has a path segment `test`; its
functions are then marked too. Only the other documents of a module count when it is asked whether
all of them have been seen.
-/

namespace PureService

structure Document where
  name : String
  /-- The place of the document among the documents of its module. -/
  ordinal : Nat
  /-- The document was marked as a test document. -/
  markedTest : Bool
  imports : List String
  declarations : List Declaration
  deriving DecidableEq, Repr

namespace Document

def empty (name : String) : Document :=
  ⟨name, 0, false, [], []⟩

/-- The segments of an imported path, which slashes and dots separate. -/
def importSegments (path : String) : List (List Char) :=
  (Text.splitAt '/' path.toList).flatMap (Text.splitAt '.')

/-- The imported path has a segment `test`. -/
def isTestImport (path : String) : Bool :=
  (importSegments path).contains "test".toList

def isTest (document : Document) : Bool :=
  document.markedTest || document.imports.any isTestImport

/-- In a test document every function is marked as part of a test. -/
def markTestFunctions (document : Document) : Document :=
  if document.isTest then
    { document with
      declarations := document.declarations.map fun
        | .function definition => .function { definition with inTestPart := true }
        | other => other }
  else document

end Document

/-- A module: documents in the order of their ordinals. -/
structure SourceModule where
  name : String
  isDefault : Bool
  documents : List Document
  deriving DecidableEq, Repr

namespace SourceModule

def empty (name : String) (isDefault : Bool) : SourceModule :=
  ⟨name, isDefault, []⟩

/-- Append a document; its ordinal becomes its place in the module. -/
def push (module_ : SourceModule) (document : Document) : SourceModule :=
  { module_ with
    documents := module_.documents ++ [{ document with ordinal := module_.documents.length }] }

/-- A module with the given documents, pushed one after the other. -/
def ofDocuments (name : String) (isDefault : Bool) (documents : List Document) : SourceModule :=
  documents.foldl push (empty name isDefault)

/-- How many documents have to be seen before the module is complete. -/
def countableDocuments (module_ : SourceModule) : Nat :=
  module_.documents.countP fun document => !document.isTest

end SourceModule

end PureService
