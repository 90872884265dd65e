import PureService.Diagnostic.Basic
import PureService.Document

/-!
# Classification of declarations

Each declaration is judged on its own, from what it declares and from where it stands. Listeners,
classes, services and an entry point are refused; a public function has to consist of an
expression; annotations belong to tests. A public, isolated, expression-bodied function outside
tests is recorded as a transformer when it is in the default module, and then its parameters have
to be readable from JSON.
-/

namespace PureService

/-- Where a declaration stands. -/
structure Surroundings where
  document : String
  inTestDocument : Bool
  inDefaultModule : Bool
  deriving DecidableEq, Repr

def Document.surroundings (document : Document) (inDefaultModule : Bool) : Surroundings :=
  ⟨document.name, document.isTest, inDefaultModule⟩

/-- The findings about one declaration, and the name to record if it is a transformer. -/
structure Classification where
  diagnostics : List Diagnostic
  transformer : Option String
  deriving DecidableEq, Repr

namespace Classification

def rules (classification : Classification) : List Rule :=
  classification.diagnostics.map Diagnostic.rule

end Classification

namespace FunctionDefinition

/-- The function belongs to a test, by its own mark or by its document. -/
def isTested (definition : FunctionDefinition) (surroundings : Surroundings) : Bool :=
  surroundings.inTestDocument || definition.inTestPart

/-- The function is to be exposed by the service. -/
def isTransformer (definition : FunctionDefinition) (surroundings : Surroundings) : Bool :=
  surroundings.inDefaultModule && !definition.isTested surroundings &&
    definition.isTransformerShaped

/-- The rules that a function breaks, in the order of their codes. -/
def brokenRules (definition : FunctionDefinition) (surroundings : Surroundings) : List Rule :=
  (if definition.isEntryPoint then [.noEntryPoint] else []) ++
  (if definition.hasQualifier .pub && !definition.isExpressionBodied then
    [.publicIsExpression] else []) ++
  (if definition.hasAnnotations && !definition.isTested surroundings then
    [.unannotated] else []) ++
  (if definition.isTransformer surroundings && !definition.hasSerializableSignature then
    [.supportedSignature] else [])

end FunctionDefinition

namespace ItemKind

/-- The rule that every item of the kind breaks. -/
def brokenRules : ItemKind → List Rule
  | listener => [.noListener]
  | classDefinition => [.noClass]
  | service => [.noService]
  | typeDefinition => []

end ItemKind

namespace Declaration

def brokenRules (surroundings : Surroundings) : Declaration → List Rule
  | function definition => definition.brokenRules surroundings
  | item kind _ => kind.brokenRules

/-- The name under which the declaration is exposed, if it is. -/
def transformer? (surroundings : Surroundings) : Declaration → Option String
  | function definition =>
    if definition.isTransformer surroundings then some definition.name else none
  | item _ _ => none

def location (surroundings : Surroundings) (declaration : Declaration) : Location :=
  ⟨surroundings.document, declaration.position.line, declaration.position.column⟩

def classify (surroundings : Surroundings) (declaration : Declaration) : Classification :=
  ⟨(declaration.brokenRules surroundings).map (.ofRule · (declaration.location surroundings)),
    declaration.transformer? surroundings⟩

end Declaration

end PureService
