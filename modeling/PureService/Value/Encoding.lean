import PureService.Analysis.Analyzer
import PureService.Config
import PureService.Decoding.Config
import PureService.Decoding.Declaration

/-!
# Types as structured values

The value of each type that is written out: its fields in their order, under the names and words
with which they are decoded. Fields that may be missing are left out or empty, field by field as
their readers expect.
-/

namespace PureService

namespace Decoding.Choice

/-- The word for a value: the last one that is listed for it. -/
def wordOf {α : Type} [BEq α] (choice : Choice α) (value : α) : String :=
  ((choice.words.reverse.find? fun entry => entry.2 == value).map Prod.fst).getD ""

end Decoding.Choice

open Decoding

/-- A field that is left out when its content is missing. -/
def Value.fieldIfSome {α : Type} (name : String) (toValue : α → Value) :
    Option α → List (String × Value)
  | none => []
  | some content => [(name, toValue content)]

def Location.toValue (location : Location) : Value :=
  .fields ([("document", .text location.document)] ++
    Value.fieldIfSome "line" .ofNat location.line ++
    Value.fieldIfSome "column" .ofNat location.column)

def Diagnostic.toValue (diagnostic : Diagnostic) : Value :=
  .fields [("code", .text (ruleWords.wordOf diagnostic.rule)),
    ("severity", .text (severityWords.wordOf diagnostic.severity)),
    ("message", .text diagnostic.message), ("location", diagnostic.location.toValue)]

def Parameter.toValue (parameter : Parameter) : Value :=
  .fields ([("kind", .text (bindingWords.wordOf parameter.binding)),
    ("type", .text parameter.type.text)] ++ Value.fieldIfSome "name" .text parameter.name)

/-- The fields of a line and a column, which are written even when they are not known. -/
def Position.toFields (position : Position) : List (String × Value) :=
  [("line", .ofOption .ofNat position.line), ("column", .ofOption .ofNat position.column)]

def FunctionDefinition.toFields (definition : FunctionDefinition) : List (String × Value) :=
  [("name", .text definition.name),
    ("qualifiers", .list (definition.qualifiers.map fun qualifier =>
      .text (qualifierWords.wordOf qualifier))),
    ("body", .text (bodyWords.wordOf definition.body)),
    ("annotations", .list (definition.annotations.map .text)),
    ("parameters", .list (definition.parameters.map Parameter.toValue))] ++
  (if definition.inTestPart then [("owner_module_part_is_test", .bool true)] else []) ++
  definition.position.toFields

def FunctionDefinition.toValue (definition : FunctionDefinition) : Value :=
  .fields definition.toFields

def Item.toFields (item : Item) : List (String × Value) :=
  ("name", .ofOption .text item.name) :: item.position.toFields

def Item.toValue (item : Item) : Value :=
  .fields item.toFields

def Declaration.toValue (declaration : Declaration) : Value :=
  .fields (("kind", .text declaration.kindName) ::
    match declaration with
    | .function definition => definition.toFields
    | .item _ definition => definition.toFields)

def Document.toValue (document : Document) : Value :=
  .fields [("name", .text document.name), ("ordinal", .ofNat document.ordinal),
    ("test", .bool document.markedTest), ("imports", .list (document.imports.map .text)),
    ("declarations", .list (document.declarations.map Declaration.toValue))]

def ServiceConfig.toValue (config : ServiceConfig) : Value :=
  .fields [("port", .ofNat config.port.toNat), ("transport_org", .text config.transportOrg),
    ("file_name", .text config.fileName)]

def AnalysisConfig.toValue (config : AnalysisConfig) : Value :=
  .fields [("delivery", .text (deliveryWords.wordOf config.delivery))]

def ProjectConfig.toValue (config : ProjectConfig) : Value :=
  .fields [("name", .text config.name), ("version", .text config.version),
    ("service", config.service.toValue), ("analysis", config.analysis.toValue)]

def Analysis.Report.toValue (report : Analysis.Report) : Value :=
  .fields [("diagnostics", .list (report.diagnostics.map Diagnostic.toValue)),
    ("transformer_func_names", .list (report.transformers.map .text))]

end PureService
