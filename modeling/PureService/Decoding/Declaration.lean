import PureService.Decoding.OfValue
import PureService.Diagnostic.Basic
import PureService.Document

/-!
# Decoding declarations, documents and diagnostics

The fields of each type, their order and their defaults, for any source. Declarations are told
apart by their field `kind`; their other fields are kept aside until the kind is known.
-/

namespace PureService.Decoding

variable {ν : Type} {m : Type → Type} [Monad m]

def qualifierWords : Choice Qualifier :=
  .ofValues (fun
    | .pub => "public"
    | .isolated => "isolated"
    | .priv => "private"
    | .transactional => "transactional"
    | .remote => "remote"
    | .final => "final"
    | .configurable => "configurable")
    [.pub, .isolated, .priv, .transactional, .remote, .final, .configurable]

def bindingWords : Choice Binding :=
  .ofValues (fun
    | .required => "required"
    | .defaulted => "defaulted"
    | .rest => "rest") [.required, .defaulted, .rest]

/-- A statement body has a second name. -/
def bodyWords : Choice Body :=
  ⟨[("expression", .expression), ("block", .statement), ("statement", .statement),
    ("external", .external)], [.expression, .statement, .external]⟩

def primitiveWords : Choice Primitive :=
  .ofValues Primitive.name Primitive.all

def ruleWords : Choice Rule :=
  .ofValues Rule.code Rule.all

def severityWords : Choice Severity :=
  .ofValues Severity.name [.error]

/-- The kinds of declarations: a function, or an item of some kind. -/
def declarationKindWords : Choice (Option ItemKind) :=
  .ofValues (fun kind? => (kind?.map ItemKind.name).getD "function")
    [none, some .listener, some .classDefinition, some .service, some .typeDefinition]

namespace Source

def type (source : Source ν m) (node : ν) : m TypeDescriptor := do
  match TypeDescriptor.ofText (← source.text node) with
  | .ok descriptor => pure descriptor
  | .error error => source.reject (.badType error)

def index (source : Source ν m) : ν → m Nat :=
  source.number .index

def parameterFormat (source : Source ν m) : RecordFormat ν m Parameter where
  name := "Parameter"
  fields := ["kind", "type", "name"]
  required := ["kind", "type"]
  initial := ⟨.required, .record, none⟩
  update
    | "kind", node => do let binding ← source.choice bindingWords node; pure ({ · with binding })
    | "type", node => do let type ← source.type node; pure ({ · with type })
    | "name", node => do let name ← source.optional source.text node; pure ({ · with name })
    | _, _ => pure id

def parameter (source : Source ν m) : ν → m Parameter :=
  source.record source.parameterFormat

def functionFormat (source : Source ν m) : RecordFormat ν m FunctionDefinition where
  name := "FunctionDeclaration"
  fields := ["name", "qualifiers", "body", "annotations", "parameters",
    "owner_module_part_is_test", "line", "column"]
  required := ["name"]
  initial := .named ""
  update
    | "name", node => do let name ← source.text node; pure ({ · with name })
    | "qualifiers", node => do
      let qualifiers ← source.list (source.choice qualifierWords) node
      pure ({ · with qualifiers })
    | "body", node => do let body ← source.choice bodyWords node; pure ({ · with body })
    | "annotations", node => do
      let annotations ← source.list source.text node
      pure ({ · with annotations })
    | "parameters", node => do
      let parameters ← source.list source.parameter node
      pure ({ · with parameters })
    | "owner_module_part_is_test", node => do
      let inTestPart ← source.flag node
      pure ({ · with inTestPart })
    | "line", node => do
      let line ← source.optional source.index node
      pure fun definition => { definition with position.line := line }
    | "column", node => do
      let column ← source.optional source.index node
      pure fun definition => { definition with position.column := column }
    | _, _ => pure id

def function (source : Source ν m) : ν → m FunctionDefinition :=
  source.record source.functionFormat

def itemFormat (source : Source ν m) : RecordFormat ν m Item where
  name := "ItemDeclaration"
  fields := ["name", "line", "column"]
  required := []
  initial := ⟨none, .unknown⟩
  update
    | "name", node => do let name ← source.optional source.text node; pure ({ · with name })
    | "line", node => do
      let line ← source.optional source.index node
      pure fun item => { item with position.line := line }
    | "column", node => do
      let column ← source.optional source.index node
      pure fun item => { item with position.column := column }
    | _, _ => pure id

def item (source : Source ν m) : ν → m Item :=
  source.record source.itemFormat

end Source

/-- Decode the kept fields of a declaration whose kind is known. -/
def declarationOfKind (kind : Option ItemKind) (fields : Value) : Except Cause Declaration :=
  let source := valueSource .keptAside
  match kind with
  | none => (source.function fields).map .function
  | some kind => (source.item fields).map (.item kind)

namespace Source

def declaration (source : Source ν m) (node : ν) : m Declaration := do
  let (kind, fields) ← source.alternative "kind" "Declaration" declarationKindWords node
  match declarationOfKind kind fields with
  | .ok declaration => pure declaration
  | .error cause => source.reject cause

def documentFormat (source : Source ν m) : RecordFormat ν m Document where
  name := "Document"
  fields := ["name", "ordinal", "test", "imports", "declarations"]
  required := []
  initial := .empty ""
  update
    | "name", node => do let name ← source.text node; pure ({ · with name })
    | "ordinal", node => do let ordinal ← source.index node; pure ({ · with ordinal })
    | "test", node => do let markedTest ← source.flag node; pure ({ · with markedTest })
    | "imports", node => do let imports ← source.list source.text node; pure ({ · with imports })
    | "declarations", node => do
      let declarations ← source.list source.declaration node
      pure ({ · with declarations })
    | _, _ => pure id

def document (source : Source ν m) : ν → m Document :=
  source.record source.documentFormat

def locationFormat (source : Source ν m) : RecordFormat ν m Location where
  name := "Location"
  fields := ["document", "line", "column"]
  required := ["document"]
  initial := .ofDocument ""
  update
    | "document", node => do let document ← source.text node; pure ({ · with document })
    | "line", node => do let line ← source.optional source.index node; pure ({ · with line })
    | "column", node => do
      let column ← source.optional source.index node
      pure ({ · with column })
    | _, _ => pure id

def location (source : Source ν m) : ν → m Location :=
  source.record source.locationFormat

def diagnosticFormat (source : Source ν m) : RecordFormat ν m Diagnostic where
  name := "Diagnostic"
  fields := ["code", "severity", "message", "location"]
  required := ["code", "severity", "message", "location"]
  initial := .ofRule .noEntryPoint (.ofDocument "")
  update
    | "code", node => do let rule ← source.choice ruleWords node; pure ({ · with rule })
    | "severity", node => do
      let severity ← source.choice severityWords node
      pure ({ · with severity })
    | "message", node => do let message ← source.text node; pure ({ · with message })
    | "location", node => do let location ← source.location node; pure ({ · with location })
    | _, _ => pure id

def diagnostic (source : Source ν m) : ν → m Diagnostic :=
  source.record source.diagnosticFormat

end Source

end PureService.Decoding
