import PureService.TypeDescriptor.Basic

/-!
# Declarations

What a document declares at its top level: functions, with the parts that the rules look at, and
listeners, classes, services and types, of which only the place and the name matter.
-/

namespace PureService

inductive Qualifier where
  | pub | isolated | priv | transactional | remote | final | configurable
  deriving DecidableEq, Repr

/-- How an argument reaches a parameter. -/
inductive Binding where
  | required | defaulted | rest
  deriving DecidableEq, Repr

inductive Body where
  | expression | statement | external
  deriving DecidableEq, Repr

/-- A parameter; the type of a rest parameter is that of one argument. -/
structure Parameter where
  binding : Binding
  type : TypeDescriptor
  name : Option String
  deriving DecidableEq, Repr

/-- A line and a column, as far as they are known. -/
structure Position where
  line : Option Nat
  column : Option Nat
  deriving DecidableEq, Repr

structure FunctionDefinition where
  name : String
  qualifiers : List Qualifier
  body : Body
  annotations : List String
  parameters : List Parameter
  /-- The function belongs to a test document, whatever else is known of its document. -/
  inTestPart : Bool
  position : Position
  deriving DecidableEq, Repr

/-- The declarations other than functions. -/
inductive ItemKind where
  | listener | classDefinition | service | typeDefinition
  deriving DecidableEq, Repr

structure Item where
  name : Option String
  position : Position
  deriving DecidableEq, Repr

inductive Declaration where
  | function (definition : FunctionDefinition)
  | item (kind : ItemKind) (definition : Item)
  deriving DecidableEq, Repr

def Position.unknown : Position := ⟨none, none⟩

namespace Parameter

def required (type : TypeDescriptor) : Parameter :=
  ⟨.required, type, none⟩

def isSerializable (parameter : Parameter) : Bool :=
  parameter.type.isSerializable

end Parameter

namespace FunctionDefinition

/-- The name of the function with which a program starts. -/
def entryPointName : String := "main"

/-- A function of which only the name is given. -/
def named (name : String) : FunctionDefinition :=
  ⟨name, [], .statement, [], [], false, .unknown⟩

def hasQualifier (definition : FunctionDefinition) (qualifier : Qualifier) : Bool :=
  definition.qualifiers.contains qualifier

def hasAnnotations (definition : FunctionDefinition) : Bool :=
  !definition.annotations.isEmpty

def isExpressionBodied (definition : FunctionDefinition) : Bool :=
  definition.body == .expression

def isEntryPoint (definition : FunctionDefinition) : Bool :=
  definition.name == entryPointName

/-- The function is public, isolated and has a single expression for a body. -/
def isTransformerShaped (definition : FunctionDefinition) : Bool :=
  definition.hasQualifier .pub && definition.hasQualifier .isolated &&
    definition.isExpressionBodied

/-- There is a parameter, and each one can be read from a JSON payload. -/
def hasSerializableSignature (definition : FunctionDefinition) : Bool :=
  !definition.parameters.isEmpty && definition.parameters.all Parameter.isSerializable

end FunctionDefinition

namespace ItemKind

def name : ItemKind → String
  | listener => "listener"
  | classDefinition => "class"
  | service => "service"
  | typeDefinition => "type"

end ItemKind

namespace Declaration

def kindName : Declaration → String
  | function _ => "function"
  | item kind _ => kind.name

def name? : Declaration → Option String
  | function definition => some definition.name
  | item _ definition => definition.name

def position : Declaration → Position
  | function definition => definition.position
  | item _ definition => definition.position

end Declaration

end PureService
