/-!
# Type descriptors

A parameter's type is known by its descriptor only: names are not looked up. The descriptor tells
primitives, arrays, maps, tables and records apart and keeps any other text as it stands. From it
alone follows whether the type can be read from a JSON payload, and every descriptor has one
canonical text.
-/

namespace PureService

inductive Primitive where
  | boolean | int | float | decimal | byte | string | json | nil | any | anydata | xml | error
  | handle
  deriving DecidableEq, Repr

namespace Primitive

def all : List Primitive :=
  [boolean, int, float, decimal, byte, string, json, nil, any, anydata, xml, error, handle]

/-- The word that stands for the primitive in a type. -/
def keyword : Primitive → String
  | boolean => "boolean"
  | int => "int"
  | float => "float"
  | decimal => "decimal"
  | byte => "byte"
  | string => "string"
  | json => "json"
  | nil => "()"
  | any => "any"
  | anydata => "anydata"
  | xml => "xml"
  | error => "error"
  | handle => "handle"

/-- The name of the primitive, a word even where its keyword is none. -/
def name : Primitive → String
  | nil => "nil"
  | kind => kind.keyword

def ofKeyword? (word : List Char) : Option Primitive :=
  all.find? fun kind => kind.keyword.toList == word

end Primitive

/-- The three ways of building a type from one other type. -/
inductive Wrapper where
  | array | map | table
  deriving DecidableEq, Repr

inductive TypeDescriptor where
  | primitive (kind : Primitive)
  | wrapped (wrapper : Wrapper) (member : TypeDescriptor)
  | record
  | other (text : String)
  deriving DecidableEq, Repr

/-- The outermost form of a descriptor, without the types inside it. -/
inductive TypeShape where
  | primitive (kind : Primitive)
  | wrapped (wrapper : Wrapper)
  | record
  | other
  deriving DecidableEq, Repr

namespace TypeDescriptor

def shape : TypeDescriptor → TypeShape
  | primitive kind => .primitive kind
  | wrapped wrapper _ => .wrapped wrapper
  | record => .record
  | other _ => .other

/-- How many arrays, maps and tables are stacked on the innermost type. -/
def nesting : TypeDescriptor → Nat
  | wrapped _ member => member.nesting + 1
  | _ => 0

/-- The canonical text, as characters. -/
def chars : TypeDescriptor → List Char
  | primitive kind => kind.keyword.toList
  | wrapped .array element => element.chars ++ "[]".toList
  | wrapped .map value => "map<".toList ++ value.chars ++ ">".toList
  | wrapped .table row => "table<".toList ++ row.chars ++ ">".toList
  | record => "record".toList
  | other text => text.toList

/-- The canonical text of a descriptor. -/
def text (descriptor : TypeDescriptor) : String :=
  String.ofList descriptor.chars

end TypeDescriptor

namespace TypeShape

/-- The shapes whose values pass to and from JSON in one step. -/
def serializable : List TypeShape :=
  [.primitive .boolean, .primitive .int, .primitive .float, .primitive .decimal,
    .primitive .byte, .primitive .string, .primitive .json, .wrapped .map, .record]

def isSerializable (shape : TypeShape) : Bool :=
  serializable.contains shape

end TypeShape

namespace TypeDescriptor

/-- The shape alone would make the descriptor serializable, whatever it contains. -/
def isSupportedMember (descriptor : TypeDescriptor) : Bool :=
  descriptor.shape.isSerializable

/-- A value of the type can be read from a JSON payload. Arrays, maps and tables of maps are
looked into by one level: the member counts by its shape. -/
def isSerializable : TypeDescriptor → Bool
  | primitive kind => (primitive kind).isSupportedMember
  | wrapped .array element => element.isSupportedMember
  | wrapped .map value => value.isSupportedMember
  | wrapped .table (wrapped .map value) => value.isSupportedMember
  | wrapped .table _ => false
  | record => true
  | other _ => false

end TypeDescriptor

end PureService
