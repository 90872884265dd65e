import PureService.Text.Blank
import PureService.TypeDescriptor.Basic

/-!
# Reading type descriptors

A text is read from the outside in. `T[]` is an array whatever `T` is, `map<T>` and `table<T>` are
recognized by their keyword and the two ends of their parameter, and what is none of these, no
record and no primitive keyword is kept as it stands. At most `maxNesting` arrays, maps and tables
may be stacked; the allowance that is left decides how far reading goes on.
-/

namespace PureService

/-- Why a text is no type descriptor. -/
inductive TypeFault where
  | empty
  | tooDeep
  | unterminated (keyword : String)
  deriving DecidableEq, Repr

/-- A refused descriptor: the text that is refused and the reason. -/
structure TypeError where
  descriptor : String
  fault : TypeFault
  deriving DecidableEq, Repr

namespace TypeFault

def message : TypeFault → String
  | empty => "empty type descriptor"
  | tooDeep => "type nesting too deep"
  | unterminated keyword => "unterminated `" ++ keyword ++ "<...>` type parameter"

end TypeFault

namespace TypeError

def message (error : TypeError) : String :=
  "invalid type descriptor '" ++ error.descriptor ++ "': " ++ error.fault.message

end TypeError

namespace TypeDescriptor

/-- The greatest number of stacked arrays, maps and tables. -/
def maxNesting : Nat := 32

/-- How many characters of a refused text are shown. -/
def shownLength : Nat := 64

/-- A refused text as it is shown: cut off with three dots when it is long. -/
def shown (text : List Char) : String :=
  String.ofList (if text.length > shownLength then text.take shownLength ++ "...".toList else text)

/-- The text begins or ends as an array, a map or a table does. -/
def looksWrapped (text : List Char) : Bool :=
  "[]".toList.isSuffixOf text || "map".toList.isPrefixOf text || "table".toList.isPrefixOf text

/-- The parameter text of `keyword<...>`, if the text has a parameter for this keyword. -/
def parameterOf? (keyword : String) (text : List Char) :
    Except TypeError (Option (List Char)) :=
  match (keyword.toList.isPrefixOf? text).map Text.trimStart with
  | some ('<' :: rest) =>
    let unterminated := .error ⟨shown text, .unterminated keyword⟩
    match ">".toList.isSuffixOf? rest with
    | some inner => if Text.allBlank inner then unterminated else .ok (some inner)
    | none => unterminated
  | _ => .ok none

/-- The outermost wrapper of a trimmed text and the text of the type inside it. -/
def outermost? (text : List Char) : Except TypeError (Option (Wrapper × List Char)) :=
  match "[]".toList.isSuffixOf? text with
  | some element => .ok (some (.array, element))
  | none => do
    if let some value ← parameterOf? "map" text then
      return some (.map, value)
    if let some row ← parameterOf? "table" text then
      return some (.table, row)
    return none

/-- A trimmed text that has no wrapper: a record, a primitive, or any other type. -/
def ofUnwrapped (text : List Char) : TypeDescriptor :=
  let record := "record".toList
  if text = record || (record.isPrefixOf text && "\x7d".toList.isSuffixOf text) then .record
  else match Primitive.ofKeyword? text with
    | some kind => .primitive kind
    | none => .other (String.ofList text)

/-- Read a text in which at most `allowance` more wrappers may be stacked. -/
def ofCharsWithin : (allowance : Nat) → List Char → Except TypeError TypeDescriptor
  | allowance, whole =>
    let text := Text.trim whole
    if text.isEmpty then .error ⟨String.ofList whole, .empty⟩
    else match allowance with
      | 0 => if looksWrapped text then .error ⟨shown text, .tooDeep⟩ else .ok (ofUnwrapped text)
      | rest + 1 =>
        match outermost? text with
        | .error error => .error error
        | .ok none => .ok (ofUnwrapped text)
        | .ok (some (wrapper, member)) =>
          (ofCharsWithin rest member).map (.wrapped wrapper)

/-- Read a type descriptor. -/
def ofText (text : String) : Except TypeError TypeDescriptor :=
  ofCharsWithin maxNesting text.toList

end TypeDescriptor

end PureService
