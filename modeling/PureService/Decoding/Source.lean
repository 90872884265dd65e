import PureService.Decoding.Cause
import PureService.Value.Basic

/-!
# Formats from which values are decoded

A source says how texts, flags, numbers, lists, choices and records are found in the nodes of one
format. Types are decoded against a source, so that each type is described once for all formats.

A record is described by the names of its fields. Each field that is present turns into an update
of the record, in the order of the input; a field that has to be present and is not is missed
afterwards, in the order of the fields.
-/

namespace PureService.Decoding

/-- The words of an enumeration in the order in which they are listed, and its values in order. -/
structure Choice (α : Type) where
  words : List (String × α)
  values : List α

namespace Choice

/-- An enumeration with one word for each value. -/
def ofValues {α : Type} (name : α → String) (values : List α) : Choice α :=
  ⟨values.map fun value => (name value, value), values⟩

def ofWord? {α : Type} (choice : Choice α) (word : String) : Option α :=
  choice.words.lookup word

def ofWord {α : Type} (choice : Choice α) (word : String) : Except Cause α :=
  match choice.ofWord? word with
  | some value => .ok value
  | none => .error (.unknownVariant word (choice.words.map Prod.fst))

end Choice

/-- How a record is read: its fields in order, those without a default, the record before any
field was read, and what the value of a field does to the record. -/
structure RecordFormat (ν : Type) (m : Type → Type) (α : Type) where
  name : String
  fields : List String
  required : List String
  initial : α
  update : String → ν → m (α → α)

/-- How values are found in nodes of the type `ν`. -/
structure Source (ν : Type) (m : Type → Type) where
  text : ν → m String
  flag : ν → m Bool
  number : NumberKind → ν → m Nat
  /-- Something that an empty node leaves out. -/
  optional : {α : Type} → (ν → m α) → ν → m (Option α)
  list : {α : Type} → (ν → m α) → ν → m (List α)
  choice : {α : Type} → Choice α → ν → m α
  record : {α : Type} → RecordFormat ν m α → ν → m α
  /-- The value of the named field, which tells alternatives apart, and the node without it. -/
  alternative : {α : Type} → (field union : String) → Choice α → ν → m (α × Value)
  reject : {α : Type} → Cause → m α

namespace RecordFormat

/-- The first field that has to be present and is not among the given ones. -/
def missing? {ν α : Type} {m : Type → Type} (format : RecordFormat ν m α)
    (present : List String) : Option String :=
  format.fields.find? fun field => format.required.contains field && !present.contains field

end RecordFormat

end PureService.Decoding
