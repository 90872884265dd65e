import PureService.Decoding.Source

/-!
# Decoding from structured values

A value is decoded either directly or after it has been kept aside while the alternative to which
it belongs was looked up. The two differ in small things: which empty values stand for the content
of a choice, and what is said when a record is given as a list that is too long.
-/

namespace PureService.Decoding

/-- Whether a value is decoded at once or has been kept aside. -/
inductive Passage where
  | direct | keptAside
  deriving DecidableEq, Repr

/-- What a value counts as in a message. -/
def foundIn : Value → Found
  | .null => .null
  | .bool value => .bool value
  | .int value => .int value
  | .float value => .float value
  | .text value => .text value
  | .list _ => .list
  | .record _ => .record

namespace OfValue

def text : Value → Except Cause String
  | .text value => .ok value
  | value => .error (.wrongType (foundIn value) .text)

def flag : Value → Except Cause Bool
  | .bool value => .ok value
  | value => .error (.wrongType (foundIn value) .flag)

def number (kind : NumberKind) : Value → Except Cause Nat
  | .int value =>
    if value < 0 || value ≥ kind.bound then .error (.wrongValue (.int value) (.number kind))
    else .ok value.toNat
  | value => .error (.wrongType (foundIn value) (.number kind))

def optional {α : Type} (decode : Value → Except Cause α) : Value → Except Cause (Option α)
  | .null => .ok none
  | value => (decode value).map some

def list {α : Type} (decode : Value → Except Cause α) : Value → Except Cause (List α)
  | .list items => items.mapM decode
  | value => .error (.wrongType (foundIn value) .list)

/-- The value that a key names, by its word or, in a value kept aside, by its number. -/
def chosen {α : Type} (choice : Choice α) : Value → Except Cause α
  | .text word => choice.ofWord word
  | .int index =>
    match if index < 0 then none else choice.values[index.toNat]? with
    | some value => .ok value
    | none =>
      if index < 0 then .error (.wrongType (.int index) (.word "variant identifier"))
      else .error (.wrongValue (.int index)
        (.word ("variant index 0 <= i < " ++ toString choice.values.length)))
  | value => .error (.wrongType (foundIn value) (.word "variant identifier"))

/-- The content of a choice has to be empty. -/
def emptyContent (passage : Passage) : Value → Except Cause Unit
  | .null => .ok ()
  | .record [] =>
    if passage = .keptAside then .ok () else .error (.wrongType .record (.word "unit"))
  | value => .error (.wrongType (foundIn value) (.word "unit"))

/-- A choice is a word, or a record whose only key is the word and whose content is empty. -/
def choice {α : Type} (passage : Passage) (choice : Choice α) : Value → Except Cause α
  | .text word => choice.ofWord word
  | .record [(key, content)] => do
    let value ← chosen choice key
    emptyContent passage content
    return value
  | .record _ => .error (.wrongValue .record (.word "map with a single key"))
  | value => .error (.wrongType (foundIn value) (.word "string or map"))

/-- The field that a key names, if it names one; numbers count the fields. -/
def fieldOf? (fields : List String) : Value → Except Cause (Option String)
  | .text name => .ok (if fields.contains name then some name else none)
  | .int index =>
    if index < 0 then .error (.wrongType (.int index) (.word "field identifier"))
    else .ok fields[index.toNat]?
  | value => .error (.wrongType (foundIn value) (.word "field identifier"))

/-- Read the entries of a record in order; `present` holds the fields read so far. -/
def readEntries {α : Type} (format : RecordFormat Value (Except Cause) α) :
    (present : List String) → α → List (Value × Value) → Except Cause α
  | present, record, [] =>
    match format.missing? present with
    | some field => .error (.missingField field)
    | none => .ok record
  | present, record, (key, value) :: rest => do
    match ← fieldOf? format.fields key with
    | none => readEntries format present record rest
    | some field =>
      if present.contains field then .error (.duplicateField field)
      else
        let update ← format.update field value
        readEntries format (field :: present) (update record) rest

/-- Read the items of a list as the fields of a record in order. -/
def readItems {α : Type} (format : RecordFormat Value (Except Cause) α) (passage : Passage)
    (length : Nat) : (index : Nat) → α → List String → List Value → Except Cause α
  | _, record, [], [] => .ok record
  | index, _, [], _ :: _ =>
    .error (.wrongLength length (if passage = .direct then .fewer else .exactly index))
  | index, record, field :: fields, [] =>
    if format.required.contains field then
      .error (.wrongLength index (.fields format.name format.fields.length))
    else readItems format passage length (index + 1) record fields []
  | index, record, field :: fields, value :: rest => do
    let update ← format.update field value
    readItems format passage length (index + 1) (update record) fields rest

def record {α : Type} (passage : Passage) (format : RecordFormat Value (Except Cause) α) :
    Value → Except Cause α
  | .record entries => readEntries format [] format.initial entries
  | .list items => readItems format passage items.length 0 format.initial format.fields items
  | value => .error (.wrongType (foundIn value) (.record format.name))

/-- Take the entry with the given key out of the entries, which must hold it once. -/
def splitEntries {α : Type} (field : String) (choice : Choice α) :
    Option α → List (Value × Value) → List (Value × Value) → Except Cause (α × Value)
  | none, _, [] => .error (.missingField field)
  | some chosen, others, [] => .ok (chosen, .record others.reverse)
  | found, others, (key, value) :: rest =>
    match key with
    | .text name =>
      if name = field then
        match found, value with
        | some _, _ => .error (.duplicateField field)
        | none, .text word => do splitEntries field choice (some (← choice.ofWord word)) others rest
        | none, value => .error (.wrongType (foundIn value) (.word "variant identifier"))
      else splitEntries field choice found ((key, value) :: others) rest
    | _ => splitEntries field choice found ((key, value) :: others) rest

def alternative {α : Type} (field union : String) (choice : Choice α) :
    Value → Except Cause (α × Value)
  | .record entries => splitEntries field choice none [] entries
  | .list [] => .error (.missingField field)
  | .list (.text word :: rest) => do return (← choice.ofWord word, .list rest)
  | .list (value :: _) => .error (.wrongType (foundIn value) (.word "variant identifier"))
  | value => .error (.wrongType (foundIn value) (.taggedUnion union))

end OfValue

/-- Values as a source. -/
def valueSource (passage : Passage) : Source Value (Except Cause) where
  text := OfValue.text
  flag := OfValue.flag
  number := OfValue.number
  optional := OfValue.optional
  list := OfValue.list
  choice := OfValue.choice passage
  record := OfValue.record passage
  alternative := OfValue.alternative
  reject := .error

end PureService.Decoding
