import PureService.Number.Binary64

/-!
# Structured values

What a data format holds: scalars, lists and records. The keys of a record are values as well,
since not every format restricts them to text. Objects whose keys are texts keep their entries in
the order of the keys, and of two entries with one key the later one.
-/

namespace PureService

inductive Value where
  | null
  | bool (value : Bool)
  | int (value : Int)
  | float (value : Binary64)
  | text (value : String)
  | list (items : List Value)
  | record (entries : List (Value × Value))

namespace Value

/-- Put an entry into a list of entries that is sorted by key, in place of one with its key. -/
def insertField (key : String) (value : Value) : List (String × Value) → List (String × Value)
  | [] => [(key, value)]
  | (other, kept) :: rest =>
    if key = other then (key, value) :: rest
    else if key < other then (key, value) :: (other, kept) :: rest
    else (other, kept) :: insertField key value rest

/-- A record whose keys are texts, in the order of the keys. -/
def object (fields : List (String × Value)) : Value :=
  record ((fields.foldl (fun sorted (key, value) => insertField key value sorted) []).map
    fun (key, value) => (text key, value))

/-- A record with the given fields in the given order. -/
def fields (entries : List (String × Value)) : Value :=
  record (entries.map fun (key, value) => (text key, value))

def ofNat (number : Nat) : Value :=
  int number

/-- The value of something that may be missing. -/
def ofOption {α : Type} (toValue : α → Value) : Option α → Value
  | none => null
  | some content => toValue content

end Value

end PureService
