import PureService.Number.Shortest
import PureService.Text.Quoted
import PureService.TypeDescriptor.Reading

/-!
# Why a value cannot be decoded

A cause tells what was found and what was expected. Its message depends on the dialect of the
format only in the word for an empty value and in the layout of floating point numbers. A text that
is no value of its format at all has no message here.
-/

namespace PureService.Decoding

/-- The formats that have a wording of their own. -/
inductive Dialect where
  | json | yaml
  deriving DecidableEq, Repr

/-- What stands where something else was expected. -/
inductive Found where
  | null
  | bool (value : Bool)
  | int (value : Int)
  /-- An integer that does not fit into 64 bits. -/
  | wideInt (value : Int)
  | float (value : Binary64)
  | text (value : String)
  | list
  | record
  | variant
  deriving DecidableEq, Repr

/-- The bounded number types. -/
inductive NumberKind where
  | index | port
  deriving DecidableEq, Repr

inductive Expected where
  | text
  | flag
  | number (kind : NumberKind)
  | list
  | record (name : String)
  | taggedUnion (name : String)
  | word (what : String)
  deriving DecidableEq, Repr

/-- Which number of items would have been right. -/
inductive ExpectedLength where
  | fields (record : String) (count : Nat)
  | fewer
  | exactly (count : Nat)
  deriving DecidableEq, Repr

inductive Cause where
  | wrongType (found : Found) (expected : Expected)
  | wrongValue (found : Found) (expected : Expected)
  | wrongLength (length : Nat) (expected : ExpectedLength)
  | unknownVariant (word : String) (known : List String)
  | missingField (name : String)
  | duplicateField (name : String)
  | badType (error : TypeError)
  /-- The text is no document of its format, or not one that can be taken apart. -/
  | unreadable
  deriving DecidableEq, Repr

namespace Found

def message (dialect : Dialect) : Found → String
  | null => match dialect with
    | .json => "null"
    | .yaml => "unit value"
  | bool value => "boolean `" ++ (if value then "true" else "false") ++ "`"
  | int value => "integer `" ++ toString value ++ "`"
  | wideInt value =>
    "integer `" ++ toString value ++ "` as " ++ (if value < 0 then "i128" else "u128")
  | float value =>
    let layout := match dialect with
      | .json => Binary64.compact
      | .yaml => Binary64.writtenOut
    "floating point `" ++ value.text layout ++ "`"
  | text value => "string " ++ Text.quoted value
  | list => "sequence"
  | record => "map"
  | variant => "enum"

end Found

namespace NumberKind

def name : NumberKind → String
  | index => "usize"
  | port => "u16"

/-- The least natural number that is too great. -/
def bound : NumberKind → Nat
  | index => Nat.pow 2 64
  | port => Nat.pow 2 16

end NumberKind

namespace Expected

def message : Expected → String
  | text => "a string"
  | flag => "a boolean"
  | number kind => kind.name
  | list => "a sequence"
  | record name => "struct " ++ name
  | taggedUnion name => "internally tagged enum " ++ name
  | word what => what

end Expected

namespace ExpectedLength

def message : ExpectedLength → String
  | fields record count => "struct " ++ record ++ " with " ++ toString count ++ " elements"
  | fewer => "fewer elements in array"
  | exactly 1 => "1 element in sequence"
  | exactly count => toString count ++ " elements in sequence"

end ExpectedLength

/-- The words from which one may be chosen: all after "one of", or two with "or" between them. -/
def alternatives (known : List String) : String :=
  match known.map fun word => "`" ++ word ++ "`" with
  | [] => "there are no variants"
  | [only] => "expected " ++ only
  | [first, second] => "expected " ++ first ++ " or " ++ second
  | all => "expected one of " ++ String.intercalate ", " all

namespace Cause

/-- What is said about the cause, if anything is. -/
def message? (dialect : Dialect) : Cause → Option String
  | wrongType found expected =>
    some ("invalid type: " ++ found.message dialect ++ ", expected " ++ expected.message)
  | wrongValue found expected =>
    some ("invalid value: " ++ found.message dialect ++ ", expected " ++ expected.message)
  | wrongLength length expected =>
    some ("invalid length " ++ toString length ++ ", expected " ++ expected.message)
  | unknownVariant word known => some ("unknown variant `" ++ word ++ "`, " ++ alternatives known)
  | missingField name => some ("missing field `" ++ name ++ "`")
  | duplicateField name => some ("duplicate field `" ++ name ++ "`")
  | badType error => some error.message
  | unreadable => none

end Cause

end PureService.Decoding
