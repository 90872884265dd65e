/-!
# Diagnostics

A finding names the rule that is broken and the place where it is. Rules have a fixed code and a
fixed message. Diagnostics are ordered by place first: document, then line, then column, where a
missing number comes before every other; rules decide between findings at one place.
-/

namespace PureService

/-- What a module that is exposed as a service has to keep to. -/
inductive Rule where
  | noEntryPoint
  | publicIsExpression
  | noListener
  | noClass
  | noService
  | someTransformer
  | unannotated
  | supportedSignature
  deriving DecidableEq, Repr

inductive Severity where
  | error
  deriving DecidableEq, Repr

namespace Rule

/-- The rules in the order of their codes. -/
def all : List Rule :=
  [noEntryPoint, publicIsExpression, noListener, noClass, noService, someTransformer,
    unannotated, supportedSignature]

def index : Rule → Nat
  | noEntryPoint => 0
  | publicIsExpression => 1
  | noListener => 2
  | noClass => 3
  | noService => 4
  | someTransformer => 5
  | unannotated => 6
  | supportedSignature => 7

def code : Rule → String
  | noEntryPoint => "ERROR_100"
  | publicIsExpression => "ERROR_101"
  | noListener => "ERROR_102"
  | noClass => "ERROR_103"
  | noService => "ERROR_104"
  | someTransformer => "ERROR_105"
  | unannotated => "ERROR_106"
  | supportedSignature => "ERROR_107"

def message : Rule → String
  | noEntryPoint => "`main` function is not allowed in a transformer module"
  | publicIsExpression => "public functions in a transformer module must be expression-bodied"
  | noListener => "listener declarations are not allowed in a transformer module"
  | noClass => "class definitions are not allowed in a transformer module"
  | noService => "service declarations are not allowed in a transformer module"
  | someTransformer => "no public isolated expression-bodied function found in the module"
  | unannotated => "annotations are not allowed on module-level functions"
  | supportedSignature => "transformer function has an unsupported signature"

def severity (_ : Rule) : Severity := .error

end Rule

def Severity.name : Severity → String
  | error => "error"

/-- A place in a document, as exact as it is known. -/
structure Location where
  document : String
  line : Option Nat
  column : Option Nat
  deriving DecidableEq, Repr

namespace Location

/-- The place of a finding about a document as a whole. -/
def ofDocument (document : String) : Location :=
  ⟨document, none, none⟩

/-- The written form; a column is written only after a line. -/
def text (location : Location) : String :=
  location.document ++
    match location.line with
    | none => ""
    | some line => ":" ++ toString line ++
      match location.column with
      | none => ""
      | some column => ":" ++ toString column

/-- A missing number comes before every other. -/
def comparePosition : Option Nat → Option Nat → Ordering
  | none, none => .eq
  | none, some _ => .lt
  | some _, none => .gt
  | some left, some right => Ord.compare left right

def compare (left right : Location) : Ordering :=
  (compareOfLessAndEq left.document right.document).then
    ((comparePosition left.line right.line).then (comparePosition left.column right.column))

end Location

/-- A finding: the rule, how grave it is, what is said about it, and where. -/
structure Diagnostic where
  rule : Rule
  severity : Severity
  message : String
  location : Location
  deriving DecidableEq, Repr

namespace Diagnostic

/-- A finding with the severity and the message of its rule. -/
def ofRule (rule : Rule) (location : Location) : Diagnostic :=
  ⟨rule, rule.severity, rule.message, location⟩

def isError (diagnostic : Diagnostic) : Bool :=
  diagnostic.severity == .error

def text (diagnostic : Diagnostic) : String :=
  diagnostic.severity.name ++ " [" ++ diagnostic.rule.code ++ "] " ++ diagnostic.location.text ++
    ": " ++ diagnostic.message

/-- By place, then by rule. -/
def compare (left right : Diagnostic) : Ordering :=
  (left.location.compare right.location).then (Ord.compare left.rule.index right.rule.index)

/-- The first diagnostic may stand before the second one in a report. -/
def precedes (left right : Diagnostic) : Bool :=
  (compare left right).isLE

end Diagnostic

end PureService
