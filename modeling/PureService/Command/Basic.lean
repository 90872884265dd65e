/-!
# Commands

What the program can be asked to do, and what it answers.
-/

namespace PureService

/-- How a report is printed: a line for each diagnostic, or the whole report as JSON. -/
inductive ReportFormat where
  | text | json
  deriving DecidableEq, Repr

inductive Command where
  /-- Make a new project in a directory, named after it unless a name is given. -/
  | init (path : String) (name : Option String)
  /-- Analyze the project and print its report. -/
  | check (config : String) (format : ReportFormat) (isConcurrent : Bool)
  /-- Analyze the project and write its service. -/
  | generate (config : String) (output : Option String) (isForced : Bool) (format : ReportFormat)
  deriving DecidableEq, Repr

/-- What a run of the program prints and how it ends. -/
structure Outcome where
  exitCode : Nat
  output : String
  /-- What went wrong, unless it lay in the arguments. -/
  error : Option String
  deriving DecidableEq, Repr

def Outcome.success (output : String) : Outcome :=
  ⟨0, output, none⟩

def Outcome.failure (output error : String) : Outcome :=
  ⟨1, output, some error⟩

/-- The arguments make no sense. -/
def Outcome.misuse : Outcome :=
  ⟨2, "", none⟩

end PureService
