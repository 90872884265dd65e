import PureService.Command.Arguments
import PureService.Command.Init
import PureService.Service.Writing
import PureService.Value.Encoding
import PureService.Value.Printer

/-!
# Running commands

A command works on a file tree, prints to the output and ends with an exit code. The report of a
project is printed even if its diagnostics let the command fail; a service is written only if there
are none. Documents that are delivered concurrently are analyzed as a schedule says.
-/

namespace PureService

namespace Analysis.Report

/-- The report as it is printed. -/
def printed (report : Report) : ReportFormat → String
  | .text => String.join (report.diagnostics.map fun diagnostic => diagnostic.text ++ "\n")
  | .json => report.toValue.printLines ++ "\n"

/-- What is said about a report with errors. -/
def rejection (report : Report) : String :=
  "transformer module rejected with " ++ toString report.errorCount ++ " error(s)"

end Analysis.Report

namespace Command

/-- The directory of a project into which services are written. -/
def outputDirectory : String := "generated"

/-- Change the tree by an action and print nothing. -/
def runInit (path : String) (name : Option String) (tree : FileTree) : Outcome × FileTree :=
  match (NewProject.make (.ofText path) name).runOn tree with
  | (.ok (), after) => (.success "", after)
  | (.error error, after) => (.failure "" error.message, after)

/-- The delivery that is asked for when a project is checked, if any is. -/
def chosenDelivery (isConcurrent : Bool) : Option Delivery :=
  if isConcurrent then some .concurrent else none

/-- Analyze a project and print the report. -/
def runCheck (config : String) (format : ReportFormat) (isConcurrent : Bool)
    (schedule : Analysis.Schedule) (tree : FileTree) : Outcome :=
  match LocatedProject.load tree (.ofText config) with
  | .error _ => .failure "" "Failed to load project"
  | .ok loaded =>
    match loaded.project.compile (chosenDelivery isConcurrent) schedule with
    | .error _ => .failure "" "Analysis failed"
    | .ok compilation =>
      let printed := compilation.report.printed format
      if compilation.hasErrors then .failure printed compilation.report.rejection
      else .success printed

/-- The directory into which the service of a project is written. -/
def directoryFor (loaded : LocatedProject) (output : Option String) : FilePath :=
  match output with
  | some directory => .ofText directory
  | none => loaded.base.child outputDirectory

/-- Analyze a project, print the report and write the service. -/
def runGenerate (config : String) (output : Option String) (isForced : Bool)
    (format : ReportFormat) (schedule : Analysis.Schedule) (tree : FileTree) :
    Outcome × FileTree :=
  match LocatedProject.load tree (.ofText config) with
  | .error _ => (.failure "" "Failed to load project", tree)
  | .ok loaded =>
    match loaded.project.compile none schedule with
    | .error _ => (.failure "" "Compilation failed", tree)
    | .ok compilation =>
      let printed := compilation.report.printed format
      if compilation.hasErrors then (.failure printed compilation.report.rejection, tree)
      else
        match (compilation.service.write (directoryFor loaded output) isForced).runOn tree with
        | (.ok _, after) => (.success printed, after)
        | (.error _, after) => (.failure printed "Failed to write generated service", after)

/-- Run a command on a tree. -/
def run (command : Command) (schedule : Analysis.Schedule) (tree : FileTree) :
    Outcome × FileTree :=
  match command with
  | init path name => runInit path name tree
  | check config format isConcurrent =>
    (runCheck config format isConcurrent schedule tree, tree)
  | generate config output isForced format =>
    runGenerate config output isForced format schedule tree

end Command

namespace Request

def versionText : String := "transformer 0.1.0\n"

def helpText : String :=
  "Transformer - expose pure functions as an HTTP service\n\n" ++
  "Usage: transformer [--config PATH] [--verbose] <COMMAND>\n\n" ++
  "Commands:\n" ++
  "  init [PATH] [--name NAME]\n" ++
  "  check [--format text|json] [--concurrent]\n" ++
  "  generate [--output PATH] [--force] [--format text|json]\n"

/-- Do what is asked for on a tree. -/
def run (request : Request) (schedule : Analysis.Schedule) (tree : FileTree) :
    Outcome × FileTree :=
  match request with
  | showVersion => (.success versionText, tree)
  | showHelp => (.success helpText, tree)
  | perform command => command.run schedule tree

end Request

/-- Run the program with the given arguments on a tree. Without a schedule, documents are analyzed
one after the other. -/
def runProgram (arguments : List String) (tree : FileTree) (schedule : Analysis.Schedule := []) :
    Outcome × FileTree :=
  match Arguments.read arguments with
  | some request => request.run schedule tree
  | none => (.misuse, tree)

end PureService
