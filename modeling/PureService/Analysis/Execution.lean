import PureService.Analysis.Analyzer

/-!
# Analyses that take turns

Documents that are delivered at the same time share one analyzer. The analysis of a document reads
and changes it in small steps, and between any two of them the analyses of other documents may take
steps of their own. A schedule says whose turn it is, step by step.
-/

namespace PureService.Analysis

/-- A change that a classified declaration makes without being interrupted. -/
inductive Access where
  | emit (diagnostic : Diagnostic)
  | keep (transformer : Transformer)
  | markFound
  deriving DecidableEq, Repr

namespace Access

/-- The changes for one declaration: its findings, then its name, then the mark that a transformer
was found. -/
def ofClassification (key : DeclarationKey) (classification : Classification) :
    List Access :=
  classification.diagnostics.map .emit ++
    match classification.transformer with
    | none => []
    | some name => [.keep ⟨key, name⟩, .markFound]

/-- The changes for all declarations of a document. -/
def ofDocument (document : Document) (inDefaultModule : Bool) : List Access :=
  document.declarations.zipIdx.flatMap fun (declaration, index) =>
    ofClassification ⟨document.ordinal, index⟩
      (declaration.classify (document.surroundings inDefaultModule))

end Access

def Analyzer.perform (analyzer : Analyzer) : Access → Analyzer
  | .emit diagnostic => analyzer.emit (some diagnostic)
  | .keep transformer => { analyzer with state := analyzer.state.keep transformer }
  | .markFound => { analyzer with state := analyzer.state.markFound }

/-- How far the analysis of a document has come. -/
inductive Stage where
  /-- The changes that its declarations have yet to make. -/
  | declaring (accesses : List Access)
  /-- It was counted, and this is the number of documents seen until then. -/
  | comparing (visited : Nat)
  /-- It completed the expected number and asks whether a transformer was found. -/
  | checking
  /-- None was found, and it tries to claim the latch. -/
  | claiming
  /-- It claimed the latch and reports the absence. -/
  | reporting
  | finished
  deriving DecidableEq, Repr

/-- The analysis of one document under way. -/
structure Task where
  document : Document
  inDefaultModule : Bool
  stage : Stage
  deriving DecidableEq, Repr

namespace Task

def start (delivery : Document × Bool) : Task :=
  ⟨delivery.1, delivery.2, .declaring (Access.ofDocument delivery.1 delivery.2)⟩

/-- The document is among those that the default module waits for. -/
def isCountable (task : Task) : Bool :=
  task.inDefaultModule && !task.document.isTest

def moveTo (task : Task) (stage : Stage) : Task :=
  { task with stage }

/-- The next step of the analysis, if there is one. -/
def step (analyzer : Analyzer) (task : Task) : Option (Analyzer × Task) :=
  match task.stage with
  | .declaring (access :: rest) =>
    some (analyzer.perform access, task.moveTo (.declaring rest))
  | .declaring [] =>
    if task.isCountable then
      let state := analyzer.state.visit
      some ({ analyzer with state }, task.moveTo (.comparing state.visited))
    else none
  | .comparing visited =>
    some (analyzer,
      task.moveTo (if visited = analyzer.state.expected then .checking else .finished))
  | .checking =>
    some (analyzer, task.moveTo (if analyzer.state.found then .finished else .claiming))
  | .claiming =>
    let (claimed, state) := analyzer.state.claim
    some ({ analyzer with state }, task.moveTo (if claimed then .reporting else .finished))
  | .reporting =>
    some (analyzer.emit (some (.ofRule .someTransformer (.ofDocument task.document.name))),
      task.moveTo .finished)
  | .finished => none

/-- A bound on the number of steps that the analysis has yet to take. -/
def stepsLeft (task : Task) : Nat :=
  match task.stage with
  | .declaring accesses => accesses.length + 5
  | .comparing _ => 4
  | .checking => 3
  | .claiming => 2
  | .reporting => 1
  | .finished => 0

end Task

/-- Whose turn it is, step by step: the places of documents in the order of their delivery. -/
abbrev Schedule := List Nat

/-- Analyses under way that share an analyzer. -/
structure Execution where
  analyzer : Analyzer
  tasks : List Task
  deriving DecidableEq, Repr

namespace Execution

/-- Nothing has been done yet for any of the delivered documents. -/
def start (total : Nat) (deliveries : List (Document × Bool)) : Execution :=
  ⟨.expecting total, deliveries.map Task.start⟩

/-- The analysis at the place takes its next step. Nothing happens if it is over. -/
def advance (execution : Execution) (place : Nat) : Execution :=
  match execution.tasks[place]? with
  | none => execution
  | some task =>
    match task.step execution.analyzer with
    | none => execution
    | some (analyzer, moved) => ⟨analyzer, execution.tasks.set place moved⟩

def follow (execution : Execution) (schedule : Schedule) : Execution :=
  schedule.foldl advance execution

/-- Turns that bring analyses to their end, one after the other. The first one has the given
place. -/
def turnsFrom (place : Nat) : List Task → Schedule
  | [] => []
  | task :: rest => List.replicate task.stepsLeft place ++ turnsFrom (place + 1) rest

/-- The analyses take the turns of the schedule, and those that are not over then come to their
end one after the other. -/
def complete (execution : Execution) (schedule : Schedule) : Execution :=
  let reached := execution.follow schedule
  reached.follow (turnsFrom 0 reached.tasks)

end Execution

end PureService.Analysis
