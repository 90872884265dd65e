import PureService.Analysis.Classification
import PureService.Analysis.State
import PureService.Diagnostic.Collector

/-!
# Analysis of documents and projects

An analyzer takes documents one after the other, in any order. It classifies their declarations,
collects the findings and records transformers in the shared state. Countable documents of the
default module count as processed afterwards. When all documents have been delivered, the analysis
is finished and the report can be read.
-/

namespace PureService.Analysis

structure Analyzer where
  state : State
  collector : Collector
  deriving DecidableEq, Repr

/-- The findings in report order and the transformers in module order. -/
structure Report where
  diagnostics : List Diagnostic
  transformers : List String
  deriving DecidableEq, Repr

namespace Report

def errorCount (report : Report) : Nat :=
  report.diagnostics.countP Diagnostic.isError

def hasErrors (report : Report) : Bool :=
  report.errorCount > 0

end Report

namespace Analyzer

/-- An analyzer for a default module with the given number of countable documents. -/
def expecting (total : Nat) : Analyzer :=
  ⟨.expecting total, .empty⟩

def forModule (module_ : SourceModule) : Analyzer :=
  expecting module_.countableDocuments

def emit (analyzer : Analyzer) : Option Diagnostic → Analyzer
  | none => analyzer
  | some diagnostic => { analyzer with collector := analyzer.collector.emit diagnostic }

/-- Take up one classified declaration. -/
def declare (analyzer : Analyzer) (key : DeclarationKey) (classification : Classification) :
    Analyzer :=
  { state := match classification.transformer with
      | none => analyzer.state
      | some name => analyzer.state.record ⟨key, name⟩
    collector := analyzer.collector.emitAll classification.diagnostics }

/-- Classify the declarations of a document in order, without completing the document. -/
def declareAll (analyzer : Analyzer) (document : Document) (inDefaultModule : Bool) : Analyzer :=
  document.declarations.zipIdx.foldl (fun current (declaration, index) =>
    current.declare ⟨document.ordinal, index⟩
      (declaration.classify (document.surroundings inDefaultModule))) analyzer

/-- Report a document of the default module as processed. -/
def completeDocument (analyzer : Analyzer) (document : Document) : Analyzer :=
  let (diagnostic, state) := analyzer.state.documentProcessed (.ofDocument document.name)
  { analyzer with state }.emit diagnostic

def analyzeDocument (analyzer : Analyzer) (document : Document) (inDefaultModule : Bool) :
    Analyzer :=
  let declared := analyzer.declareAll document inDefaultModule
  if inDefaultModule && !document.isTest then declared.completeDocument document else declared

def analyzeModule (analyzer : Analyzer) (module_ : SourceModule) : Analyzer :=
  module_.documents.foldl (·.analyzeDocument · module_.isDefault) analyzer

/-- All documents have been delivered. -/
def finish (analyzer : Analyzer) (defaultModule : String) : Analyzer :=
  let (diagnostic, state) := analyzer.state.moduleFinished (.ofDocument defaultModule)
  { analyzer with state }.emit diagnostic

def report (analyzer : Analyzer) : Report :=
  ⟨analyzer.collector.sorted, analyzer.state.names⟩

end Analyzer

/-- Analyze all modules of a project, the default module first. -/
def analyzeModules (defaultModule : SourceModule) (namedModules : List SourceModule) : Report :=
  ((defaultModule :: namedModules).foldl Analyzer.analyzeModule
    (Analyzer.forModule defaultModule)).finish defaultModule.name |>.report

end PureService.Analysis
