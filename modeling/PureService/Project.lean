import PureService.Analysis.Execution
import PureService.Service.Basic

/-!
# Projects

A project consists of its configuration, its default module and its named modules. Compiling it
means to analyze all documents and to generate the service that exposes the transformers that were
found, whether or not there were findings.
-/

namespace PureService

structure Project where
  config : ProjectConfig
  defaultModule : SourceModule
  namedModules : List SourceModule
  deriving DecidableEq, Repr

/-- What a compilation yields. -/
structure Compilation where
  report : Analysis.Report
  service : Service
  deriving DecidableEq, Repr

namespace Project

/-- All modules, the default module first. -/
def modules (project : Project) : List SourceModule :=
  project.defaultModule :: project.namedModules

def documentCount (project : Project) : Nat :=
  (project.modules.flatMap SourceModule.documents).length

def analyze (project : Project) : Analysis.Report :=
  Analysis.analyzeModules project.defaultModule project.namedModules

/-- The documents in the order in which concurrent deliveries are started, each with the answer
whether it is in the default module. -/
def deliveries (project : Project) : List (Document × Bool) :=
  project.modules.flatMap fun module_ => module_.documents.map (·, module_.isDefault)

/-- Analyze documents in the given order of delivery. -/
def analyzeDelivered (project : Project) (deliveries : List (Document × Bool)) :
    Analysis.Report :=
  (deliveries.foldl (fun analyzer (document, inDefaultModule) =>
    analyzer.analyzeDocument document inDefaultModule)
    (Analysis.Analyzer.forModule project.defaultModule)).finish project.defaultModule.name
    |>.report

end Project

/-- The analyses of all documents of a project, before their first step. -/
def Analysis.Execution.ofProject (project : Project) : Execution :=
  start project.defaultModule.countableDocuments project.deliveries

namespace Project

/-- Analyze the documents at the same time. Their analyses take turns as scheduled, and the
analysis of the project is finished when all of them are over. -/
def analyzeConcurrently (project : Project) (schedule : Analysis.Schedule) : Analysis.Report :=
  ((Analysis.Execution.ofProject project).complete schedule).analyzer.finish
    project.defaultModule.name |>.report

/-- Analyze the project in the given way of delivery, or in the configured one if none is given.
The schedule is that of a concurrent delivery. -/
def analyzeBy (project : Project) (delivery : Option Delivery) (schedule : Analysis.Schedule) :
    Analysis.Report :=
  match delivery.getD project.config.analysis.delivery with
  | .sequential => project.analyze
  | .concurrent => project.analyzeConcurrently schedule

/-- Analyze the project and generate its service. Without a schedule, documents that are delivered
concurrently are analyzed one after the other. -/
def compile (project : Project) (delivery : Option Delivery)
    (schedule : Analysis.Schedule := []) : Except BlankFunction Compilation := do
  let report := project.analyzeBy delivery schedule
  let service ← Service.ofNames project.config.service report.transformers
  return ⟨report, service⟩

end Project

namespace Compilation

def hasErrors (compilation : Compilation) : Bool :=
  compilation.report.hasErrors

end Compilation

end PureService
