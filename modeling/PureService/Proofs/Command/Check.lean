import PureService.Command.Run
import PureService.Proofs.Project.Loading
import PureService.Proofs.Service.Source

/-!
# What checking reports

A project is checked by compiling it.  That fails only when a function that is
exposed has a blank name, which cannot be wrapped by a resource; then nothing
of the report is printed.  In all other cases the whole report is.  The report
of documents that are delivered concurrently is the one of their schedule.
-/

namespace PureService

open Attempts

theorem Service.exists_ofNames_iff (config : ServiceConfig) {names : List String} :
    (∃ service, ofNames config names = .ok service) ↔
      ∀ name ∈ names, Text.isAllBlank name = false := by
  simp only [ofNames_eq_ok_iff, exists_and_left, exists_eq, and_true]

/-- Compiling yields the analysis, unless an exposed function has a blank name. -/
theorem Project.exists_compile_iff {project : Project} (marked : project.IsMarked)
    (ordered : project.defaultModule.IsOrdered) (delivery : Option Delivery)
    (schedule : Analysis.Schedule) :
    (∃ service, project.compile delivery schedule =
        .ok ⟨project.analyzeBy delivery schedule, service⟩) ↔
      ∀ name ∈ project.defaultModule.exposedNames, Text.isAllBlank name = false := by
  rw [← Service.exists_ofNames_iff project.config.service, Analysis.compile_eq_map_ofNames,
    Analysis.transformers_analyzeBy marked ordered]
  cases Service.ofNames project.config.service project.defaultModule.exposedNames <;>
    simp [Except.map]

namespace Command

theorem printed_ne_empty {report : Analysis.Report} {format : ReportFormat}
    (rejected : report.hasErrors = true) : report.printed format ≠ "" := by
  cases format with
  | json => simp [Analysis.Report.printed]
  | text =>
      have some : report.diagnostics ≠ [] := by
        intro none
        rw [Analysis.Report.hasErrors_eq_false_iff.mpr none] at rejected
        cases rejected
      obtain ⟨first, others, split⟩ := List.exists_cons_of_ne_nil some
      simp [Analysis.Report.printed, split, String.join_cons]

section Loaded

variable {tree : FileTree} {config : String} {format : ReportFormat} {isConcurrent : Bool}
  {schedule : Analysis.Schedule} {loaded : LocatedProject}
  (found : LocatedProject.load tree (.ofText config) = .ok loaded)

include found

theorem runCheck_eq_of_load :
    runCheck config format isConcurrent schedule tree =
      match loaded.project.compile (chosenDelivery isConcurrent) schedule with
      | .error _ => .failure "" "Analysis failed"
      | .ok compilation =>
        if compilation.hasErrors then
          .failure (compilation.report.printed format) compilation.report.rejection
        else .success (compilation.report.printed format) := by
  unfold runCheck
  split
  next other =>
    rw [found] at other
    cases other
  next again =>
    rw [found] at again
    cases again
    rfl

theorem runCheck_of_wrappable
    (wrappable : ∀ name ∈ loaded.project.defaultModule.exposedNames,
      Text.isAllBlank name = false) :
    runCheck config format isConcurrent schedule tree =
      let report := loaded.project.analyzeBy (chosenDelivery isConcurrent) schedule
      if report.hasErrors then .failure (report.printed format) report.rejection
      else .success (report.printed format) := by
  obtain ⟨marked, ordered⟩ := LocatedProject.isMarked_of_load found
  obtain ⟨service, compiled⟩ := (Project.exists_compile_iff marked ordered
    (chosenDelivery isConcurrent) schedule).mpr wrappable
  rw [runCheck_eq_of_load found, compiled]
  rfl

/-- A blank name that is exposed hides the whole report. -/
theorem runCheck_of_blank
    (blank : ∃ name ∈ loaded.project.defaultModule.exposedNames, Text.isAllBlank name = true) :
    runCheck config format isConcurrent schedule tree = .failure "" "Analysis failed" := by
  obtain ⟨marked, ordered⟩ := LocatedProject.isMarked_of_load found
  rw [runCheck_eq_of_load found]
  split
  · rfl
  next compilation compiled =>
    have analyzed := compiled
    rw [Analysis.compile_eq_map_ofNames, map_eq_ok_iff] at analyzed
    obtain ⟨service, -, rfl⟩ := analyzed
    obtain ⟨name, member, isBlank⟩ := blank
    have wrappable := (Project.exists_compile_iff marked ordered _ _).mp ⟨service, compiled⟩
    rw [wrappable name member] at isBlank
    cases isBlank

/-- Checking prints the report and succeeds without errors only, exactly for the projects in which
no exposed function has a blank name.  This holds for the report of every schedule, and so of every
run of concurrent analyses. -/
theorem runCheck_reports_iff :
    ((runCheck config format isConcurrent schedule tree).output =
          (loaded.project.analyzeBy (chosenDelivery isConcurrent) schedule).printed format ∧
        ((runCheck config format isConcurrent schedule tree).exitCode = 0 ↔
          (loaded.project.analyzeBy (chosenDelivery isConcurrent) schedule).hasErrors = false)) ↔
      ∀ name ∈ loaded.project.defaultModule.exposedNames, Text.isAllBlank name = false := by
  constructor
  · rintro ⟨prints, exits⟩
    by_contra notAll
    have blank : ∃ name ∈ loaded.project.defaultModule.exposedNames,
        Text.isAllBlank name = true := by
      simpa using notAll
    rw [runCheck_of_blank found blank] at prints exits
    -- If there are errors, the report is not empty; if there are none, the exit code is wrong.
    cases rejected :
        (loaded.project.analyzeBy (chosenDelivery isConcurrent) schedule).hasErrors with
    | true => exact printed_ne_empty rejected prints.symm
    | false => exact absurd (exits.mpr rejected) (by decide)
  · intro wrappable
    rw [runCheck_of_wrappable found wrappable]
    generalize loaded.project.analyzeBy (chosenDelivery isConcurrent) schedule = report
    dsimp only
    cases report.hasErrors with
    | true => exact ⟨rfl, by simp [Outcome.failure]⟩
    | false => exact ⟨rfl, by simp [Outcome.success]⟩

end Loaded

/-- A project whose only declaration is a class, beside a document without declarations. -/
def refusedTree : FileTree where
  workingDirectory := ["work"]
  entries := [
    (["work"], .directory),
    (["work", "transformer.yaml"], .file (.text "name: app\n")),
    (["work", "src"], .directory),
    (["work", "src", "a.yaml"], .file (.text "declarations: [\x7bkind: class, line: 2\x7d]\n")),
    (["work", "src", "b.yaml"], .file (.text "imports: []\n"))]

def refusedProject : LocatedProject where
  project := {
    config := .named "app"
    defaultModule := .ofDocuments "app" true
      [{ Document.empty "src/a.yaml" with
          declarations := [.item .classDefinition ⟨none, ⟨some 2, none⟩⟩] },
        .empty "src/b.yaml"]
    namedModules := [] }
  base := .ofText "."

/-- When the second document has the first turn, it is the first one at which a missing transformer
is reported. -/
theorem runCheck_reports_refused :
    LocatedProject.load refusedTree (.ofText ".") = .ok refusedProject ∧
      (refusedProject.project.analyzeBy (chosenDelivery true) [1]).absenceReports =
        [Analysis.absenceAt "src/a.yaml"] ∧
      (runCheck "." .json true [1] refusedTree).output =
        (refusedProject.project.analyzeBy (chosenDelivery true) [1]).printed .json ∧
      ((runCheck "." .json true [1] refusedTree).exitCode = 0 ↔
        (refusedProject.project.analyzeBy (chosenDelivery true) [1]).hasErrors = false) := by
  have found : LocatedProject.load refusedTree (.ofText ".") = .ok refusedProject := by
    decide +kernel
  have wrappable : ∀ name ∈ refusedProject.project.defaultModule.exposedNames,
      Text.isAllBlank name = false := by
    decide +kernel
  exact ⟨found, by decide +kernel, (runCheck_reports_iff found).mpr wrappable⟩

/-- A class, and a function that is exposed but has no name. -/
def hidingTree : FileTree where
  workingDirectory := ["work"]
  entries := [
    (["work"], .directory),
    (["work", "transformer.yaml"], .file (.text "name: app\n")),
    (["work", "src"], .directory),
    (["work", "src", "a.yaml"], .file (.text
      ("declarations: [\x7bkind: class, line: 2\x7d, \x7bkind: function, name: \"\", " ++
        "qualifiers: [public, isolated], body: expression, " ++
        "parameters: [\x7bkind: required, type: json\x7d]\x7d]\n")))]

def hidingProject : LocatedProject where
  project := {
    config := .named "app"
    defaultModule := .ofDocuments "app" true
      [{ Document.empty "src/a.yaml" with
          declarations := [.item .classDefinition ⟨none, ⟨some 2, none⟩⟩,
            .function { FunctionDefinition.named "" with
              qualifiers := [.pub, .isolated]
              body := .expression
              parameters := [.required (.primitive .json)] }] }]
    namedModules := [] }
  base := .ofText "."

/-- The report says that classes are not allowed, but nothing is printed. -/
theorem runCheck_hides_report :
    LocatedProject.load hidingTree (.ofText ".") = .ok hidingProject ∧
      hidingProject.project.analyze.printed .text =
        "error [ERROR_103] src/a.yaml:2: class definitions are not allowed " ++
          "in a transformer module\n" ∧
      runCheck "." .text false [] hidingTree = .failure "" "Analysis failed" := by
  have found : LocatedProject.load hidingTree (.ofText ".") = .ok hidingProject := by
    decide +kernel
  have blank : ∃ name ∈ hidingProject.project.defaultModule.exposedNames,
      Text.isAllBlank name = true := by
    decide +kernel
  exact ⟨found, by decide +kernel, runCheck_of_blank found blank⟩

end Command

end PureService
