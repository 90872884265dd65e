import PureService.Proofs.Analysis.Delivery
import PureService.Proofs.Diagnostic.Collector

/-!
# Findings in report order

What is found about the declarations of a project is reported once for each
declaration and each rule that it breaks, sorted by the keys of diagnostics.
The report is the same list for every order in which documents are delivered,
because a finding is known by its key.
-/

namespace PureService

/-- The findings about the declarations of a project, as they stand in it. -/
def Project.findings (project : Project) : List Diagnostic :=
  project.modules.flatMap fun module_ =>
    module_.documents.flatMap fun document =>
      document.declarations.flatMap fun declaration =>
        (declaration.classify (document.surroundings module_.isDefault)).diagnostics

namespace Analysis

/-- The diagnostics other than reports that no transformer was found. -/
def Report.findings (report : Report) : List Diagnostic :=
  report.diagnostics.filter (·.rule != .someTransformer)

theorem Access.filterMap_finding?_ofDeliveries (project : Project) :
    (ofDeliveries project.deliveries).filterMap finding? = project.findings := by
  simp only [ofDeliveries, Project.deliveries, List.filterMap_flatMap, List.flatMap_assoc,
    List.flatMap_map, filterMap_finding?_ofDocument]
  rfl

/-- A classification speaks in the words of the rules. -/
theorem isStandard_of_mem_findings {project : Project} {diagnostic : Diagnostic}
    (member : diagnostic ∈ project.findings) : diagnostic.IsStandard := by
  simp only [Project.findings, List.mem_flatMap] at member
  obtain ⟨_, _, _, _, _, _, classified⟩ := member
  obtain ⟨_, _, rfl⟩ := List.mem_map.mp classified
  rfl

section Report

variable {project : Project} {deliveries : List (Document × Bool)}

theorem Report.pairwise_findings (analyzer : Analyzer) :
    analyzer.report.findings.Pairwise fun first second => first.key ≤ second.key :=
  analyzer.collector.reports_sorted.ascending.filter _

/-- However the analyses are interleaved, the findings in the report are those
about the declarations of the project. -/
theorem Execution.Run.findings_report_perm {total : Nat} {final : Execution}
    (rearranged : deliveries.Perm project.deliveries)
    (run : Execution.Run (.start total deliveries) final) (done : final.isDone = true)
    (place : String) :
    (final.analyzer.finish place).report.findings.Perm project.findings := by
  have sorted : (final.analyzer.finish place).report.findings.Perm
      (final.analyzer.finish place).findings :=
    (Sorting.sort_perm Diagnostic.precedes _).filter _
  rw [Analyzer.findings_finish] at sorted
  rw [← Access.filterMap_finding?_ofDeliveries]
  exact sorted.trans ((run.findings_perm done).trans
    ((Access.ofDeliveries_perm rearranged).filterMap _))

theorem findings_eq_insertionSort {analyzer : Analyzer}
    (reported : analyzer.report.findings.Perm project.findings) :
    analyzer.report.findings =
      project.findings.insertionSort (fun first second => first.key ≤ second.key) := by
  let inOrder : Diagnostic → Diagnostic → Prop := fun first second => first.key ≤ second.key
  have : Std.Total inOrder := ⟨fun first second => le_total first.key second.key⟩
  have : IsTrans Diagnostic inOrder := ⟨fun _ _ _ => le_trans⟩
  have sorted := List.perm_insertionSort inOrder project.findings
  -- Two lists in order with the same members are equal once no two of these share a key.
  apply (reported.trans sorted.symm).eq_of_pairwise ?_ (Report.pairwise_findings _)
    (List.pairwise_insertionSort inOrder project.findings)
  intro first second firstMember secondMember before after
  have firstStandard := isStandard_of_mem_findings (reported.mem_iff.mp firstMember)
  have secondStandard := isStandard_of_mem_findings (sorted.mem_iff.mp secondMember)
  exact firstStandard.eq_of_key_eq secondStandard (le_antisymm before after)

theorem findings_analyzeBy (project : Project) (delivery : Option Delivery)
    (schedule : Schedule) :
    (project.analyzeBy delivery schedule).findings =
      project.findings.insertionSort (fun first second => first.key ≤ second.key) := by
  obtain ⟨final, run, done, analyzed⟩ := exists_run_analyzeBy project delivery schedule
  rw [analyzed]
  exact findings_eq_insertionSort (run.findings_report_perm (.refl _) done _)

/-- In whatever order documents are delivered, the findings in the report are
those about the declarations of the project, each as often as it was made and
sorted by their keys. -/
theorem findings_analyzeDelivered (rearranged : deliveries.Perm project.deliveries) :
    (project.analyzeDelivered deliveries).findings =
        project.findings.insertionSort (fun first second => first.key ≤ second.key) ∧
      (project.analyzeDelivered deliveries).findings.Perm project.findings := by
  obtain ⟨final, run, done, delivered⟩ :=
    exists_run_deliver project.defaultModule.countableDocuments deliveries
  have analyzed : project.analyzeDelivered deliveries =
      (final.analyzer.finish project.defaultModule.name).report := by
    rw [delivered]
    rfl
  have reported := run.findings_report_perm rearranged done project.defaultModule.name
  rw [analyzed]
  exact ⟨findings_eq_insertionSort reported, reported⟩

end Report

/-- A project with two classes at one unknown place, a function that breaks
two rules, and a named module with a document of the same name. -/
def refused : Project where
  config := .named "app"
  defaultModule := .ofDocuments "app" true
    [{ Document.empty "b.yaml" with
        declarations := [.item .classDefinition ⟨some "First", .unknown⟩,
          .item .classDefinition ⟨some "Second", .unknown⟩] },
      { Document.empty "a.yaml" with
        declarations := [.function { FunctionDefinition.named "main" with
          qualifiers := [.pub]
          position := ⟨some 3, none⟩ }] }]
  namedModules := [.ofDocuments "util" false
    [{ Document.empty "b.yaml" with
        declarations := [.item .listener ⟨none, .unknown⟩] }]]

theorem findings_refused :
    refused.deliveries.reverse.Perm refused.deliveries ∧
      (refused.analyzeDelivered refused.deliveries.reverse).findings =
        refused.findings.insertionSort (fun first second => first.key ≤ second.key) ∧
      (refused.analyzeDelivered refused.deliveries.reverse).findings.map Diagnostic.rule =
        [.noEntryPoint, .publicIsExpression, .noListener, .noClass, .noClass] :=
  ⟨refused.deliveries.reverse_perm,
    (findings_analyzeDelivered refused.deliveries.reverse_perm).1, by decide +kernel⟩

end Analysis

end PureService
