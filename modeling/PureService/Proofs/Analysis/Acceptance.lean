import PureService.Proofs.Analysis.Absence
import PureService.Proofs.Analysis.Schedules

/-!
# Accepted projects

`Project.IsAcceptable` says what a project has to declare and what it must not
declare, without reference to the rules of the analysis.  The analysis of a
project reports no error exactly when the project is acceptable.
-/

namespace PureService

/-- A declaration of a kind, and under a name, that is allowed. -/
def Declaration.IsAllowed : Declaration → Prop
  | function definition => definition.name ≠ "main"
  | item kind _ => kind = .typeDefinition

/-- In the default module, the function of the document is exposed as a
resource. -/
structure FunctionDefinition.IsExposed (definition : FunctionDefinition)
    (document : Document) : Prop where
  document : document.isTest = false
  untested : definition.inTestPart = false
  isPublic : .pub ∈ definition.qualifiers
  isIsolated : .isolated ∈ definition.qualifiers
  body : definition.body = .expression

/-- Each argument of the function can be read from JSON, and there is one. -/
def FunctionDefinition.TakesJson (definition : FunctionDefinition) : Prop :=
  definition.parameters ≠ [] ∧
    ∀ parameter ∈ definition.parameters, parameter.type.isSerializable = true

/-- The declaration stands in a document of a module of the project. -/
def Project.Declares (project : Project) (document : Document) (declaration : Declaration) :
    Prop :=
  (∃ module_ ∈ project.modules, document ∈ module_.documents) ∧
    declaration ∈ document.declarations

/-- The function stands in the default module and is exposed. -/
def Project.Exposes (project : Project) (document : Document)
    (definition : FunctionDefinition) : Prop :=
  document ∈ project.defaultModule.documents ∧
    .function definition ∈ document.declarations ∧ definition.IsExposed document

structure Project.IsAcceptable (project : Project) : Prop where
  allowed : ∀ document declaration, project.Declares document declaration →
    declaration.IsAllowed
  expressions : ∀ document definition, project.Declares document (.function definition) →
    .pub ∈ definition.qualifiers → definition.body = .expression
  annotations : ∀ document definition, project.Declares document (.function definition) →
    definition.annotations ≠ [] → document.isTest = true ∨ definition.inTestPart = true
  exposes : ∃ document definition, project.Exposes document definition
  arguments : ∀ document definition, project.Exposes document definition →
    definition.TakesJson

/-! ### Rules and conditions -/

namespace FunctionDefinition

variable {definition : FunctionDefinition} {document : Document} {inDefaultModule : Bool}

theorem isTransformer_iff :
    definition.isTransformer (document.surroundings inDefaultModule) = true ↔
      inDefaultModule = true ∧ definition.IsExposed document := by
  simp only [isTransformer, isTested, Document.surroundings, isTransformerShaped, hasQualifier,
    isExpressionBodied, Bool.and_eq_true, Bool.not_eq_true', Bool.or_eq_false_iff,
    List.contains_iff_mem, beq_iff_eq]
  constructor
  · rintro ⟨⟨marked, ordinary, untested⟩, ⟨isPublic, isIsolated⟩, body⟩
    exact ⟨marked, ordinary, untested, isPublic, isIsolated, body⟩
  · rintro ⟨marked, exposed⟩
    exact ⟨⟨marked, exposed.document, exposed.untested⟩,
      ⟨exposed.isPublic, exposed.isIsolated⟩, exposed.body⟩

theorem hasSerializableSignature_iff :
    definition.hasSerializableSignature = true ↔ definition.TakesJson := by
  simp [hasSerializableSignature, TakesJson, Parameter.isSerializable]

theorem brokenRules_surroundings_eq_nil_iff :
    definition.brokenRules (document.surroundings inDefaultModule) = [] ↔
      definition.name ≠ "main" ∧
      (.pub ∈ definition.qualifiers → definition.body = .expression) ∧
      (definition.annotations ≠ [] → document.isTest = true ∨ definition.inTestPart = true) ∧
      (inDefaultModule = true → definition.IsExposed document → definition.TakesJson) := by
  rw [brokenRules_eq_nil_iff, isTransformer_iff, hasSerializableSignature_iff]
  simp [isEntryPoint, entryPointName, hasQualifier, isExpressionBodied, hasAnnotations, isTested,
    Document.surroundings]

end FunctionDefinition

theorem ItemKind.brokenRules_eq_nil_iff {kind : ItemKind} :
    kind.brokenRules = [] ↔ kind = .typeDefinition := by
  cases kind <;> simp [brokenRules]

namespace Project

variable {project : Project}

theorem mem_deliveries_iff {document : Document} {inDefaultModule : Bool} :
    (document, inDefaultModule) ∈ project.deliveries ↔
      ∃ module_ ∈ project.modules,
        document ∈ module_.documents ∧ module_.isDefault = inDefaultModule := by
  simp [deliveries]

theorem IsMarked.true_mem_deliveries_iff (marked : project.IsMarked) {document : Document} :
    (document, true) ∈ project.deliveries ↔ document ∈ project.defaultModule.documents := by
  simp [marked.deliveries_eq]

/-- No rule of the analysis is broken by a declaration of the project. -/
def IsUnbroken (project : Project) : Prop :=
  ∀ delivery ∈ project.deliveries, ∀ declaration ∈ delivery.1.declarations,
    declaration.brokenRules (delivery.1.surroundings delivery.2) = []

theorem IsAcceptable.isUnbroken (acceptable : project.IsAcceptable) (marked : project.IsMarked) :
    project.IsUnbroken := by
  rintro ⟨document, inDefaultModule⟩ delivered declaration declared
  obtain ⟨module_, moduleMember, documentMember, _⟩ := mem_deliveries_iff.mp delivered
  have declares : project.Declares document declaration :=
    ⟨⟨module_, moduleMember, documentMember⟩, declared⟩
  cases declaration with
  | item kind definition =>
      exact ItemKind.brokenRules_eq_nil_iff.mpr (acceptable.allowed _ _ declares)
  | function definition =>
      refine FunctionDefinition.brokenRules_surroundings_eq_nil_iff.mpr
        ⟨acceptable.allowed _ _ declares, acceptable.expressions _ _ declares,
          acceptable.annotations _ _ declares, ?_⟩
      rintro rfl exposed
      exact acceptable.arguments document definition
        ⟨marked.true_mem_deliveries_iff.mp delivered, declared, exposed⟩

/-- A declaration of the project is delivered from a module, and breaks no rule there. -/
theorem IsUnbroken.of_declares (unbroken : project.IsUnbroken) {document : Document}
    {declaration : Declaration} (declares : project.Declares document declaration) :
    ∃ inDefaultModule, declaration.brokenRules (document.surroundings inDefaultModule) = [] := by
  obtain ⟨⟨module_, moduleMember, documentMember⟩, declared⟩ := declares
  have delivered : (document, module_.isDefault) ∈ project.deliveries :=
    mem_deliveries_iff.mpr ⟨module_, moduleMember, documentMember, rfl⟩
  exact ⟨module_.isDefault, unbroken _ delivered declaration declared⟩

theorem IsUnbroken.of_declares_function (unbroken : project.IsUnbroken) {document : Document}
    {definition : FunctionDefinition}
    (declares : project.Declares document (.function definition)) :
    definition.name ≠ "main" ∧
      (.pub ∈ definition.qualifiers → definition.body = .expression) ∧
      (definition.annotations ≠ [] → document.isTest = true ∨ definition.inTestPart = true) := by
  obtain ⟨inDefaultModule, unbroken⟩ := unbroken.of_declares declares
  obtain ⟨named, expression, tested, -⟩ :=
    FunctionDefinition.brokenRules_surroundings_eq_nil_iff.mp unbroken
  exact ⟨named, expression, tested⟩

theorem IsUnbroken.isAcceptable (unbroken : project.IsUnbroken) (marked : project.IsMarked)
    (exposes : ∃ document definition, project.Exposes document definition) :
    project.IsAcceptable where
  allowed document declaration declares := by
    cases declaration with
    | item kind definition =>
        obtain ⟨_, unbroken⟩ := unbroken.of_declares declares
        exact ItemKind.brokenRules_eq_nil_iff.mp unbroken
    | function definition => exact (unbroken.of_declares_function declares).1
  expressions _ _ declares := (unbroken.of_declares_function declares).2.1
  annotations _ _ declares := (unbroken.of_declares_function declares).2.2
  exposes := exposes
  arguments document definition := by
    rintro ⟨member, declared, exposed⟩
    have conditions := FunctionDefinition.brokenRules_surroundings_eq_nil_iff.mp
      (unbroken (document, true) (marked.true_mem_deliveries_iff.mpr member) _ declared)
    exact conditions.2.2.2 rfl exposed

/-- What a classification says about the declarations of a project, and that
there is a transformer, is what makes the project acceptable. -/
theorem IsMarked.isAcceptable_iff (marked : project.IsMarked) :
    project.IsAcceptable ↔
      project.IsUnbroken ∧ ∃ document definition, project.Exposes document definition :=
  ⟨fun acceptable => ⟨acceptable.isUnbroken marked, acceptable.exposes⟩,
    fun ⟨unbroken, exposes⟩ => unbroken.isAcceptable marked exposes⟩

end Project

namespace Analysis

/-! ### Errors of an analysis -/

/-- Every finding is an error. -/
theorem Report.hasErrors_eq_false_iff {report : Report} :
    report.hasErrors = false ↔ report.diagnostics = [] := by
  have errors : ∀ diagnostic : Diagnostic, diagnostic.isError = true := by
    intro diagnostic
    cases severity : diagnostic.severity
    simp [Diagnostic.isError, severity]
  rw [hasErrors, errorCount, decide_eq_false_iff_not, gt_iff_lt, Nat.not_lt, Nat.le_zero,
    List.countP_eq_zero, List.eq_nil_iff_forall_not_mem]
  simp [errors]

theorem Analyzer.findings_finish (analyzer : Analyzer) (place : String) :
    (analyzer.finish place).findings = analyzer.findings := by
  rcases finished : analyzer.state.moduleFinished (.ofDocument place) with ⟨diagnostic, state⟩
  have said := State.moduleFinished_fst analyzer.state (.ofDocument place)
  rw [finish, finished]
  rw [finished] at said
  rcases said with rfl | rfl
  · rfl
  · exact findings_emit_someTransformer _ _

theorem Analyzer.diagnostics_eq_nil_iff {analyzer : Analyzer} :
    analyzer.report.diagnostics = [] ↔ analyzer.absences = 0 ∧ analyzer.findings = [] := by
  rw [report, Collector.sorted, Sorting.sort_eq_nil_iff, absences, findings,
    List.countP_eq_zero, List.filter_eq_nil_iff, List.eq_nil_iff_forall_not_mem]
  constructor
  · intro empty
    exact ⟨fun diagnostic member => (empty diagnostic member).elim,
      fun diagnostic member => (empty diagnostic member).elim⟩
  · rintro ⟨noAbsence, noFinding⟩ diagnostic member
    have absence := noAbsence diagnostic member
    have finding := noFinding diagnostic member
    simp_all

theorem findings_eq_nil_iff {project : Project} {total : Nat} {final : Execution}
    (run : Execution.Run (.start total project.deliveries) final)
    (done : final.isDone = true) :
    final.analyzer.findings = [] ↔ project.IsUnbroken := by
  rw [Project.IsUnbroken, ← List.length_eq_zero_iff, (run.findings_perm done).length_eq,
    List.length_eq_zero_iff, Access.ofDeliveries, List.filterMap_flatMap, List.flatMap_eq_nil_iff]
  simp only [Access.filterMap_finding?_ofDocument, List.flatMap_eq_nil_iff,
    Declaration.classify, List.map_eq_nil_iff]

theorem names_ne_nil_iff {project : Project} (marked : project.IsMarked) {total : Nat}
    {final : Execution} (run : Execution.Run (.start total project.deliveries) final)
    (done : final.isDone = true) :
    final.analyzer.state.names ≠ [] ↔
      ∃ document definition, project.Exposes document definition := by
  obtain ⟨history, all, reflects⟩ := run.reflects_of_isDone done
  rw [← run.found_iff done, reflects.found, all.mem_iff, Access.ofDeliveries, List.mem_flatMap]
  simp only [Access.markFound_mem_ofDocument_iff_exists]
  constructor
  · rintro ⟨⟨document, inDefaultModule⟩, delivered, declaration, declared, exposed⟩
    cases declaration with
    | item kind definition => cases exposed
    | function definition =>
        have transformer : definition.isTransformer (document.surroundings inDefaultModule) =
            true := by
          simpa [Declaration.transformer?] using exposed
        obtain ⟨rfl, isExposed⟩ := FunctionDefinition.isTransformer_iff.mp transformer
        exact ⟨document, definition, marked.true_mem_deliveries_iff.mp delivered, declared,
          isExposed⟩
  · rintro ⟨document, definition, member, declared, exposed⟩
    refine ⟨(document, true), marked.true_mem_deliveries_iff.mpr member, _, declared, ?_⟩
    simp [Declaration.transformer?, FunctionDefinition.isTransformer_iff.mpr ⟨rfl, exposed⟩]

/-- In whatever order the analyses of the documents of a project take their
steps, no error is reported exactly when the project is acceptable. -/
theorem Execution.Run.hasErrors_eq_false_iff {project : Project} (marked : project.IsMarked)
    {final : Execution} (run : Execution.Run (.ofProject project) final)
    (done : final.isDone = true) :
    (final.analyzer.finish project.defaultModule.name).report.hasErrors = false ↔
      project.IsAcceptable := by
  rw [Execution.ofProject, ← marked.countP_deliveries] at run
  have barrier := run.barrier (Execution.barrier_start project.deliveries)
  have absences : (final.analyzer.finish project.defaultModule.name).absences = 0 ↔
      ∃ document definition, project.Exposes document definition := by
    rw [barrier.absences_finish done, ← names_ne_nil_iff marked run done, ← run.found_iff done]
    cases final.analyzer.state.found <;> simp
  rw [Report.hasErrors_eq_false_iff, Analyzer.diagnostics_eq_nil_iff, absences,
    Analyzer.findings_finish, findings_eq_nil_iff run done, marked.isAcceptable_iff, and_comm]

/-- Whether an error is reported depends neither on the way of delivery nor on
the schedule. -/
theorem hasErrors_analyzeBy_eq_false_iff {project : Project} (marked : project.IsMarked)
    (delivery : Option Delivery) (schedule : Schedule) :
    (project.analyzeBy delivery schedule).hasErrors = false ↔ project.IsAcceptable := by
  obtain ⟨final, run, done, analyzed⟩ := exists_run_analyzeBy project delivery schedule
  rw [analyzed]
  exact run.hasErrors_eq_false_iff marked done

/-- The analysis of a project reports no error exactly when the project is
acceptable. -/
theorem hasErrors_analyze_eq_false_iff {project : Project} (marked : project.IsMarked) :
    project.analyze.hasErrors = false ↔ project.IsAcceptable := by
  obtain ⟨final, run, done, analyzed⟩ := exists_run_analyze project
  rw [analyzed]
  exact run.hasErrors_eq_false_iff marked done

/-- A project with an exposed function, an annotated test, and a function of a
named module that is public but not exposed. -/
def exposing : Project where
  config := .named "app"
  defaultModule := .ofDocuments "app" true
    [{ Document.empty "a.yaml" with
        declarations := [.item .typeDefinition ⟨some "Person", .unknown⟩,
          .function { FunctionDefinition.named "convert" with
            qualifiers := [.pub, .isolated]
            body := .expression
            parameters := [.required (.wrapped .map (.primitive .string))] }] },
      { Document.empty "b.yaml" with
        imports := ["ballerina/test"]
        declarations := [.function { FunctionDefinition.named "check" with
          annotations := ["test:Config"] }] }]
  namedModules := [.ofDocuments "util" false
    [{ Document.empty "c.yaml" with
        declarations := [.function { FunctionDefinition.named "now" with
          qualifiers := [.pub, .isolated]
          body := .expression }] }]]

theorem isAcceptable_exposing : exposing.IsMarked ∧ exposing.analyze.hasErrors = false ∧
    exposing.IsAcceptable := by
  have marked : exposing.IsMarked := ⟨rfl, by decide⟩
  have accepted : exposing.analyze.hasErrors = false := by decide +kernel
  exact ⟨marked, accepted, (hasErrors_analyze_eq_false_iff marked).mp accepted⟩

end Analysis

end PureService
