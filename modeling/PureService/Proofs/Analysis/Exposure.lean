import PureService.Proofs.Analysis.Delivery
import PureService.Proofs.Attempts

/-!
# What tests and named modules cannot change

A project is exposed by the documents of its default module that are no test
documents: their names and declarations, in order.  Projects that agree in
these have the same names, the same report of absence and the same service,
whatever tests and named modules they have beside them.
-/

namespace PureService

/-- The names and the declarations of the documents that are no test documents. -/
def SourceModule.outline (module_ : SourceModule) : List (String × List Declaration) :=
  (module_.documents.filter (!·.isTest)).map fun document =>
    (document.name, document.declarations)

/-- The projects differ at most in their tests, in their named modules, and in
settings that do not concern the service. -/
structure Project.AgreesWith (first second : Project) : Prop where
  name : first.defaultModule.name = second.defaultModule.name
  service : first.config.service = second.config.service
  outline : first.defaultModule.outline = second.defaultModule.outline

theorem SourceModule.exposedNames_eq_flatMap_outline (module_ : SourceModule) :
    module_.exposedNames = module_.outline.flatMap fun entry =>
      { Document.empty entry.1 with declarations := entry.2 }.exposedNames := by
  rw [exposedNames, outline, List.flatMap_map]
  rfl

namespace Analysis

section Project

variable {project : Project}

theorem analyze_eq_analyzeDelivered (project : Project) :
    project.analyze = project.analyzeDelivered project.deliveries := by
  simp only [Project.analyze, analyzeModules, Project.analyzeDelivered, Project.deliveries,
    Project.modules, List.foldl_flatMap, List.foldl_map]
  rfl

/-- What is compiled is the report of the analysis, with the service that exposes
the functions it names. -/
theorem compile_eq_map_ofNames (project : Project) (delivery : Option Delivery)
    (schedule : Schedule) :
    project.compile delivery schedule =
      (Service.ofNames project.config.service
        (project.analyzeBy delivery schedule).transformers).map
        fun service => ⟨project.analyzeBy delivery schedule, service⟩ := by
  rw [Project.compile]
  cases Service.ofNames project.config.service
    (project.analyzeBy delivery schedule).transformers <;> rfl

theorem lastPlace_deliveries (marked : project.IsMarked) (place : String) :
    lastPlace place project.deliveries =
      (project.defaultModule.outline.map Prod.fst).getLast?.getD place := by
  simp [lastPlace, marked.deliveries_eq, SourceModule.outline, List.filter_map,
    Function.comp_def]

theorem transformers_analyzeDelivered (marked : project.IsMarked)
    (ordered : project.defaultModule.IsOrdered) {deliveries : List (Document × Bool)}
    (rearranged : deliveries.Perm project.deliveries) :
    (project.analyzeDelivered deliveries).transformers = project.defaultModule.exposedNames := by
  obtain ⟨final, run, done, delivered⟩ :=
    exists_run_deliver project.defaultModule.countableDocuments deliveries
  calc
    (project.analyzeDelivered deliveries).transformers = final.analyzer.state.names := by
      rw [delivered]
      exact Analyzer.transformers_finish _ _
    _ = project.defaultModule.exposedNames :=
      run.names_eq_exposedNames marked ordered rearranged done

theorem transformers_analyzeBy (marked : project.IsMarked)
    (ordered : project.defaultModule.IsOrdered) (delivery : Option Delivery)
    (schedule : Schedule) :
    (project.analyzeBy delivery schedule).transformers = project.defaultModule.exposedNames := by
  obtain ⟨final, run, done, analyzed⟩ := exists_run_analyzeBy project delivery schedule
  rw [analyzed, Analyzer.transformers_finish]
  exact run.names_eq_exposedNames marked ordered (.refl _) done

/-- A report without errors is the same for every way of delivery and every schedule. -/
theorem analyzeBy_eq_of_accepted (marked : project.IsMarked)
    (ordered : project.defaultModule.IsOrdered) {delivery other : Option Delivery}
    {schedule turns : Schedule}
    (accepted : (project.analyzeBy delivery schedule).hasErrors = false) :
    project.analyzeBy other turns = project.analyzeBy delivery schedule := by
  have acceptable := (hasErrors_analyzeBy_eq_false_iff marked delivery schedule).mp accepted
  have acceptedAgain := (hasErrors_analyzeBy_eq_false_iff marked other turns).mpr acceptable
  rw [Report.mk.injEq, transformers_analyzeBy marked ordered, transformers_analyzeBy marked ordered,
    Report.hasErrors_eq_false_iff.mp accepted, Report.hasErrors_eq_false_iff.mp acceptedAgain]
  exact ⟨rfl, rfl⟩

theorem compile_eq_of_accepted (marked : project.IsMarked)
    (ordered : project.defaultModule.IsOrdered) {delivery : Option Delivery}
    {schedule turns : Schedule} {compilation : Compilation}
    (compiled : project.compile delivery schedule = .ok compilation)
    (accepted : compilation.hasErrors = false) :
    project.compile delivery turns = .ok compilation := by
  rw [compile_eq_map_ofNames] at compiled ⊢
  have analyzed : compilation.report = project.analyzeBy delivery schedule := by
    obtain ⟨service, -, rfl⟩ := Attempts.map_eq_ok_iff.mp compiled
    rfl
  rw [Compilation.hasErrors, analyzed] at accepted
  rwa [analyzeBy_eq_of_accepted marked ordered accepted]

theorem service_compile (marked : project.IsMarked)
    (ordered : project.defaultModule.IsOrdered) (delivery : Option Delivery)
    (schedule : Schedule) :
    (project.compile delivery schedule).map Compilation.service =
      Service.ofNames project.config.service project.defaultModule.exposedNames := by
  rw [compile_eq_map_ofNames, transformers_analyzeBy marked ordered]
  cases Service.ofNames project.config.service project.defaultModule.exposedNames <;> rfl

end Project

/-- Projects that agree are exposed alike: the same names, the same report of
absence or none when they are analyzed one document after the other, and the
same service or the same refusal to generate one however they are analyzed. -/
theorem exposure_eq_of_agreesWith {first second : Project} (firstMarked : first.IsMarked)
    (secondMarked : second.IsMarked) (firstOrdered : first.defaultModule.IsOrdered)
    (secondOrdered : second.defaultModule.IsOrdered) (agree : first.AgreesWith second)
    (firstDelivery secondDelivery : Option Delivery) (firstSchedule secondSchedule : Schedule) :
    first.analyze.transformers = second.analyze.transformers ∧
      first.analyze.absenceReports = second.analyze.absenceReports ∧
      (first.compile firstDelivery firstSchedule).map Compilation.service =
        (second.compile secondDelivery secondSchedule).map Compilation.service := by
  have exposed : first.defaultModule.exposedNames = second.defaultModule.exposedNames := by
    simp only [SourceModule.exposedNames_eq_flatMap_outline, agree.outline]
  refine ⟨?_, ?_, ?_⟩
  · rw [analyze_eq_analyzeDelivered, analyze_eq_analyzeDelivered,
      transformers_analyzeDelivered firstMarked firstOrdered (.refl _),
      transformers_analyzeDelivered secondMarked secondOrdered (.refl _), exposed]
  · rw [analyze_eq_analyzeDelivered, analyze_eq_analyzeDelivered,
      absenceReports_analyzeDelivered firstMarked (.refl _),
      absenceReports_analyzeDelivered secondMarked (.refl _), exposed,
      lastPlace_deliveries firstMarked, lastPlace_deliveries secondMarked, agree.outline,
      agree.name]
  · rw [service_compile firstMarked firstOrdered, service_compile secondMarked secondOrdered,
      agree.service, exposed]

/-- The default module of `overlapping`, with a test document in the middle
and other named modules. -/
def overlappingWithTests : Project :=
  { overlapping with
    defaultModule := .ofDocuments "app" true
      [⟨"a.yaml", 0, false, [], [overlapping.exposed "f", overlapping.exposed "g"]⟩,
        ⟨"a_test.yaml", 0, false, ["ballerina/test"],
          [overlapping.exposed "main", .item .service ⟨none, .unknown⟩]⟩,
        ⟨"b.yaml", 0, false, ["ballerina/io"], [overlapping.exposed "f"]⟩]
    namedModules := [] }

theorem exposure_overlapping :
    overlapping.AgreesWith overlappingWithTests ∧
      overlapping.analyze.transformers = overlappingWithTests.analyze.transformers ∧
      overlapping.analyze.absenceReports = overlappingWithTests.analyze.absenceReports ∧
      (overlapping.compile (some .sequential) []).map Compilation.service =
        (overlappingWithTests.compile (some .concurrent) [2, 0, 1, 2]).map
          Compilation.service := by
  have agree : overlapping.AgreesWith overlappingWithTests := ⟨rfl, rfl, by decide⟩
  exact ⟨agree, exposure_eq_of_agreesWith ⟨rfl, by decide⟩ ⟨rfl, by decide⟩
    (SourceModule.isOrdered_ofDocuments _ _ _) (SourceModule.isOrdered_ofDocuments _ _ _) agree
    (some .sequential) (some .concurrent) [] [2, 0, 1, 2]⟩

end Analysis

end PureService
