import PureService.Proofs.Analysis.Acceptance
import PureService.Proofs.Analysis.Names

/-!
# Documents delivered in any order

The documents of a project may be analyzed in any order, each of them once.
Whether a transformer is missing does not depend on the order, and neither does
what is said about it.  The place of the report does: it is the document that
completes the default module, and that is the last countable one delivered.
-/

namespace PureService.Analysis

namespace Report

/-- The reports that no transformer was found. -/
def absenceReports (report : Report) : List Diagnostic :=
  report.diagnostics.filter (·.rule == .someTransformer)

end Report

/-- The reports that no transformer was found, in order of arrival. -/
def Analyzer.absenceReports (analyzer : Analyzer) : List Diagnostic :=
  analyzer.collector.arrived.filter (·.rule == .someTransformer)

/-- The report that no transformer was found, at a document or a module. -/
def absenceAt (place : String) : Diagnostic :=
  .ofRule .someTransformer (.ofDocument place)

/-- The document waited for that comes last among the delivered ones; the
given place if there is none. -/
def lastPlace (place : String) (deliveries : List (Document × Bool)) : String :=
  ((deliveries.filter fun delivery => delivery.2 && !delivery.1.isTest).getLast?.map
    (·.1.name)).getD place

theorem lastPlace_of_uncountable {place : String} {deliveries : List (Document × Bool)}
    (uncountable : deliveries.countP (fun delivery => delivery.2 && !delivery.1.isTest) = 0) :
    lastPlace place deliveries = place := by
  rw [List.countP_eq_length_filter, List.length_eq_zero_iff] at uncountable
  rw [lastPlace, uncountable]
  rfl

theorem lastPlace_cons (place : String) (delivery : Document × Bool)
    (deliveries : List (Document × Bool)) :
    lastPlace place (delivery :: deliveries) =
      lastPlace (if delivery.2 && !delivery.1.isTest then delivery.1.name else place)
        deliveries := by
  cases countable : delivery.2 && !delivery.1.isTest with
  | false => simp [lastPlace, countable]
  | true =>
      simp only [lastPlace, List.filter_cons, countable, if_true, List.getLast?_cons]
      cases (deliveries.filter _).getLast? <;> rfl

/-! ### One document -/

section Perform

variable (document : Document) (inDefaultModule : Bool) (analyzer : Analyzer)

/-- What no change of a document touches, its declarations leave as it is. -/
theorem declareAll_eq {α : Type} (observe : Analyzer → α)
    (untouched : ∀ access ∈ Access.ofDocument document inDefaultModule, ∀ current,
      observe (Analyzer.perform current access) = observe current) :
    observe (analyzer.declareAll document inDefaultModule) = observe analyzer := by
  rw [← foldl_perform_ofDocument]
  generalize Access.ofDocument document inDefaultModule = accesses at untouched
  induction accesses generalizing analyzer with
  | nil => rfl
  | cons access accesses ih =>
      rw [List.foldl_cons, ih _ fun other member => untouched other (by simp [member]),
        untouched access (by simp)]

@[simp]
theorem declareAll_visited :
    (analyzer.declareAll document inDefaultModule).state.visited = analyzer.state.visited :=
  declareAll_eq document inDefaultModule analyzer (·.state.visited) (by simp)

@[simp]
theorem declareAll_expected :
    (analyzer.declareAll document inDefaultModule).state.expected = analyzer.state.expected :=
  declareAll_eq document inDefaultModule analyzer (·.state.expected) (by simp)

@[simp]
theorem absenceReports_declareAll :
    (analyzer.declareAll document inDefaultModule).absenceReports = analyzer.absenceReports :=
  declareAll_eq document inDefaultModule analyzer Analyzer.absenceReports
    fun _ declared current => current.filter_someTransformer_perform declared

end Perform

section Complete

variable (state : State) (location : Location) (document : Document) (analyzer : Analyzer)

theorem State.documentProcessed_fst :
    (state.documentProcessed location).1 = none ∨
      state.visited + 1 = state.expected ∧
        (state.documentProcessed location).1 = some (.ofRule .someTransformer location) := by
  by_cases completes : state.visited + 1 = state.expected
  · cases found : state.found <;> cases reported : state.reported <;>
      simp [documentProcessed, visit, reportAbsence, claim, completes, found, reported]
  · simp [documentProcessed, visit, completes]

theorem State.documentProcessed_snd :
    (state.documentProcessed location).2.visited = state.visited + 1 ∧
      (state.documentProcessed location).2.expected = state.expected := by
  rw [documentProcessed, reportAbsence]
  split
  · split <;> exact ⟨rfl, rfl⟩
  · exact ⟨rfl, rfl⟩

@[simp]
theorem Analyzer.completeDocument_state :
    (analyzer.completeDocument document).state =
      (analyzer.state.documentProcessed (.ofDocument document.name)).2 :=
  emit_state _ _

theorem Analyzer.analyzeDocument_expected (inDefaultModule : Bool) :
    (analyzer.analyzeDocument document inDefaultModule).state.expected =
      analyzer.state.expected := by
  rw [analyzeDocument]
  split
  · rw [completeDocument_state, (State.documentProcessed_snd _ _).2, declareAll_expected]
  · exact declareAll_expected document inDefaultModule analyzer

/-- A document that is complete reports at most that no transformer was found,
and only if it completes the module. -/
theorem Analyzer.absenceReports_completeDocument :
    (analyzer.completeDocument document).absenceReports = analyzer.absenceReports ∨
      analyzer.state.visited + 1 = analyzer.state.expected ∧
        (analyzer.completeDocument document).absenceReports =
          analyzer.absenceReports ++ [absenceAt document.name] := by
  rcases processed : analyzer.state.documentProcessed (.ofDocument document.name) with
    ⟨diagnostic, state⟩
  have said := State.documentProcessed_fst analyzer.state (.ofDocument document.name)
  rw [completeDocument, processed]
  rw [processed] at said
  rcases said with rfl | ⟨completes, rfl⟩
  · exact .inl rfl
  · right
    refine ⟨completes, ?_⟩
    simp [absenceReports, emit, Collector.emit, absenceAt, Diagnostic.ofRule]

end Complete

/-! ### One document after the other -/

/-- Documents that are still to be delivered complete the expected number.  Up
to then nothing has been reported as missing, and then only at the place. -/
structure Analyzer.Awaits (analyzer : Analyzer) (place : String)
    (deliveries : List (Document × Bool)) : Prop where
  visits : analyzer.state.visited +
    deliveries.countP (fun delivery => delivery.2 && !delivery.1.isTest) =
      analyzer.state.expected
  silent : analyzer.state.visited ≠ analyzer.state.expected → analyzer.absenceReports = []
  placed : ∀ diagnostic ∈ analyzer.absenceReports, diagnostic = absenceAt place

namespace Analyzer.Awaits

variable {analyzer : Analyzer} {place : String} {delivery : Document × Bool}
  {deliveries : List (Document × Bool)}

theorem analyzeDocument (awaits : analyzer.Awaits place (delivery :: deliveries)) :
    (analyzer.analyzeDocument delivery.1 delivery.2).Awaits
      (if delivery.2 && !delivery.1.isTest then delivery.1.name else place) deliveries := by
  obtain ⟨visits, silent, placed⟩ := awaits
  obtain ⟨document, inDefaultModule⟩ := delivery
  cases countable : inDefaultModule && !document.isTest with
  | false =>
      simp only [List.countP_cons, countable, Bool.false_eq_true, if_false] at visits
      simp only [Analyzer.analyzeDocument, countable, Bool.false_eq_true, if_false]
      exact ⟨by simpa using visits, by simpa using silent, by simpa using placed⟩
  | true =>
      simp only [List.countP_cons, countable, if_true] at visits
      have quiet : analyzer.absenceReports = [] := silent (by omega)
      simp only [Analyzer.analyzeDocument, countable, if_true]
      set declared := analyzer.declareAll document inDefaultModule with declaredEq
      have visited : declared.state.visited = analyzer.state.visited := by simp [declaredEq]
      have expected : declared.state.expected = analyzer.state.expected := by simp [declaredEq]
      have nothing : declared.absenceReports = [] := by simp [declaredEq, quiet]
      obtain ⟨nextVisited, nextExpected⟩ :=
        State.documentProcessed_snd declared.state (.ofDocument document.name)
      -- The declarations report nothing, so any report is that of the completed document.
      have reports := declared.absenceReports_completeDocument document
      rw [nothing, List.nil_append, visited, expected] at reports
      refine ⟨?_, ?_, ?_⟩
      · rw [completeDocument_state, nextVisited, nextExpected]
        omega
      · rw [completeDocument_state, nextVisited, nextExpected]
        intro incomplete
        rcases reports with none | ⟨completes, _⟩
        · exact none
        · omega
      · intro diagnostic member
        rcases reports with none | ⟨_, one⟩
        · simp [none] at member
        · simpa [one] using member

end Analyzer.Awaits

/-- Analyze documents in the order in which they are delivered. -/
def Analyzer.deliver (analyzer : Analyzer) (deliveries : List (Document × Bool)) : Analyzer :=
  deliveries.foldl (fun current delivery => current.analyzeDocument delivery.1 delivery.2)
    analyzer

theorem Analyzer.Awaits.deliver {analyzer : Analyzer} {place : String}
    {deliveries : List (Document × Bool)} (awaits : analyzer.Awaits place deliveries) :
    (analyzer.deliver deliveries).Awaits (lastPlace place deliveries) [] := by
  induction deliveries generalizing analyzer place with
  | nil => exact awaits
  | cons delivery deliveries ih =>
      rw [lastPlace_cons]
      exact ih awaits.analyzeDocument

theorem Analyzer.deliver_expected (analyzer : Analyzer) (deliveries : List (Document × Bool)) :
    (analyzer.deliver deliveries).state.expected = analyzer.state.expected := by
  induction deliveries generalizing analyzer with
  | nil => rfl
  | cons delivery deliveries ih => exact (ih _).trans (analyzer.analyzeDocument_expected _ _)

theorem Analyzer.awaits_expecting (place : String) (deliveries : List (Document × Bool)) :
    (expecting (deliveries.countP fun delivery => delivery.2 && !delivery.1.isTest)).Awaits
      place deliveries where
  visits := by simp [expecting, State.expecting]
  silent := fun _ => rfl
  placed := by simp [expecting, absenceReports, Collector.empty]

/-- Without a countable document, finishing reports at the module itself. -/
theorem Analyzer.Awaits.finish {analyzer : Analyzer} {place : String}
    (awaits : analyzer.Awaits place []) (defaultModule : String)
    (uncounted : analyzer.state.expected = 0 → place = defaultModule) :
    ∀ diagnostic ∈ (analyzer.finish defaultModule).absenceReports,
      diagnostic = absenceAt place := by
  rcases finished : analyzer.state.moduleFinished (.ofDocument defaultModule) with
    ⟨diagnostic, state⟩
  rw [Analyzer.finish, finished]
  by_cases expects : analyzer.state.expected = 0
  · have said := State.moduleFinished_fst analyzer.state (.ofDocument defaultModule)
    rw [finished] at said
    rcases said with rfl | rfl
    · exact awaits.placed
    · intro other member
      simp only [Analyzer.absenceReports, emit, Collector.emit, List.filter_append,
        List.mem_append] at member
      rcases member with earlier | last
      · exact awaits.placed other earlier
      · rw [uncounted expects]
        exact List.mem_singleton.mp (List.mem_of_mem_filter last)
  · simp only [State.moduleFinished, expects, if_false, Prod.mk.injEq] at finished
    obtain ⟨rfl, rfl⟩ := finished
    exact awaits.placed

/-! ### The reports of a project -/

/-- Delivering documents one after the other is one of the ways in which their
analyses can run. -/
theorem exists_run_deliver (total : Nat) (deliveries : List (Document × Bool)) :
    ∃ final, Execution.Run (.start total deliveries) final ∧ final.isDone = true ∧
      final.analyzer = (Analyzer.expecting total).deliver deliveries :=
  ⟨_, Execution.run_complete _ [], Execution.isDone_complete _ [],
    Execution.analyzer_complete_nil total deliveries⟩

section Project

variable {project : Project} {deliveries : List (Document × Bool)} {total : Nat}
  {final : Execution}

theorem Execution.Run.found_iff_exposedNames (marked : project.IsMarked)
    (rearranged : deliveries.Perm project.deliveries)
    (run : Execution.Run (.start total deliveries) final) (done : final.isDone = true) :
    final.analyzer.state.found = true ↔ project.defaultModule.exposedNames ≠ [] := by
  obtain ⟨history, all, reflects⟩ := run.reflects_of_isDone done
  rw [reflects.found, all.mem_iff, (Access.ofDeliveries_perm rearranged).mem_iff,
    Access.markFound_mem_ofDeliveries, filterMap_kept?_ofDeliveries marked,
    SourceModule.exposedNames, ← map_name_flatMap_transformers, ne_eq, ne_eq, List.map_eq_nil_iff]

/-- An analysis that is finished has reported the absence of transformers as
often as it is to be reported, each time at the last countable document. -/
theorem absenceReports_finish_deliver (marked : project.IsMarked)
    (rearranged : deliveries.Perm project.deliveries) :
    (((Analyzer.forModule project.defaultModule).deliver deliveries).finish
        project.defaultModule.name).absenceReports =
      if project.defaultModule.exposedNames = [] then
        [absenceAt (lastPlace project.defaultModule.name deliveries)]
      else [] := by
  have counted : project.defaultModule.countableDocuments =
      deliveries.countP fun delivery => delivery.2 && !delivery.1.isTest := by
    rw [rearranged.countP_eq, marked.countP_deliveries]
  rw [Analyzer.forModule, counted]
  set total := deliveries.countP fun delivery => delivery.2 && !delivery.1.isTest
  obtain ⟨final, run, done, delivered⟩ := exists_run_deliver total deliveries
  have barrier := run.barrier (Execution.barrier_start deliveries)
  have found := run.found_iff_exposedNames marked rearranged done
  have awaits := (Analyzer.awaits_expecting project.defaultModule.name deliveries).deliver
  have placed := awaits.finish project.defaultModule.name (by
    rw [Analyzer.deliver_expected]
    exact lastPlace_of_uncountable)
  have number := barrier.absences_finish done project.defaultModule.name
  rw [delivered] at number found
  rw [Analyzer.absences, List.countP_eq_length_filter] at number
  rw [List.eq_replicate_of_mem placed, Analyzer.absenceReports, number]
  by_cases exposed : project.defaultModule.exposedNames = []
  · simp [exposed, show _ = false by simpa [exposed] using found]
  · simp [exposed, found.mpr exposed]

/-- In whatever order documents are delivered, there is one report of absence
if the default module exposes nothing, and it stands at the last countable
document. -/
theorem absenceReports_analyzeDelivered (marked : project.IsMarked)
    (rearranged : deliveries.Perm project.deliveries) :
    (project.analyzeDelivered deliveries).absenceReports =
      if project.defaultModule.exposedNames = [] then
        [absenceAt (lastPlace project.defaultModule.name deliveries)]
      else [] := by
  have reported := absenceReports_finish_deliver marked rearranged
  set analyzer := ((Analyzer.forModule project.defaultModule).deliver deliveries).finish
    project.defaultModule.name
  have sorted : (project.analyzeDelivered deliveries).absenceReports.Perm
      analyzer.absenceReports :=
    (Sorting.sort_perm Diagnostic.precedes analyzer.collector.arrived).filter _
  rw [reported] at sorted
  split_ifs at sorted ⊢
  · exact List.perm_singleton.mp sorted
  · exact List.perm_nil.mp sorted

/-- Two orders of delivery agree on whether absence is reported and on what is
said, and differ at most in the place, which is the document that each of them
delivers last among the countable ones. -/
theorem absenceReports_of_rearranged {first second : List (Document × Bool)}
    (marked : project.IsMarked) (firstRearranged : first.Perm project.deliveries)
    (secondRearranged : second.Perm project.deliveries) :
    (project.defaultModule.exposedNames ≠ [] →
      (project.analyzeDelivered first).absenceReports = [] ∧
      (project.analyzeDelivered second).absenceReports = []) ∧
    (project.defaultModule.exposedNames = [] →
      (project.analyzeDelivered first).absenceReports =
        [absenceAt (lastPlace project.defaultModule.name first)] ∧
      (project.analyzeDelivered second).absenceReports =
        [absenceAt (lastPlace project.defaultModule.name second)]) ∧
    (lastPlace project.defaultModule.name first = lastPlace project.defaultModule.name second →
      (project.analyzeDelivered first).absenceReports =
        (project.analyzeDelivered second).absenceReports) := by
  rw [absenceReports_analyzeDelivered marked firstRearranged,
    absenceReports_analyzeDelivered marked secondRearranged]
  refine ⟨?_, ?_, ?_⟩
  · intro exposed
    exact ⟨if_neg exposed, if_neg exposed⟩
  · intro unexposed
    exact ⟨if_pos unexposed, if_pos unexposed⟩
  · intro samePlace
    rw [samePlace]

end Project

/-- A default module of two documents that declare nothing. -/
def declaringNothing : Project where
  config := .named "app"
  defaultModule := .ofDocuments "app" true [.empty "a.yaml", .empty "b.yaml"]
  namedModules := []

/-- Delivered backwards, the first document is the last one. -/
theorem absenceReports_declaringNothing :
    declaringNothing.IsMarked ∧
      declaringNothing.deliveries.reverse.Perm declaringNothing.deliveries ∧
      (declaringNothing.analyzeDelivered declaringNothing.deliveries).absenceReports =
        [absenceAt "b.yaml"] ∧
      (declaringNothing.analyzeDelivered declaringNothing.deliveries.reverse).absenceReports =
        [absenceAt "a.yaml"] := by
  have marked : declaringNothing.IsMarked := ⟨rfl, by decide⟩
  have backwards := declaringNothing.deliveries.reverse_perm
  obtain ⟨_, reported, _⟩ := absenceReports_of_rearranged marked (.refl _) backwards
  obtain ⟨forth, back⟩ := reported rfl
  exact ⟨marked, backwards, forth, back⟩

/-- The order of delivery shows in the report that no transformer was found. -/
theorem absenceReports_reverse_ne :
    declaringNothing.IsMarked ∧
      declaringNothing.deliveries.reverse.Perm declaringNothing.deliveries ∧
      (declaringNothing.analyzeDelivered declaringNothing.deliveries.reverse).absenceReports ≠
        (declaringNothing.analyzeDelivered declaringNothing.deliveries).absenceReports :=
  ⟨⟨rfl, by decide⟩, declaringNothing.deliveries.reverse_perm, by decide +kernel⟩

end PureService.Analysis
