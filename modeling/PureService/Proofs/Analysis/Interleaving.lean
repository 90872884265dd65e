import Mathlib.Data.List.Basic
import Mathlib.Logic.Relation
import PureService.Project

/-!
# Interleaved analyses

Analyses of documents that are delivered at the same time may take their steps
in any order.  This file says what a step can do and what a run of such steps
is, and shows that a document analyzed without interruption takes exactly the
steps that the analyzer takes for it.
-/

namespace PureService

/-- The default module of the project is marked as the default one, and its
named modules are not. -/
structure Project.IsMarked (project : Project) : Prop where
  default : project.defaultModule.isDefault = true
  named : ∀ module_ ∈ project.namedModules, module_.isDefault = false

/-- The documents of the named modules. -/
def Project.namedDocuments (project : Project) : List Document :=
  project.namedModules.flatMap SourceModule.documents

theorem Project.IsMarked.deliveries_eq {project : Project} (marked : project.IsMarked) :
    project.deliveries = project.defaultModule.documents.map (·, true) ++
      project.namedDocuments.map (·, false) := by
  have named : (project.namedModules.flatMap fun module_ =>
      module_.documents.map (·, module_.isDefault)) =
      project.namedModules.flatMap fun module_ => module_.documents.map (·, false) :=
    List.flatMap_congr fun module_ member => by rw [marked.named module_ member]
  rw [deliveries, modules, List.flatMap_cons, marked.default, named, namedDocuments,
    List.map_flatMap]

/-- The default module waits for as many documents as are delivered to it. -/
theorem Project.IsMarked.countP_deliveries {project : Project} (marked : project.IsMarked) :
    project.deliveries.countP (fun delivery => delivery.2 && !delivery.1.isTest) =
      project.defaultModule.countableDocuments := by
  simp [marked.deliveries_eq, List.countP_append, List.countP_map, Function.comp_def,
    SourceModule.countableDocuments]

end PureService

namespace PureService.Analysis

open Relation

section Perform

variable (analyzer : Analyzer) (access : Access)

@[simp]
theorem Analyzer.perform_visited :
    (analyzer.perform access).state.visited = analyzer.state.visited := by
  cases access <;> rfl

@[simp]
theorem Analyzer.perform_expected :
    (analyzer.perform access).state.expected = analyzer.state.expected := by
  cases access <;> rfl

@[simp]
theorem Analyzer.perform_reported :
    (analyzer.perform access).state.reported = analyzer.state.reported := by
  cases access <;> rfl

@[simp]
theorem Analyzer.emit_state (diagnostic : Option Diagnostic) :
    (analyzer.emit diagnostic).state = analyzer.state := by
  cases diagnostic <;> rfl

end Perform

namespace Task

/-- Everything that a step of an analysis can do. -/
inductive Move (analyzer : Analyzer) : Task → Analyzer → Task → Prop where
  | perform (document : Document) (inDefaultModule : Bool) (access : Access)
      (rest : List Access) :
      Move analyzer ⟨document, inDefaultModule, .declaring (access :: rest)⟩
        (analyzer.perform access) ⟨document, inDefaultModule, .declaring rest⟩
  | visit {document : Document} (countable : document.isTest = false) :
      Move analyzer ⟨document, true, .declaring []⟩
        { analyzer with state := analyzer.state.visit }
        ⟨document, true, .comparing (analyzer.state.visited + 1)⟩
  | completes (document : Document) (inDefaultModule : Bool) :
      Move analyzer ⟨document, inDefaultModule, .comparing analyzer.state.expected⟩
        analyzer ⟨document, inDefaultModule, .checking⟩
  | passes (document : Document) (inDefaultModule : Bool) {visited : Nat}
      (early : visited ≠ analyzer.state.expected) :
      Move analyzer ⟨document, inDefaultModule, .comparing visited⟩
        analyzer ⟨document, inDefaultModule, .finished⟩
  | present (document : Document) (inDefaultModule : Bool)
      (found : analyzer.state.found = true) :
      Move analyzer ⟨document, inDefaultModule, .checking⟩
        analyzer ⟨document, inDefaultModule, .finished⟩
  | absent (document : Document) (inDefaultModule : Bool)
      (missing : analyzer.state.found = false) :
      Move analyzer ⟨document, inDefaultModule, .checking⟩
        analyzer ⟨document, inDefaultModule, .claiming⟩
  | claims (document : Document) (inDefaultModule : Bool)
      (free : analyzer.state.reported = false) :
      Move analyzer ⟨document, inDefaultModule, .claiming⟩
        { analyzer with state := analyzer.state.claim.2 }
        ⟨document, inDefaultModule, .reporting⟩
  | fails (document : Document) (inDefaultModule : Bool)
      (taken : analyzer.state.reported = true) :
      Move analyzer ⟨document, inDefaultModule, .claiming⟩
        { analyzer with state := analyzer.state.claim.2 }
        ⟨document, inDefaultModule, .finished⟩
  | reports (document : Document) (inDefaultModule : Bool) :
      Move analyzer ⟨document, inDefaultModule, .reporting⟩
        (analyzer.emit (some (.ofRule .someTransformer (.ofDocument document.name))))
        ⟨document, inDefaultModule, .finished⟩

theorem step_eq_some_iff {analyzer next : Analyzer} {task moved : Task} :
    task.step analyzer = some (next, moved) ↔ Move analyzer task next moved := by
  constructor
  · intro moves
    obtain ⟨document, inDefaultModule, stage⟩ := task
    cases stage with
    | declaring accesses =>
        cases accesses with
        | nil =>
            cases countable : inDefaultModule && !document.isTest <;>
              simp only [step, isCountable, countable, if_true, Bool.false_eq_true,
                if_false, reduceCtorEq] at moves
            obtain ⟨rfl, ordinary⟩ : inDefaultModule = true ∧ document.isTest = false := by
              simpa using countable
            cases moves
            exact .visit ordinary
        | cons access rest =>
            cases moves
            exact .perform document inDefaultModule access rest
    | comparing visited =>
        by_cases completes : visited = analyzer.state.expected
        · subst completes
          simp only [step, moveTo, if_true] at moves
          cases moves
          exact .completes document inDefaultModule
        · simp only [step, moveTo, completes, if_false] at moves
          cases moves
          exact .passes document inDefaultModule completes
    | checking =>
        cases found : analyzer.state.found <;>
          simp only [step, moveTo, found] at moves <;> cases moves
        · exact .absent document inDefaultModule found
        · exact .present document inDefaultModule found
    | claiming =>
        cases reported : analyzer.state.reported <;>
          simp only [step, moveTo, State.claim, reported] at moves <;> cases moves
        · exact .claims document inDefaultModule reported
        · exact .fails document inDefaultModule reported
    | reporting =>
        cases moves
        exact .reports document inDefaultModule
    | finished => cases moves
  · intro move
    cases move <;>
      simp_all [step, moveTo, isCountable, State.claim, State.visit]

/-- The analysis of the document is over. -/
def isDone (task : Task) : Bool :=
  match task.stage with
  | .declaring [] => !task.isCountable
  | .finished => true
  | _ => false

theorem isDone_iff {task : Task} :
    task.isDone = true ↔
      task.stage = .finished ∨ task.stage = .declaring [] ∧ task.isCountable = false := by
  obtain ⟨document, inDefaultModule, stage⟩ := task
  cases stage with
  | declaring accesses => cases accesses <;> simp [isDone]
  | _ => simp [isDone]

theorem step_eq_none_iff {analyzer : Analyzer} {task : Task} :
    task.step analyzer = none ↔ task.isDone = true := by
  obtain ⟨document, inDefaultModule, stage⟩ := task
  cases stage with
  | declaring accesses =>
      cases accesses <;> simp [step, isDone]
  | _ => simp [step, isDone]

end Task

namespace Execution

/-- Any one of the analyses takes its next step. -/
inductive Step : Execution → Execution → Prop where
  | advance {analyzer next : Analyzer} {task moved : Task} (before after : List Task)
      (moves : task.step analyzer = some (next, moved)) :
      Step ⟨analyzer, before ++ task :: after⟩ ⟨next, before ++ moved :: after⟩

/-- The analyses take steps in any order. -/
abbrev Run : Execution → Execution → Prop :=
  ReflTransGen Step

/-- All documents have been analyzed. -/
def isDone (execution : Execution) : Bool :=
  execution.tasks.all Task.isDone

end Execution

/-! ### A document that is analyzed without interruption -/

section Uninterrupted

variable (before after : List Task)

theorem run_perform (document : Document) (inDefaultModule : Bool)
    (accesses rest : List Access) (analyzer : Analyzer) :
    Execution.Run
      ⟨analyzer, before ++ ⟨document, inDefaultModule, .declaring (accesses ++ rest)⟩ :: after⟩
      ⟨accesses.foldl Analyzer.perform analyzer,
        before ++ ⟨document, inDefaultModule, .declaring rest⟩ :: after⟩ := by
  induction accesses generalizing analyzer with
  | nil => exact ReflTransGen.refl
  | cons access accesses ih =>
      exact ReflTransGen.head (.advance before after rfl) (ih (analyzer.perform access))

theorem foldl_perform_emit (diagnostics : List Diagnostic) (analyzer : Analyzer) :
    (diagnostics.map Access.emit).foldl Analyzer.perform analyzer =
      { analyzer with collector := analyzer.collector.emitAll diagnostics } := by
  induction diagnostics generalizing analyzer with
  | nil => simp [Collector.emitAll]
  | cons diagnostic diagnostics ih =>
      rw [List.map_cons, List.foldl_cons, ih]
      simp [Analyzer.perform, Analyzer.emit, Collector.emit, Collector.emitAll]

theorem foldl_perform_ofClassification (key : DeclarationKey)
    (classification : Classification) (analyzer : Analyzer) :
    (Access.ofClassification key classification).foldl Analyzer.perform analyzer =
      analyzer.declare key classification := by
  rw [Access.ofClassification, List.foldl_append, foldl_perform_emit]
  cases transformer : classification.transformer <;>
    simp [Analyzer.declare, Analyzer.perform, State.record, transformer]

theorem foldl_perform_ofDocument (document : Document) (inDefaultModule : Bool)
    (analyzer : Analyzer) :
    (Access.ofDocument document inDefaultModule).foldl Analyzer.perform analyzer =
      analyzer.declareAll document inDefaultModule := by
  rw [Access.ofDocument, Analyzer.declareAll, List.foldl_flatMap]
  simp only [foldl_perform_ofClassification]

theorem run_move {analyzer next : Analyzer} {task moved : Task} {final : Execution}
    (move : task.Move analyzer next moved)
    (rest : Execution.Run ⟨next, before ++ moved :: after⟩ final) :
    Execution.Run ⟨analyzer, before ++ task :: after⟩ final :=
  ReflTransGen.head (.advance before after (Task.step_eq_some_iff.mpr move)) rest

/-- A task that asks whether a transformer was found goes on to report the
absence as the state does. -/
theorem run_reportAbsence (document : Document) (inDefaultModule : Bool)
    (analyzer : Analyzer) :
    Execution.Run ⟨analyzer, before ++ ⟨document, inDefaultModule, .checking⟩ :: after⟩
      ⟨{ analyzer with
          state := (analyzer.state.reportAbsence (.ofDocument document.name)).2 }.emit
          (analyzer.state.reportAbsence (.ofDocument document.name)).1,
        before ++ ⟨document, inDefaultModule, .finished⟩ :: after⟩ := by
  cases found : analyzer.state.found with
  | true =>
      apply run_move before after (.present document inDefaultModule found)
      simp [State.reportAbsence, found, Analyzer.emit, ReflTransGen.refl]
  | false =>
      apply run_move before after (.absent document inDefaultModule found)
      cases reported : analyzer.state.reported with
      | true =>
          apply run_move before after (.fails document inDefaultModule reported)
          simp [State.reportAbsence, found, State.claim, reported, Analyzer.emit,
            ReflTransGen.refl]
      | false =>
          apply run_move before after (.claims document inDefaultModule reported)
          apply run_move before after (.reports document inDefaultModule)
          simp [State.reportAbsence, found, State.claim, reported, ReflTransGen.refl]

/-- A countable document whose declarations are done completes as the
analyzer completes it. -/
theorem run_completeDocument (document : Document) (analyzer : Analyzer)
    (countable : document.isTest = false) :
    Execution.Run ⟨analyzer, before ++ ⟨document, true, .declaring []⟩ :: after⟩
      ⟨analyzer.completeDocument document,
        before ++ ⟨document, true, .finished⟩ :: after⟩ := by
  apply run_move before after (.visit countable)
  rw [Analyzer.completeDocument, State.documentProcessed]
  let counted : Analyzer := { analyzer with state := analyzer.state.visit }
  by_cases completes : analyzer.state.visited + 1 = analyzer.state.expected
  · rw [completes]
    apply run_move before after (.completes document true : Task.Move counted _ _ _)
    simpa [counted, State.visit, completes] using
      run_reportAbsence before after document true counted
  · apply run_move before after (.passes document true completes : Task.Move counted _ _ _)
    simp [counted, State.visit, completes, Analyzer.emit, ReflTransGen.refl]

/-- Analyzing a document is one of the ways in which its task can run. -/
theorem run_analyzeDocument (document : Document) (inDefaultModule : Bool)
    (analyzer : Analyzer) :
    ∃ done : Task, done.isDone = true ∧
      Execution.Run ⟨analyzer, before ++ Task.start (document, inDefaultModule) :: after⟩
        ⟨analyzer.analyzeDocument document inDefaultModule, before ++ done :: after⟩ := by
  have declares := run_perform before after document inDefaultModule
    (Access.ofDocument document inDefaultModule) [] analyzer
  rw [List.append_nil, foldl_perform_ofDocument] at declares
  cases countable : inDefaultModule && !document.isTest with
  | true =>
      obtain ⟨rfl, ordinary⟩ : inDefaultModule = true ∧ document.isTest = false := by
        simpa using countable
      refine ⟨⟨document, true, .finished⟩, rfl, declares.trans ?_⟩
      simpa [Analyzer.analyzeDocument, ordinary] using
        run_completeDocument before after document (analyzer.declareAll document true) ordinary
  | false =>
      refine ⟨⟨document, inDefaultModule, .declaring []⟩, ?_, ?_⟩
      · simp [Task.isDone, Task.isCountable, countable]
      · simpa [Analyzer.analyzeDocument, Task.start, countable] using declares

end Uninterrupted

end PureService.Analysis
