import PureService.Proofs.Analysis.Interleaving

/-!
# Runs and schedules

A schedule lets the analyses of documents take turns.  The executions to which
schedules lead at the end are exactly those to which the analyses come in any
order of their steps, so what holds of every run holds of every schedule.
Without a schedule the documents are analyzed one after the other.
-/

namespace PureService.Analysis

open Relation

namespace Task

variable {analyzer next : Analyzer} {task moved : Task}

theorem stepsLeft_lt_of_step (moves : task.step analyzer = some (next, moved)) :
    moved.stepsLeft < task.stepsLeft := by
  cases step_eq_some_iff.mp moves <;> simp [stepsLeft]

theorem isDone_of_stepsLeft_eq_zero (nothing : task.stepsLeft = 0) : task.isDone = true := by
  obtain ⟨document, inDefaultModule, stage⟩ := task
  cases stage <;> simp [stepsLeft] at nothing
  rfl

end Task

namespace Execution

/-! ### Turns -/

section Advance

variable (before after : List Task) {task : Task} {analyzer : Analyzer}

theorem advance_of_step {next : Analyzer} {moved : Task}
    (moves : task.step analyzer = some (next, moved)) :
    advance ⟨analyzer, before ++ task :: after⟩ before.length =
      ⟨next, before ++ moved :: after⟩ := by
  simp [advance, moves]

theorem advance_of_isDone (done : task.isDone = true) :
    advance ⟨analyzer, before ++ task :: after⟩ before.length =
      ⟨analyzer, before ++ task :: after⟩ := by
  simp [advance, Task.step_eq_none_iff.mpr done]

end Advance

/-- A turn is a step, or it changes nothing. -/
theorem advance_cases (execution : Execution) (place : Nat) :
    execution.advance place = execution ∨ Step execution (execution.advance place) := by
  obtain ⟨analyzer, tasks⟩ := execution
  rcases Nat.lt_or_ge place tasks.length with inside | outside
  · obtain ⟨before, task, after, rfl, rfl⟩ : ∃ before task after,
        tasks = before ++ task :: after ∧ place = before.length :=
      ⟨tasks.take place, tasks[place], tasks.drop (place + 1), by simp, by simp; omega⟩
    cases moves : task.step analyzer with
    | none => exact .inl (advance_of_isDone before after (Task.step_eq_none_iff.mp moves))
    | some result =>
        rw [advance_of_step before after moves]
        exact .inr (.advance before after moves)
  · simp [advance, List.getElem?_eq_none outside]

theorem Step.isDone_eq_false {execution next : Execution} (step : Step execution next) :
    execution.isDone = false := by
  obtain ⟨before, after, moves⟩ := step
  refine Bool.eq_false_iff.mpr fun done => ?_
  have taskDone := List.all_eq_true.mp done _ (List.mem_append_right before List.mem_cons_self)
  rw [Task.step_eq_none_iff.mpr taskDone] at moves
  cases moves

theorem follow_append (execution : Execution) (first second : Schedule) :
    execution.follow (first ++ second) = (execution.follow first).follow second :=
  List.foldl_append

theorem follow_of_isDone {execution : Execution} (done : execution.isDone = true)
    (schedule : Schedule) : execution.follow schedule = execution := by
  induction schedule with
  | nil => rfl
  | cons place schedule ih =>
      rcases execution.advance_cases place with same | step
      · rw [follow, List.foldl_cons, same]
        exact ih
      · rw [step.isDone_eq_false] at done
        cases done

/-- Following a schedule is one of the ways in which the analyses can run. -/
theorem run_follow (execution : Execution) (schedule : Schedule) :
    Run execution (execution.follow schedule) := by
  induction schedule generalizing execution with
  | nil => exact .refl
  | cons place schedule ih =>
      have rest : Run (execution.advance place) (execution.follow (place :: schedule)) := ih _
      rcases execution.advance_cases place with same | step
      · rwa [same] at rest
      · exact .head step rest

/-- In whatever order the analyses take steps, a schedule has them in this order. -/
theorem Run.exists_follow {execution reached : Execution} (run : Run execution reached) :
    ∃ schedule, execution.follow schedule = reached := by
  induction run with
  | refl => exact ⟨[], rfl⟩
  | tail _ step ih =>
      obtain ⟨schedule, followed⟩ := ih
      obtain ⟨before, after, moves⟩ := step
      refine ⟨schedule ++ [before.length], ?_⟩
      rw [follow_append, followed]
      exact advance_of_step before after moves

/-! ### Coming to an end -/

section Turns

variable (before after : List Task)

theorem follow_replicate_of_isDone {task : Task} (done : task.isDone = true)
    (analyzer : Analyzer) (turns : Nat) :
    follow ⟨analyzer, before ++ task :: after⟩ (.replicate turns before.length) =
      ⟨analyzer, before ++ task :: after⟩ := by
  induction turns with
  | zero => rfl
  | succ turns ih =>
      rw [List.replicate_succ, follow, List.foldl_cons, advance_of_isDone before after done]
      exact ih

theorem exists_follow_replicate {turns : Nat} (task : Task) (analyzer : Analyzer)
    (enough : task.stepsLeft ≤ turns) :
    ∃ next done, done.isDone = true ∧
      follow ⟨analyzer, before ++ task :: after⟩ (.replicate turns before.length) =
        ⟨next, before ++ done :: after⟩ := by
  -- The induction is on the turns: a step uses one of them and leaves fewer steps to take.
  induction turns generalizing task analyzer with
  | zero =>
      exact ⟨analyzer, task, Task.isDone_of_stepsLeft_eq_zero (Nat.le_zero.mp enough), rfl⟩
  | succ turns ih =>
      cases moves : task.step analyzer with
      | none =>
          have done := Task.step_eq_none_iff.mp moves
          exact ⟨analyzer, task, done, follow_replicate_of_isDone before after done analyzer _⟩
      | some result =>
          have fewer := Task.stepsLeft_lt_of_step moves
          rw [List.replicate_succ, follow, List.foldl_cons, advance_of_step before after moves]
          exact ih result.2 result.1 (by omega)

end Turns

/-- The remaining turns bring every analysis to its end. -/
theorem exists_follow_turnsFrom (before tasks : List Task) (analyzer : Analyzer) :
    ∃ next done, done.all Task.isDone = true ∧
      follow ⟨analyzer, before ++ tasks⟩ (turnsFrom before.length tasks) =
        ⟨next, before ++ done⟩ := by
  -- The analyses before the remaining ones have had their turns.
  induction tasks generalizing before analyzer with
  | nil => exact ⟨analyzer, [], rfl, rfl⟩
  | cons task tasks ih =>
      obtain ⟨middle, first, firstDone, followed⟩ :=
        exists_follow_replicate before tasks task analyzer (Nat.le_refl _)
      obtain ⟨next, rest, restDone, followedRest⟩ := ih (before ++ [first]) middle
      refine ⟨next, first :: rest, by simpa [firstDone] using restDone, ?_⟩
      rw [turnsFrom, follow_append, followed]
      simpa using followedRest

theorem isDone_complete (execution : Execution) (schedule : Schedule) :
    (execution.complete schedule).isDone = true := by
  obtain ⟨next, done, allDone, followed⟩ := exists_follow_turnsFrom []
    (execution.follow schedule).tasks (execution.follow schedule).analyzer
  have completed : execution.complete schedule = ⟨next, done⟩ := followed
  rw [completed]
  exact allDone

theorem run_complete (execution : Execution) (schedule : Schedule) :
    Run execution (execution.complete schedule) :=
  (run_follow execution schedule).trans (run_follow _ _)

/-- Complete schedules lead to the executions to which the analyses come at
their end in any order of their steps. -/
theorem exists_complete_iff {execution final : Execution} :
    (∃ schedule, execution.complete schedule = final) ↔
      Run execution final ∧ final.isDone = true := by
  constructor
  · rintro ⟨schedule, rfl⟩
    exact ⟨run_complete execution schedule, isDone_complete execution schedule⟩
  · rintro ⟨run, done⟩
    obtain ⟨schedule, rfl⟩ := run.exists_follow
    exact ⟨schedule, follow_of_isDone done _⟩

end Execution

/-! ### One document after the other -/

namespace Execution

theorem Step.of_singleton {analyzer : Analyzer} {task : Task} {next : Execution}
    (step : Step ⟨analyzer, [task]⟩ next) :
    ∃ changed moved, task.step analyzer = some (changed, moved) ∧ next = ⟨changed, [moved]⟩ := by
  generalize single : (⟨analyzer, [task]⟩ : Execution) = execution at step
  obtain ⟨before, after, moves⟩ := step
  obtain ⟨rfl, same⟩ := Execution.mk.inj single
  rcases List.append_eq_singleton_iff.mp same.symm with ⟨rfl, only⟩ | ⟨-, none⟩
  · obtain ⟨rfl, rfl⟩ := List.cons.inj only
    exact ⟨_, _, moves, rfl⟩
  · cases none

section Alone

variable (before after : List Task)

/-- What an analysis can do alone, it does among others while only it has turns. -/
theorem Run.exists_turns {analyzer : Analyzer} {task : Task} {reached : Execution}
    (run : Run ⟨analyzer, [task]⟩ reached) :
    ∃ next moved turns, reached = ⟨next, [moved]⟩ ∧
      follow ⟨analyzer, before ++ task :: after⟩ (.replicate turns before.length) =
        ⟨next, before ++ moved :: after⟩ := by
  induction run with
  | refl => exact ⟨analyzer, task, 0, rfl, rfl⟩
  | tail _ step ih =>
      obtain ⟨middle, middleTask, turns, rfl, followed⟩ := ih
      obtain ⟨next, moved, moves, rfl⟩ := step.of_singleton
      refine ⟨next, moved, turns + 1, rfl, ?_⟩
      rw [List.replicate_succ', follow_append, followed]
      exact advance_of_step before after moves

/-- A document that has all its turns in a row is analyzed without interruption. -/
theorem follow_start (delivery : Document × Bool) (analyzer : Analyzer) :
    ∃ done, done.isDone = true ∧
      follow ⟨analyzer, before ++ Task.start delivery :: after⟩
          (.replicate (Task.start delivery).stepsLeft before.length) =
        ⟨analyzer.analyzeDocument delivery.1 delivery.2, before ++ done :: after⟩ := by
  obtain ⟨done, isDone, run⟩ := run_analyzeDocument [] [] delivery.1 delivery.2 analyzer
  obtain ⟨next, moved, turns, reached, followed⟩ := run.exists_turns before after
  obtain ⟨rfl, same⟩ := Execution.mk.inj reached
  obtain rfl : done = moved := by simpa using same
  obtain ⟨ended, last, lastDone, followedAll⟩ := exists_follow_replicate before after
    (Task.start delivery) analyzer (Nat.le_refl _)
  -- Both numbers of turns bring the analysis to its end, and further turns are not used.
  refine ⟨done, isDone, ?_⟩
  calc
    follow ⟨analyzer, before ++ Task.start delivery :: after⟩
        (.replicate (Task.start delivery).stepsLeft before.length) =
      follow ⟨analyzer, before ++ Task.start delivery :: after⟩
        (.replicate ((Task.start delivery).stepsLeft + turns) before.length) := by
      rw [List.replicate_add, follow_append, followedAll,
        follow_replicate_of_isDone before after lastDone]
    _ = ⟨analyzer.analyzeDocument delivery.1 delivery.2, before ++ done :: after⟩ := by
      rw [Nat.add_comm, List.replicate_add, follow_append, followed,
        follow_replicate_of_isDone before after isDone]

end Alone

theorem exists_follow_deliveries (before : List Task) (deliveries : List (Document × Bool))
    (analyzer : Analyzer) :
    ∃ done, done.all Task.isDone = true ∧
      follow ⟨analyzer, before ++ deliveries.map Task.start⟩
          (turnsFrom before.length (deliveries.map Task.start)) =
        ⟨deliveries.foldl (fun current delivery =>
          current.analyzeDocument delivery.1 delivery.2) analyzer, before ++ done⟩ := by
  induction deliveries generalizing before analyzer with
  | nil => exact ⟨[], rfl, rfl⟩
  | cons delivery deliveries ih =>
      obtain ⟨first, firstDone, followed⟩ :=
        follow_start before (deliveries.map Task.start) delivery analyzer
      obtain ⟨rest, restDone, followedRest⟩ := ih (before ++ [first])
        (analyzer.analyzeDocument delivery.1 delivery.2)
      refine ⟨first :: rest, by simpa [firstDone] using restDone, ?_⟩
      rw [List.map_cons, turnsFrom, follow_append, followed]
      simpa using followedRest

/-- Without a schedule, the documents are analyzed one after the other. -/
theorem analyzer_complete_nil (total : Nat) (deliveries : List (Document × Bool)) :
    ((start total deliveries).complete []).analyzer =
      deliveries.foldl (fun current delivery => current.analyzeDocument delivery.1 delivery.2)
        (.expecting total) := by
  obtain ⟨done, -, followed⟩ := exists_follow_deliveries [] deliveries (.expecting total)
  exact congrArg Execution.analyzer followed

end Execution

/-! ### Reports -/

/-- The reports of concurrent analyses are those with which the runs of the analyses end. -/
theorem exists_analyzeConcurrently_iff {project : Project} {report : Report} :
    (∃ schedule, project.analyzeConcurrently schedule = report) ↔
      ∃ final, Execution.Run (.ofProject project) final ∧ final.isDone = true ∧
        (final.analyzer.finish project.defaultModule.name).report = report := by
  constructor
  · rintro ⟨schedule, rfl⟩
    exact ⟨_, Execution.run_complete _ schedule, Execution.isDone_complete _ schedule, rfl⟩
  · rintro ⟨final, run, done, rfl⟩
    obtain ⟨schedule, rfl⟩ := Execution.exists_complete_iff.mpr ⟨run, done⟩
    exact ⟨schedule, rfl⟩

theorem analyzeConcurrently_nil (project : Project) :
    project.analyzeConcurrently [] = project.analyze := by
  rw [Project.analyzeConcurrently, Execution.ofProject, Execution.analyzer_complete_nil,
    Project.analyze, analyzeModules, Project.deliveries, Project.modules]
  simp only [List.foldl_flatMap, List.foldl_map]
  rfl

theorem exists_run_analyze (project : Project) :
    ∃ final, Execution.Run (.ofProject project) final ∧ final.isDone = true ∧
      project.analyze = (final.analyzer.finish project.defaultModule.name).report :=
  ⟨_, Execution.run_complete _ [], Execution.isDone_complete _ [],
    (analyzeConcurrently_nil project).symm⟩

/-- However a project is analyzed, its report is the one with which some run of
the analyses ends. -/
theorem exists_run_analyzeBy (project : Project) (delivery : Option Delivery)
    (schedule : Schedule) :
    ∃ final, Execution.Run (.ofProject project) final ∧ final.isDone = true ∧
      project.analyzeBy delivery schedule =
        (final.analyzer.finish project.defaultModule.name).report := by
  rw [Project.analyzeBy]
  cases delivery.getD project.config.analysis.delivery with
  | sequential => exact exists_run_analyze project
  | concurrent =>
      exact ⟨_, Execution.run_complete _ schedule, Execution.isDone_complete _ schedule, rfl⟩

end PureService.Analysis
