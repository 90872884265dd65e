import PureService.Proofs.Analysis.Conservation

/-!
# Reporting that there is no transformer

The document that completes the expected number decides whether a missing
transformer is reported.  The invariant `Execution.Barrier` ties the number of
documents seen to the tasks that have not been counted, and the latch to the
reports that were made or are about to be made.  From it follows that a
finished analysis of a module holds exactly one report of absence when no name
was accepted, and none otherwise, in whatever order the tasks took their steps.
-/

namespace PureService.Analysis

/-- There are countable documents, and all of them have been seen. -/
def State.IsComplete (state : State) : Prop :=
  0 < state.visited ∧ state.visited = state.expected

/-- What is said at the end of an analysis is at most that there is no transformer. -/
theorem State.moduleFinished_fst (state : State) (location : Location) :
    (state.moduleFinished location).1 = none ∨
      (state.moduleFinished location).1 = some (.ofRule .someTransformer location) := by
  by_cases expects : state.expected = 0
  · cases found : state.found <;> cases reported : state.reported <;>
      simp [moduleFinished, reportAbsence, claim, expects, found, reported]
  · simp [moduleFinished, expects]

/-- How often the absence of transformers has been reported. -/
def Analyzer.absences (analyzer : Analyzer) : Nat :=
  analyzer.collector.arrived.countP (·.rule == .someTransformer)

section Absences

variable (analyzer : Analyzer)

@[simp]
theorem Analyzer.absences_with_state (state : State) :
    ({ analyzer with state } : Analyzer).absences = analyzer.absences :=
  rfl

@[simp]
theorem Analyzer.absences_emit_someTransformer (location : Location) :
    (analyzer.emit (some (.ofRule .someTransformer location))).absences =
      analyzer.absences + 1 := by
  simp [absences, emit, Collector.emit, Diagnostic.ofRule]

theorem Analyzer.filter_someTransformer_perform {document : Document} {inDefaultModule : Bool}
    {access : Access} (declared : access ∈ Access.ofDocument document inDefaultModule) :
    (analyzer.perform access).collector.arrived.filter (·.rule == .someTransformer) =
      analyzer.collector.arrived.filter (·.rule == .someTransformer) := by
  cases access with
  | emit diagnostic =>
      have other := Access.rule_ne_someTransformer_of_finding_mem document inDefaultModule
        (List.mem_filterMap.mpr ⟨_, declared, rfl⟩)
      simp [perform, emit, Collector.emit, other]
  | _ => rfl

theorem Analyzer.absences_perform {document : Document} {inDefaultModule : Bool}
    {access : Access} (declared : access ∈ Access.ofDocument document inDefaultModule) :
    (analyzer.perform access).absences = analyzer.absences := by
  simp only [absences, List.countP_eq_length_filter,
    analyzer.filter_someTransformer_perform declared]

end Absences

namespace Task

/-- The document is countable and has not been counted. -/
def isOutstanding (task : Task) : Bool :=
  task.isCountable && match task.stage with
    | .declaring _ => true
    | _ => false

def isReporting (task : Task) : Bool :=
  task.stage == .reporting

/-- The task completed the expected number and has not come to an end. -/
def isDeciding (expected : Nat) (task : Task) : Bool :=
  match task.stage with
  | .comparing visited => visited == expected
  | .checking | .claiming | .reporting => true
  | _ => false

/-- What the stage of a task says about the shared state. -/
def Fits (state : State) (task : Task) : Prop :=
  match task.stage with
  | .declaring accesses =>
    ∀ access ∈ accesses, access ∈ Access.ofDocument task.document task.inDefaultModule
  | .comparing visited => 0 < visited ∧ visited ≤ state.visited
  | .checking => state.IsComplete
  | .claiming | .reporting => state.IsComplete ∧ state.found = false
  | .finished => True

end Task

/-- The state went on without taking back what a complete number of visits
has decided. -/
structure State.Precedes (state next : State) : Prop where
  expected_eq : next.expected = state.expected
  visited_le : state.visited ≤ next.visited
  visited_eq : state.IsComplete → next.visited = state.visited
  found_eq : state.IsComplete → next.found = state.found

theorem State.Precedes.isComplete {state next : State} (precedes : state.Precedes next)
    (complete : state.IsComplete) : next.IsComplete := by
  rw [IsComplete, precedes.visited_eq complete, precedes.expected_eq]
  exact complete

theorem Task.Fits.mono {state next : State} {task : Task} (fits : task.Fits state)
    (precedes : state.Precedes next) : task.Fits next := by
  obtain ⟨document, inDefaultModule, stage⟩ := task
  cases stage with
  | declaring accesses => exact fits
  | comparing visited => exact ⟨fits.1, Nat.le_trans fits.2 precedes.visited_le⟩
  | checking => exact precedes.isComplete fits
  | claiming =>
      exact ⟨precedes.isComplete fits.1, (precedes.found_eq fits.1).trans fits.2⟩
  | reporting =>
      exact ⟨precedes.isComplete fits.1, (precedes.found_eq fits.1).trans fits.2⟩
  | finished => trivial

/-- The invariant of interleaved analyses that share a barrier. -/
structure Execution.Barrier (execution : Execution) : Prop where
  visits : execution.analyzer.state.visited + execution.tasks.countP Task.isOutstanding =
    execution.analyzer.state.expected
  fits : ∀ task ∈ execution.tasks, task.Fits execution.analyzer.state
  claimed : execution.analyzer.state.reported = true →
    execution.analyzer.state.IsComplete ∧ execution.analyzer.state.found = false
  reports : execution.analyzer.absences + execution.tasks.countP Task.isReporting =
    execution.analyzer.state.reported.toNat
  settled : execution.analyzer.state.IsComplete →
    (∃ task ∈ execution.tasks,
      task.isDeciding execution.analyzer.state.expected = true) ∨
    execution.analyzer.state.reported = !execution.analyzer.state.found

namespace Execution

theorem barrier_start (deliveries : List (Document × Bool)) :
    (start (deliveries.countP fun delivery => delivery.2 && !delivery.1.isTest)
      deliveries).Barrier where
  visits := by
    simp [start, Analyzer.expecting, State.expecting, List.countP_map, Function.comp_def,
      Task.start, Task.isOutstanding, Task.isCountable]
  fits := by
    intro task member
    obtain ⟨delivery, _, rfl⟩ := List.mem_map.mp member
    exact fun access declared => declared
  claimed := by simp [start, Analyzer.expecting, State.expecting]
  reports := by
    simp [start, Analyzer.expecting, State.expecting, Analyzer.absences, Collector.empty,
      Task.start, Task.isReporting]
  settled := by simp [start, Analyzer.expecting, State.expecting, State.IsComplete]

namespace Barrier

/-- As long as a countable document has not been counted, the number of
visits is not complete. -/
theorem not_isComplete {execution : Execution} (barrier : execution.Barrier) {task : Task}
    (member : task ∈ execution.tasks) (outstanding : task.isOutstanding = true) :
    ¬ execution.analyzer.state.IsComplete := by
  rintro ⟨_, complete⟩
  have positive : 0 < execution.tasks.countP Task.isOutstanding :=
    List.countP_pos_iff.mpr ⟨task, member, outstanding⟩
  have visits := barrier.visits
  omega

variable {analyzer next : Analyzer} {task moved : Task} {before after : List Task}

theorem precedes (barrier : (⟨analyzer, before ++ task :: after⟩ : Execution).Barrier)
    (move : task.Move analyzer next moved) : analyzer.state.Precedes next.state := by
  have member : task ∈ before ++ task :: after := by simp
  have fits := barrier.fits task member
  cases move with
  | perform document inDefaultModule access rest =>
      cases access with
      | emit diagnostic => exact ⟨rfl, Nat.le_refl _, fun _ => rfl, fun _ => rfl⟩
      | keep transformer => exact ⟨rfl, Nat.le_refl _, fun _ => rfl, fun _ => rfl⟩
      | markFound =>
          have countable := Access.countable_of_markFound_mem document inDefaultModule
            (fits .markFound (by simp))
          have incomplete := barrier.not_isComplete member
            (by simpa [Task.isOutstanding, Task.isCountable] using countable)
          exact ⟨rfl, Nat.le_refl _, fun _ => rfl, fun complete => (incomplete complete).elim⟩
  | visit countable =>
      have incomplete := barrier.not_isComplete member
        (by simp [Task.isOutstanding, Task.isCountable, countable])
      exact ⟨rfl, Nat.le_succ _, fun complete => (incomplete complete).elim,
        fun complete => (incomplete complete).elim⟩
  | _ => exact ⟨rfl, Nat.le_refl _, fun _ => rfl, fun _ => rfl⟩

theorem moved_fits (barrier : (⟨analyzer, before ++ task :: after⟩ : Execution).Barrier)
    (move : task.Move analyzer next moved) : moved.Fits next.state := by
  have fits := barrier.fits task (by simp)
  cases move with
  | perform document inDefaultModule access rest =>
      exact fun other member => fits other (by simp [member])
  | visit countable => exact ⟨Nat.succ_pos _, Nat.le_refl _⟩
  | completes document inDefaultModule =>
      obtain ⟨positive, bounded⟩ : 0 < analyzer.state.expected ∧
        analyzer.state.expected ≤ analyzer.state.visited := fits
      have visits : analyzer.state.visited + _ = analyzer.state.expected := barrier.visits
      have complete : analyzer.state.visited = analyzer.state.expected := by omega
      exact ⟨complete ▸ positive, complete⟩
  | absent document inDefaultModule missing => exact ⟨fits, missing⟩
  | claims document inDefaultModule free => exact fits
  | passes | present | fails | reports => trivial

theorem visits_step (barrier : (⟨analyzer, before ++ task :: after⟩ : Execution).Barrier)
    (move : task.Move analyzer next moved) :
    next.state.visited + (before ++ moved :: after).countP Task.isOutstanding =
      next.state.expected := by
  have visits := barrier.visits
  simp only [List.countP_append, List.countP_cons] at visits ⊢
  cases move with
  | perform document inDefaultModule access rest =>
      simpa [Task.isOutstanding, Task.isCountable] using visits
  | visit countable =>
      simp [Task.isOutstanding, Task.isCountable, countable] at visits
      simp [Task.isOutstanding, State.visit]
      omega
  | _ => simpa [Task.isOutstanding, State.claim] using visits

theorem claimed_step (barrier : (⟨analyzer, before ++ task :: after⟩ : Execution).Barrier)
    (move : task.Move analyzer next moved) (reported : next.state.reported = true) :
    next.state.IsComplete ∧ next.state.found = false := by
  have precedes := barrier.precedes move
  have fits := barrier.fits task (by simp)
  have decided : analyzer.state.IsComplete ∧ analyzer.state.found = false := by
    cases move with
    | perform document inDefaultModule access rest =>
        exact barrier.claimed (by simpa using reported)
    | claims | fails => exact fits
    | _ => exact barrier.claimed reported
  exact ⟨precedes.isComplete decided.1, (precedes.found_eq decided.1).trans decided.2⟩

theorem reports_step (barrier : (⟨analyzer, before ++ task :: after⟩ : Execution).Barrier)
    (move : task.Move analyzer next moved) :
    next.absences + (before ++ moved :: after).countP Task.isReporting =
      next.state.reported.toNat := by
  have fits := barrier.fits task (by simp)
  have reports := barrier.reports
  simp only [List.countP_append, List.countP_cons] at reports ⊢
  cases move with
  | perform document inDefaultModule access rest =>
      simpa [Task.isReporting, analyzer.absences_perform (fits access (by simp))] using reports
  | claims document inDefaultModule free =>
      -- As long as the latch is free, nothing was reported and no report is under way.
      have none : analyzer.absences + (before.countP Task.isReporting +
          after.countP Task.isReporting) = 0 := by
        simpa [Task.isReporting, free] using reports
      simp only [Task.isReporting, State.claim, Analyzer.absences_with_state,
        beq_self_eq_true, if_true, Bool.toNat_true]
      omega
  | fails document inDefaultModule taken =>
      simpa [Task.isReporting, State.claim, taken] using reports
  | reports document inDefaultModule =>
      simp [Task.isReporting] at reports
      simp [Task.isReporting]
      omega
  | visit countable => simpa [Task.isReporting, State.visit] using reports
  | _ => simpa [Task.isReporting] using reports

/-- The decision is not up to a task that is not deciding. -/
theorem settled_elsewhere (barrier : (⟨analyzer, before ++ task :: after⟩ : Execution).Barrier)
    (idle : task.isDeciding analyzer.state.expected = false)
    (complete : analyzer.state.IsComplete) :
    (∃ other ∈ before ++ moved :: after,
      other.isDeciding analyzer.state.expected = true) ∨
      analyzer.state.reported = !analyzer.state.found := by
  rcases barrier.settled complete with ⟨other, member, deciding⟩ | settled
  · left
    have different : other ≠ task := by
      rintro rfl
      simp [idle] at deciding
    refine ⟨other, ?_, deciding⟩
    simp only [List.mem_append, List.mem_cons, different, false_or] at member ⊢
    exact member.imp_right Or.inr
  · exact .inr settled

/-- A decision stays under way until the latch agrees with what was found. -/
theorem settled_step (barrier : (⟨analyzer, before ++ task :: after⟩ : Execution).Barrier)
    (move : task.Move analyzer next moved) (complete : next.state.IsComplete) :
    (∃ other ∈ before ++ moved :: after, other.isDeciding next.state.expected = true) ∨
      next.state.reported = !next.state.found := by
  have precedes := barrier.precedes move
  have fits := barrier.fits task (by simp)
  cases move with
  | perform document inDefaultModule access rest =>
      have before_complete : analyzer.state.IsComplete := by
        simpa [State.IsComplete] using complete
      simpa [precedes.found_eq before_complete] using
        barrier.settled_elsewhere rfl before_complete
  | passes document inDefaultModule early =>
      exact barrier.settled_elsewhere (by simpa [Task.isDeciding] using early) complete
  | visit countable =>
      -- The visit that completes the number leaves the decision to its own task.
      exact .inl ⟨_, List.mem_append_right _ List.mem_cons_self, beq_iff_eq.mpr complete.2⟩
  | completes document inDefaultModule | absent document inDefaultModule missing
  | claims document inDefaultModule free =>
      exact .inl ⟨_, List.mem_append_right _ List.mem_cons_self, rfl⟩
  | present document inDefaultModule found =>
      -- The latch is claimed only if nothing was found.
      right
      cases reported : analyzer.state.reported with
      | false => simp [found]
      | true => simpa [found] using (barrier.claimed reported).2
  | fails document inDefaultModule taken =>
      exact .inr (by simp [State.claim, show analyzer.state.found = false from fits.2])
  | reports document inDefaultModule =>
      have reports := barrier.reports
      right
      cases reported : analyzer.state.reported with
      | true => simp [reported, show analyzer.state.found = false from fits.2]
      | false => simp [reported, Task.isReporting] at reports

theorem step (barrier : (⟨analyzer, before ++ task :: after⟩ : Execution).Barrier)
    (move : task.Move analyzer next moved) :
    (⟨next, before ++ moved :: after⟩ : Execution).Barrier where
  visits := barrier.visits_step move
  claimed := barrier.claimed_step move
  reports := barrier.reports_step move
  settled := barrier.settled_step move
  fits := by
    intro other member
    have precedes := barrier.precedes move
    simp only [List.mem_append, List.mem_cons] at member
    rcases member with earlier | rfl | later
    · exact (barrier.fits other (by simp [earlier])).mono precedes
    · exact barrier.moved_fits move
    · exact (barrier.fits other (by simp [later])).mono precedes

end Barrier

theorem Run.barrier {execution final : Execution} (run : Run execution final)
    (barrier : execution.Barrier) : final.Barrier := by
  induction run with
  | refl => exact barrier
  | tail _ step ih =>
      obtain ⟨before, after, moves⟩ := step
      exact ih.step (Task.step_eq_some_iff.mp moves)

namespace Barrier

variable {execution : Execution}

/-- At the end the latch tells whether all countable documents have been seen
without a transformer among their declarations. -/
theorem reported_of_isDone (barrier : execution.Barrier) (done : execution.isDone = true) :
    execution.analyzer.state.reported =
      (decide (0 < execution.analyzer.state.expected) && !execution.analyzer.state.found) := by
  have ended := fun task member => Task.isDone_iff.mp (List.all_eq_true.mp done task member)
  have counted : execution.tasks.countP Task.isOutstanding = 0 := by
    rw [List.countP_eq_zero]
    intro task member
    rcases ended task member with finished | ⟨declared, uncountable⟩
    · simp [Task.isOutstanding, finished]
    · simp [Task.isOutstanding, uncountable]
  have visits := barrier.visits
  rw [counted, Nat.add_zero] at visits
  by_cases expects : 0 < execution.analyzer.state.expected
  · rcases barrier.settled ⟨visits ▸ expects, visits⟩ with ⟨task, member, deciding⟩ | settled
    · rcases ended task member with finished | ⟨declared, _⟩
      · simp [Task.isDeciding, finished] at deciding
      · simp [Task.isDeciding, declared] at deciding
    · simp [settled, expects]
  · cases reported : execution.analyzer.state.reported with
    | false => simp [expects]
    | true => exact (expects (visits ▸ (barrier.claimed reported).1.1)).elim

theorem absences_of_isDone (barrier : execution.Barrier) (done : execution.isDone = true) :
    execution.analyzer.absences = execution.analyzer.state.reported.toNat := by
  have silent : execution.tasks.countP Task.isReporting = 0 := by
    rw [List.countP_eq_zero]
    intro task member
    rcases Task.isDone_iff.mp (List.all_eq_true.mp done task member) with
      finished | ⟨declared, _⟩
    · simp [Task.isReporting, finished]
    · simp [Task.isReporting, declared]
  simpa [silent] using barrier.reports

/-- Finishing a complete analysis leaves one report of absence if no
transformer was found and none otherwise. -/
theorem absences_finish (barrier : execution.Barrier) (done : execution.isDone = true)
    (place : String) :
    (execution.analyzer.finish place).absences =
      (!execution.analyzer.state.found).toNat := by
  have absences := barrier.absences_of_isDone done
  rw [barrier.reported_of_isDone done] at absences
  rw [Analyzer.finish, State.moduleFinished]
  by_cases expects : execution.analyzer.state.expected = 0
  · have free : execution.analyzer.state.reported = false := by
      rw [barrier.reported_of_isDone done]
      simp [expects]
    have none : execution.analyzer.absences = 0 := by simpa [expects] using absences
    cases found : execution.analyzer.state.found with
    | true => simpa [State.reportAbsence, found, expects, Analyzer.emit] using none
    | false => simp [State.reportAbsence, found, expects, State.claim, free, none]
  · have positive : 0 < execution.analyzer.state.expected := Nat.pos_of_ne_zero expects
    simpa [expects, positive, Analyzer.emit] using absences

end Barrier

end Execution

theorem Analyzer.transformers_finish (analyzer : Analyzer) (place : String) :
    (analyzer.finish place).report.transformers = analyzer.state.names := by
  simp only [finish, report, emit_state, State.moduleFinished, State.reportAbsence, State.claim]
  split
  · split <;> rfl
  · rfl

/-- In whatever order the analyses of the documents of a project take their
steps, finishing them leaves exactly one report of absence when no name was
accepted and none when some name was. -/
theorem absences_finish_eq_one_or_zero {project : Project} (marked : project.IsMarked)
    {final : Execution} (run : Execution.Run (.ofProject project) final)
    (done : final.isDone = true) (place : String) :
    (final.analyzer.finish place).absences =
      if (final.analyzer.finish place).report.transformers = [] then 1 else 0 := by
  rw [Execution.ofProject, ← marked.countP_deliveries] at run
  have barrier := run.barrier (Execution.barrier_start project.deliveries)
  have found := run.found_iff done
  rw [barrier.absences_finish done, Analyzer.transformers_finish]
  cases present : final.analyzer.state.found with
  | true => simp [found.mp present]
  | false => simp [show final.analyzer.state.names = [] by simpa [present] using found]

/-- A project whose only transformer is in a test document. -/
def untransformed : Project where
  config := .named "app"
  defaultModule := .ofDocuments "app" true
    [.empty "a.yaml", .empty "b.yaml",
      { Document.empty "c.yaml" with
        markedTest := true
        declarations := [.function { FunctionDefinition.named "f" with
          qualifiers := [.pub, .isolated]
          body := .expression }] }]
  namedModules := [.ofDocuments "util" false [.empty "d.yaml"]]

/-- The first document is counted before the second one and compares its number
after it. -/
theorem absences_finish_untransformed : untransformed.IsMarked ∧
    ∃ final, Execution.Run (.ofProject untransformed) final ∧ final.isDone = true ∧
      (final.analyzer.finish "app").absences = 1 := by
  have marked : untransformed.IsMarked := ⟨rfl, by decide⟩
  have moves : ∃ final, Execution.Run (.ofProject untransformed) final ∧ final.isDone = true ∧
      (final.analyzer.finish "app").report.transformers = [] :=
    ⟨_, .head (.advance [] [_, _, _] rfl) <| .head (.advance [_] [_, _] rfl) <|
      .head (.advance [_] [_, _] rfl) <| .head (.advance [] [_, _, _] rfl) <|
      .head (.advance [_] [_, _] rfl) <| .head (.advance [_] [_, _] rfl) <|
      .head (.advance [_] [_, _] rfl) .refl, rfl, rfl⟩
  obtain ⟨final, run, done, none⟩ := moves
  exact ⟨marked, final, run, done,
    (absences_finish_eq_one_or_zero marked run done "app").trans (if_pos none)⟩

end PureService.Analysis
