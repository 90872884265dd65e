import PureService.Proofs.Analysis.Classification
import PureService.Proofs.Analysis.Interleaving
import PureService.Proofs.Sorting

/-!
# What interleaved analyses leave behind

However the analyses of documents are interleaved, the changes that their
declarations make are each made once.  At the end the analyzer holds what the
changes of all documents have put into it, in some order; beside that, there
are only reports that no transformer was found.
-/

namespace PureService.Analysis

open Relation

namespace Access

def kept? : Access → Option Transformer
  | keep transformer => some transformer
  | _ => none

def finding? : Access → Option Diagnostic
  | emit diagnostic => some diagnostic
  | _ => none

@[simp]
theorem kept?_comp_emit : kept? ∘ emit = fun _ => none :=
  rfl

@[simp]
theorem finding?_comp_emit : finding? ∘ emit = some :=
  rfl

section Classified

variable (key : DeclarationKey) (classification : Classification)

theorem filterMap_kept?_ofClassification :
    (ofClassification key classification).filterMap kept? =
      (classification.transformer.map (⟨key, ·⟩)).toList := by
  cases transformer : classification.transformer <;>
    simp [ofClassification, transformer, List.filterMap_cons, kept?]

theorem filterMap_finding?_ofClassification :
    (ofClassification key classification).filterMap finding? =
      classification.diagnostics := by
  cases transformer : classification.transformer <;>
    simp [ofClassification, transformer, List.filterMap_cons, finding?]

theorem markFound_mem_ofClassification :
    markFound ∈ ofClassification key classification ↔
      classification.transformer.isSome = true := by
  cases transformer : classification.transformer <;>
    simp [ofClassification, transformer]

end Classified

section Documents

variable (document : Document) (inDefaultModule : Bool)

/-- The transformers of a document under the places where they stand. -/
theorem filterMap_kept?_ofDocument :
    (ofDocument document inDefaultModule).filterMap kept? =
      document.declarations.zipIdx.filterMap fun (declaration, index) =>
        (declaration.transformer? (document.surroundings inDefaultModule)).map
          (⟨⟨document.ordinal, index⟩, ·⟩) := by
  simp only [ofDocument, List.filterMap_flatMap, filterMap_kept?_ofClassification]
  rw [List.filterMap_eq_flatMap_toList]
  rfl

theorem filterMap_finding?_ofDocument :
    (ofDocument document inDefaultModule).filterMap finding? =
      document.declarations.flatMap fun declaration =>
        (declaration.classify (document.surroundings inDefaultModule)).diagnostics := by
  simp only [ofDocument, List.filterMap_flatMap, filterMap_finding?_ofClassification]
  conv_rhs => rw [← List.zipIdx_map_fst 0 document.declarations, List.flatMap_map]

/-- The mark that a transformer was found goes with the names that are kept. -/
theorem markFound_mem_ofDocument :
    markFound ∈ ofDocument document inDefaultModule ↔
      (ofDocument document inDefaultModule).filterMap kept? ≠ [] := by
  simp only [ofDocument, List.filterMap_flatMap, filterMap_kept?_ofClassification,
    List.mem_flatMap, markFound_mem_ofClassification, Option.isSome_iff_ne_none]
  simp

theorem markFound_mem_ofDocument_iff_exists :
    markFound ∈ ofDocument document inDefaultModule ↔
      ∃ declaration ∈ document.declarations,
        (declaration.transformer? (document.surroundings inDefaultModule)).isSome = true := by
  simp only [ofDocument, List.mem_flatMap, markFound_mem_ofClassification]
  constructor
  · rintro ⟨⟨declaration, index⟩, member, exposed⟩
    exact ⟨declaration, List.fst_mem_of_mem_zipIdx member, exposed⟩
  · rintro ⟨declaration, member, exposed⟩
    rw [← List.zipIdx_map_fst 0 document.declarations] at member
    obtain ⟨entry, entryMember, rfl⟩ := List.mem_map.mp member
    exact ⟨entry, entryMember, exposed⟩

/-- Only the countable documents of the default module have transformers. -/
theorem countable_of_markFound_mem (member : markFound ∈ ofDocument document inDefaultModule) :
    (inDefaultModule && !document.isTest) = true := by
  obtain ⟨⟨declaration, index⟩, _, marked⟩ := List.mem_flatMap.mp member
  rw [markFound_mem_ofClassification] at marked
  obtain ⟨name, transformer⟩ := Option.isSome_iff_exists.mp marked
  have stands := Declaration.surroundings_of_transformer? transformer
  simpa [Document.surroundings] using stands

theorem rule_ne_someTransformer_of_finding_mem {diagnostic : Diagnostic}
    (member : diagnostic ∈ (ofDocument document inDefaultModule).filterMap finding?) :
    diagnostic.rule ≠ .someTransformer := by
  rw [filterMap_finding?_ofDocument] at member
  obtain ⟨declaration, _, member⟩ := List.mem_flatMap.mp member
  exact Declaration.rule_ne_someTransformer member

end Documents

/-- The changes for all delivered documents. -/
def ofDeliveries (deliveries : List (Document × Bool)) : List Access :=
  deliveries.flatMap fun delivery => ofDocument delivery.1 delivery.2

theorem markFound_mem_ofDeliveries (deliveries : List (Document × Bool)) :
    markFound ∈ ofDeliveries deliveries ↔
      (ofDeliveries deliveries).filterMap kept? ≠ [] := by
  simp only [ofDeliveries, List.mem_flatMap, markFound_mem_ofDocument, List.filterMap_flatMap,
    ne_eq, List.flatMap_eq_nil_iff, not_forall, exists_prop]

end Access

/-- The findings about declarations, without reports of absence. -/
def Analyzer.findings (analyzer : Analyzer) : List Diagnostic :=
  analyzer.collector.arrived.filter (·.rule != .someTransformer)

@[simp]
theorem Analyzer.findings_emit_someTransformer (analyzer : Analyzer) (location : Location) :
    (analyzer.emit (some (.ofRule .someTransformer location))).findings = analyzer.findings := by
  simp [emit, findings, Collector.emit, Diagnostic.ofRule]

/-- Apart from reports of absence, the analyzer holds what a history of
changes has put into it. -/
structure Analyzer.Reflects (analyzer : Analyzer) (history : List Access) : Prop where
  recorded : analyzer.state.recorded = history.filterMap Access.kept?
  found : analyzer.state.found = true ↔ Access.markFound ∈ history
  findings : analyzer.findings =
    (history.filterMap Access.finding?).filter (·.rule != .someTransformer)

namespace Analyzer.Reflects

variable {analyzer : Analyzer} {history : List Access}

theorem expecting (total : Nat) : (Analyzer.expecting total).Reflects [] := by
  constructor <;> simp [Analyzer.expecting, State.expecting, Analyzer.findings, Collector.empty]

theorem perform (reflects : analyzer.Reflects history) (access : Access) :
    (analyzer.perform access).Reflects (history ++ [access]) := by
  obtain ⟨recorded, found, findings⟩ := reflects
  cases access <;> constructor <;>
    simp_all [Analyzer.perform, Analyzer.emit, Analyzer.findings, Collector.emit, State.keep,
      State.markFound, List.filterMap_cons, Access.kept?, Access.finding?]

/-- Nothing but the visits and the latch may change without a new entry in the history. -/
theorem with_state (reflects : analyzer.Reflects history) (state : State)
    (sameRecorded : state.recorded = analyzer.state.recorded)
    (sameFound : state.found = analyzer.state.found) :
    ({ analyzer with state } : Analyzer).Reflects history where
  recorded := sameRecorded.trans reflects.recorded
  found := by simpa [sameFound] using reflects.found
  findings := reflects.findings

theorem emit_someTransformer (reflects : analyzer.Reflects history) (location : Location) :
    (analyzer.emit (some (.ofRule .someTransformer location))).Reflects history where
  recorded := reflects.recorded
  found := reflects.found
  findings := by simpa using reflects.findings

end Analyzer.Reflects

/-- The changes that the declarations of the document have yet to make. -/
def Task.pending (task : Task) : List Access :=
  match task.stage with
  | .declaring accesses => accesses
  | _ => []

def Execution.pending (execution : Execution) : List Access :=
  execution.tasks.flatMap Task.pending

/-- A step of a task makes the changes that it takes off the pending ones. -/
theorem Task.Move.reflects {analyzer next : Analyzer} {task moved : Task}
    (move : task.Move analyzer next moved) {history : List Access}
    (reflects : analyzer.Reflects history) :
    ∃ made, task.pending = made ++ moved.pending ∧ next.Reflects (history ++ made) := by
  cases move with
  | perform document inDefaultModule access rest =>
      exact ⟨[access], rfl, reflects.perform access⟩
  | reports document inDefaultModule =>
      exact ⟨[], rfl, by simpa using reflects.emit_someTransformer _⟩
  | visit countable =>
      exact ⟨[], rfl, by simpa using reflects.with_state analyzer.state.visit rfl rfl⟩
  | claims document inDefaultModule free =>
      exact ⟨[], rfl, by simpa using reflects.with_state analyzer.state.claim.2 rfl rfl⟩
  | fails document inDefaultModule taken =>
      exact ⟨[], rfl, by simpa using reflects.with_state analyzer.state.claim.2 rfl rfl⟩
  | _ => exact ⟨[], rfl, by simpa using reflects⟩

/-- The changes that were made and those that are pending are together the
changes for all delivered documents. -/
def Execution.Conserves (execution : Execution) (deliveries : List (Document × Bool)) : Prop :=
  ∃ history, (history ++ execution.pending).Perm (Access.ofDeliveries deliveries) ∧
    execution.analyzer.Reflects history

namespace Execution

variable {deliveries : List (Document × Bool)}

theorem conserves_start (total : Nat) : (start total deliveries).Conserves deliveries := by
  refine ⟨[], ?_, .expecting total⟩
  simp [start, pending, Access.ofDeliveries, List.flatMap_map, Task.start, Task.pending]

theorem Step.conserves {execution next : Execution} (step : Step execution next)
    (conserves : execution.Conserves deliveries) : next.Conserves deliveries := by
  obtain ⟨before, after, moves⟩ := step
  obtain ⟨history, all, reflects⟩ := conserves
  obtain ⟨made, pendingEq, reflects⟩ := (Task.step_eq_some_iff.mp moves).reflects reflects
  refine ⟨history ++ made, List.Perm.trans ?_ all, reflects⟩
  simp only [pending, List.flatMap_append, List.flatMap_cons, pendingEq, List.append_assoc]
  exact (List.perm_append_comm_assoc _ _ _).append_left history

theorem Run.conserves {execution final : Execution} (run : Run execution final)
    (conserves : execution.Conserves deliveries) : final.Conserves deliveries := by
  induction run with
  | refl => exact conserves
  | tail _ step ih => exact step.conserves ih

theorem pending_eq_nil_of_isDone {execution : Execution} (done : execution.isDone = true) :
    execution.pending = [] := by
  rw [pending, List.flatMap_eq_nil_iff]
  intro task member
  rcases Task.isDone_iff.mp (List.all_eq_true.mp done task member) with
    finished | ⟨declared, _⟩
  · rw [Task.pending, finished]
  · rw [Task.pending, declared]

/-- When all documents have been analyzed, the analyzer reflects all their
changes, each once. -/
theorem Run.reflects_of_isDone {total : Nat} {final : Execution}
    (run : Run (start total deliveries) final) (done : final.isDone = true) :
    ∃ history, history.Perm (Access.ofDeliveries deliveries) ∧
      final.analyzer.Reflects history := by
  obtain ⟨history, all, reflects⟩ := run.conserves (conserves_start total)
  rw [pending_eq_nil_of_isDone done, List.append_nil] at all
  exact ⟨history, all, reflects⟩

theorem Run.recorded_perm {total : Nat} {final : Execution}
    (run : Run (start total deliveries) final) (done : final.isDone = true) :
    final.analyzer.state.recorded.Perm
      ((Access.ofDeliveries deliveries).filterMap Access.kept?) := by
  obtain ⟨history, all, reflects⟩ := run.reflects_of_isDone done
  rw [reflects.recorded]
  exact all.filterMap Access.kept?

theorem Run.found_iff {total : Nat} {final : Execution}
    (run : Run (start total deliveries) final) (done : final.isDone = true) :
    final.analyzer.state.found = true ↔ final.analyzer.state.names ≠ [] := by
  obtain ⟨history, all, reflects⟩ := run.reflects_of_isDone done
  have recorded := run.recorded_perm done
  rw [reflects.found, all.mem_iff, Access.markFound_mem_ofDeliveries, State.names, ne_eq, ne_eq,
    List.map_eq_nil_iff, Sorting.sort_eq_nil_iff, ← List.length_eq_zero_iff,
    ← recorded.length_eq, List.length_eq_zero_iff]

theorem Run.findings_perm {total : Nat} {final : Execution}
    (run : Run (start total deliveries) final) (done : final.isDone = true) :
    final.analyzer.findings.Perm
      ((Access.ofDeliveries deliveries).filterMap Access.finding?) := by
  obtain ⟨history, all, reflects⟩ := run.reflects_of_isDone done
  have findings : ∀ diagnostic ∈ (Access.ofDeliveries deliveries).filterMap Access.finding?,
      (diagnostic.rule != .someTransformer) = true := by
    intro diagnostic member
    rw [Access.ofDeliveries, List.filterMap_flatMap] at member
    obtain ⟨⟨document, inDefaultModule⟩, _, member⟩ := List.mem_flatMap.mp member
    simpa using Access.rule_ne_someTransformer_of_finding_mem document inDefaultModule member
  rw [reflects.findings, ← List.filter_eq_self.mpr findings]
  exact (all.filterMap Access.finding?).filter _

end Execution

end PureService.Analysis
