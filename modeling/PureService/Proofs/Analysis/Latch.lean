import PureService.Analysis.State
import PureService.Proofs.Sorting

/-!
# The state under any use

The operations on the state of an analysis may come in any order and any number
of times, and the expected number of documents may change between them.  What
the state holds follows from the operations that were made, and so does which of
them reports that there is no transformer: the first one that completes the
module, provided that nothing has been recorded before it, and no other.
-/

namespace PureService.Analysis

/-- What can be asked of the state of an analysis. -/
inductive Operation where
  | record (transformer : Transformer)
  | documentProcessed (location : Location)
  | moduleFinished (location : Location)
  | expect (total : Nat)
  deriving DecidableEq, Repr

namespace Operation

def transformer? : Operation → Option Transformer
  | record transformer => some transformer
  | _ => none

def total? : Operation → Option Nat
  | expect total => some total
  | _ => none

def isVisit : Operation → Bool
  | documentProcessed _ => true
  | _ => false

/-- The place at which the operation completes a module, if it does so when
that many documents have been seen and are expected. -/
def completion? (visited expected : Nat) : Operation → Option Location
  | documentProcessed location => if visited + 1 = expected then some location else none
  | moduleFinished location => if expected = 0 then some location else none
  | record _ | expect _ => none

/-- How many documents are expected after the operations. -/
def expectedAfter (total : Nat) (operations : List Operation) : Nat :=
  (operations.filterMap total?).getLast?.getD total

theorem expectedAfter_cons (total : Nat) (operation : Operation) (rest : List Operation) :
    expectedAfter total (operation :: rest) =
      expectedAfter (operation.total?.getD total) rest := by
  cases revised : operation.total? with
  | none => simp [expectedAfter, revised]
  | some other => simp [expectedAfter, revised, List.getLast?_cons]

end Operation

namespace State

/-- What the state answers to an operation, and the state after it. -/
def operate (state : State) : Operation → Option Diagnostic × State
  | .record transformer => (none, state.record transformer)
  | .documentProcessed location => state.documentProcessed location
  | .moduleFinished location => state.moduleFinished location
  | .expect total => (none, state.expect total)

/-- The answers to operations that are made one after the other, and the state after them. -/
def operateAll (state : State) : List Operation → List (Option Diagnostic) × State
  | [] => ([], state)
  | operation :: rest =>
    let (answer, next) := state.operate operation
    let (answers, final) := next.operateAll rest
    (answer :: answers, final)

/-! ### One operation -/

section Operate

variable (state : State) (operation : Operation) (location : Location)

theorem reportAbsence_eq :
    state.reportAbsence location =
      if state.found || state.reported then (none, state)
      else (some (.ofRule .someTransformer location), { state with reported := true }) := by
  obtain ⟨visited, expected, recorded, found, reported⟩ := state
  cases found <;> cases reported <;> rfl

/-- An operation is answered only if it completes the module, and only as long
as nothing has been recorded or reported. -/
theorem operate_fst :
    (state.operate operation).1 =
      if state.found || state.reported then none
      else (operation.completion? state.visited state.expected).map
        (.ofRule .someTransformer) := by
  cases operation with
  | record transformer | expect total => exact (ite_self _).symm
  | documentProcessed location =>
      rw [operate, documentProcessed, Operation.completion?]
      by_cases completes : state.visited + 1 = state.expected
      · simp only [visit, completes, if_true, reportAbsence_eq]
        split <;> rfl
      · simp [visit, completes]
  | moduleFinished location =>
      rw [operate, moduleFinished, Operation.completion?]
      by_cases completes : state.expected = 0
      · simp only [completes, if_true, reportAbsence_eq]
        split <;> rfl
      · simp [completes]

/-- An operation changes what it is about.  The latch closes with an answer. -/
theorem operate_snd :
    (state.operate operation).2 = {
      visited := state.visited + operation.isVisit.toNat
      expected := operation.total?.getD state.expected
      recorded := state.recorded ++ operation.transformer?.toList
      found := state.found || operation.transformer?.isSome
      reported := state.reported || (state.operate operation).1.isSome } := by
  cases operation with
  | record transformer =>
      simp [operate, record, keep, markFound, Operation.isVisit, Operation.total?,
        Operation.transformer?]
  | expect total =>
      simp [operate, expect, Operation.isVisit, Operation.total?, Operation.transformer?]
  | documentProcessed location =>
      simp only [operate, documentProcessed, visit, reportAbsence_eq, Operation.isVisit,
        Operation.total?, Operation.transformer?]
      split <;> [split; skip] <;> simp
  | moduleFinished location =>
      simp only [operate, moduleFinished, reportAbsence_eq, Operation.isVisit,
        Operation.total?, Operation.transformer?]
      split <;> [split; skip] <;> simp

end Operate

/-! ### A history of operations -/

section OperateAll

variable (state : State) (operation : Operation) (operations before after : List Operation)

theorem operateAll_cons :
    state.operateAll (operation :: operations) =
      ((state.operate operation).1 :: ((state.operate operation).2.operateAll operations).1,
        ((state.operate operation).2.operateAll operations).2) :=
  rfl

theorem operateAll_append :
    state.operateAll (before ++ after) =
      ((state.operateAll before).1 ++ ((state.operateAll before).2.operateAll after).1,
        ((state.operateAll before).2.operateAll after).2) := by
  induction before generalizing state with
  | nil => rfl
  | cons operation before ih =>
      simp only [List.cons_append, operateAll_cons, ih]

theorem length_operateAll : (state.operateAll operations).1.length = operations.length := by
  induction operations generalizing state with
  | nil => rfl
  | cons operation rest ih => simp [operateAll_cons, ih]

/-- What a state holds in the end follows from its history. -/
theorem operateAll_snd :
    (state.operateAll operations).2 = {
      visited := state.visited + operations.countP Operation.isVisit
      expected := Operation.expectedAfter state.expected operations
      recorded := state.recorded ++ operations.filterMap Operation.transformer?
      found := state.found || operations.any (·.transformer?.isSome)
      reported := state.reported || (state.operateAll operations).1.any Option.isSome } := by
  induction operations generalizing state with
  | nil => simp [operateAll, Operation.expectedAfter]
  | cons operation rest ih =>
      simp only [operateAll_cons, ih, List.any_cons, List.countP_cons, List.filterMap_cons,
        Operation.expectedAfter_cons, operate_snd, Bool.or_assoc, List.append_assoc]
      congr 1
      · rw [Nat.add_assoc, Nat.add_comm (Bool.toNat _)]
        cases operation <;> rfl
      · cases operation <;> rfl

end OperateAll

section Answers

variable {state : State} {operations before after : List Operation} {operation : Operation}

theorem operateAll_fst_append_cons :
    (state.operateAll (before ++ operation :: after)).1 = (state.operateAll before).1 ++
      ((state.operateAll before).2.operate operation).1 ::
        (((state.operateAll before).2.operate operation).2.operateAll after).1 := by
  rw [operateAll_append, operateAll_cons]

theorem answer_eq_none_of_settled (settled : state.found = true ∨ state.reported = true) :
    ∀ answer ∈ (state.operateAll operations).1, answer = none := by
  induction operations generalizing state with
  | nil => simp [operateAll]
  | cons operation rest ih =>
      have silent : (state.operate operation).1 = none := by
        rw [operate_fst, if_pos (by simpa using settled)]
      have settledNext : (state.operate operation).2.found = true ∨
          (state.operate operation).2.reported = true := by
        rw [operate_snd]
        rcases settled with found | reported
        · simp [found]
        · simp [reported]
      rw [operateAll_cons, silent]
      intro answer member
      rcases List.mem_cons.mp member with rfl | later
      · rfl
      · exact ih settledNext answer later

/-- The first answer closes the latch, so there is no second one. -/
theorem countP_isSome_operateAll_le (state : State) (operations : List Operation) :
    (state.operateAll operations).1.countP Option.isSome ≤ 1 := by
  induction operations generalizing state with
  | nil => simp [operateAll]
  | cons operation rest ih =>
      rw [operateAll_cons, List.countP_cons]
      cases answer : (state.operate operation).1 with
      | none => simpa using ih _
      | some diagnostic =>
          have closed : (state.operate operation).2.reported = true := by
            rw [operate_snd, answer]
            simp
          have silent : ((state.operate operation).2.operateAll rest).1.countP Option.isSome =
              0 := by
            rw [List.countP_eq_zero]
            intro later member
            simp [answer_eq_none_of_settled (.inr closed) later member]
          simp [silent]

theorem rule_of_mem_answers {diagnostic : Diagnostic}
    (member : some diagnostic ∈ (state.operateAll operations).1) :
    diagnostic.rule = .someTransformer := by
  induction operations generalizing state with
  | nil => simp [operateAll] at member
  | cons operation rest ih =>
      rw [operateAll_cons, operate_fst] at member
      rcases List.mem_cons.mp member with first | later
      · split at first
        · cases first
        · obtain ⟨location, -, rfl⟩ := Option.map_eq_some_iff.mp first.symm
          rfl
      · exact ih later

end Answers

/-- A state that expected the total at first, and the answers that it gave, are
what the operations on it make them. -/
structure Accounts (state : State) (total : Nat) (operations : List Operation)
    (answers : List (Option Diagnostic)) : Prop where
  length : answers.length = operations.length
  /-- Nothing is reported but that there is no transformer. -/
  rule : ∀ diagnostic, some diagnostic ∈ answers → diagnostic.rule = .someTransformer
  once : answers.countP Option.isSome ≤ 1
  reported : state.reported = true ↔ ∃ diagnostic, some diagnostic ∈ answers
  silent : ∀ before transformer after, operations = before ++ .record transformer :: after →
    ∀ answer ∈ answers.drop before.length, answer = none
  /-- The operations that report are those that complete the module while
  nothing has been recorded or reported. -/
  reports : ∀ before operation after, operations = before ++ operation :: after →
    ∀ diagnostic, answers[before.length]? = some (some diagnostic) ↔
      (∀ earlier ∈ before, earlier.transformer? = none) ∧
      (∀ earlier ∈ answers.take before.length, earlier = none) ∧
      ∃ location, operation.completion? (before.countP Operation.isVisit)
          (Operation.expectedAfter total before) = some location ∧
        diagnostic = .ofRule .someTransformer location
  found : state.found = true ↔ state.names ≠ []
  visited : state.visited = operations.countP Operation.isVisit
  names : state.names.Perm
    (operations.filterMap fun operation => operation.transformer?.map Transformer.name)

section Expecting

variable (total : Nat) (operations : List Operation)

theorem operateAll_expecting_snd :
    ((expecting total).operateAll operations).2 = {
      visited := operations.countP Operation.isVisit
      expected := Operation.expectedAfter total operations
      recorded := operations.filterMap Operation.transformer?
      found := operations.any (·.transformer?.isSome)
      reported := ((expecting total).operateAll operations).1.any Option.isSome } := by
  simpa [expecting] using operateAll_snd (expecting total) operations

/-- An operation of a history reports exactly if it completes the module and
nothing was recorded or reported before. -/
theorem operate_fst_eq_some_iff (before : List Operation) (operation : Operation)
    (diagnostic : Diagnostic) :
    (((expecting total).operateAll before).2.operate operation).1 = some diagnostic ↔
      (∀ earlier ∈ before, earlier.transformer? = none) ∧
      (∀ earlier ∈ ((expecting total).operateAll before).1, earlier = none) ∧
      ∃ location, operation.completion? (before.countP Operation.isVisit)
          (Operation.expectedAfter total before) = some location ∧
        diagnostic = .ofRule .someTransformer location := by
  rw [operate_fst, operateAll_expecting_snd]
  split
  next settled =>
    simp only [reduceCtorEq, false_iff]
    rintro ⟨unrecorded, unreported, -⟩
    have free : (before.any (·.transformer?.isSome)) = false := by
      simpa using unrecorded
    have silent : ((expecting total).operateAll before).1.any Option.isSome = false := by
      simpa using unreported
    simp [free, silent] at settled
  next unsettled =>
    have silent : (∀ earlier ∈ before, earlier.transformer? = none) ∧
        ∀ earlier ∈ ((expecting total).operateAll before).1, earlier = none := by
      simpa using unsettled
    simp only [Option.map_eq_some_iff, eq_comm (b := diagnostic)]
    exact ⟨fun completes => ⟨silent.1, silent.2, completes⟩, fun reports => reports.2.2⟩

/-- The state of an analysis accounts for all operations on it, in whatever
order they come. -/
theorem accounts_operateAll :
    ((expecting total).operateAll operations).2.Accounts total operations
      ((expecting total).operateAll operations).1 where
  length := length_operateAll _ _
  rule _ := rule_of_mem_answers
  once := countP_isSome_operateAll_le _ _
  reported := by
    rw [operateAll_expecting_snd, List.any_eq_true]
    simp [Option.isSome_iff_exists]
  silent := by
    rintro before transformer after rfl answer member
    rw [operateAll_fst_append_cons, ← length_operateAll (expecting total) before,
      List.drop_left] at member
    rcases List.mem_cons.mp member with rfl | later
    · rfl
    -- The transformer that was recorded settles the state.
    · exact answer_eq_none_of_settled (.inl rfl) answer later
  reports := by
    rintro before operation after rfl diagnostic
    rw [operateAll_fst_append_cons, ← length_operateAll (expecting total) before,
      List.take_left, List.getElem?_append_right (Nat.le_refl _), Nat.sub_self,
      List.getElem?_cons_zero, Option.some_inj]
    exact operate_fst_eq_some_iff total before operation diagnostic
  found := by
    rw [names, ne_eq, List.map_eq_nil_iff, Sorting.sort_eq_nil_iff, operateAll_expecting_snd]
    simp [List.filterMap_eq_nil_iff, Option.isSome_iff_ne_none]
  visited := by rw [operateAll_expecting_snd]
  names := by
    rw [names, operateAll_expecting_snd, ← List.map_filterMap]
    exact (Sorting.sort_perm _ _).map _

end Expecting

end State

end PureService.Analysis
