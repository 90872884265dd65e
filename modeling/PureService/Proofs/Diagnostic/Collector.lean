import PureService.Diagnostic.Collector
import PureService.Proofs.Diagnostic.Order
import PureService.Proofs.Sorting

/-!
# Collectors in use

A report has the diagnostics that a collector holds in ascending order of their
keys, and those of one key in order of arrival.  There is only one such list.
Diagnostics may be emitted and reports be read in any order: a collector holds
what was emitted, whatever was read in between.  If all diagnostics have the
message and the severity of their rule, the order of arrival does not show.
-/

namespace PureService.Collector

/-- The list has what the collector holds in ascending order of keys, and the
diagnostics of one key in order of arrival. -/
structure Reports (collector : Collector) (reported : List Diagnostic) : Prop where
  rearranged : reported.Perm collector.arrived
  ascending : reported.Pairwise fun earlier later => earlier.key ≤ later.key
  inTurn : ∀ shared,
    reported.filter (·.key == shared) = collector.arrived.filter (·.key == shared)

theorem reports_sorted (collector : Collector) : collector.Reports collector.sorted := by
  have compares (first second : Diagnostic) :
      first.precedes second = true ↔ first.key ≤ second.key := Diagnostic.precedes_iff
  constructor
  case rearranged => exact Sorting.sort_perm _ _
  case ascending => exact Sorting.pairwise_key_sort compares _
  case inTurn => exact Sorting.filter_key_sort compares _

/-- Of the order of arrival a report shows in which order the diagnostics of one
key have come, and nothing else. -/
theorem Reports.eq_of_filter_key_eq {first second : Collector}
    {firstReport secondReport : List Diagnostic} (firstReports : first.Reports firstReport)
    (secondReports : second.Reports secondReport)
    (same : ∀ shared,
      first.arrived.filter (·.key == shared) = second.arrived.filter (·.key == shared)) :
    firstReport = secondReport := by
  apply Sorting.eq_of_filter_key_eq firstReports.ascending secondReports.ascending
  intro shared
  rw [firstReports.inTurn, same, secondReports.inTurn]

theorem reports_iff {collector : Collector} {reported : List Diagnostic} :
    collector.Reports reported ↔ reported = collector.sorted := by
  constructor
  · intro reports
    exact reports.eq_of_filter_key_eq collector.reports_sorted fun _ => rfl
  · rintro rfl
    exact collector.reports_sorted

theorem sorted_eq_iff {first second : Collector} :
    first.sorted = second.sorted ↔ ∀ shared,
      first.arrived.filter (·.key == shared) = second.arrived.filter (·.key == shared) := by
  constructor
  · intro same shared
    rw [← first.reports_sorted.inTurn, same, second.reports_sorted.inTurn]
  · exact first.reports_sorted.eq_of_filter_key_eq second.reports_sorted

/-- Diagnostics of one key that were worded anew stay as they came. -/
example :
    let found := Diagnostic.ofRule .noClass (.ofDocument "a.yaml")
    let reworded := { found with message := "classes hold state" }
    (Collector.mk [reworded, found]).sorted ≠ (Collector.mk [found, reworded]).sorted := by
  decide

/-- Diagnostics of one key in the words of their rules are one and the same. -/
theorem filter_key_eq_of_perm {first second : List Diagnostic} (rearranged : first.Perm second)
    (standard : ∀ diagnostic ∈ second, diagnostic.IsStandard)
    (shared : List Nat ×ₗ WithBot Nat ×ₗ WithBot Nat ×ₗ String) :
    first.filter (·.key == shared) = second.filter (·.key == shared) := by
  -- No two of the shared diagnostics differ, so that any order of them is as good as another.
  have anyOrder : ∀ diagnostics : List Diagnostic, diagnostics.Pairwise fun _ _ => True :=
    fun _ => List.pairwise_of_forall fun _ _ => trivial
  apply (rearranged.filter _).eq_of_pairwise ?_ (anyOrder _) (anyOrder _)
  intro one other oneMember otherMember _ _
  obtain ⟨oneArrived, oneShares⟩ := List.mem_filter.mp oneMember
  obtain ⟨otherArrived, otherShares⟩ := List.mem_filter.mp otherMember
  have same : one.key = other.key :=
    (eq_of_beq oneShares).trans (eq_of_beq otherShares).symm
  exact (standard one (rearranged.mem_iff.mp oneArrived)).eq_of_key_eq
    (standard other otherArrived) same

/-! ### A history of uses -/

/-- What can be done with a collector. -/
inductive Use where
  | emit (diagnostic : Diagnostic)
  | snapshot
  | sorted
  deriving DecidableEq, Repr

namespace Use

def emitted? : Use → Option Diagnostic
  | emit diagnostic => some diagnostic
  | snapshot | sorted => none

/-- The diagnostics that were emitted, in order of arrival. -/
def emissions (uses : List Use) : List Diagnostic :=
  uses.filterMap emitted?

end Use

/-- The list that a use answers, if any, and the collector after it. -/
def serve (collector : Collector) : Use → Option (List Diagnostic) × Collector
  | .emit diagnostic => (none, collector.emit diagnostic)
  | .snapshot => (some collector.arrived, collector)
  | .sorted => (some collector.sorted, collector)

/-- The collector after uses that come one after the other. -/
def after (collector : Collector) (uses : List Use) : Collector :=
  uses.foldl (fun current use => (current.serve use).2) collector

theorem arrived_serve (collector : Collector) (use : Use) :
    (collector.serve use).2.arrived = collector.arrived ++ use.emitted?.toList := by
  cases use with
  | emit diagnostic => rfl
  | snapshot | sorted => exact (List.append_nil _).symm

theorem arrived_after (collector : Collector) (uses : List Use) :
    (collector.after uses).arrived = collector.arrived ++ Use.emissions uses := by
  induction uses generalizing collector with
  | nil => exact (List.append_nil _).symm
  | cons use rest ih =>
      have later := ih (collector.serve use).2
      rw [arrived_serve, List.append_assoc] at later
      cases use <;> exact later

/-- At any time of its use a collector shows what was emitted.  Asked for a report
it answers with the one list that has these diagnostics in report order, and stays
as it is.  Diagnostics in the words of their rules have the same report for all
orders of arrival. -/
theorem serve_sorted_canonical (uses : List Use) :
    (empty.after uses).serve .snapshot = (some (Use.emissions uses), empty.after uses) ∧
      (∃ report, (empty.after uses).serve .sorted = (some report, empty.after uses) ∧
        ∀ reported, (empty.after uses).Reports reported ↔ reported = report) ∧
      ∀ others : List Use, (Use.emissions others).Perm (Use.emissions uses) →
        (∀ diagnostic ∈ Use.emissions uses, diagnostic.IsStandard) →
          ((empty.after others).serve .sorted).1 = ((empty.after uses).serve .sorted).1 := by
  refine ⟨?_, ⟨_, rfl, fun _ => reports_iff⟩, ?_⟩
  · rw [serve, arrived_after]
    rfl
  · intro others rearranged standard
    have sameReport : (empty.after others).sorted = (empty.after uses).sorted := by
      rw [sorted_eq_iff, arrived_after, arrived_after]
      exact filter_key_eq_of_perm rearranged standard
    exact congrArg some sameReport

/-- A service, two classes at an unknown place and an entry point are found, and the collector is
read before all have arrived. -/
def interruptedUses : List Use :=
  [.emit (.ofRule .noService ⟨"b.yaml", some 1, none⟩),
    .emit (.ofRule .noClass (.ofDocument "b.yaml")),
    .sorted,
    .emit (.ofRule .noEntryPoint ⟨"a.yaml", some 9, some 2⟩),
    .snapshot,
    .emit (.ofRule .noClass (.ofDocument "b.yaml"))]

theorem serve_sorted_canonical_interrupted :
    (Use.emissions interruptedUses.reverse).Perm (Use.emissions interruptedUses) ∧
      (∀ diagnostic ∈ Use.emissions interruptedUses, diagnostic.IsStandard) ∧
      ((empty.after interruptedUses.reverse).serve .sorted).1 =
        ((empty.after interruptedUses).serve .sorted).1 ∧
      (empty.after interruptedUses).sorted.map Diagnostic.rule =
        [.noEntryPoint, .noClass, .noClass, .noService] := by
  have rearranged : (Use.emissions interruptedUses.reverse).Perm
      (Use.emissions interruptedUses) := interruptedUses.reverse_perm.filterMap _
  have standard : ∀ diagnostic ∈ Use.emissions interruptedUses, diagnostic.IsStandard := by
    intro diagnostic member
    simp only [interruptedUses, Use.emissions, Use.emitted?, List.filterMap_cons,
      List.filterMap_nil, List.mem_cons, List.not_mem_nil, or_false] at member
    rcases member with rfl | rfl | rfl | rfl <;> rfl
  exact ⟨rearranged, standard,
    (serve_sorted_canonical interruptedUses).2.2 _ rearranged standard, by decide⟩

end PureService.Collector
