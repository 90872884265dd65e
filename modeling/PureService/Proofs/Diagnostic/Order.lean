import Mathlib.Data.Prod.Lex
import Mathlib.Order.Compare
import Mathlib.Order.WithBot
import PureService.Diagnostic.Basic
import PureService.Proofs.Text.Utf8

/-!
# The order of a report

A report is ordered by keys: the bytes of the name of the document, then line,
column and code.  Two diagnostics with one key that have the message and the
severity of their rule are one and the same, so such diagnostics have only one
order.
-/

namespace PureService

namespace Location

theorem compareOfLessAndEq_document (first second : String) :
    (compareOfLessAndEq first second = .lt ↔ Text.bytes first < Text.bytes second) ∧
      (compareOfLessAndEq first second = .eq ↔ Text.bytes first = Text.bytes second) := by
  rw [← LinearOrder.compare_eq_compareOfLessAndEq, compare_lt_iff_lt, compare_eq_iff_eq,
    Text.bytes_strictMono.injective.eq_iff]
  exact ⟨Text.bytes_strictMono.lt_iff_lt.symm, Iff.rfl⟩

/-- A number that may be missing; the missing one is less than every other. -/
def rank (number : Option Nat) : WithBot Nat :=
  number.elim ⊥ WithBot.some

theorem rank_injective : Function.Injective rank := by
  intro first second same
  cases first <;> cases second <;> simp_all [rank]

theorem comparePosition_eq_cmp_rank (first second : Option Nat) :
    comparePosition first second = cmp (rank first) (rank second) := by
  cases first with
  | none =>
      cases second with
      | none => exact (cmp_self_eq_eq (⊥ : WithBot Nat)).symm
      | some right => exact ((cmp_eq_lt_iff _ _).mpr (WithBot.bot_lt_coe right)).symm
  | some left =>
      cases second with
      | none => exact ((cmp_eq_gt_iff _ _).mpr (WithBot.bot_lt_coe left)).symm
      | some right =>
          rw [comparePosition, ← cmp_eq_compare]
          exact (WithBot.coe_strictMono.cmp_map_eq left right).symm

end Location

namespace Rule

theorem compare_index_eq_cmp_code (first second : Rule) :
    Ord.compare first.index second.index = cmp first.code second.code := by
  cases first <;> cases second <;> decide

theorem code_injective : Function.Injective code := by
  intro first second same
  cases first <;> cases second <;> simp_all [code]

end Rule

namespace Diagnostic

/-- What decides about the place of a diagnostic in a report. -/
def key (diagnostic : Diagnostic) : List Nat ×ₗ WithBot Nat ×ₗ WithBot Nat ×ₗ String :=
  toLex (Text.bytes diagnostic.location.document, toLex (Location.rank diagnostic.location.line,
    toLex (Location.rank diagnostic.location.column, diagnostic.rule.code)))

theorem precedes_iff {first second : Diagnostic} :
    first.precedes second = true ↔ first.key ≤ second.key := by
  have rules : (Ord.compare first.rule.index second.rule.index).isLE = true ↔
      first.rule.code ≤ second.rule.code := by
    rw [Rule.compare_index_eq_cmp_code, Ordering.isLE_iff_eq_lt_or_eq_eq, cmp_eq_lt_iff,
      cmp_eq_eq_iff, le_iff_lt_or_eq]
  obtain ⟨before, same⟩ :=
    Location.compareOfLessAndEq_document first.location.document second.location.document
  rw [precedes, Diagnostic.compare, Location.compare, Location.comparePosition_eq_cmp_rank,
    Location.comparePosition_eq_cmp_rank, Ordering.then_assoc, Ordering.isLE_then_iff_or,
    Ordering.then_assoc, Ordering.isLE_then_iff_or, Ordering.isLE_then_iff_or, before, same, rules,
    cmp_eq_lt_iff, cmp_eq_eq_iff, cmp_eq_lt_iff, cmp_eq_eq_iff]
  simp only [key, Prod.Lex.toLex_le_toLex]

/-- The key of a diagnostic tells its place and its rule. -/
theorem location_eq_and_rule_eq {first second : Diagnostic} (same : first.key = second.key) :
    first.location = second.location ∧ first.rule = second.rule := by
  obtain ⟨firstRule, _, _, firstDocument, firstLine, firstColumn⟩ := first
  obtain ⟨secondRule, _, _, secondDocument, secondLine, secondColumn⟩ := second
  simp only [key, EmbeddingLike.apply_eq_iff_eq, Prod.mk.injEq] at same
  obtain ⟨document, line, column, rule⟩ := same
  refine ⟨?_, Rule.code_injective rule⟩
  rw [Text.bytes_strictMono.injective document, Location.rank_injective line,
    Location.rank_injective column]

/-- The diagnostic has the severity and the message of its rule. -/
def IsStandard (diagnostic : Diagnostic) : Prop :=
  diagnostic = .ofRule diagnostic.rule diagnostic.location

theorem IsStandard.eq_of_key_eq {first second : Diagnostic} (firstStandard : first.IsStandard)
    (secondStandard : second.IsStandard) (same : first.key = second.key) : first = second := by
  obtain ⟨location, rule⟩ := location_eq_and_rule_eq same
  rw [firstStandard, secondStandard, location, rule]

end Diagnostic

end PureService
