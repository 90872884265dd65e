import Mathlib.Data.List.Basic
import PureService.Text.Line

/-!
# Parts and lines of a text

A text is cut at every occurrence of a separator.  Cutting a text that goes on
after a separator is cutting both parts, so the lines of a text that is put
together from ended lines are the lines of these, one after the other.
-/

namespace PureService.Text

variable {separator : Char} {part rest : List Char}

theorem splitAt_of_notMem (whole : separator ∉ part) : splitAt separator part = [part] := by
  induction part with
  | nil => rfl
  | cons char part ih =>
      rw [List.mem_cons, not_or] at whole
      simp [splitAt, Ne.symm whole.1, ih whole.2]

theorem splitAt_append (whole : separator ∉ part) :
    splitAt separator (part ++ separator :: rest) = part :: splitAt separator rest := by
  induction part with
  | nil => simp [splitAt]
  | cons char part ih =>
      rw [List.mem_cons, not_or] at whole
      simp [splitAt, Ne.symm whole.1, ih whole.2]

/-- Parts without the separator are found again between the separators. -/
theorem splitAt_intercalate {parts : List (List Char)} (nonempty : parts ≠ [])
    (whole : ∀ part ∈ parts, separator ∉ part) :
    splitAt separator ([separator].intercalate parts) = parts := by
  induction parts with
  | nil => exact absurd rfl nonempty
  | cons part parts ih =>
      obtain ⟨first, others⟩ := List.forall_mem_cons.mp whole
      cases parts with
      | nil => simpa using splitAt_of_notMem first
      | cons next parts =>
          rw [List.intercalate_cons_cons, List.append_assoc, List.singleton_append,
            splitAt_append first, ih (List.cons_ne_nil _ _) others]

theorem splitAt_ne_nil (separator : Char) (text : List Char) : splitAt separator text ≠ [] := by
  cases text with
  | nil => simp [splitAt]
  | cons char rest =>
      rw [splitAt]
      split
      · simp
      · split <;> simp

theorem notMem_of_mem_splitAt {text : List Char} (member : part ∈ splitAt separator text) :
    separator ∉ part := by
  induction text generalizing part with
  | nil => simp_all [splitAt]
  | cons char rest ih =>
      rw [splitAt] at member
      split at member
      next =>
        rcases List.mem_cons.mp member with rfl | later
        · simp
        · exact ih later
      next other =>
        split at member
        next none => exact absurd none (splitAt_ne_nil separator rest)
        next first others split =>
          rcases List.mem_cons.mp member with rfl | later
          · have firstWhole := ih (split ▸ List.mem_cons_self)
            simp [Ne.symm other, firstWhole]
          · exact ih (split ▸ List.mem_cons_of_mem _ later)

theorem notMem_of_splitAt_eq_singleton {text : List Char}
    (single : splitAt separator text = [part]) : separator ∉ text := by
  intro found
  obtain ⟨before, after, rfl, none⟩ := List.eq_append_cons_of_mem found
  rw [splitAt_append none] at single
  exact splitAt_ne_nil separator after (List.cons.inj single).2

/-- A text is a part without the separator, or goes on after such a part. -/
theorem induct_splitAt (separator : Char) {holds : List Char → Prop}
    (whole : ∀ part, separator ∉ part → holds part)
    (cut : ∀ part rest, separator ∉ part → holds rest → holds (part ++ separator :: rest))
    (text : List Char) : holds text := by
  induction size : text.length using Nat.strongRecOn generalizing text with
  | ind size ih =>
      by_cases found : separator ∈ text
      · obtain ⟨part, rest, rfl, none⟩ := List.eq_append_cons_of_mem found
        refine cut part rest none (ih rest.length ?_ rest rfl)
        rw [← size, List.length_append, List.length_cons]
        omega
      · exact whole text found

theorem splitAt_append_cons (text rest : List Char) :
    splitAt separator (text ++ separator :: rest) =
      splitAt separator text ++ splitAt separator rest := by
  induction text using induct_splitAt separator with
  | whole part none => rw [splitAt_append none, splitAt_of_notMem none, List.singleton_append]
  | cut part more none ih =>
      rw [List.append_assoc, List.cons_append, splitAt_append none, ih, splitAt_append none,
        List.cons_append]

/-- What a text without the separator ends in, its last part ends in. -/
theorem exists_splitAt_append {ending : List Char} (none : separator ∉ ending)
    (text : List Char) :
    ∃ before last, splitAt separator text = before ++ [last] ∧
      splitAt separator (text ++ ending) = before ++ [last ++ ending] := by
  induction text using induct_splitAt separator with
  | whole part noneBefore =>
      exact ⟨[], part, splitAt_of_notMem noneBefore,
        splitAt_of_notMem (List.not_mem_append noneBefore none)⟩
  | cut part rest noneBefore ih =>
      obtain ⟨before, last, split, longer⟩ := ih
      refine ⟨part :: before, last, ?_, ?_⟩
      · rw [splitAt_append noneBefore, split, List.cons_append]
      · rw [List.append_assoc, List.cons_append, splitAt_append noneBefore, longer,
          List.cons_append]

/-- A word without the separator begins a text if it begins what comes before a separator. -/
theorem isPrefix_append_cons_iff {word text : List Char} (none : separator ∉ word) :
    word <+: text ++ separator :: rest ↔ word <+: text := by
  constructor
  · intro begins
    rcases List.prefix_or_prefix_of_prefix begins (List.prefix_append text _) with inside | further
    · exact inside
    · obtain ⟨more, rfl⟩ := further
      cases more with
      | nil => simp
      | cons char more =>
          rw [List.prefix_append_right_inj] at begins
          obtain ⟨rfl, -⟩ := List.cons_prefix_cons.mp begins
          simp at none
  · exact fun begins => begins.trans (List.prefix_append _ _)

/-- A word without the separator ends a text if it ends what comes after a separator. -/
theorem isSuffix_append_cons_iff {word text : List Char} (none : separator ∉ word) :
    word <:+ text ++ separator :: rest ↔ word <:+ rest := by
  have noneReversed : separator ∉ word.reverse := by rwa [List.mem_reverse]
  have reversed : (text ++ separator :: rest).reverse =
      rest.reverse ++ separator :: text.reverse := by simp
  rw [← List.reverse_prefix, reversed, isPrefix_append_cons_iff noneReversed, List.reverse_prefix]

/-! ### Lines -/

/-- What comes before a line feed and what comes after it are cut into lines apart. -/
theorem lines_append (text rest : List Char) :
    lines (text ++ '\n' :: rest) =
      (splitAt '\n' text).map dropCarriageReturn ++ lines rest := by
  have more := splitAt_ne_nil '\n' rest
  have last : (splitAt '\n' (text ++ '\n' :: rest)).getLast? = (splitAt '\n' rest).getLast? := by
    rw [splitAt_append_cons, List.getLast?_append_of_ne_nil _ more]
  rw [lines, lines, last, splitAt_append_cons, List.dropLast_append_of_ne_nil more, List.map_append]
  split
  · rfl
  · rfl
  · rw [List.append_assoc]

end PureService.Text
