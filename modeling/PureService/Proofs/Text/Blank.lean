import Mathlib.Data.List.TakeWhile
import PureService.Text.Blank

/-!
# Trimmed texts

Trimming takes the blank characters off both ends and nothing else, so blank
characters at the ends of a text make no difference to it.
-/

namespace PureService.Text

variable {text before after : List Char}

theorem trimStart_append_of_allBlank (blank : allBlank before = true) :
    trimStart (before ++ text) = trimStart text :=
  List.dropWhile_append_of_pos (List.all_eq_true.mp blank)

theorem trimStart_eq_nil_iff : trimStart text = [] ↔ allBlank text = true := by
  rw [trimStart, allBlank, List.dropWhile_eq_nil_iff, List.all_eq_true]

theorem exists_eq_append_trimStart (text : List Char) :
    ∃ before, allBlank before = true ∧ text = before ++ trimStart text :=
  ⟨text.takeWhile isBlank, List.all_takeWhile, List.takeWhile_append_dropWhile.symm⟩

theorem trimStart_append (visible : allBlank text = false) :
    trimStart (text ++ after) = trimStart text ++ after := by
  have rest : trimStart text ≠ [] := by simp [trimStart_eq_nil_iff, visible]
  simp only [trimStart, ne_eq] at rest
  simp [trimStart, List.dropWhile_append, rest]

/-- A visible character ends what is trimmed at the start. -/
theorem trimStart_append_cons {char : Char} (visible : isBlank char = false) :
    trimStart (text ++ char :: after) = trimStart text ++ char :: after := by
  cases blank : allBlank text with
  | false => exact trimStart_append blank
  | true =>
      rw [trimStart_append_of_allBlank blank, trimStart_eq_nil_iff.mpr blank, trimStart,
        List.dropWhile_cons_of_neg (by simp [visible]), List.nil_append]

theorem trimEnd_append_of_allBlank (blank : allBlank after = true) :
    trimEnd (text ++ after) = trimEnd text := by
  have reversed : ∀ char ∈ after.reverse, isBlank char = true := by
    simpa [allBlank] using blank
  simp [trimEnd, List.reverse_append, List.dropWhile_append_of_pos reversed]

theorem trimEnd_append (visible : allBlank after = false) :
    trimEnd (text ++ after) = text ++ trimEnd after := by
  have rest : after.reverse.dropWhile isBlank ≠ [] := by
    rw [ne_eq, List.dropWhile_eq_nil_iff]
    simpa [allBlank] using visible
  simp [trimEnd, List.reverse_append, List.dropWhile_append, rest]

/-- A visible character ends what is trimmed at the end. -/
theorem trimEnd_append_cons {char : Char} (visible : isBlank char = false) :
    trimEnd (text ++ char :: after) = text ++ char :: trimEnd after := by
  have reversed : trimStart (text ++ char :: after).reverse =
      trimStart after.reverse ++ char :: text.reverse := by
    simp [trimStart_append_cons visible]
  calc
    trimEnd (text ++ char :: after) = (trimStart (text ++ char :: after).reverse).reverse := rfl
    _ = (trimStart after.reverse ++ char :: text.reverse).reverse := congrArg _ reversed
    _ = text ++ char :: (trimStart after.reverse).reverse := by simp
    _ = text ++ char :: trimEnd after := rfl

theorem trim_append_cons {char : Char} (visible : isBlank char = false) :
    trim (text ++ char :: after) = trimStart text ++ char :: trimEnd after := by
  rw [trim, trimStart_append_cons visible, trimEnd_append_cons visible]

theorem exists_eq_trimEnd_append (text : List Char) :
    ∃ after, allBlank after = true ∧ text = trimEnd text ++ after := by
  refine ⟨(text.reverse.takeWhile isBlank).reverse, ?_, ?_⟩
  · simp only [allBlank, List.all_reverse]
    exact List.all_takeWhile
  · rw [trimEnd, ← List.reverse_append, List.takeWhile_append_dropWhile, List.reverse_reverse]

theorem exists_eq_append_trim (text : List Char) :
    ∃ before after, allBlank before = true ∧ allBlank after = true ∧
      text = before ++ trim text ++ after := by
  obtain ⟨before, blankBefore, start⟩ := exists_eq_append_trimStart text
  obtain ⟨after, blankAfter, stop⟩ := exists_eq_trimEnd_append (trimStart text)
  refine ⟨before, after, blankBefore, blankAfter, ?_⟩
  rw [trim, List.append_assoc, ← stop, ← start]

theorem trim_append_of_allBlank (blankBefore : allBlank before = true)
    (blankAfter : allBlank after = true) :
    trim (before ++ text ++ after) = trim text := by
  rw [trim, trim, List.append_assoc, trimStart_append_of_allBlank blankBefore]
  cases visible : allBlank text with
  | false => rw [trimStart_append visible, trimEnd_append_of_allBlank blankAfter]
  | true =>
      rw [trimStart_append_of_allBlank visible, trimStart_eq_nil_iff.mpr visible,
        trimStart_eq_nil_iff.mpr blankAfter]

theorem trim_eq_nil_iff : trim text = [] ↔ allBlank text = true := by
  constructor
  · intro empty
    obtain ⟨before, after, blankBefore, blankAfter, split⟩ := exists_eq_append_trim text
    rw [empty, List.append_nil] at split
    rw [split, allBlank, List.all_append, Bool.and_eq_true]
    exact ⟨blankBefore, blankAfter⟩
  · intro blank
    rw [trim, trimStart_eq_nil_iff.mpr blank]
    rfl

theorem trim_trim (text : List Char) : trim (trim text) = trim text := by
  obtain ⟨before, after, blankBefore, blankAfter, split⟩ := exists_eq_append_trim text
  calc
    trim (trim text) = trim (before ++ trim text ++ after) :=
      (trim_append_of_allBlank blankBefore blankAfter).symm
    _ = trim text := congrArg trim split.symm

/-- A text that is trimmed already begins with what it begins with. -/
theorem trimStart_eq_self (trimmed : trim text = text) : trimStart text = text := by
  obtain ⟨before, -, start⟩ := exists_eq_append_trimStart text
  obtain ⟨after, -, stop⟩ := exists_eq_trimEnd_append (trimStart text)
  rw [← trim, trimmed] at stop
  have length := congrArg List.length start
  rw [stop, List.length_append, List.length_append] at length
  obtain rfl : before = [] := List.eq_nil_of_length_eq_zero (by omega)
  exact start.symm

theorem trim_eq_self {first last : Char} (middle : List Char)
    (visibleFirst : isBlank first = false) (visibleLast : isBlank last = false) :
    trim (first :: middle ++ [last]) = first :: middle ++ [last] := by
  have start : trimStart (first :: middle ++ [last]) = first :: middle ++ [last] := by
    simp [trimStart, visibleFirst]
  have stop : trimEnd [last] = [last] := by simp [trimEnd, visibleLast]
  rw [trim, start, trimEnd_append (by simp [allBlank, visibleLast]), stop]

end PureService.Text
