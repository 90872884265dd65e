import Mathlib.Data.List.Basic
import PureService.Proofs.Attempts
import PureService.Proofs.Text.Blank
import PureService.TypeDescriptor.Reading

/-!
# The grammar of type descriptors

`Reads` is the grammar that `TypeDescriptor.ofCharsWithin` decides: a text is a
wrapper around the text of another type, or it is kept as a leaf.  Only the
trimmed text counts, at every level.
-/

namespace PureService

/-- A keyword with its parameter.  The gap is what stands between the two. -/
def Wrapper.parameterized (keyword : String) (gap inner : List Char) : List Char :=
  keyword.toList ++ gap ++ "<".toList ++ inner ++ ">".toList

/-- The text of a wrapper around another text. -/
def Wrapper.around (gap inner : List Char) : Wrapper → List Char
  | array => inner ++ "[]".toList
  | map => parameterized "map" gap inner
  | table => parameterized "table" gap inner

/-- The text is a wrapper around the inner one.  A parameter has to be visible
for its keyword to count. -/
def Wrapper.Wraps (wrapper : Wrapper) (inner text : List Char) : Prop :=
  ∃ gap, Text.allBlank gap = true ∧ text = wrapper.around gap inner ∧
    (wrapper = .array ∨ Text.allBlank inner = false)

theorem Wrapper.Wraps.ne_nil {wrapper : Wrapper} {inner text : List Char}
    (wraps : wrapper.Wraps inner text) : text ≠ [] := by
  obtain ⟨gap, blank, rfl, visible⟩ := wraps
  cases wrapper <;> simp [Wrapper.around, Wrapper.parameterized]

namespace TypeDescriptor

open Attempts

theorem chars_wrapped (wrapper : Wrapper) (member : TypeDescriptor) :
    (wrapped wrapper member).chars = wrapper.around [] member.chars := by
  cases wrapper <;> rfl

section Outermost

variable {keyword : String} {text inner gap rest : List Char} {wrapper : Wrapper}

/-- A keyword opens a parameter also when blank characters stand between the two. -/
theorem trimStart_isPrefixOf?_eq_some_iff :
    (keyword.toList.isPrefixOf? text).map Text.trimStart = some ('<' :: rest) ↔
      ∃ gap, Text.allBlank gap = true ∧
        text = keyword.toList ++ gap ++ "<".toList ++ rest := by
  constructor
  · intro opened
    obtain ⟨after, split, opened⟩ := Option.map_eq_some_iff.mp opened
    obtain ⟨gap, blank, gapped⟩ := Text.exists_eq_append_trimStart after
    rw [List.isPrefixOf?_eq_some_iff_append_eq] at split
    refine ⟨gap, blank, ?_⟩
    rw [← split, gapped, opened]
    simp
  · rintro ⟨gap, blank, rfl⟩
    have opened : keyword.toList.isPrefixOf? (keyword.toList ++ gap ++ "<".toList ++ rest) =
        some (gap ++ '<' :: rest) := by
      rw [List.isPrefixOf?_eq_some_iff_append_eq]
      simp
    rw [opened, Option.map_some, Text.trimStart_append_of_allBlank blank]
    rfl

theorem parameterOf?_eq_ok_some_iff :
    parameterOf? keyword text = .ok (some inner) ↔
      ∃ gap, Text.allBlank gap = true ∧ Text.allBlank inner = false ∧
        text = Wrapper.parameterized keyword gap inner := by
  constructor
  · intro found
    rw [parameterOf?] at found
    split at found
    next rest opened =>
      obtain ⟨gap, blank, split⟩ := trimStart_isPrefixOf?_eq_some_iff.mp opened
      dsimp only at found
      split at found
      next parameter closed =>
        split at found
        · cases found
        next visible =>
          cases found
          rw [List.isSuffixOf?_eq_some_iff_append_eq] at closed
          refine ⟨gap, blank, by simpa using visible, ?_⟩
          rw [split, ← closed, Wrapper.parameterized, List.append_assoc _ inner]
      · cases found
    · cases found
  · rintro ⟨gap, blank, visible, rfl⟩
    have opened : (keyword.toList.isPrefixOf? (Wrapper.parameterized keyword gap inner)).map
        Text.trimStart = some ('<' :: (inner ++ ">".toList)) := by
      refine trimStart_isPrefixOf?_eq_some_iff.mpr ⟨gap, blank, ?_⟩
      rw [Wrapper.parameterized, List.append_assoc _ inner]
    have closed : ">".toList.isSuffixOf? (inner ++ ">".toList) = some inner :=
      List.isSuffixOf?_eq_some_iff_append_eq.mpr rfl
    simp only [parameterOf?, opened, closed, visible, Bool.false_eq_true, if_false]

theorem isSuffixOf?_append (suffix text : List Char) :
    suffix.isSuffixOf? (text ++ suffix) = some text := by
  rw [List.isSuffixOf?_eq_some_iff_append_eq]

/-- The end of a parameter is no end of an array. -/
theorem isSuffixOf?_parameter (front : List Char) :
    "[]".toList.isSuffixOf? (front ++ ">".toList) = none := by
  simp [List.isSuffixOf?, List.isPrefixOf?]

theorem outermost?_array (closed : "[]".toList.isSuffixOf? text = some inner) :
    outermost? text = .ok (some (.array, inner)) := by
  unfold outermost?
  rw [closed]

theorem outermost?_map (closed : "[]".toList.isSuffixOf? text = none)
    (map : parameterOf? "map" text = .ok (some inner)) :
    outermost? text = .ok (some (.map, inner)) := by
  unfold outermost?
  rw [closed, map]
  rfl

theorem outermost?_table (closed : "[]".toList.isSuffixOf? text = none)
    (map : parameterOf? "map" text = .ok none)
    (table : parameterOf? "table" text = .ok (some inner)) :
    outermost? text = .ok (some (.table, inner)) := by
  unfold outermost?
  rw [closed, map, table]
  rfl

theorem cases_of_outermost? (found : outermost? text = .ok (some (wrapper, inner))) :
    (wrapper = .array ∧ "[]".toList.isSuffixOf? text = some inner) ∨
      (wrapper = .map ∧ parameterOf? "map" text = .ok (some inner)) ∨
      (wrapper = .table ∧ parameterOf? "table" text = .ok (some inner)) := by
  cases closed : "[]".toList.isSuffixOf? text with
  | some element =>
      rw [outermost?_array closed] at found
      cases found
      exact .inl ⟨rfl, rfl⟩
  | none =>
      right
      unfold outermost? at found
      rw [closed] at found
      rcases map : parameterOf? "map" text with _ | _ | value <;> rw [map] at found
      · cases found
      · right
        rcases table : parameterOf? "table" text with _ | _ | row <;> rw [table] at found <;>
          cases found
        exact ⟨rfl, rfl⟩
      · cases found
        exact .inl ⟨rfl, rfl⟩

/-- A wrapper is read off a text exactly when the text is that wrapper around
what is left. -/
theorem outermost?_eq_ok_some_iff :
    outermost? text = .ok (some (wrapper, inner)) ↔ wrapper.Wraps inner text := by
  constructor
  · intro found
    rcases cases_of_outermost? found with ⟨rfl, closed⟩ | ⟨rfl, map⟩ | ⟨rfl, table⟩
    · rw [List.isSuffixOf?_eq_some_iff_append_eq] at closed
      exact ⟨[], rfl, closed.symm, .inl rfl⟩
    · obtain ⟨gap, blank, visible, split⟩ := parameterOf?_eq_ok_some_iff.mp map
      exact ⟨gap, blank, split, .inr visible⟩
    · obtain ⟨gap, blank, visible, split⟩ := parameterOf?_eq_ok_some_iff.mp table
      exact ⟨gap, blank, split, .inr visible⟩
  · rintro ⟨gap, blank, rfl, visible⟩
    cases wrapper with
    | array => exact outermost?_array (isSuffixOf?_append _ _)
    | map =>
        exact outermost?_map (isSuffixOf?_parameter _)
          (parameterOf?_eq_ok_some_iff.mpr ⟨gap, blank, by simpa using visible, rfl⟩)
    | table =>
        exact outermost?_table (isSuffixOf?_parameter _) rfl
          (parameterOf?_eq_ok_some_iff.mpr ⟨gap, blank, by simpa using visible, rfl⟩)

/-- A wrapper shows at the first or the last characters of its text. -/
theorem looksWrapped_of_wraps {text : List Char} (wraps : wrapper.Wraps inner text) :
    looksWrapped text = true := by
  obtain ⟨gap, -, rfl, -⟩ := wraps
  have begins : ∀ keyword : String, keyword.toList <+: Wrapper.parameterized keyword gap inner := by
    intro keyword
    simp only [Wrapper.parameterized, List.append_assoc]
    exact List.prefix_append _ _
  simp only [looksWrapped, Bool.or_eq_true, List.isSuffixOf_iff_suffix,
    List.isPrefixOf_iff_prefix]
  cases wrapper with
  | array => exact .inl (.inl (List.suffix_append _ _))
  | map => exact .inl (.inr (begins "map"))
  | table => exact .inr (begins "table")

end Outermost

section Leaves

variable {text : List Char} {kind : Primitive}

theorem keyword_of_ofKeyword? (found : Primitive.ofKeyword? text = some kind) :
    kind.keyword.toList = text := by
  have matched := List.find?_some found
  simpa using matched

theorem nesting_ofUnwrapped (text : List Char) : (ofUnwrapped text).nesting = 0 := by
  unfold ofUnwrapped
  dsimp only
  split
  · rfl
  · split <;> rfl

/-- Only a record is printed shorter than it was written. -/
theorem chars_ofUnwrapped (text : List Char) :
    (ofUnwrapped text).chars = text ∨ ofUnwrapped text = record := by
  unfold ofUnwrapped
  dsimp only
  split
  · exact .inr rfl
  · left
    split
    next found => exact keyword_of_ofKeyword? found
    next => exact String.toList_ofList

end Leaves

section Reader

variable {whole : List Char} (allowance : Nat)

theorem ofCharsWithin_of_trim_eq_nil (invisible : Text.trim whole = []) :
    ofCharsWithin allowance whole = .error ⟨String.ofList whole, .empty⟩ := by
  have empty : (Text.trim whole).isEmpty = true := List.isEmpty_iff.mpr invisible
  cases allowance <;> rw [ofCharsWithin, if_pos empty]

/-- Nothing more may be stacked: the text is refused if it looks wrapped. -/
theorem ofCharsWithin_zero (visible : Text.trim whole ≠ []) :
    ofCharsWithin 0 whole =
      if looksWrapped (Text.trim whole) then .error ⟨shown (Text.trim whole), .tooDeep⟩
      else .ok (ofUnwrapped (Text.trim whole)) := by
  rw [ofCharsWithin, List.isEmpty_eq_false_iff.mpr visible]
  rfl

/-- Of a visible text the outermost wrapper is read, and then what is inside it. -/
theorem ofCharsWithin_succ (visible : Text.trim whole ≠ []) :
    ofCharsWithin (allowance + 1) whole = (do
      match ← outermost? (Text.trim whole) with
      | none => .ok (ofUnwrapped (Text.trim whole))
      | some (wrapper, member) => (ofCharsWithin allowance member).map (.wrapped wrapper)) := by
  rw [ofCharsWithin, List.isEmpty_eq_false_iff.mpr visible]
  rcases outermost? (Text.trim whole) with _ | _ | _ <;> rfl

end Reader

/-- No wrapper is read off a trimmed text.  Once the allowance is used up, the
text may not even begin or end like one. -/
def IsLeaf : (allowance : Nat) → List Char → Prop
  | 0, text => text ≠ [] ∧ looksWrapped text = false
  | _ + 1, text => text ≠ [] ∧ outermost? text = .ok none

/-- The text of a descriptor with at most that many wrappers. -/
inductive Reads : (allowance : Nat) → List Char → TypeDescriptor → Prop
  | leaf {allowance : Nat} {whole : List Char} (bare : IsLeaf allowance (Text.trim whole)) :
      Reads allowance whole (ofUnwrapped (Text.trim whole))
  | wrapped {allowance : Nat} {whole inner : List Char} {wrapper : Wrapper}
      {member : TypeDescriptor} (outermost : wrapper.Wraps inner (Text.trim whole))
      (inside : Reads allowance inner member) :
      Reads (allowance + 1) whole (.wrapped wrapper member)

section Grammar

variable {allowance : Nat} {text whole inner : List Char} {wrapper : Wrapper}
  {descriptor member : TypeDescriptor}

theorem visible_of_ofCharsWithin (accepted : ofCharsWithin allowance whole = .ok descriptor) :
    Text.trim whole ≠ [] := by
  intro invisible
  rw [ofCharsWithin_of_trim_eq_nil allowance invisible] at accepted
  cases accepted

theorem reads_of_ofCharsWithin (accepted : ofCharsWithin allowance whole = .ok descriptor) :
    Reads allowance whole descriptor := by
  induction allowance generalizing whole descriptor with
  | zero =>
      have visible := visible_of_ofCharsWithin accepted
      rw [ofCharsWithin_zero visible] at accepted
      split at accepted
      · cases accepted
      next bare =>
        cases accepted
        exact .leaf ⟨visible, by simpa using bare⟩
  | succ allowance ih =>
      have visible := visible_of_ofCharsWithin accepted
      rw [ofCharsWithin_succ allowance visible, bind_eq_ok_iff] at accepted
      obtain ⟨_ | ⟨wrapper, inner⟩, outermost, further⟩ := accepted
      · cases further
        exact .leaf ⟨visible, outermost⟩
      · obtain ⟨member, read, rfl⟩ := map_eq_ok_iff.mp further
        exact .wrapped (outermost?_eq_ok_some_iff.mp outermost) (ih read)

theorem ofCharsWithin_of_reads (read : Reads allowance whole descriptor) :
    ofCharsWithin allowance whole = .ok descriptor := by
  induction read with
  | @leaf allowance whole bare =>
      cases allowance with
      | zero =>
          obtain ⟨visible, bare⟩ := bare
          rw [ofCharsWithin_zero visible, bare]
          rfl
      | succ allowance =>
          obtain ⟨visible, bare⟩ := bare
          rw [ofCharsWithin_succ allowance visible, bare]
          rfl
  | @wrapped allowance whole inner wrapper member outermost inside ih =>
      rw [ofCharsWithin_succ allowance outermost.ne_nil, outermost?_eq_ok_some_iff.mpr outermost]
      exact map_eq_ok_iff.mpr ⟨member, ih, rfl⟩

/-- The grammar is what the reader accepts, with the same result. -/
theorem ofCharsWithin_eq_ok_iff :
    ofCharsWithin allowance whole = .ok descriptor ↔ Reads allowance whole descriptor :=
  ⟨reads_of_ofCharsWithin, ofCharsWithin_of_reads⟩

theorem Reads.nesting_le (read : Reads allowance whole descriptor) :
    descriptor.nesting ≤ allowance := by
  induction read with
  | leaf => simp [nesting_ofUnwrapped]
  | wrapped outermost inside ih => simpa [nesting] using ih

theorem Reads.of_trim_eq (read : Reads allowance whole descriptor)
    (same : Text.trim text = Text.trim whole) : Reads allowance text descriptor := by
  cases read with
  | leaf bare =>
      rw [← same] at bare ⊢
      exact .leaf bare
  | wrapped outermost inside =>
      rw [← same] at outermost
      exact .wrapped outermost inside

theorem Reads.visible (read : Reads allowance whole descriptor) :
    Text.allBlank whole = false := by
  have trimmed : Text.trim whole ≠ [] := by
    cases read with
    | @leaf allowance _ bare => cases allowance <;> exact bare.1
    | wrapped outermost inside => exact outermost.ne_nil
  simpa [Text.trim_eq_nil_iff] using trimmed

end Grammar

end TypeDescriptor

end PureService
