import PureService.Proofs.TypeDescriptor.Reading

/-!
# Refused type descriptors

`Refuses` is the counterpart of the grammar `Reads`: it tells which texts are
refused and why.  The fault need not be in the text itself.  It may lie in a
text that is reached through wrappers.
-/

namespace PureService.TypeDescriptor

open Attempts

/-- The text opens the parameter of the keyword, but does not end with the end
of a visible one. -/
def Unterminated (keyword : String) (text : List Char) : Prop :=
  ∃ gap rest, Text.allBlank gap = true ∧ text = keyword.toList ++ gap ++ "<".toList ++ rest ∧
    ∀ inner, rest = inner ++ ">".toList → Text.allBlank inner = true

section Outermost

variable {keyword : String} {text : List Char} {error : TypeError}

theorem parameterOf?_eq_error_iff :
    parameterOf? keyword text = .error error ↔
      error = ⟨shown text, .unterminated keyword⟩ ∧ Unterminated keyword text := by
  constructor
  · intro refused
    rw [parameterOf?] at refused
    split at refused
    next rest opened =>
      obtain ⟨gap, blank, split⟩ := trimStart_isPrefixOf?_eq_some_iff.mp opened
      dsimp only at refused
      split at refused
      next parameter closed =>
        -- A parameter that is closed is refused only for being blank.
        split at refused
        next invisible =>
          cases refused
          rw [List.isSuffixOf?_eq_some_iff_append_eq] at closed
          refine ⟨rfl, gap, rest, blank, split, ?_⟩
          rintro inner rfl
          rwa [← List.append_cancel_right closed]
        · cases refused
      next unclosed =>
        cases refused
        refine ⟨rfl, gap, rest, blank, split, ?_⟩
        rintro inner rfl
        rw [isSuffixOf?_append] at unclosed
        cases unclosed
    · cases refused
  · rintro ⟨rfl, gap, rest, blank, split, unclosed⟩
    have opened := trimStart_isPrefixOf?_eq_some_iff.mpr ⟨gap, blank, split⟩
    simp only [parameterOf?, opened]
    split
    next inner closed =>
      rw [List.isSuffixOf?_eq_some_iff_append_eq] at closed
      rw [unclosed inner closed.symm, if_pos rfl]
    · rfl

/-- A text that opens the parameter of a table opens none of a map. -/
theorem parameterOf?_map_of_unterminated (unterminated : Unterminated "table" text) :
    parameterOf? "map" text = .ok none := by
  obtain ⟨gap, rest, -, rfl, -⟩ := unterminated
  rfl

/-- Reading a wrapper fails exactly for a parameter that is not terminated, and
not for an array. -/
theorem outermost?_eq_error_iff :
    outermost? text = .error error ↔ (¬ "[]".toList <:+ text) ∧
      ∃ keyword, (keyword = "map" ∨ keyword = "table") ∧
        error = ⟨shown text, .unterminated keyword⟩ ∧ Unterminated keyword text := by
  cases closed : "[]".toList.isSuffixOf? text with
  | some element =>
      have array : "[]".toList <:+ text :=
        ⟨element, List.isSuffixOf?_eq_some_iff_append_eq.mp closed⟩
      rw [outermost?_array closed]
      constructor
      · intro refused
        cases refused
      · rintro ⟨noArray, -⟩
        exact (noArray array).elim
  | none =>
      have noArray : ¬ "[]".toList <:+ text := by
        rintro ⟨element, rfl⟩
        rw [isSuffixOf?_append] at closed
        cases closed
      rw [and_iff_right noArray, outermost?, closed]
      constructor
      · intro refused
        rcases map : parameterOf? "map" text with _ | _ | value <;> rw [map] at refused
        · cases refused
          exact ⟨"map", .inl rfl, parameterOf?_eq_error_iff.mp map⟩
        · rcases table : parameterOf? "table" text with _ | _ | row <;> rw [table] at refused <;>
            cases refused
          exact ⟨"table", .inr rfl, parameterOf?_eq_error_iff.mp table⟩
        · cases refused
      · rintro ⟨_, rfl | rfl, told⟩
        · rw [parameterOf?_eq_error_iff.mpr told]
          rfl
        · rw [parameterOf?_map_of_unterminated told.2, parameterOf?_eq_error_iff.mpr told]
          rfl

end Outermost

/-- The text is refused when at most that many wrappers are allowed. -/
inductive Refuses : (allowance : Nat) → List Char → TypeError → Prop
  | empty {allowance : Nat} {whole : List Char} (blank : Text.allBlank whole = true) :
      Refuses allowance whole ⟨String.ofList whole, .empty⟩
  | tooDeep {whole : List Char} (wrapped : looksWrapped (Text.trim whole) = true) :
      Refuses 0 whole ⟨shown (Text.trim whole), .tooDeep⟩
  | unterminated {allowance : Nat} {whole : List Char} {keyword : String}
      (bare : ¬ "[]".toList <:+ Text.trim whole) (known : keyword = "map" ∨ keyword = "table")
      (unterminated : Unterminated keyword (Text.trim whole)) :
      Refuses (allowance + 1) whole ⟨shown (Text.trim whole), .unterminated keyword⟩
  | inside {allowance : Nat} {whole inner : List Char} {wrapper : Wrapper} {error : TypeError}
      (outermost : wrapper.Wraps inner (Text.trim whole)) (inside : Refuses allowance inner error) :
      Refuses (allowance + 1) whole error

section Grammar

variable {allowance : Nat} {whole : List Char} {error : TypeError}

theorem Refuses.of_invisible (invisible : Text.trim whole = [])
    (refused : ofCharsWithin allowance whole = .error error) : Refuses allowance whole error := by
  rw [ofCharsWithin_of_trim_eq_nil allowance invisible] at refused
  cases refused
  exact .empty (Text.trim_eq_nil_iff.mp invisible)

theorem refuses_of_ofCharsWithin (refused : ofCharsWithin allowance whole = .error error) :
    Refuses allowance whole error := by
  induction allowance generalizing whole error with
  | zero =>
      rcases eq_or_ne (Text.trim whole) [] with invisible | visible
      · exact .of_invisible invisible refused
      · rw [ofCharsWithin_zero visible] at refused
        split at refused
        next wrapped =>
          cases refused
          exact .tooDeep wrapped
        · cases refused
  | succ allowance ih =>
      rcases eq_or_ne (Text.trim whole) [] with invisible | visible
      · exact .of_invisible invisible refused
      · rw [ofCharsWithin_succ allowance visible, bind_eq_error_iff] at refused
        rcases refused with faulty | ⟨_ | ⟨wrapper, inner⟩, outermost, further⟩
        · obtain ⟨bare, keyword, known, rfl, unterminated⟩ := outermost?_eq_error_iff.mp faulty
          exact .unterminated bare known unterminated
        · cases further
        · exact .inside (outermost?_eq_ok_some_iff.mp outermost) (ih (map_eq_error_iff.mp further))

theorem Unterminated.ne_nil {keyword : String} {text : List Char}
    (unterminated : Unterminated keyword text) : text ≠ [] := by
  obtain ⟨gap, rest, -, rfl, -⟩ := unterminated
  simp

theorem ofCharsWithin_of_refuses (refused : Refuses allowance whole error) :
    ofCharsWithin allowance whole = .error error := by
  induction refused with
  | @empty allowance whole blank =>
      exact ofCharsWithin_of_trim_eq_nil allowance (Text.trim_eq_nil_iff.mpr blank)
  | @tooDeep whole wrapped =>
      have visible : Text.trim whole ≠ [] := by
        intro invisible
        rw [invisible] at wrapped
        revert wrapped
        decide
      rw [ofCharsWithin_zero visible, if_pos wrapped]
  | @unterminated allowance whole keyword bare known unterminated =>
      rw [ofCharsWithin_succ allowance unterminated.ne_nil,
        outermost?_eq_error_iff.mpr ⟨bare, _, known, rfl, unterminated⟩]
      rfl
  | @inside allowance whole inner wrapper error outermost inside ih =>
      rw [ofCharsWithin_succ allowance outermost.ne_nil, outermost?_eq_ok_some_iff.mpr outermost]
      exact map_eq_error_iff.mpr ih

theorem ofCharsWithin_eq_error_iff :
    ofCharsWithin allowance whole = .error error ↔ Refuses allowance whole error :=
  ⟨refuses_of_ofCharsWithin, ofCharsWithin_of_refuses⟩

end Grammar

/-- The trimmed text that stands in the other one, within that many wrappers. -/
inductive Reaches : (depth : Nat) → List Char → List Char → Prop
  | here {whole : List Char} : Reaches 0 whole (Text.trim whole)
  | inside {depth : Nat} {whole inner text : List Char} {wrapper : Wrapper}
      (outermost : wrapper.Wraps inner (Text.trim whole)) (further : Reaches depth inner text) :
      Reaches (depth + 1) whole text

section Reaches

variable {allowance depth : Nat} {whole text : List Char} {descriptor keyword : String}

/-- What holds of a text also when it is trimmed, and of what a wrapper stands
around, holds of every text that is reached. -/
theorem Reaches.induct (reaches : Reaches depth whole text) {holds : List Char → Prop}
    (trims : ∀ text, holds text → holds (Text.trim text))
    (enters : ∀ wrapper inner text, Wrapper.Wraps wrapper inner text → holds text → holds inner)
    (start : holds whole) : holds text := by
  induction reaches with
  | here => exact trims _ start
  | inside outermost further ih => exact ih (enters _ _ _ outermost (trims _ start))

/-- A parameter that is not terminated is reached through fewer wrappers than are allowed. -/
theorem refuses_unterminated_iff :
    Refuses allowance whole ⟨descriptor, .unterminated keyword⟩ ↔
      ∃ depth text, depth < allowance ∧ Reaches depth whole text ∧ descriptor = shown text ∧
        (¬ "[]".toList <:+ text) ∧ (keyword = "map" ∨ keyword = "table") ∧
        Unterminated keyword text := by
  constructor
  · generalize told : TypeError.mk descriptor (.unterminated keyword) = error
    intro refused
    induction refused with
    | empty | tooDeep => cases told
    | unterminated bare known unterminated =>
        cases told
        exact ⟨0, _, Nat.succ_pos _, .here, rfl, bare, known, unterminated⟩
    | inside outermost inside ih =>
        obtain ⟨depth, text, within, reaches, found⟩ := ih told
        exact ⟨depth + 1, text, Nat.succ_lt_succ within, .inside outermost reaches, found⟩
  · rintro ⟨depth, text, within, reaches, rfl, bare, known, unterminated⟩
    induction reaches generalizing allowance with
    | here =>
        obtain ⟨allowance, rfl⟩ := Nat.exists_eq_succ_of_ne_zero (Nat.ne_of_gt within)
        exact .unterminated bare known unterminated
    | inside outermost further ih =>
        obtain ⟨allowance, rfl⟩ := Nat.exists_eq_succ_of_ne_zero (Nat.ne_zero_of_lt within)
        exact .inside outermost (ih (Nat.lt_of_succ_lt_succ within) bare unterminated)

end Reaches

end PureService.TypeDescriptor
