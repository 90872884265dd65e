import PureService.Proofs.TypeDescriptor.Brackets

/-!
# Quoted type descriptors

An error quotes the text that is refused, which need not be the whole text.  Long
texts are cut off, and of a wrapper around nothing there is nothing to quote.  Only a
text without any visible character is quoted as it stands, however long it is.
-/

namespace PureService.TypeDescriptor

/-- The length of a text that was cut off: what is kept of it, and three dots. -/
def quotedLength : Nat := shownLength + 3

theorem length_shown_le (text : List Char) : (shown text).length ≤ quotedLength := by
  rw [shown, ← String.length_toList, String.toList_ofList]
  split
  next long =>
    rw [List.length_append, List.length_take_of_le (Nat.le_of_lt long)]
    exact Nat.le_refl _
  next short => exact Nat.le_trans (Nat.le_of_not_lt short) (Nat.le_add_right _ _)

theorem length_message (error : TypeError) :
    error.message.length = 25 + error.descriptor.length + 3 + error.fault.message.length := by
  have opening : "invalid type descriptor '".length = 25 := by decide
  have closing : "': ".length = 3 := by decide
  -- The fixed parts are variables here: as literals they would be unfolded when matched.
  have parts : ∀ opening closing : String,
      (opening ++ error.descriptor ++ closing ++ error.fault.message).length =
        opening.length + error.descriptor.length + closing.length + error.fault.message.length := by
    intro opening closing
    simp only [String.length_append]
  have whole := parts "invalid type descriptor '" "': "
  rw [opening, closing] at whole
  exact whole

section Quotes

variable {allowance : Nat} {whole inner : List Char} {wrapper : Wrapper} {error : TypeError}

theorem Refuses.of_allBlank (refused : Refuses allowance whole error)
    (blank : Text.allBlank whole = true) : error = ⟨String.ofList whole, .empty⟩ := by
  have empty : ofCharsWithin allowance whole = .error ⟨String.ofList whole, .empty⟩ :=
    ofCharsWithin_of_refuses (.empty blank)
  rw [ofCharsWithin_of_refuses refused] at empty
  exact Except.error.inj empty

/-- In a trimmed text, a wrapper around a blank text is an array around nothing. -/
theorem eq_nil_of_wraps_trim (wraps : wrapper.Wraps inner (Text.trim whole))
    (blank : Text.allBlank inner = true) : inner = [] := by
  obtain ⟨gap, -, split, rfl | visible⟩ := wraps
  · have kept := Text.trimStart_eq_self (Text.trim_trim whole)
    have stop : Text.trimStart "[]".toList = "[]".toList := by decide
    rw [split, Wrapper.around, Text.trimStart_append_of_allBlank blank, stop] at kept
    exact List.self_eq_append_left.mp kept
  · rw [blank] at visible
    cases visible

/-- The error quotes a part of a text that is not blank, and cuts it off when it is long.
The induction follows the wrappers down to the fault. -/
theorem Refuses.quotes (refused : Refuses allowance whole error)
    (visible : Text.allBlank whole = false) :
    ∃ part, part <:+: whole ∧ error.descriptor = shown part := by
  induction refused with
  | empty blank =>
      rw [blank] at visible
      cases visible
  | @tooDeep whole => exact ⟨Text.trim whole, trim_within whole, rfl⟩
  | @unterminated _ whole => exact ⟨Text.trim whole, trim_within whole, rfl⟩
  | @inside _ whole inner _ _ outermost inside ih =>
      cases blank : Text.allBlank inner with
      | true =>
          obtain rfl := eq_nil_of_wraps_trim outermost blank
          rw [inside.of_allBlank blank]
          exact ⟨[], List.nil_infix, rfl⟩
      | false =>
          obtain ⟨part, within, quoted⟩ := ih blank
          exact ⟨part, within.trans ((within_of_wraps outermost).trans (trim_within whole)), quoted⟩

/-- The longest explanation is that of a table that is not terminated. -/
theorem Refuses.length_message_le (refused : Refuses allowance whole error) :
    error.fault.message.length ≤ (TypeFault.unterminated "table").message.length := by
  have known : ∀ keyword, keyword = "map" ∨ keyword = "table" →
      (TypeFault.unterminated keyword).message.length ≤
        (TypeFault.unterminated "table").message.length := by
    rintro _ (rfl | rfl) <;> decide
  have empty : TypeFault.empty.message.length ≤
      (TypeFault.unterminated "table").message.length := by decide
  have tooDeep : TypeFault.tooDeep.message.length ≤
      (TypeFault.unterminated "table").message.length := by decide
  induction refused with
  | empty => exact empty
  | tooDeep => exact tooDeep
  | unterminated bare isKeyword unterminated => exact known _ isKeyword
  | inside outermost inside ih => exact ih

end Quotes

/-- What an error quotes has at most sixty-seven characters, unless the text is blank
and itself longer: a blank text is quoted in full.  Any other error quotes a part of the
text, cut off when it is long.  A message has at most sixty-eight characters besides
its quotation. -/
theorem quotation_of_ofText {source : String} {error : TypeError}
    (refused : ofText source = .error error) :
    (error.descriptor.length ≤ quotedLength ↔
        (Text.isAllBlank source = true → source.length ≤ quotedLength)) ∧
      (Text.isAllBlank source = true → error = ⟨source, .empty⟩) ∧
      (Text.isAllBlank source = false →
        ∃ part, part <:+: source.toList ∧ error.descriptor = shown part) ∧
      error.message.length ≤ error.descriptor.length + 68 := by
  have refuses : Refuses maxNesting source.toList error := refuses_of_ofCharsWithin refused
  have whole : Text.isAllBlank source = true → error = ⟨source, .empty⟩ := by
    intro blank
    rw [refuses.of_allBlank blank, String.ofList_toList]
  refine ⟨?_, whole, fun visible => refuses.quotes visible, ?_⟩
  · cases blank : Text.isAllBlank source with
    | true => simp [whole blank]
    | false =>
        obtain ⟨part, -, quoted⟩ := refuses.quotes blank
        rw [quoted]
        exact iff_of_true (length_shown_le part) (fun blank => nomatch blank)
  · have explained := refuses.length_message_le
    have longest : (TypeFault.unterminated "table").message.length = 40 := by decide
    rw [longest] at explained
    have whole := length_message error
    omega

/-- A table of the values of a union with a long name in it. -/
def longTable : String :=
  "table<map<int>|" ++ String.ofList (List.replicate 100 'x') ++ ">"

/-- The table is refused for its row, of which the first characters are quoted. -/
theorem quotation_of_ofText_longTable :
    ofText longTable =
        .error ⟨"map<int>|" ++ String.ofList (List.replicate 55 'x') ++ "...",
          .unterminated "map"⟩ ∧
      ("map<int>|" ++ String.ofList (List.replicate 55 'x') ++ "...").length ≤ quotedLength := by
  have refused : ofText longTable =
      .error ⟨"map<int>|" ++ String.ofList (List.replicate 55 'x') ++ "...",
        .unterminated "map"⟩ := by decide +kernel
  obtain ⟨bounded_iff, blank_quoted, -⟩ := quotation_of_ofText refused
  refine ⟨refused, bounded_iff.mpr fun blank => ?_⟩
  cases congrArg TypeError.fault (blank_quoted blank)

/-- A hundred spaces are quoted in full. -/
theorem ofText_quotes_spaces :
    ofText (String.ofList (List.replicate 100 ' ')) =
        .error ⟨String.ofList (List.replicate 100 ' '), .empty⟩ ∧
      quotedLength < (String.ofList (List.replicate 100 ' ')).length := by
  decide +kernel

end PureService.TypeDescriptor
