import PureService.Proofs.TypeDescriptor.Reading

/-!
# The canonical text of a type

A descriptor that was read once is read again from its canonical text, and from
every text that differs from it by blank characters between its parts.
-/

namespace PureService.TypeDescriptor

/-- A text of the descriptor with blank characters around every type in it and
before every parameter.  A leaf is written as it stands. -/
inductive Respaced : TypeDescriptor → List Char → Prop
  | leaf {before after : List Char} {descriptor : TypeDescriptor}
      (flat : descriptor.nesting = 0)
      (blankBefore : Text.allBlank before = true) (blankAfter : Text.allBlank after = true) :
      Respaced descriptor (before ++ descriptor.chars ++ after)
  | wrapped {before gap inner after : List Char} {wrapper : Wrapper} {member : TypeDescriptor}
      (blankBefore : Text.allBlank before = true) (blankGap : Text.allBlank gap = true)
      (blankAfter : Text.allBlank after = true) (inside : Respaced member inner) :
      Respaced (.wrapped wrapper member) (before ++ wrapper.around gap inner ++ after)

/-- The canonical text has no blank characters between its parts. -/
theorem respaced_chars (descriptor : TypeDescriptor) : Respaced descriptor descriptor.chars := by
  have leaf : ∀ descriptor : TypeDescriptor, descriptor.nesting = 0 →
      Respaced descriptor descriptor.chars := by
    intro descriptor flat
    have bare : Respaced descriptor ([] ++ descriptor.chars ++ []) := .leaf flat rfl rfl
    rwa [List.nil_append, List.append_nil] at bare
  induction descriptor with
  | wrapped wrapper member ih =>
      have around :
          Respaced (.wrapped wrapper member) ([] ++ wrapper.around [] member.chars ++ []) :=
        .wrapped rfl rfl rfl ih
      rwa [List.nil_append, List.append_nil, ← chars_wrapped] at around
  | primitive kind => exact leaf _ rfl
  | record => exact leaf _ rfl
  | other text => exact leaf _ rfl

section Respacing

variable {allowance : Nat} {whole text inner gap : List Char} {descriptor : TypeDescriptor}

theorem Respaced.trim_eq_of_flat (spaced : Respaced descriptor text)
    (flat : descriptor.nesting = 0) : Text.trim text = Text.trim descriptor.chars := by
  cases spaced with
  | leaf flat blankBefore blankAfter => exact Text.trim_append_of_allBlank blankBefore blankAfter
  | wrapped => cases flat

theorem trim_parameterized {keyword : String}
    (visible : keyword.toList.head?.map Text.isBlank = some false) :
    Text.trim (Wrapper.parameterized keyword gap inner) =
      Wrapper.parameterized keyword gap inner := by
  cases split : keyword.toList with
  | nil => simp [split] at visible
  | cons first rest =>
      have visible : Text.isBlank first = false := by simpa [split] using visible
      rw [Wrapper.parameterized, split]
      exact Text.trim_eq_self (rest ++ gap ++ "<".toList ++ inner) visible rfl

/-- The canonical text of a record is itself a record at every depth. -/
theorem reads_record (allowance : Nat) : Reads allowance record.chars record := by
  have bare : IsLeaf allowance (Text.trim record.chars) := by
    cases allowance <;> exact ⟨by decide, rfl⟩
  exact .leaf bare

/-- Trimming may reach into an array, whose element comes first, but not into a
parameter. -/
theorem exists_wraps_trim_around (wrapper : Wrapper) (blank : Text.allBlank gap = true)
    (visible : Text.allBlank inner = false) :
    ∃ kept, wrapper.Wraps kept (Text.trim (wrapper.around gap inner)) ∧
      Text.trim kept = Text.trim inner := by
  cases wrapper with
  | array =>
      refine ⟨Text.trimStart inner, ⟨[], rfl, ?_, .inl rfl⟩, ?_⟩
      · have stop : Text.trimEnd "[]".toList = "[]".toList := by decide
        rw [Text.trim, Wrapper.around, Text.trimStart_append visible,
          Text.trimEnd_append (by decide), stop, Wrapper.around]
      · obtain ⟨before, blankBefore, split⟩ := Text.exists_eq_append_trimStart inner
        conv_rhs => rw [split, Text.trim, Text.trimStart_append_of_allBlank blankBefore]
        rfl
  | map => exact ⟨inner, ⟨gap, blank, trim_parameterized rfl, .inr visible⟩, rfl⟩
  | table => exact ⟨inner, ⟨gap, blank, trim_parameterized rfl, .inr visible⟩, rfl⟩

/-- Blank characters around a text that is not blank make no difference, even to what is
said about a refused one. -/
theorem ofCharsWithin_congr {text other : List Char} (visible : Text.allBlank text = false)
    (same : Text.trim other = Text.trim text) (allowance : Nat) :
    ofCharsWithin allowance other = ofCharsWithin allowance text := by
  have trimmed : Text.trim text ≠ [] := by
    rw [ne_eq, Text.trim_eq_nil_iff, visible]
    exact Bool.false_ne_true
  have otherTrimmed : Text.trim other ≠ [] := same ▸ trimmed
  cases allowance with
  | zero => rw [ofCharsWithin_zero trimmed, ofCharsWithin_zero otherTrimmed, same]
  | succ allowance =>
      rw [ofCharsWithin_succ allowance trimmed, ofCharsWithin_succ allowance otherTrimmed, same]

/-- One wrapper uses up one part of the allowance. -/
theorem ofCharsWithin_around {inner : List Char} (visible : Text.allBlank inner = false)
    (wrapper : Wrapper) (allowance : Nat) :
    ofCharsWithin (allowance + 1) (wrapper.around [] inner) =
      (ofCharsWithin allowance inner).map (wrapped wrapper) := by
  obtain ⟨kept, wraps, same⟩ : ∃ kept, wrapper.Wraps kept (Text.trim (wrapper.around [] inner)) ∧
      Text.trim kept = Text.trim inner := exists_wraps_trim_around wrapper rfl visible
  rw [ofCharsWithin_succ allowance wraps.ne_nil, outermost?_eq_ok_some_iff.mpr wraps,
    ← ofCharsWithin_congr visible same]
  rfl

theorem allBlank_around {inner : List Char} (visible : Text.allBlank inner = false)
    (wrapper : Wrapper) : Text.allBlank (wrapper.around [] inner) = false := by
  rw [Text.allBlank] at visible
  cases wrapper <;> simp [Text.allBlank, Wrapper.around, Wrapper.parameterized, visible]

/-- What was read once is read from every respaced text, within the same
allowance.  The induction follows the first reading. -/
theorem Reads.of_respaced (read : Reads allowance whole descriptor)
    (spaced : Respaced descriptor text) : Reads allowance text descriptor := by
  induction read generalizing text with
  | @leaf allowance whole bare =>
      have trimmed := spaced.trim_eq_of_flat (nesting_ofUnwrapped _)
      rcases chars_ofUnwrapped (Text.trim whole) with kept | shortened
      · rw [kept, Text.trim_trim] at trimmed
        exact (Reads.leaf bare).of_trim_eq trimmed
      · rw [shortened] at trimmed ⊢
        exact (reads_record allowance).of_trim_eq trimmed
  | @wrapped allowance whole inner wrapper member outermost inside ih =>
      cases spaced with
      | leaf flat => cases flat
      | @wrapped before gap spacedInner after _ _ blankBefore blankGap blankAfter spacedInside =>
          have inside := ih spacedInside
          obtain ⟨kept, wraps, same⟩ :=
            exists_wraps_trim_around wrapper blankGap inside.visible
          rw [← Text.trim_append_of_allBlank blankBefore blankAfter] at wraps
          exact .wrapped wraps (inside.of_trim_eq same)

end Respacing

/-- An accepted type is within the nesting limit, and reads back from its
canonical text however that is spaced. -/
theorem reads_back_of_ofText {source : String} {descriptor : TypeDescriptor}
    (accepted : ofText source = .ok descriptor) :
    descriptor.nesting ≤ maxNesting ∧ ofText descriptor.text = .ok descriptor ∧
      ∀ spaced, Respaced descriptor spaced →
        ofText (String.ofList spaced) = .ok descriptor := by
  have read : Reads maxNesting source.toList descriptor := ofCharsWithin_eq_ok_iff.mp accepted
  have again : ∀ spaced, Respaced descriptor spaced →
      ofText (String.ofList spaced) = .ok descriptor := by
    intro spaced respaced
    rw [ofText, String.toList_ofList, ofCharsWithin_eq_ok_iff]
    exact read.of_respaced respaced
  exact ⟨read.nesting_le, again _ (respaced_chars descriptor), again⟩

/-- A table of arrays, whose leaf has brackets of its own. -/
def bracketed : TypeDescriptor :=
  .wrapped .table (.wrapped .array (.wrapped .map (.other "Foo | map<int>")))

/-- The descriptor is read, and read again when its text is spaced otherwise. -/
theorem reads_back_bracketed :
    ofText " table< map <Foo | map<int>>[] > " = .ok bracketed ∧
      ofText "table<map<Foo | map<int>>[]>" = .ok bracketed ∧
      ofText "table <map< Foo | map<int> > []>" = .ok bracketed := by
  have accepted : ofText " table< map <Foo | map<int>>[] > " = .ok bracketed := by
    decide +kernel
  have leaf : Respaced (.other "Foo | map<int>") " Foo | map<int> ".toList :=
    @Respaced.leaf [' '] [' '] _ rfl rfl rfl
  have map : Respaced _ "map< Foo | map<int> > ".toList :=
    @Respaced.wrapped [] [] _ [' '] .map _ rfl rfl rfl leaf
  have array : Respaced _ "map< Foo | map<int> > []".toList :=
    @Respaced.wrapped [] [] _ [] .array _ rfl rfl rfl map
  have table : Respaced bracketed "table <map< Foo | map<int> > []>".toList :=
    @Respaced.wrapped [] [' '] _ [] .table _ rfl rfl rfl array
  obtain ⟨_, again, respaced⟩ := reads_back_of_ofText accepted
  refine ⟨accepted, again, ?_⟩
  rw [← String.ofList_toList (s := "table <map< Foo | map<int> > []>")]
  exact respaced _ table

end PureService.TypeDescriptor
