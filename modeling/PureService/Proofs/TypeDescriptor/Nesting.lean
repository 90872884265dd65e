import PureService.Proofs.Attempts
import PureService.Proofs.TypeDescriptor.NormalForm

/-!
# The nesting limit

Reading the canonical text of stacked wrappers takes them off one by one and comes
to the leaf with what is left of the allowance.  Once the allowance is used up, the
first or the last characters of a text are enough to refuse it, so a leaf that only
begins like a map or a table is refused within as many wrappers as are allowed.
-/

namespace PureService.TypeDescriptor

/-- A leaf inside wrappers, of which the first one is the outermost. -/
def stacked (wrappers : List Wrapper) (leaf : TypeDescriptor) : TypeDescriptor :=
  wrappers.foldr wrapped leaf

/-- The text of wrappers around another text, of which the first one is the outermost. -/
def aroundAll (wrappers : List Wrapper) (inner : List Char) : List Char :=
  wrappers.foldr (fun wrapper text => wrapper.around [] text) inner

/-- The leaf may stand inside so many wrappers.  Inside as many as are allowed it
must not begin like a map or a table. -/
def FitsLimit (wrappers : List Wrapper) (leaf : TypeDescriptor) : Prop :=
  wrappers.length < maxNesting ∨
    wrappers.length = maxNesting ∧ ¬ "map".toList <+: leaf.chars ∧ ¬ "table".toList <+: leaf.chars

/-- The canonical text is not empty and has no blank characters at its ends. -/
structure IsTrimmed (descriptor : TypeDescriptor) : Prop where
  nonempty : descriptor.chars ≠ []
  trim : Text.trim descriptor.chars = descriptor.chars

section Stack

variable {wrapper : Wrapper} {descriptor leaf : TypeDescriptor}

theorem IsTrimmed.trim_ne_nil (trimmed : descriptor.IsTrimmed) :
    Text.trim descriptor.chars ≠ [] := by
  rw [trimmed.trim]
  exact trimmed.nonempty

theorem IsTrimmed.visible (trimmed : descriptor.IsTrimmed) :
    Text.allBlank descriptor.chars = false := by
  rw [← Bool.not_eq_true, ← Text.trim_eq_nil_iff]
  exact trimmed.trim_ne_nil

theorem IsTrimmed.wraps (trimmed : descriptor.IsTrimmed) (wrapper : Wrapper) :
    wrapper.Wraps descriptor.chars (wrapped wrapper descriptor).chars :=
  ⟨[], rfl, chars_wrapped wrapper descriptor, .inr trimmed.visible⟩

theorem IsTrimmed.wrapped (trimmed : descriptor.IsTrimmed) (wrapper : Wrapper) :
    (wrapped wrapper descriptor).IsTrimmed := by
  refine ⟨(trimmed.wraps wrapper).ne_nil, ?_⟩
  rw [chars_wrapped]
  cases wrapper with
  | array =>
      have stop : Text.trimEnd "[]".toList = "[]".toList := by decide
      rw [Wrapper.around, Text.trim, Text.trimStart_append trimmed.visible,
        Text.trimStart_eq_self trimmed.trim, Text.trimEnd_append (by decide), stop]
  | map => exact trim_parameterized rfl
  | table => exact trim_parameterized rfl

theorem IsTrimmed.stacked (trimmed : leaf.IsTrimmed) (wrappers : List Wrapper) :
    (stacked wrappers leaf).IsTrimmed := by
  induction wrappers with
  | nil => exact trimmed
  | cons wrapper wrappers ih => exact ih.wrapped wrapper

theorem chars_stacked (wrappers : List Wrapper) (leaf : TypeDescriptor) :
    (stacked wrappers leaf).chars = aroundAll wrappers leaf.chars := by
  induction wrappers with
  | nil => rfl
  | cons wrapper wrappers ih =>
      calc
        (stacked (wrapper :: wrappers) leaf).chars =
            wrapper.around [] (stacked wrappers leaf).chars := chars_wrapped _ _
        _ = aroundAll (wrapper :: wrappers) leaf.chars := congrArg (wrapper.around [] ·) ih

theorem nesting_stacked (wrappers : List Wrapper) (leaf : TypeDescriptor) :
    (stacked wrappers leaf).nesting = wrappers.length + leaf.nesting := by
  induction wrappers with
  | nil => exact (Nat.zero_add _).symm
  | cons wrapper wrappers ih =>
      have outside : (stacked (wrapper :: wrappers) leaf).nesting =
        (stacked wrappers leaf).nesting + 1 := rfl
      rw [outside, ih, List.length_cons]
      omega

theorem allBlank_aroundAll {inner : List Char} (visible : Text.allBlank inner = false)
    (wrappers : List Wrapper) : Text.allBlank (aroundAll wrappers inner) = false := by
  induction wrappers with
  | nil => exact visible
  | cons wrapper wrappers ih => exact allBlank_around ih wrapper

/-- Reading the text of wrappers comes to the text inside with what they leave of the
allowance. -/
theorem ofCharsWithin_aroundAll {inner : List Char} (visible : Text.allBlank inner = false)
    (wrappers : List Wrapper) (allowance : Nat) :
    ofCharsWithin (wrappers.length + allowance) (aroundAll wrappers inner) =
      (ofCharsWithin allowance inner).map (stacked wrappers) := by
  induction wrappers with
  | nil =>
      rw [List.length_nil, Nat.zero_add]
      exact (id_map (ofCharsWithin allowance inner)).symm
  | cons wrapper wrappers ih =>
      have length : (wrapper :: wrappers).length + allowance = wrappers.length + allowance + 1 := by
        rw [List.length_cons]
        omega
      rw [length]
      refine (ofCharsWithin_around (allBlank_aroundAll visible wrappers) wrapper _).trans ?_
      rw [ih]
      cases ofCharsWithin allowance inner <;> rfl

end Stack

/-! ### Leaves -/

/-- The canonical text of the leaf has no wrapper and is read as the leaf. -/
structure IsReadLeaf (leaf : TypeDescriptor) : Prop extends leaf.IsTrimmed where
  bare : outermost? leaf.chars = .ok none
  kept : ofUnwrapped leaf.chars = leaf

section Leaf

variable {allowance : Nat} {whole : List Char} {leaf : TypeDescriptor}

theorem Reads.isTrimmed_of_flat (read : Reads allowance whole leaf) (flat : leaf.nesting = 0) :
    leaf.IsTrimmed := by
  cases read with
  | wrapped => cases flat
  | leaf bare =>
      rcases chars_ofUnwrapped (Text.trim whole) with kept | shortened
      · have visible := (Reads.leaf bare).visible
        refine ⟨?_, by rw [kept, Text.trim_trim]⟩
        rw [kept, ne_eq, Text.trim_eq_nil_iff, visible]
        exact Bool.false_ne_true
      · rw [shortened]
        exact ⟨by decide, by decide⟩

/-- A leaf that was read once is read from its canonical text as a leaf. -/
theorem Reads.isReadLeaf (read : Reads (allowance + 1) whole leaf) (flat : leaf.nesting = 0) :
    leaf.IsReadLeaf := by
  have trimmed := read.isTrimmed_of_flat flat
  have again := ofCharsWithin_of_reads (read.of_respaced (respaced_chars leaf))
  rw [ofCharsWithin_succ allowance trimmed.trim_ne_nil, trimmed.trim,
    Attempts.bind_eq_ok_iff] at again
  -- Of the ways in which the text can be read again, only one gives no wrapper.
  obtain ⟨_ | ⟨wrapper, inner⟩, outermost, further⟩ := again
  · exact ⟨trimmed, outermost, Except.ok.inj further⟩
  · obtain ⟨member, -, rfl⟩ := Attempts.map_eq_ok_iff.mp further
    cases flat

theorem IsReadLeaf.ofCharsWithin_succ (bareLeaf : leaf.IsReadLeaf) (allowance : Nat) :
    ofCharsWithin (allowance + 1) leaf.chars = .ok leaf := by
  rw [TypeDescriptor.ofCharsWithin_succ allowance bareLeaf.trim_ne_nil, bareLeaf.trim,
    bareLeaf.bare]
  exact congrArg Except.ok bareLeaf.kept

/-- A leaf does not end like an array. -/
theorem IsReadLeaf.looksWrapped_iff (bareLeaf : leaf.IsReadLeaf) :
    looksWrapped leaf.chars = true ↔
      "map".toList <+: leaf.chars ∨ "table".toList <+: leaf.chars := by
  have noArray : ¬ "[]".toList <:+ leaf.chars := by
    rintro ⟨element, array⟩
    have outermost := outermost?_array (isSuffixOf?_append "[]".toList element)
    rw [array, bareLeaf.bare] at outermost
    cases outermost
  simp only [looksWrapped, Bool.or_eq_true, List.isSuffixOf_iff_suffix,
    List.isPrefixOf_iff_prefix, noArray, false_or]

/-- Inside a wrapper a descriptor looks wrapped in any case. -/
theorem looksWrapped_stacked_iff (bareLeaf : leaf.IsReadLeaf) (wrappers : List Wrapper) :
    looksWrapped (stacked wrappers leaf).chars = true ↔
      wrappers ≠ [] ∨ "map".toList <+: leaf.chars ∨ "table".toList <+: leaf.chars := by
  cases wrappers with
  | nil => exact bareLeaf.looksWrapped_iff.trans (by simp)
  | cons wrapper wrappers =>
      have wraps := (bareLeaf.toIsTrimmed.stacked wrappers).wraps wrapper
      exact iff_of_true (looksWrapped_of_wraps wraps) (.inl (List.cons_ne_nil _ _))

theorem ofText_stacked_of_lt {wrappers : List Wrapper} (bareLeaf : leaf.IsReadLeaf)
    (within : wrappers.length < maxNesting) :
    ofText (stacked wrappers leaf).text = .ok (stacked wrappers leaf) := by
  obtain ⟨allowance, left⟩ : ∃ allowance, maxNesting = wrappers.length + (allowance + 1) :=
    ⟨maxNesting - wrappers.length - 1, by omega⟩
  rw [ofText, text, String.toList_ofList, left, chars_stacked,
    ofCharsWithin_aroundAll bareLeaf.toIsTrimmed.visible, bareLeaf.ofCharsWithin_succ]
  rfl

/-- As many wrappers as are allowed leave none for those inside them. -/
theorem ofText_stacked_append {outer : List Wrapper} (bareLeaf : leaf.IsReadLeaf)
    (full : outer.length = maxNesting) (inner : List Wrapper) :
    ofText (stacked (outer ++ inner) leaf).text =
      if looksWrapped (stacked inner leaf).chars then
        .error ⟨shown (stacked inner leaf).chars, .tooDeep⟩
      else .ok (stacked (outer ++ inner) leaf) := by
  have inside := bareLeaf.toIsTrimmed.stacked inner
  have split : stacked (outer ++ inner) leaf = stacked outer (stacked inner leaf) :=
    List.foldr_append
  have read := ofCharsWithin_aroundAll inside.visible outer 0
  rw [Nat.add_zero, full, ← chars_stacked, ofCharsWithin_zero inside.trim_ne_nil,
    inside.trim] at read
  rw [ofText, text, String.toList_ofList, split, read]
  -- What is left inside is not looked into, so it passes only if it is the leaf itself.
  split
  · rfl
  next bare =>
    obtain rfl : inner = [] := by
      by_contra some
      exact bare ((looksWrapped_stacked_iff bareLeaf inner).mpr (.inl some))
    exact congrArg (Except.ok <| stacked outer ·) bareLeaf.kept

end Leaf

/-- Canonical texts of stacked wrappers are read again up to the limit, except that a
leaf that begins like a map or a table is refused inside as many as are allowed.  All
other texts are refused for their nesting. -/
theorem ofText_stacked {source : String} {leaf : TypeDescriptor}
    (accepted : ofText source = .ok leaf) (flat : leaf.nesting = 0) (wrappers : List Wrapper) :
    (FitsLimit wrappers leaf →
        ofText (stacked wrappers leaf).text = .ok (stacked wrappers leaf)) ∧
      (¬ FitsLimit wrappers leaf →
        ofText (stacked wrappers leaf).text =
          .error ⟨shown (stacked (wrappers.drop maxNesting) leaf).chars, .tooDeep⟩) := by
  have bareLeaf : leaf.IsReadLeaf := (reads_of_ofCharsWithin accepted).isReadLeaf flat
  rcases Nat.lt_or_ge wrappers.length maxNesting with within | full
  · exact ⟨fun _ => ofText_stacked_of_lt bareLeaf within, fun fails => absurd (.inl within) fails⟩
  · have read := ofText_stacked_append bareLeaf (List.length_take_of_le full)
      (wrappers.drop maxNesting)
    have fits_iff : FitsLimit wrappers leaf ↔
        ¬ looksWrapped (stacked (wrappers.drop maxNesting) leaf).chars = true := by
      rw [looksWrapped_stacked_iff bareLeaf, not_or, not_or, not_not, List.drop_eq_nil_iff,
        FitsLimit, or_iff_right (Nat.not_lt.mpr full), full.ge_iff_eq']
    rw [List.take_append_drop] at read
    rw [fits_iff, read]
    exact ⟨fun fits => if_neg fits, fun fails => if_pos (not_not.mp fails)⟩

/-- As many wrappers as are allowed. -/
def tablesOfArrays : List Wrapper :=
  (List.replicate 16 [.table, .array]).flatten

/-- A record inside sixteen tables of arrays, and the same inside a map. -/
theorem ofText_stacked_tables :
    ofText "record \x7b| map<int> m; |\x7d" = .ok record ∧
      ofText (stacked tablesOfArrays record).text = .ok (stacked tablesOfArrays record) ∧
      ofText (stacked (.map :: tablesOfArrays) record).text =
        .error ⟨"record[]", .tooDeep⟩ := by
  have accepted : ofText "record \x7b| map<int> m; |\x7d" = .ok record := by decide +kernel
  have fits : FitsLimit tablesOfArrays record := .inr ⟨by decide, by decide, by decide⟩
  have fails : ¬ FitsLimit (.map :: tablesOfArrays) record := by
    rintro (within | ⟨exactly, -⟩)
    · exact absurd within (by decide)
    · exact absurd exactly (by decide)
  refine ⟨accepted, (ofText_stacked accepted rfl tablesOfArrays).1 fits, ?_⟩
  exact (ofText_stacked accepted rfl (.map :: tablesOfArrays)).2 fails

/-- A name that only begins like a map is read alone, but not inside as many arrays as are
allowed. -/
theorem ofText_refuses_mapping :
    ofText "mapping" = .ok (other "mapping") ∧
      (List.replicate maxNesting Wrapper.array).length = maxNesting ∧
      ofText (stacked (List.replicate maxNesting .array) (other "mapping")).text =
        .error ⟨"mapping", .tooDeep⟩ := by
  decide +kernel

end PureService.TypeDescriptor
