import PureService.Proofs.TypeDescriptor.Refusal

/-!
# Angle brackets in types

A parameter is taken to be unterminated when the type that it begins does not
end with its bracket.  In a text whose angle brackets are all closed and filled
this happens exactly where something follows the parameter of a map or a table.
-/

namespace PureService.TypeDescriptor

/-- How many angle brackets are open after the text.  A closing bracket that
closes none counts for nothing. -/
def openAngles : (depth : Nat) → List Char → Nat
  | depth, [] => depth
  | depth, '<' :: rest => openAngles (depth + 1) rest
  | depth, '>' :: rest => openAngles (depth - 1) rest
  | depth, _ :: rest => openAngles depth rest

/-- A bracket that was opened before the text is closed in it, after those that
were opened above it. -/
def closesAngle : (above : Nat) → List Char → Bool
  | _, [] => false
  | above, '<' :: rest => closesAngle (above + 1) rest
  | above, '>' :: rest => above == 0 || closesAngle (above - 1) rest
  | above, _ :: rest => closesAngle above rest

/-- Somewhere in the text there is a parameter without a visible character. -/
def hasBlankParameter : List Char → Bool
  | [] => false
  | '<' :: rest => (Text.trimStart rest).head? == some '>' || hasBlankParameter rest
  | _ :: rest => hasBlankParameter rest

/-- There are no angle brackets in the text. -/
def isFlat (text : List Char) : Bool :=
  text.all fun char => char != '<' && char != '>'

section Closing

variable {above depth : Nat} {char : Char} {text before middle after inner rest : List Char}

theorem openAngles_cons (notOpen : char ≠ '<') (notClose : char ≠ '>') :
    openAngles depth (char :: rest) = openAngles depth rest :=
  openAngles.eq_4 depth char rest notOpen notClose

theorem closesAngle_cons (notOpen : char ≠ '<') (notClose : char ≠ '>') :
    closesAngle above (char :: rest) = closesAngle above rest :=
  closesAngle.eq_4 above char rest notOpen notClose

theorem isFlat_of_allBlank (blank : Text.allBlank text = true) : isFlat text = true := by
  rw [isFlat, List.all_eq_true]
  intro char member
  have blankChar : Text.isBlank char = true := List.all_eq_true.mp blank char member
  have angles : char ≠ '<' ∧ char ≠ '>' := by
    constructor <;> (rintro rfl; revert blankChar; decide)
  simpa using angles

theorem closesAngle_append_of_isFlat (flat : isFlat before = true) :
    closesAngle above (before ++ text) = closesAngle above text := by
  induction before with
  | nil => rfl
  | cons char before ih =>
      simp only [isFlat, List.all_cons, Bool.and_eq_true, bne_iff_ne] at flat
      rw [List.cons_append, closesAngle_cons flat.1.1 flat.1.2, ih flat.2]

theorem closesAngle_append_middle (flat : isFlat middle = true) :
    closesAngle above (text ++ (middle ++ after)) = closesAngle above (text ++ after) := by
  induction above, text using closesAngle.induct with
  | case1 above => exact closesAngle_append_of_isFlat flat
  | case2 above rest ih => exact ih
  | case3 above rest ih => exact congrArg (above == 0 || ·) ih
  | case4 above char rest notOpen notClose ih =>
      rw [List.cons_append, List.cons_append, closesAngle_cons notOpen notClose,
        closesAngle_cons notOpen notClose, ih]

/-- Where no bracket of the text stays open, the next closing one belongs to a
bracket before it. -/
theorem closesAngle_of_openAngles (closed : openAngles above text = 0) :
    closesAngle above (text ++ ">".toList) = true := by
  induction above, text using closesAngle.induct with
  | case1 above =>
      obtain rfl : above = 0 := closed
      rfl
  | case2 above rest ih => exact ih closed
  | case3 above rest ih => exact Bool.or_eq_true_iff.mpr (.inr (ih closed))
  | case4 above char rest notOpen notClose ih =>
      rw [openAngles_cons notOpen notClose] at closed
      rw [List.cons_append, closesAngle_cons notOpen notClose, ih closed]

/-- A bracket inside another one is closed before it. -/
theorem closesAngle_of_succ (closes : closesAngle (above + 1) (text ++ ">".toList) = true) :
    closesAngle above text = true := by
  induction above, text using closesAngle.induct with
  | case1 above => simp [closesAngle] at closes
  | case2 above rest ih => exact ih closes
  | case3 above rest ih =>
      cases above with
      | zero => rfl
      | succ above => exact ih closes
  | case4 above char rest notOpen notClose ih =>
      rw [List.cons_append, closesAngle_cons notOpen notClose] at closes
      rw [closesAngle_cons notOpen notClose, ih closes]

theorem exists_of_closesAngle (closes : closesAngle above text = true) :
    ∃ inner after, text = inner ++ '>' :: after ∧ openAngles above inner = 0 := by
  induction above, text using closesAngle.induct with
  | case1 above => cases closes
  | case2 above rest ih =>
      obtain ⟨inner, after, rfl, closed⟩ := ih closes
      exact ⟨'<' :: inner, after, rfl, closed⟩
  | case3 above rest ih =>
      rcases Bool.or_eq_true_iff.mp closes with last | later
      · exact ⟨[], rest, rfl, beq_iff_eq.mp last⟩
      · obtain ⟨inner, after, rfl, closed⟩ := ih later
        exact ⟨'>' :: inner, after, rfl, closed⟩
  | case4 above char rest notOpen notClose ih =>
      rw [closesAngle_cons notOpen notClose] at closes
      obtain ⟨inner, after, rfl, closed⟩ := ih closes
      exact ⟨char :: inner, after, rfl, by rw [openAngles_cons notOpen notClose, closed]⟩

end Closing

/-! ### Brackets within wrappers -/

/-- A bracket that was opened before the text is closed by the next closing
bracket after it, if not before. -/
def IsSealed (text : List Char) : Prop :=
  closesAngle 0 (text ++ ">".toList) = true

section Sealed

variable {keyword : String} {text gap inner rest : List Char} {wrapper : Wrapper}

theorem isSealed_trim_iff : IsSealed (Text.trim text) ↔ IsSealed text := by
  obtain ⟨before, after, blankBefore, blankAfter, split⟩ := Text.exists_eq_append_trim text
  conv_rhs => rw [split]
  rw [IsSealed, IsSealed, List.append_assoc, List.append_assoc,
    closesAngle_append_of_isFlat (isFlat_of_allBlank blankBefore),
    closesAngle_append_middle (isFlat_of_allBlank blankAfter)]

/-- A parameter in a sealed text is closed there. -/
theorem IsSealed.closesAngle (outside : IsSealed (keyword.toList ++ gap ++ "<".toList ++ rest))
    (known : keyword = "map" ∨ keyword = "table") (blank : Text.allBlank gap = true) :
    closesAngle 0 rest = true := by
  have flat : isFlat keyword.toList = true := by
    rcases known with rfl | rfl <;> decide
  rw [IsSealed, List.append_assoc, List.append_assoc, List.append_assoc,
    closesAngle_append_of_isFlat flat, closesAngle_append_of_isFlat (isFlat_of_allBlank blank)]
    at outside
  exact closesAngle_of_succ outside

theorem IsSealed.of_wraps (outside : IsSealed text) (wraps : wrapper.Wraps inner text) :
    IsSealed inner := by
  obtain ⟨gap, blank, rfl, -⟩ := wraps
  cases wrapper with
  | array =>
      rw [IsSealed, Wrapper.around, List.append_assoc, closesAngle_append_middle (by decide)]
        at outside
      exact outside
  | map =>
      rw [Wrapper.around, Wrapper.parameterized, List.append_assoc _ inner] at outside
      exact outside.closesAngle (.inl rfl) blank
  | table =>
      rw [Wrapper.around, Wrapper.parameterized, List.append_assoc _ inner] at outside
      exact outside.closesAngle (.inr rfl) blank

end Sealed

section Blank

variable {text part gap inner rest before after : List Char} {wrapper : Wrapper}

theorem hasBlankParameter_cons (char : Char) (blank : hasBlankParameter text = true) :
    hasBlankParameter (char :: text) = true := by
  by_cases opens : char = '<'
  · rw [opens, hasBlankParameter, blank, Bool.or_true]
  · rwa [hasBlankParameter.eq_3 _ _ opens]

theorem hasBlankParameter_append (blank : hasBlankParameter text = true) :
    hasBlankParameter (text ++ after) = true := by
  induction text using hasBlankParameter.induct with
  | case1 => cases blank
  | case2 rest ih =>
      rw [hasBlankParameter, Bool.or_eq_true] at blank
      rcases blank with here | later
      · have visible : Text.allBlank rest = false := by
          rw [← Bool.not_eq_true, ← Text.trimStart_eq_nil_iff]
          intro empty
          simp [empty] at here
        obtain ⟨tail, starts⟩ := List.head?_eq_some_iff.mp (beq_iff_eq.mp here)
        rw [List.cons_append, hasBlankParameter, Text.trimStart_append visible, starts]
        rfl
      · exact hasBlankParameter_cons '<' (ih later)
  | case3 char rest notOpen ih =>
      rw [hasBlankParameter.eq_3 _ _ notOpen] at blank
      exact hasBlankParameter_cons char (ih blank)

theorem hasBlankParameter_of_part (inside : part <:+: text)
    (blank : hasBlankParameter part = true) : hasBlankParameter text = true := by
  obtain ⟨before, after, rfl⟩ := inside
  apply hasBlankParameter_append
  induction before with
  | nil => exact blank
  | cons char before ih => exact hasBlankParameter_cons char ih

theorem hasBlankParameter_of_allBlank (before rest : List Char)
    (blank : Text.allBlank gap = true) :
    hasBlankParameter (before ++ "<".toList ++ (gap ++ '>' :: rest)) = true := by
  have opened : hasBlankParameter ('<' :: (gap ++ '>' :: rest)) = true := by
    rw [hasBlankParameter, Text.trimStart_append_of_allBlank blank]
    rfl
  exact hasBlankParameter_of_part ⟨before, [], by simp⟩ opened

theorem trim_within (text : List Char) : Text.trim text <:+: text := by
  obtain ⟨before, after, -, -, split⟩ := Text.exists_eq_append_trim text
  exact ⟨before, after, split.symm⟩

theorem within_of_wraps (wraps : wrapper.Wraps inner text) : inner <:+: text := by
  obtain ⟨gap, -, rfl, -⟩ := wraps
  cases wrapper with
  | array => exact ⟨[], "[]".toList, rfl⟩
  | map => exact ⟨"map".toList ++ gap ++ "<".toList, ">".toList, rfl⟩
  | table => exact ⟨"table".toList ++ gap ++ "<".toList, ">".toList, rfl⟩

end Blank

/-! ### Refused parameters -/

/-- What follows a parameter ends neither a parameter nor an array. -/
def GoesOn (rest : List Char) : Prop :=
  rest ≠ [] ∧ (¬ ">".toList <:+ rest) ∧ ¬ "[]".toList <:+ rest

section Refused

variable {keyword : String} {text gap inner rest before : List Char}

/-- After a closing bracket, only what follows it can end with an array. -/
theorem array_suffix_iff (more : rest ≠ []) :
    "[]".toList <:+ before ++ ">".toList ++ rest ↔ "[]".toList <:+ rest := by
  have marks : "[]".toList = ['[', ']'] := rfl
  rw [marks]
  constructor
  · intro array
    have follows : rest <:+ before ++ ">".toList ++ rest := List.suffix_append _ _
    rcases List.suffix_or_suffix_of_suffix array follows with inside | reaches
    · exact inside
    · rcases List.suffix_cons_iff.mp reaches with rfl | reaches
      · exact List.suffix_rfl
      · rcases List.suffix_cons_iff.mp reaches with rfl | reaches
        · obtain ⟨front, split⟩ := array
          rw [List.append_cons front, List.append_cancel_right_eq] at split
          exact absurd (List.append_inj_right' split rfl) (by decide)
        · exact (more (List.suffix_nil.mp reaches)).elim
  · intro array
    exact array.trans (List.suffix_append _ _)

/-- A visible parameter that is closed is not all of the text if it is not terminated. -/
theorem closing_iff (visible : Text.allBlank inner = false) :
    (∀ part, inner ++ ">".toList ++ rest = part ++ ">".toList → Text.allBlank part = true) ↔
      rest ≠ [] ∧ ¬ ">".toList <:+ rest := by
  constructor
  · intro unclosed
    constructor
    · rintro rfl
      rw [unclosed inner (List.append_nil _)] at visible
      cases visible
    · rintro ⟨front, rfl⟩
      have blank := unclosed (inner ++ ">".toList ++ front) (by simp)
      simp only [Text.allBlank, List.all_append, Bool.and_eq_true] at blank
      exact absurd blank.1.2 (by decide)
  · rintro ⟨more, goesOn⟩ part split
    have closes : ">".toList <:+ inner ++ ">".toList ++ rest := ⟨part, split.symm⟩
    have follows : rest <:+ inner ++ ">".toList ++ rest := List.suffix_append _ _
    rcases List.suffix_or_suffix_of_suffix closes follows with inside | reaches
    · exact (goesOn inside).elim
    · rcases List.suffix_cons_iff.mp reaches with rfl | reaches
      · exact (goesOn List.suffix_rfl).elim
      · exact (more (List.suffix_nil.mp reaches)).elim

/-- In a text whose brackets are closed and filled, a parameter is not
terminated exactly if it is closed and something follows it. -/
theorem unterminated_iff (outside : IsSealed text) (filled : hasBlankParameter text = false)
    (known : keyword = "map" ∨ keyword = "table") :
    (¬ "[]".toList <:+ text) ∧ Unterminated keyword text ↔
      ∃ gap inner rest, text = Wrapper.parameterized keyword gap inner ++ rest ∧
        Text.allBlank gap = true ∧ Text.allBlank inner = false ∧ openAngles 0 inner = 0 ∧
        GoesOn rest := by
  constructor
  · rintro ⟨bare, gap, rest, blank, rfl, unclosed⟩
    obtain ⟨inner, after, rfl, closed⟩ := exists_of_closesAngle (outside.closesAngle known blank)
    have bracket : inner ++ '>' :: after = inner ++ ">".toList ++ after := by simp
    have shape : keyword.toList ++ gap ++ "<".toList ++ (inner ++ '>' :: after) =
        Wrapper.parameterized keyword gap inner ++ after := by
      simp [Wrapper.parameterized]
    have visible : Text.allBlank inner = false := by
      rw [← Bool.not_eq_true]
      intro blankInner
      rw [hasBlankParameter_of_allBlank _ after blankInner] at filled
      cases filled
    rw [bracket] at unclosed
    obtain ⟨more, goesOn⟩ := (closing_iff visible).mp unclosed
    rw [shape, Wrapper.parameterized, array_suffix_iff more] at bare
    exact ⟨gap, inner, after, shape, blank, visible, closed, more, goesOn, bare⟩
  · rintro ⟨gap, inner, rest, rfl, blank, visible, closed, more, goesOn, bare⟩
    rw [Wrapper.parameterized, array_suffix_iff more]
    refine ⟨bare, gap, inner ++ ">".toList ++ rest, blank, by simp, ?_⟩
    exact (closing_iff visible).mpr ⟨more, goesOn⟩

end Refused

/-- A text whose angle brackets are all closed and filled is refused for a
parameter that is not terminated exactly if, within some wrappers, the parameter
of a map or a table is closed and something follows it. -/
theorem ofText_eq_unterminated_iff {source descriptor keyword : String}
    (closed : openAngles 0 source.toList = 0)
    (filled : hasBlankParameter source.toList = false) :
    ofText source = .error ⟨descriptor, .unterminated keyword⟩ ↔
      ∃ depth gap inner rest, depth < maxNesting ∧ (keyword = "map" ∨ keyword = "table") ∧
        Reaches depth source.toList (Wrapper.parameterized keyword gap inner ++ rest) ∧
        descriptor = shown (Wrapper.parameterized keyword gap inner ++ rest) ∧
        Text.allBlank gap = true ∧ Text.allBlank inner = false ∧ openAngles 0 inner = 0 ∧
        GoesOn rest := by
  -- Both conditions pass from a text to every text that is reached in it.
  have holds : ∀ {depth text}, Reaches depth source.toList text →
      IsSealed text ∧ hasBlankParameter text = false := by
    intro depth text reaches
    refine ⟨reaches.induct (fun _ => isSealed_trim_iff.mpr)
        (fun _ _ _ wraps outside => outside.of_wraps wraps) (closesAngle_of_openAngles closed), ?_⟩
    have within : text <:+: source.toList := reaches.induct
      (fun text inside => (trim_within text).trans inside)
      (fun _ _ _ wraps inside => (within_of_wraps wraps).trans inside) List.infix_rfl
    rw [← Bool.not_eq_true] at filled ⊢
    exact fun blank => filled (hasBlankParameter_of_part within blank)
  rw [ofText, ofCharsWithin_eq_error_iff, refuses_unterminated_iff]
  constructor
  · rintro ⟨depth, text, within, reaches, told, bare, known, unterminated⟩
    obtain ⟨outside, filledText⟩ := holds reaches
    obtain ⟨gap, inner, rest, rfl, found⟩ :=
      (unterminated_iff outside filledText known).mp ⟨bare, unterminated⟩
    exact ⟨depth, gap, inner, rest, within, known, reaches, told, found⟩
  · rintro ⟨depth, gap, inner, rest, within, known, reaches, told, found⟩
    obtain ⟨outside, filledText⟩ := holds reaches
    obtain ⟨bare, unterminated⟩ :=
      (unterminated_iff outside filledText known).mpr ⟨gap, inner, rest, rfl, found⟩
    exact ⟨depth, _, within, reaches, told, bare, known, unterminated⟩

/-- A table of the values of a union is refused for the map in it. -/
theorem ofText_eq_unterminated_within_table :
    openAngles 0 "table<map<int>|string>".toList = 0 ∧
      hasBlankParameter "table<map<int>|string>".toList = false ∧
      ofText "table<map<int>|string>" = .error ⟨"map<int>|string", .unterminated "map"⟩ := by
  have closed : openAngles 0 "table<map<int>|string>".toList = 0 := by decide
  have filled : hasBlankParameter "table<map<int>|string>".toList = false := by decide
  have table : Wrapper.table.Wraps "map<int>|string".toList
      (Text.trim "table<map<int>|string>".toList) := ⟨[], rfl, by decide, .inr (by decide)⟩
  refine ⟨closed, filled, (ofText_eq_unterminated_iff closed filled).mpr ?_⟩
  refine ⟨1, [], "int".toList, "|string".toList, by decide, .inl rfl, .inside table .here, ?_⟩
  refine ⟨by decide, rfl, by decide, by decide, by decide, ?_, ?_⟩ <;> decide

/-- A map with an alternative is refused, although all brackets are closed and filled. -/
theorem ofText_refuses_closed_map :
    openAngles 0 "map<int>|string".toList = 0 ∧
      hasBlankParameter "map<int>|string".toList = false ∧
      ofText "map<int>|string" = .error ⟨"map<int>|string", .unterminated "map"⟩ := by
  decide +kernel

end PureService.TypeDescriptor
