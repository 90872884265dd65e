import PureService.Proofs.TypeDescriptor.Nesting
import PureService.Proofs.TypeDescriptor.Refusal

/-!
# Texts of serializable types

Whether a type can be read from JSON shows in its canonical text.  An array, a map and
a table of maps are looked through, and what they stand around counts if it is the
word of a type that JSON has or if it is a map.  The values of that map make no
difference.
-/

namespace PureService

/-- The text of a wrapper around the text of another type. -/
def Wrapper.textAround (inner : String) : Wrapper → String
  | array => inner ++ "[]"
  | map => "map<" ++ inner ++ ">"
  | table => "table<" ++ inner ++ ">"

@[simp]
theorem Wrapper.toList_textAround (wrapper : Wrapper) (inner : String) :
    (wrapper.textAround inner).toList = wrapper.around [] inner.toList := by
  cases wrapper <;> simp [textAround, around, parameterized]

namespace TypeDescriptor

/-- The words of the types that pass to and from JSON as they are. -/
def jsonWords : List String :=
  ["boolean", "int", "float", "decimal", "byte", "string", "json", "record"]

/-- The wrappers that are looked through to the type inside, the outermost first. -/
def lookedThrough : List (List Wrapper) :=
  [[.array], [.map], [.table, .map]]

/-- The text of wrappers around the text of another type, the outermost first. -/
def stackedText (wrappers : List Wrapper) (inner : String) : String :=
  wrappers.foldr (fun wrapper text => wrapper.textAround text) inner

/-- The text of a type that counts by its shape: a word, or a map of anything visible. -/
def IsMemberText (text : String) : Prop :=
  text ∈ jsonWords ∨
    ∃ value, Text.isAllBlank value = false ∧ text = Wrapper.map.textAround value

/-- The text of a serializable type. -/
def IsSerializableText (text : String) : Prop :=
  text ∈ jsonWords ∨
    ∃ wrappers ∈ lookedThrough, ∃ member, IsMemberText member ∧ text = stackedText wrappers member

/-! ### Serializable types -/

/-- The types that pass to and from JSON as they are. -/
def jsonTypes : List TypeDescriptor :=
  [primitive .boolean, primitive .int, primitive .float, primitive .decimal, primitive .byte,
    primitive .string, primitive .json, record]

section Tree

variable {descriptor : TypeDescriptor}

theorem map_text_jsonTypes : jsonTypes.map text = jsonWords := by
  decide

theorem isSupportedMember_iff_shape :
    descriptor.isSupportedMember = true ↔
      descriptor ∈ jsonTypes ∨ ∃ value, descriptor = wrapped .map value := by
  constructor
  · intro supported
    cases descriptor with
    | primitive kind =>
        left
        revert supported
        cases kind <;> decide
    | wrapped wrapper value =>
        cases wrapper with
        | map => exact .inr ⟨value, rfl⟩
        | array | table => cases supported
    | record => exact .inl (by decide)
    | other text => cases supported
  · rintro (word | ⟨value, rfl⟩)
    · revert descriptor
      decide
    · rfl

theorem isSerializable_iff_stacked :
    descriptor.isSerializable = true ↔
      descriptor ∈ jsonTypes ∨ ∃ wrappers ∈ lookedThrough, ∃ member,
        descriptor = stacked wrappers member ∧ member.isSupportedMember = true := by
  constructor
  · intro serializable
    cases descriptor with
    | primitive kind =>
        left
        revert serializable
        cases kind <;> decide
    | wrapped wrapper member =>
        right
        cases wrapper with
        | array => exact ⟨[.array], by decide, member, rfl, serializable⟩
        | map => exact ⟨[.map], by decide, member, rfl, serializable⟩
        | table =>
            cases member with
            | wrapped inside value =>
                cases inside with
                | map => exact ⟨[.table, .map], by decide, value, rfl, serializable⟩
                | array | table => cases serializable
            | primitive | record | other => cases serializable
    | record => exact .inl (by decide)
    | other text => cases serializable
  · rintro (word | ⟨wrappers, through, member, rfl, supported⟩)
    · revert descriptor
      decide
    · simp only [lookedThrough, List.mem_cons, List.not_mem_nil, or_false] at through
      obtain rfl | rfl | rfl := through <;> exact supported

/-- What stands in a wrapper that is not looked through makes no difference. -/
theorem isSerializable_stacked_wrapped {wrappers : List Wrapper}
    (through : wrappers ∈ lookedThrough) (wrapper : Wrapper) (value other : TypeDescriptor) :
    (stacked (wrappers ++ [wrapper]) value).isSerializable =
      (stacked (wrappers ++ [wrapper]) other).isSerializable := by
  simp only [lookedThrough, List.mem_cons, List.not_mem_nil, or_false] at through
  obtain rfl | rfl | rfl := through <;> rfl

end Tree

/-! ### Reading the texts -/

section Reading

variable {allowance : Nat} {whole : List Char} {text : String} {wrapper : Wrapper}
  {wrappers : List Wrapper} {descriptor member : TypeDescriptor}

theorem toList_stackedText (wrappers : List Wrapper) (inner : String) :
    (stackedText wrappers inner).toList = aroundAll wrappers inner.toList := by
  induction wrappers with
  | nil => rfl
  | cons wrapper wrappers ih =>
      exact (wrapper.toList_textAround _).trans (congrArg (wrapper.around [] ·) ih)

theorem text_stacked (wrappers : List Wrapper) (leaf : TypeDescriptor) :
    (stacked wrappers leaf).text = stackedText wrappers leaf.text := by
  rw [← String.toList_inj, toList_stackedText, text, text, String.toList_ofList,
    String.toList_ofList, chars_stacked]

theorem Reads.again (read : Reads allowance whole descriptor) :
    Reads allowance descriptor.text.toList descriptor := by
  rw [text, String.toList_ofList]
  exact read.of_respaced (respaced_chars descriptor)

theorem Reads.isAllBlank_text (read : Reads allowance whole descriptor) :
    Text.isAllBlank descriptor.text = false :=
  read.again.visible

theorem Reads.exists_inside (read : Reads (allowance + 1) whole (.wrapped wrapper member)) :
    ∃ inner, Reads allowance inner member := by
  generalize same : TypeDescriptor.wrapped wrapper member = descriptor at read
  cases read with
  | leaf bare =>
      have flat := congrArg nesting same
      rw [nesting_ofUnwrapped] at flat
      cases flat
  | wrapped outermost inside =>
      cases same
      exact ⟨_, inside⟩

/-- What stands in wrappers was read with what they leave of the allowance. -/
theorem Reads.of_stacked
    (read : Reads (wrappers.length + allowance) whole (stacked wrappers member)) :
    Reads allowance member.text.toList member := by
  induction wrappers generalizing whole with
  | nil =>
      rw [List.length_nil, Nat.zero_add] at read
      exact read.again
  | cons wrapper wrappers ih =>
      rw [List.length_cons, Nat.add_right_comm] at read
      obtain ⟨inner, inside⟩ := read.exists_inside
      exact ih inside

/-- The types of JSON are read from their words. -/
theorem ofCharsWithin_word (word : descriptor ∈ jsonTypes) (allowance : Nat) :
    ofCharsWithin (allowance + 1) descriptor.text.toList = .ok descriptor := by
  have accepted : ∀ leaf ∈ jsonTypes, ofText leaf.text = .ok leaf ∧ leaf.nesting = 0 := by
    decide +kernel
  obtain ⟨accepted, flat⟩ := accepted descriptor word
  have bareLeaf := (reads_of_ofCharsWithin accepted).isReadLeaf flat
  rw [text, String.toList_ofList]
  exact bareLeaf.ofCharsWithin_succ allowance

theorem mem_jsonTypes_of_word (read : Reads (allowance + 1) text.toList descriptor)
    (word : text ∈ jsonWords) : descriptor ∈ jsonTypes := by
  rw [← map_text_jsonTypes] at word
  obtain ⟨leaf, isWord, rfl⟩ := List.mem_map.mp word
  have accepted := ofCharsWithin_word isWord allowance
  rw [ofCharsWithin_of_reads read] at accepted
  cases accepted
  exact isWord

theorem text_mem_jsonWords (word : descriptor ∈ jsonTypes) : descriptor.text ∈ jsonWords := by
  rw [← map_text_jsonTypes]
  exact List.mem_map_of_mem word

theorem IsMemberText.isAllBlank (isMember : IsMemberText text) :
    Text.isAllBlank text = false := by
  rcases isMember with word | ⟨value, visible, rfl⟩
  · revert text
    decide
  · rw [Text.isAllBlank, Wrapper.toList_textAround]
    exact allBlank_around visible .map

theorem isMemberText_text (read : Reads (allowance + 1) whole descriptor)
    (supported : descriptor.isSupportedMember = true) : IsMemberText descriptor.text := by
  rcases isSupportedMember_iff_shape.mp supported with word | ⟨value, rfl⟩
  · exact .inl (text_mem_jsonWords word)
  · obtain ⟨inner, inside⟩ := read.exists_inside
    exact .inr ⟨value.text, inside.isAllBlank_text, text_stacked [.map] value⟩

theorem isSupportedMember_of_text (read : Reads (allowance + 1) text.toList descriptor)
    (isMember : IsMemberText text) : descriptor.isSupportedMember = true := by
  rw [isSupportedMember_iff_shape]
  rcases isMember with word | ⟨value, visible, rfl⟩
  · exact .inl (mem_jsonTypes_of_word read word)
  · have accepted := ofCharsWithin_of_reads read
    rw [Wrapper.toList_textAround, ofCharsWithin_around visible] at accepted
    obtain ⟨inside, -, rfl⟩ := Attempts.map_eq_ok_iff.mp accepted
    exact .inr ⟨inside, rfl⟩

end Reading

/-- The allowance for what stands in wrappers that are looked through. -/
theorem exists_room {wrappers : List Wrapper} (through : wrappers ∈ lookedThrough) :
    ∃ room, maxNesting = wrappers.length + (room + 2) := by
  have short : ∀ wrappers ∈ lookedThrough, wrappers.length ≤ 2 := by decide
  have atMostTwo := short wrappers through
  have limit : maxNesting = 32 := rfl
  exact ⟨30 - wrappers.length, by omega⟩

theorem isSerializable_iff_isSerializableText {source : String} {descriptor : TypeDescriptor}
    (accepted : ofText source = .ok descriptor) :
    descriptor.isSerializable = true ↔ IsSerializableText descriptor.text := by
  have read : Reads maxNesting source.toList descriptor := reads_of_ofCharsWithin accepted
  rw [isSerializable_iff_stacked, IsSerializableText]
  refine or_congr ⟨text_mem_jsonWords, mem_jsonTypes_of_word read.again⟩ ?_
  refine exists_congr fun wrappers => and_congr_right fun through => ?_
  obtain ⟨room, limit⟩ := exists_room through
  rw [limit] at read
  constructor
  · rintro ⟨member, rfl, supported⟩
    exact ⟨member.text, isMemberText_text read.of_stacked supported, text_stacked wrappers member⟩
  · rintro ⟨member, isMember, same⟩
    have again := ofCharsWithin_of_reads read.again
    rw [same, toList_stackedText, ofCharsWithin_aroundAll isMember.isAllBlank] at again
    obtain ⟨inside, found, rfl⟩ := Attempts.map_eq_ok_iff.mp again
    exact ⟨inside, rfl, isSupportedMember_of_text (reads_of_ofCharsWithin found) isMember⟩

/-! ### What stands inside -/

section Room

variable {allowance room : Nat} {whole text : List Char} {descriptor : TypeDescriptor}

/-- A text without the looks of a wrapper is a leaf for every allowance. -/
theorem outermost?_of_looksWrapped (bare : looksWrapped text = false) :
    outermost? text = .ok none := by
  cases found : outermost? text with
  | error error =>
      obtain ⟨-, keyword, known, -, gap, rest, -, rfl, -⟩ := outermost?_eq_error_iff.mp found
      rcases known with rfl | rfl <;> simp [looksWrapped] at bare
  | ok outermost =>
      cases outermost with
      | none => rfl
      | some parts =>
          rw [looksWrapped_of_wraps (outermost?_eq_ok_some_iff.mp found)] at bare
          cases bare

theorem IsLeaf.of_room (bare : IsLeaf allowance text) (room : Nat) : IsLeaf (room + 1) text := by
  cases allowance with
  | zero => exact ⟨bare.1, outermost?_of_looksWrapped bare.2⟩
  | succ allowance => exact bare

/-- What was read once is read within every allowance that is greater than its nesting. -/
theorem Reads.of_nesting_lt (read : Reads allowance whole descriptor)
    (within : descriptor.nesting < room) : Reads room whole descriptor := by
  induction read generalizing room with
  | leaf bare =>
      obtain ⟨room, rfl⟩ := Nat.exists_eq_succ_of_ne_zero (Nat.ne_zero_of_lt within)
      exact .leaf (bare.of_room room)
  | wrapped outermost inside ih =>
      obtain ⟨room, rfl⟩ := Nat.exists_eq_succ_of_ne_zero (Nat.ne_zero_of_lt within)
      exact .wrapped outermost (ih (Nat.lt_of_succ_lt_succ within))

/-- What a text of wrappers is read as depends on the text inside them. -/
theorem ofText_stackedText_eq_ok_iff {wrappers : List Wrapper} {inner : String}
    (limit : maxNesting = wrappers.length + room) (visible : Text.isAllBlank inner = false) :
    ofText (stackedText wrappers inner) = .ok descriptor ↔
      ∃ inside, Reads room inner.toList inside ∧ stacked wrappers inside = descriptor := by
  rw [ofText, limit, toList_stackedText, ofCharsWithin_aroundAll visible, Attempts.map_eq_ok_iff]
  simp only [ofCharsWithin_eq_ok_iff]

end Room

/-- A type that was read is serializable exactly if its canonical text is the word of a
type of JSON, or that of an array, a map or a table of maps around such a word or
around a map.  What a wrapper inside them stands around can be replaced: any other type
for which there is room is read in its place, and the answer stays. -/
theorem isSerializable_iff_text {source : String} {descriptor : TypeDescriptor}
    (accepted : ofText source = .ok descriptor) :
    (descriptor.isSerializable = true ↔ IsSerializableText descriptor.text) ∧
      ∀ wrappers ∈ lookedThrough, ∀ (wrapper : Wrapper) (value : String),
        Text.isAllBlank value = false →
        descriptor.text = stackedText (wrappers ++ [wrapper]) value →
        ∀ (other : String) (inside : TypeDescriptor), ofText other = .ok inside →
          ((stacked (wrappers ++ [wrapper]) inside).nesting < maxNesting →
            ofText (stackedText (wrappers ++ [wrapper]) other) =
              .ok (stacked (wrappers ++ [wrapper]) inside)) ∧
          ∀ replaced, ofText (stackedText (wrappers ++ [wrapper]) other) = .ok replaced →
            replaced = stacked (wrappers ++ [wrapper]) inside ∧
              replaced.isSerializable = descriptor.isSerializable := by
  refine ⟨isSerializable_iff_isSerializableText accepted, ?_⟩
  intro wrappers through wrapper value visible same other inside otherAccepted
  obtain ⟨room, limit⟩ := exists_room through
  replace limit : maxNesting = (wrappers ++ [wrapper]).length + (room + 1) := by
    rw [limit, List.length_append, List.length_singleton]
    omega
  have otherRead : Reads maxNesting other.toList inside := reads_of_ofCharsWithin otherAccepted
  have again := (reads_back_of_ofText accepted).2.1
  rw [same, ofText_stackedText_eq_ok_iff limit visible] at again
  obtain ⟨original, -, rfl⟩ := again
  constructor
  · intro within
    rw [nesting_stacked] at within
    refine (ofText_stackedText_eq_ok_iff limit otherRead.visible).mpr ⟨inside, ?_, rfl⟩
    exact otherRead.of_nesting_lt (by omega)
  · intro replaced found
    obtain ⟨foundInside, read, rfl⟩ :=
      (ofText_stackedText_eq_ok_iff limit otherRead.visible).mp found
    -- There was less room than for the text alone, so alone it is read as the same type.
    have alone : Reads maxNesting other.toList foundInside := by
      refine read.of_nesting_lt (Nat.lt_of_le_of_lt read.nesting_le ?_)
      rw [limit, List.length_append, List.length_singleton]
      omega
    have unique : foundInside = inside :=
      Except.ok.inj ((ofCharsWithin_of_reads alone).symm.trans otherAccepted)
    rw [unique]
    exact ⟨rfl, isSerializable_stacked_wrapped through wrapper inside original⟩

/-- A table of maps of maps is serializable, whatever the inner maps hold. -/
theorem isSerializable_iff_text_tables :
    ofText " table< map<map<xml>> > " = .ok (stacked [.table, .map, .map] (primitive .xml)) ∧
      (stacked [.table, .map, .map] (primitive .xml)).isSerializable = true ∧
      ofText "table<map<map<Foo[][]>>>" =
        .ok (stacked [.table, .map, .map, .array, .array] (other "Foo")) := by
  have accepted : ofText " table< map<map<xml>> > " =
      .ok (stacked [.table, .map, .map] (primitive .xml)) := by decide +kernel
  have arrays : ofText "Foo[][]" = .ok (stacked [.array, .array] (other "Foo")) := by
    decide +kernel
  have through : [Wrapper.table, .map] ∈ lookedThrough := by decide
  obtain ⟨serializable_iff, replaces⟩ := isSerializable_iff_text accepted
  have member : IsMemberText "map<xml>" := .inr ⟨"xml", by decide, rfl⟩
  refine ⟨accepted, serializable_iff.mpr (.inr ⟨_, through, "map<xml>", member, rfl⟩), ?_⟩
  exact (replaces _ through .map "xml" (by decide) rfl "Foo[][]" _ arrays).1 (by decide)

end TypeDescriptor

end PureService
