import PureService.Proofs.Analysis.Classification
import PureService.Proofs.Text.Line
import PureService.Proofs.TypeDescriptor.Reading

/-!
# Unions

A wrapper or a record is told by the first and the last characters of its text.
A union is not looked for, so it counts as what its first alternative begins and
its last one ends.
-/

namespace PureService

/-- What a wrapper puts before the text inside. -/
def Wrapper.opening (gap : List Char) : Wrapper → List Char
  | array => []
  | map => "map".toList ++ gap ++ "<".toList
  | table => "table".toList ++ gap ++ "<".toList

/-- What a wrapper puts after the text inside. -/
def Wrapper.closing : Wrapper → List Char
  | array => "[]".toList
  | map | table => ">".toList

/-- The wrapper begins in the text before a bar and ends in the one after it.
The same bar stands between the front and the back of the text inside. -/
def Wrapper.Spans (wrapper : Wrapper) (front back before after : List Char) : Prop :=
  ∃ gap, Text.allBlank gap = true ∧ Text.trimStart before = wrapper.opening gap ++ front ∧
    Text.trimEnd after = back ++ wrapper.closing

theorem Wrapper.around_eq_append (wrapper : Wrapper) (gap inner : List Char) :
    wrapper.around gap inner = wrapper.opening gap ++ inner ++ wrapper.closing := by
  cases wrapper <;> rfl

namespace TypeDescriptor

/-- A record begins in the text before a bar and ends in the one after it. -/
def SpansRecord (before after : List Char) : Prop :=
  "record".toList <+: Text.trimStart before ∧ "\x7d".toList <:+ Text.trimEnd after

/-- The texts around a bar begin and end as a record or a map does. -/
def SpansMember (before after : List Char) : Prop :=
  SpansRecord before after ∨ ∃ front back, Wrapper.map.Spans front back before after

/-- The texts around a bar begin and end as something that makes the wrapper
around them serializable. -/
def SpansContent (wrapper : Wrapper) (before after : List Char) : Prop :=
  match wrapper with
  | .array | .map => SpansMember before after
  | .table => ∃ front back, Wrapper.map.Spans front back before after ∧ SpansMember front back

/-- The texts around a bar begin and end as a serializable type does. -/
def SpansSerializable (before after : List Char) : Prop :=
  SpansRecord before after ∨
    ∃ wrapper front back, Wrapper.Spans wrapper front back before after ∧
      SpansContent wrapper front back

section Bar

variable {allowance : Nat} {opening closing before after front back inner : List Char}
  {wrapper : Wrapper} {descriptor member : TypeDescriptor}

/-- A bar that is in neither end of a text is in the middle. -/
theorem exists_of_bar (noneBefore : '|' ∉ opening) (noneAfter : '|' ∉ closing)
    (split : opening ++ inner ++ closing = before ++ '|' :: after) :
    ∃ front back, inner = front ++ '|' :: back ∧ before = opening ++ front ∧
      after = back ++ closing := by
  rw [List.append_assoc, List.append_eq_append_iff] at split
  -- The bar is behind the opening, and what is left of the text is cut once more.
  have passed : ∃ front, before = opening ++ front ∧ inner ++ closing = front ++ '|' :: after := by
    rcases split with found | ⟨part, rfl, bar⟩
    · exact found
    · cases part with
      | nil => exact ⟨[], by simp, bar.symm⟩
      | cons char part =>
          obtain ⟨rfl, -⟩ := List.cons.inj bar
          simp at noneBefore
  obtain ⟨front, opened, rest⟩ := passed
  rcases List.append_eq_append_iff.mp rest with ⟨part, -, bar⟩ | ⟨part, filled, bar⟩
  · exact (noneAfter (by simp [bar])).elim
  · cases part with
    | nil =>
        refine (noneAfter ?_).elim
        rw [← List.nil_append closing, ← bar]
        exact List.mem_cons_self
    | cons char back =>
        obtain ⟨rfl, closed⟩ := List.cons.inj bar
        exact ⟨front, back, filled, opened, closed⟩

theorem bar_notMem_of_allBlank {gap : List Char} (blank : Text.allBlank gap = true) :
    '|' ∉ gap := by
  intro bar
  exact absurd (List.all_eq_true.mp blank _ bar) (by decide)

theorem bar_notMem_opening {gap : List Char} (blank : Text.allBlank gap = true) :
    '|' ∉ wrapper.opening gap := by
  have gapped := bar_notMem_of_allBlank blank
  cases wrapper with
  | array => exact List.not_mem_nil
  | map | table =>
      exact List.not_mem_append (List.not_mem_append (by decide) gapped) (by decide)

/-- A wrapper around a text with a bar begins before the bar and ends after it. -/
theorem wraps_iff_spans :
    wrapper.Wraps inner (Text.trim (before ++ '|' :: after)) ↔
      ∃ front back, inner = front ++ '|' :: back ∧ wrapper.Spans front back before after := by
  rw [Text.trim_append_cons (by decide)]
  constructor
  · rintro ⟨gap, blank, split, -⟩
    rw [wrapper.around_eq_append] at split
    have closing : '|' ∉ wrapper.closing := by cases wrapper <;> decide
    obtain ⟨front, back, filled, opened, closed⟩ :=
      exists_of_bar (bar_notMem_opening blank) closing split.symm
    exact ⟨front, back, filled, gap, blank, opened, closed⟩
  · rintro ⟨front, back, rfl, gap, blank, opened, closed⟩
    have visible : Text.allBlank (front ++ '|' :: back) = false := by
      rw [← Bool.not_eq_true]
      intro invisible
      exact bar_notMem_of_allBlank invisible (by simp)
    refine ⟨gap, blank, ?_, .inr visible⟩
    rw [opened, closed, wrapper.around_eq_append]
    simp

/-- At most one wrapper begins and ends in the texts around a bar. -/
theorem spans_unique {other : Wrapper} {otherFront otherBack : List Char}
    (spans : wrapper.Spans front back before after)
    (spansOther : other.Spans otherFront otherBack before after) :
    other = wrapper ∧ otherFront = front ∧ otherBack = back := by
  have found := outermost?_eq_ok_some_iff.mpr (wraps_iff_spans.mpr ⟨_, _, rfl, spans⟩)
  have foundOther := outermost?_eq_ok_some_iff.mpr (wraps_iff_spans.mpr ⟨_, _, rfl, spansOther⟩)
  rw [found] at foundOther
  simp only [Except.ok.injEq, Option.some.injEq, Prod.mk.injEq] at foundOther
  obtain ⟨rfl, same⟩ := foundOther
  obtain ⟨-, -, -, closed⟩ := spans
  obtain ⟨-, -, -, closedOther⟩ := spansOther
  obtain rfl : back = otherBack := List.append_cancel_right (closed.symm.trans closedOther)
  exact ⟨rfl, (List.append_cancel_right same).symm, rfl⟩

theorem SpansRecord.not_spans (record : SpansRecord before after) :
    ¬ wrapper.Spans front back before after := by
  rintro ⟨-, -, -, closed⟩
  obtain ⟨text, ended⟩ := record.2
  have last := congrArg List.getLast? (ended.trans closed)
  revert last
  cases wrapper <;> simp [Wrapper.closing]

theorem IsLeaf.not_wraps {text : List Char} (bare : IsLeaf allowance text) :
    ¬ wrapper.Wraps inner text := by
  intro wraps
  cases allowance with
  | zero =>
      have wrapped := looksWrapped_of_wraps wraps
      rw [bare.2] at wrapped
      cases wrapped
  | succ allowance =>
      rw [← outermost?_eq_ok_some_iff, bare.2] at wraps
      cases wraps

theorem ofKeyword?_bar (before after : List Char) :
    Primitive.ofKeyword? (before ++ '|' :: after) = none := by
  rw [Option.eq_none_iff_forall_ne_some]
  intro kind found
  have bar : '|' ∈ kind.keyword.toList := by simp [keyword_of_ofKeyword? found]
  revert bar
  cases kind <;> decide

theorem ofUnwrapped_bar :
    ofUnwrapped (before ++ '|' :: after) =
      if "record".toList <+: before ∧ "\x7d".toList <:+ after then record
      else other (String.ofList (before ++ '|' :: after)) := by
  have notAlone : before ++ '|' :: after ≠ "record".toList := by
    intro alone
    have bar : '|' ∈ "record".toList := by simp [← alone]
    exact absurd bar (by decide)
  simp only [ofUnwrapped, ofKeyword?_bar, Bool.or_eq_true, decide_eq_true_eq, notAlone, false_or,
    Bool.and_eq_true, List.isPrefixOf_iff_prefix, List.isSuffixOf_iff_suffix]
  exact if_congr (and_congr (Text.isPrefix_append_cons_iff (by decide))
    (Text.isSuffix_append_cons_iff (by decide))) rfl rfl

/-- What a text with a bar is read as shows at its two ends. -/
theorem Reads.cases_bar (read : Reads allowance (before ++ '|' :: after) descriptor) :
    (descriptor = .record ∧ SpansRecord before after) ∨
      (∃ text, descriptor = .other text ∧ (¬ SpansRecord before after) ∧
        ∀ wrapper front back, ¬ Wrapper.Spans wrapper front back before after) ∨
      ∃ rest wrapper front back member, descriptor = .wrapped wrapper member ∧
        Wrapper.Spans wrapper front back before after ∧
        Reads rest (front ++ '|' :: back) member := by
  cases read with
  | leaf bare =>
      have none : ∀ wrapper front back, ¬ Wrapper.Spans wrapper front back before after :=
        fun _ _ _ spans => bare.not_wraps (wraps_iff_spans.mpr ⟨_, _, rfl, spans⟩)
      rw [Text.trim_append_cons (by decide), ofUnwrapped_bar]
      split
      next spans => exact .inl ⟨rfl, spans⟩
      next spansNone => exact .inr (.inl ⟨_, rfl, spansNone, none⟩)
  | wrapped outermost inside =>
      obtain ⟨front, back, rfl, spans⟩ := wraps_iff_spans.mp outermost
      exact .inr (.inr ⟨_, _, front, back, _, rfl, spans, inside⟩)

theorem Reads.isSupportedMember_iff (read : Reads allowance (before ++ '|' :: after) descriptor) :
    descriptor.isSupportedMember = true ↔ SpansMember before after := by
  rcases read.cases_bar with ⟨rfl, record⟩ | ⟨text, rfl, noRecord, noWrapper⟩ |
    ⟨rest, wrapper, front, back, member, rfl, spans, -⟩
  · exact iff_of_true rfl (.inl record)
  · refine iff_of_false Bool.false_ne_true ?_
    rintro (record | ⟨front, back, spans⟩)
    · exact noRecord record
    · exact noWrapper _ _ _ spans
  · constructor
    · intro supported
      cases wrapper with
      | map => exact .inr ⟨front, back, spans⟩
      | array | table => cases supported
    · rintro (record | ⟨otherFront, otherBack, map⟩)
      · exact (record.not_spans spans).elim
      · obtain ⟨rfl, -, -⟩ := spans_unique spans map
        rfl

theorem Reads.isSerializable_wrapped_iff (inside : Reads allowance (front ++ '|' :: back) member) :
    (TypeDescriptor.wrapped wrapper member).isSerializable = true ↔
      SpansContent wrapper front back := by
  cases wrapper with
  | array | map => exact inside.isSupportedMember_iff
  | table =>
      -- The row of a table has to be a map, so it is taken apart once more.
      rcases inside.cases_bar with ⟨rfl, record⟩ | ⟨text, rfl, -, noWrapper⟩ |
        ⟨rest, wrapper, innerFront, innerBack, value, rfl, spans, further⟩
      · refine iff_of_false Bool.false_ne_true ?_
        rintro ⟨_, _, map, -⟩
        exact record.not_spans map
      · refine iff_of_false Bool.false_ne_true ?_
        rintro ⟨_, _, map, -⟩
        exact noWrapper _ _ _ map
      · constructor
        · intro serializable
          cases wrapper with
          | map =>
              exact ⟨innerFront, innerBack, spans, further.isSupportedMember_iff.mp serializable⟩
          | array | table => cases serializable
        · rintro ⟨_, _, map, supported⟩
          obtain ⟨rfl, rfl, rfl⟩ := spans_unique spans map
          exact further.isSupportedMember_iff.mpr supported

theorem Reads.isSerializable_iff (read : Reads allowance (before ++ '|' :: after) descriptor) :
    descriptor.isSerializable = true ↔ SpansSerializable before after := by
  rcases read.cases_bar with ⟨rfl, record⟩ | ⟨text, rfl, noRecord, noWrapper⟩ |
    ⟨rest, wrapper, front, back, member, rfl, spans, inside⟩
  · exact iff_of_true rfl (.inl record)
  · refine iff_of_false Bool.false_ne_true ?_
    rintro (record | ⟨_, _, _, spans, -⟩)
    · exact noRecord record
    · exact noWrapper _ _ _ spans
  · rw [inside.isSerializable_wrapped_iff]
    constructor
    · exact fun content => .inr ⟨wrapper, front, back, spans, content⟩
    · rintro (record | ⟨_, _, _, spansOther, content⟩)
      · exact (record.not_spans spans).elim
      · obtain ⟨rfl, rfl, rfl⟩ := spans_unique spans spansOther
        exact content

end Bar

/-! ### Alternatives -/

/-- The bracket that closes the one that is opened. -/
def closerOf? : Char → Option Char
  | '<' => some '>'
  | '(' => some ')'
  | '[' => some ']'
  | '\x7b' => some '\x7d'
  | _ => none

/-- The brackets that are still to be closed after the text, the next one first. -/
def pendingClosers : (pending : List Char) → List Char → List Char
  | pending, [] => pending
  | pending, char :: rest =>
      match closerOf? char with
      | some closer => pendingClosers (closer :: pending) rest
      | none => pendingClosers (if pending.head? = some char then pending.tail else pending) rest

/-- The text is a union: a bar stands outside all brackets. -/
structure IsUnion (text before after : List Char) : Prop where
  split : text = before ++ '|' :: after
  outside : pendingClosers [] before = []

/-- A union that is read counts as serializable exactly if it begins before a bar
and ends after it as a serializable type does.  Any other breaks the rule for the
signature of a transformer with such a parameter. -/
theorem isSerializable_union_iff {source : String} {before after : List Char}
    {descriptor : TypeDescriptor} (accepted : ofText source = .ok descriptor)
    (union : IsUnion source.toList before after) :
    (descriptor.isSerializable = true ↔ SpansSerializable before after) ∧
      (¬ SpansSerializable before after →
        ∀ (definition : FunctionDefinition) (surroundings : Surroundings),
          definition.isTransformer surroundings = true →
          descriptor ∈ definition.parameters.map Parameter.type →
          Rule.supportedSignature ∈ definition.brokenRules surroundings) := by
  rw [ofText, union.split, ofCharsWithin_eq_ok_iff] at accepted
  refine ⟨accepted.isSerializable_iff, ?_⟩
  intro spansNone definition surroundings transformer declared
  rw [← accepted.isSerializable_iff] at spansNone
  obtain ⟨parameter, isParameter, rfl⟩ := List.mem_map.mp declared
  refine FunctionDefinition.supportedSignature_mem_brokenRules_iff.mpr ⟨transformer, ?_⟩
  rw [← Bool.not_eq_true, FunctionDefinition.hasSerializableSignature, Bool.and_eq_true,
    List.all_eq_true]
  exact fun signature => spansNone (signature.2 parameter isParameter)

/-- A transformer of a map with ints or with strings is refused for its parameter. -/
theorem isSerializable_union_of_maps :
    ofText "map<int>|map<string>" = .ok (wrapped .map (other "int>|map<string")) ∧
      IsUnion "map<int>|map<string>".toList "map<int>".toList "map<string>".toList ∧
      Rule.supportedSignature ∈
        FunctionDefinition.brokenRules
          { FunctionDefinition.named "f" with
            qualifiers := [.pub, .isolated], body := .expression,
            parameters := [.required (wrapped .map (other "int>|map<string"))] }
          ⟨"main.yaml", false, true⟩ := by
  have accepted : ofText "map<int>|map<string>" =
      .ok (wrapped .map (other "int>|map<string")) := by decide +kernel
  have union : IsUnion "map<int>|map<string>".toList "map<int>".toList "map<string>".toList :=
    ⟨rfl, by decide⟩
  obtain ⟨serializable_iff, refused⟩ := isSerializable_union_iff accepted union
  refine ⟨accepted, union, refused ?_ _ _ (by decide) List.mem_cons_self⟩
  rw [← serializable_iff]
  decide

/-- A record or an object is taken for a record, which is serializable. -/
theorem union_taken_for_record :
    IsUnion "record \x7b| int a; |\x7d|object \x7b\x7d".toList "record \x7b| int a; |\x7d".toList
        "object \x7b\x7d".toList ∧
      ofText "record \x7b| int a; |\x7d|object \x7b\x7d" = .ok record ∧
      record.isSerializable = true :=
  ⟨⟨rfl, by decide⟩, by decide +kernel, rfl⟩

end TypeDescriptor

end PureService
