import PureService.Proofs.Decoding.Record

/-!
# Parts of records

For each kind of value that a field may hold: what is known of a content that
was decoded, and the value that encodes a content.
-/

namespace PureService.Decoding

open Attempts OfValue

section Scalars

theorem encodes_text (content : String) : Encodes text (.text content) content := by
  intro written rearranged
  rw [rearranged.eq_text]
  rfl

theorem encodes_flag (content : Bool) : Encodes flag (.bool content) content := by
  intro written rearranged
  rw [rearranged.eq_bool]
  rfl

variable {kind : NumberKind} {content : Nat}

theorem lt_bound_of_number {value : Value} (read : number kind value = .ok content) :
    content < kind.bound := by
  cases value with
  | int value =>
      rw [number] at read
      split at read
      · cases read
      next fits =>
        cases read
        simp only [Bool.or_eq_true, decide_eq_true_eq] at fits
        omega
  | _ => cases read

theorem encodes_number (bounded : content < kind.bound) :
    Encodes (number kind) (.ofNat content) content := by
  intro written rearranged
  rw [rearranged.eq_ofNat]
  simp [number, Value.ofNat, bounded]

end Scalars

section Containers

variable {α : Type} {decode : Value → Except Cause α} {toValue : α → Value}

theorem exists_of_optional {value : Value} {content : Option α}
    (read : optional decode value = .ok content) :
    ∀ found ∈ content, ∃ part, decode part = .ok found := by
  rw [OfValue.optional.eq_def] at read
  split at read
  · cases read
    simp
  · obtain ⟨part, partRead, rfl⟩ := map_eq_ok_iff.mp read
    rintro found ⟨⟩
    exact ⟨_, partRead⟩

/-- A present value that is not empty encodes an optional content. -/
theorem Encodes.optional {value : Value} {content : α} (encodes : Encodes decode value content)
    (filled : ¬ value.Rearranged .null) :
    Encodes (OfValue.optional decode) value (some content) := by
  intro written rearranged
  have read := encodes written rearranged
  rw [OfValue.optional.eq_def]
  split
  · exact (filled rearranged).elim
  · rw [read]
    rfl

theorem encodes_null : Encodes (optional decode) .null none := by
  intro written rearranged
  rw [rearranged.eq_null]
  rfl

theorem exists_of_list {value : Value} {contents : List α}
    (read : list decode value = .ok contents) :
    ∀ content ∈ contents, ∃ item, decode item = .ok content := by
  cases value with
  | list items =>
      have each := mapM_eq_ok_iff.mp read
      clear read
      induction each with
      | nil => simp
      | cons read _ ih => exact List.forall_mem_cons.mpr ⟨⟨_, read⟩, ih⟩
  | _ => cases read

theorem encodes_list {contents : List α}
    (encodes : ∀ content ∈ contents, Encodes decode (toValue content) content) :
    Encodes (list decode) (.list (contents.map toValue)) contents := by
  intro written rearranged
  obtain ⟨items, each, rfl⟩ := rearranged.exists_of_list
  rw [List.forall₂_map_left_iff] at each
  have read : List.Forall₂ (fun content item => decode item = .ok content) contents items :=
    ((List.forall₂_and_left contents items).mpr ⟨encodes, each⟩).imp
      fun _ item ⟨encodes, rearranged⟩ => encodes item rearranged
  exact mapM_eq_ok_iff.mpr read.flip

end Containers

/-! ### Words -/

/-- Every value of the enumeration is found again under its word. -/
def Choice.IsFaithful {α : Type} [BEq α] (choice : Choice α) : Prop :=
  ∀ value, choice.ofWord? (choice.wordOf value) = some value

section Words

variable {α : Type} [BEq α] {choice : Choice α} {passage : Passage}

theorem Choice.IsFaithful.encodes (faithful : choice.IsFaithful) (value : α) :
    Encodes (OfValue.choice passage choice) (.text (choice.wordOf value)) value := by
  intro written rearranged
  rw [rearranged.eq_text, OfValue.choice, Choice.ofWord, faithful value]

theorem qualifierWords_isFaithful : qualifierWords.IsFaithful := by
  intro value
  cases value <;> rfl

theorem bindingWords_isFaithful : bindingWords.IsFaithful := by
  intro value
  cases value <;> rfl

theorem bodyWords_isFaithful : bodyWords.IsFaithful := by
  intro value
  cases value <;> rfl

theorem ruleWords_isFaithful : ruleWords.IsFaithful := by
  intro value
  cases value <;> rfl

theorem severityWords_isFaithful : severityWords.IsFaithful := by
  intro value
  cases value
  rfl

theorem deliveryWords_isFaithful : deliveryWords.IsFaithful := by
  intro value
  cases value <;> rfl

end Words

/-! ### Updates -/

section Updates

variable {α β : Type} {decode : Value → Except Cause β}

theorem exists_of_update {value : Value} {set : β → α → α} {change : α → α}
    (updated : (decode value >>= fun content => pure (set content)) = .ok change) :
    ∃ content, decode value = .ok content ∧ change = set content := by
  obtain ⟨content, found, made⟩ := bind_eq_ok_iff.mp updated
  cases made
  exact ⟨content, found, rfl⟩

theorem Encodes.update {value : Value} {content : β} (encodes : Encodes decode value content)
    (set : β → α → α) :
    Encodes (fun written => decode written >>= fun content => pure (set content)) value
      (set content) := by
  intro written rearranged
  dsimp only
  rw [encodes written rearranged]
  rfl

variable {format : RecordFormat Value (Except Cause) α}

/-- A field that is left out makes no change. -/
theorem updates_fieldIfSome {name : String} {toValue : β → Value} {content : Option β}
    {set : β → α → α}
    (updated : ∀ found ∈ content, Encodes (format.update name) (toValue found) (set found)) :
    format.Updates (Value.fieldIfSome name toValue content) (content.toList.map set) := by
  cases content with
  | none => exact .nil
  | some found => exact .cons (updated found rfl) .nil

theorem map_fst_fieldIfSome_sublist (name : String) (toValue : β → Value) (content : Option β) :
    ((Value.fieldIfSome name toValue content).map Prod.fst).Sublist [name] := by
  cases content with
  | none => exact List.nil_sublist _
  | some => exact .refl _

end Updates

/-! ### Lines and columns -/

/-- A line or a column that is missing or can be written. -/
def IsIndex (number : Option Nat) : Prop :=
  ∀ found ∈ number, found < NumberKind.index.bound

theorem isIndex_none : IsIndex none := by
  nofun

section Indices

variable {number : Option Nat}

theorem isIndex_of_optional {value : Value}
    (read : optional (OfValue.number .index) value = .ok number) : IsIndex number := by
  intro found member
  obtain ⟨part, partRead⟩ := exists_of_optional read found member
  exact lt_bound_of_number partRead

theorem encodes_some_index {found : Nat} (bounded : found < NumberKind.index.bound) :
    Encodes (optional (OfValue.number .index)) (.ofNat found) (some found) :=
  (encodes_number bounded).optional nofun

theorem IsIndex.encodes (isIndex : IsIndex number) :
    Encodes (optional (OfValue.number .index)) (.ofOption .ofNat number) number := by
  cases number with
  | none => exact encodes_null
  | some found => exact encodes_some_index (isIndex found rfl)

theorem encodes_some_text (content : String) :
    Encodes (optional text) (.text content) (some content) :=
  (encodes_text content).optional nofun

theorem encodes_optional_text (content : Option String) :
    Encodes (optional text) (.ofOption .text content) content := by
  cases content with
  | none => exact encodes_null
  | some content => exact encodes_some_text content

end Indices

/-! ### Alternatives -/

section Alternatives

variable {α : Type} {field union word : String} {chosen : α}

theorem splitEntries_append (choice : Choice α) {before : List (Value × Value)}
    (different : ∀ entry ∈ before, entry.1 ≠ .text field) (found : Option α)
    (others rest : List (Value × Value)) :
    OfValue.splitEntries field choice found others (before ++ rest) =
      OfValue.splitEntries field choice found (before.reverse ++ others) rest := by
  induction before generalizing others with
  | nil => rfl
  | cons entry before ih =>
      obtain ⟨key, value⟩ := entry
      simp only [List.mem_cons, forall_eq_or_imp] at different
      have kept :
          OfValue.splitEntries field choice found others ((key, value) :: (before ++ rest)) =
          OfValue.splitEntries field choice found ((key, value) :: others) (before ++ rest) := by
        rw [OfValue.splitEntries.eq_def]
        cases key with
        | text name =>
            have distinct : name ≠ field := by
              rintro rfl
              exact different.1 rfl
            simp [distinct]
        | _ => cases found <;> rfl
      rw [List.cons_append, kept, ih different.2, List.reverse_cons, List.append_assoc]
      rfl

variable {choice : Choice α}

theorem splitEntries_of_once {before after : List (Value × Value)}
    (known : choice.ofWord word = .ok chosen)
    (different : ∀ entry ∈ before ++ after, entry.1 ≠ .text field) :
    OfValue.splitEntries field choice none [] (before ++ (.text field, .text word) :: after) =
      .ok (chosen, .record (before ++ after)) := by
  simp only [List.mem_append, or_imp, forall_and] at different
  have left : OfValue.splitEntries field choice (some chosen) before.reverse after =
      .ok (chosen, .record (before ++ after)) := by
    have kept := splitEntries_append choice different.2 (some chosen) before.reverse []
    rw [List.append_nil] at kept
    rw [kept, OfValue.splitEntries, List.reverse_append, List.reverse_reverse, List.reverse_reverse]
  rw [splitEntries_append choice different.1, List.append_nil, OfValue.splitEntries.eq_def]
  simp [known, left, bind, Except.bind]

/-- The alternative is found wherever its field stands, and what is left are the
other fields. -/
theorem exists_of_alternative {fields : List (String × Value)} {written : Value}
    (known : choice.ofWord word = .ok chosen) (fresh : field ∉ fields.map Prod.fst)
    (rearranged : (Value.fields ((field, .text word) :: fields)).Rearranged written) :
    ∃ rest, (Value.fields fields).Rearranged rest ∧
      OfValue.alternative field union choice written = .ok (chosen, rest) := by
  obtain ⟨_, moved, whole, order, rfl⟩ := Value.Rearranged.fields_iff.mp rearranged
  obtain ⟨⟨key, value⟩, entries, ⟨rfl, isWord⟩, each, rfl⟩ := List.forall₂_cons_left_iff.mp whole
  obtain rfl : value = .text word := isWord.eq_text
  obtain ⟨before, after, rfl⟩ := List.append_of_mem (order.subset List.mem_cons_self)
  have order : entries.Perm (before ++ after) := (order.trans List.perm_middle).cons_inv
  have different : ∀ entry ∈ before ++ after, entry.1 ≠ .text field := by
    intro entry member same
    have key : entry.1 ∈ entries.map Prod.fst := List.mem_map_of_mem (order.mem_iff.mpr member)
    rw [(Value.Rearranged.forall₂_isEntryOf_iff.mp each).1, same] at key
    exact fresh (by simpa using key)
  exact ⟨.record (before ++ after),
    Value.Rearranged.fields_iff.mpr ⟨entries, _, each, order, rfl⟩,
    splitEntries_of_once known different⟩

end Alternatives

end PureService.Decoding
