import Mathlib.Data.List.Basic
import PureService.Decoding.OfValue
import PureService.Proofs.Attempts
import PureService.Proofs.Value.Rearrangement
import PureService.Value.Encoding

/-!
# Records that were read and records that are written

A property of records that every update of a format keeps holds for whatever is
read with the format, be it written as a record or as a list.  In the other
direction, the fields of a written record turn into changes of the record, which
may be made in any order when they commute.
-/

namespace PureService.Decoding

open Attempts

/-- The value is decoded to the content, whatever the order of its entries. -/
def Encodes {α : Type} (decode : Value → Except Cause α) (value : Value) (content : α) : Prop :=
  ∀ written, value.Rearranged written → decode written = .ok content

theorem Encodes.decode {α : Type} {decode : Value → Except Cause α} {value : Value} {content : α}
    (encodes : Encodes decode value content) : decode value = .ok content :=
  encodes value (.refl value)

namespace RecordFormat

variable {α : Type} {format : RecordFormat Value (Except Cause) α}

/-- The property holds before any field was read, and every update keeps it. -/
structure Maintains (format : RecordFormat Value (Except Cause) α) (Holds : α → Prop) :
    Prop where
  initial : Holds format.initial
  update : ∀ {field : String} {value : Value} {change : α → α},
    format.update field value = .ok change → ∀ {record : α}, Holds record → Holds (change record)

namespace Maintains

variable {Holds : α → Prop} {result : α}

theorem readEntries (maintains : format.Maintains Holds) {present : List String} {record : α}
    {entries : List (Value × Value)} (held : Holds record)
    (read : OfValue.readEntries format present record entries = .ok result) : Holds result := by
  induction entries generalizing present record with
  | nil =>
      rw [OfValue.readEntries] at read
      split at read <;> cases read
      exact held
  | cons entry entries ih =>
      rw [OfValue.readEntries] at read
      obtain ⟨known, _, read⟩ := bind_eq_ok_iff.mp read
      cases known with
      | none => exact ih held read
      | some field =>
          dsimp only at read
          split at read
          · cases read
          · obtain ⟨change, updated, read⟩ := bind_eq_ok_iff.mp read
            exact ih (maintains.update updated held) read

theorem readItems (maintains : format.Maintains Holds) {passage : Passage} {length index : Nat}
    {record : α} {fields : List String} {items : List Value} (held : Holds record)
    (read : OfValue.readItems format passage length index record fields items = .ok result) :
    Holds result := by
  induction fields generalizing index record items with
  | nil =>
      cases items with
      | nil =>
          cases read
          exact held
      | cons item items => cases read
  | cons field fields ih =>
      cases items with
      | nil =>
          rw [OfValue.readItems] at read
          split at read
          · cases read
          · exact ih held read
      | cons item items =>
          rw [OfValue.readItems] at read
          obtain ⟨change, updated, read⟩ := bind_eq_ok_iff.mp read
          exact ih (maintains.update updated held) read

/-- Whatever is read with the format has the property. -/
theorem record (maintains : format.Maintains Holds) {passage : Passage} {value : Value}
    (read : OfValue.record passage format value = .ok result) : Holds result := by
  cases value with
  | record entries => exact maintains.readEntries maintains.initial read
  | list items => exact maintains.readItems maintains.initial read
  | _ => cases read

end Maintains

/-- The changes may be made in either order. -/
def Commute (change later : α → α) : Prop :=
  ∀ record, change (later record) = later (change record)

/-- The values of the fields turn into the changes of the record, one by one. -/
def Updates (format : RecordFormat Value (Except Cause) α) :
    List (String × Value) → List (α → α) → Prop :=
  List.Forall₂ fun field change => Encodes (format.update field.1) field.2 change

namespace Updates

variable {fields others : List (String × Value)} {changes later : List (α → α)}

theorem nil : format.Updates [] [] :=
  List.Forall₂.nil

theorem cons {name : String} {value : Value} {change : α → α}
    (updated : Encodes (format.update name) value change) (rest : format.Updates fields changes) :
    format.Updates ((name, value) :: fields) (change :: changes) :=
  List.Forall₂.cons updated rest

theorem append (first : format.Updates fields changes) (second : format.Updates others later) :
    format.Updates (fields ++ others) (changes ++ later) :=
  List.rel_append first second

theorem exists_of_perm (updates : format.Updates fields changes) (order : fields.Perm others) :
    ∃ later, changes.Perm later ∧ format.Updates others later := by
  obtain ⟨later, updates, order⟩ := List.perm_comp_forall₂ order.symm updates
  exact ⟨later, order.symm, updates⟩

theorem readEntries (updates : format.Updates fields changes) {present : List String}
    {record : α} {entries : List (Value × Value)}
    (each : List.Forall₂ Value.Rearranged.IsEntryOf fields entries)
    (distinct : (fields.map Prod.fst).Nodup)
    (fresh : ∀ name ∈ fields.map Prod.fst, name ∉ present)
    (known : fields.map Prod.fst ⊆ format.fields)
    (complete : format.missing? ((fields.map Prod.fst).reverse ++ present) = none) :
    OfValue.readEntries format present record entries =
      .ok (changes.foldl (fun record change => change record) record) := by
  -- The induction follows the fields: each one read counts as present from then on.
  induction updates generalizing present record entries with
  | nil =>
      cases each
      simp only [List.map_nil, List.reverse_nil, List.nil_append] at complete
      simp [OfValue.readEntries, complete]
  | @cons field change fields changes updated _ ih =>
      obtain ⟨name, value⟩ := field
      cases each with
      | @cons _ entry _ entries isEntry each =>
          obtain ⟨key, written⟩ := entry
          obtain ⟨rfl, rearranged⟩ := isEntry
          simp only [List.map_cons, List.nodup_cons, List.mem_cons, forall_eq_or_imp,
            List.cons_subset] at distinct fresh known
          have isKnown : OfValue.fieldOf? format.fields (.text name) = .ok (some name) := by
            simp [OfValue.fieldOf?, known.1]
          have isFresh : present.contains name = false := by simpa using fresh.1
          have later : OfValue.readEntries format (name :: present) (change record) entries =
              .ok (changes.foldl (fun record change => change record) (change record)) := by
            apply ih each distinct.2 ?_ known.2 (by simpa using complete)
            intro other member
            have different : other ≠ name := by
              rintro rfl
              exact distinct.1 member
            simpa [different] using fresh.2 other member
          rw [OfValue.readEntries, isKnown]
          change (if present.contains name = true then _ else _) = _
          rw [isFresh, updated written rearranged]
          exact later

/-- A written record that lists fields of the format in order, and all that are
required, encodes the record that their changes make. -/
theorem record {passage : Passage} {result : α} (updates : format.Updates fields changes)
    (made : changes.foldl (fun record change => change record) format.initial = result)
    (commute : changes.Pairwise Commute)
    (listed : (fields.map Prod.fst).Sublist format.fields) (distinct : format.fields.Nodup)
    (complete : format.required ⊆ fields.map Prod.fst) :
    Encodes (OfValue.record passage format) (.fields fields) result := by
  intro written rearranged
  obtain ⟨entries, arranged, each, order, rfl⟩ := Value.Rearranged.fields_iff.mp rearranged
  obtain ⟨moved, order, each⟩ : Relation.Comp List.Perm (List.Forall₂ Value.Rearranged.IsEntryOf)
      fields arranged := by
    rw [← List.forall₂_comp_perm_eq_perm_comp_forall₂]
    exact ⟨entries, each, order⟩
  -- The entries are read in their own order, which puts the changes in that order too.
  obtain ⟨later, sameChanges, updates⟩ := updates.exists_of_perm order
  have commutes : ∀ change ∈ changes, ∀ other ∈ changes, Commute change other :=
    commute.forall_of_forall_of_flip (fun _ _ _ => rfl)
      (commute.imp fun commute record => (commute record).symm)
  rw [← made, sameChanges.foldl_eq' fun change member other otherMember record =>
    commutes other otherMember change member record]
  have names : (fields.map Prod.fst).Perm (moved.map Prod.fst) := order.map Prod.fst
  have distinct : (moved.map Prod.fst).Nodup := names.nodup_iff.mp (distinct.sublist listed)
  have known : moved.map Prod.fst ⊆ format.fields :=
    fun _ member => listed.subset (names.symm.subset member)
  apply updates.readEntries each distinct (by simp) known
  simp only [missing?, List.append_nil, List.find?_eq_none, Bool.and_eq_true, not_and]
  intro field _ required
  have present := names.subset (complete (by simpa using required))
  simpa using present

end Updates

end RecordFormat

end PureService.Decoding
