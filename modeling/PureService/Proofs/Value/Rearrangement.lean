import Mathlib.Data.List.Perm.Basic
import PureService.Value.Basic

/-!
# Values up to the order of their entries

The entries of a record have no order that would matter to its reader.  A value
is rearranged when the entries of its records are put in another order, at any
depth.
-/

namespace PureService.Value

/-- The second value is the first one with the entries of its records in
another order. -/
inductive Rearranged : Value → Value → Prop
  | refl (value : Value) : Rearranged value value
  | list {items others : List Value} (each : List.Forall₂ Rearranged items others) :
      Rearranged (.list items) (.list others)
  | record {entries others moved : List (Value × Value)}
      (keys : entries.map Prod.fst = others.map Prod.fst)
      (each : List.Forall₂ Rearranged (entries.map Prod.snd) (others.map Prod.snd))
      (order : others.Perm moved) : Rearranged (.record entries) (.record moved)

namespace Rearranged

variable {written : Value}

theorem eq_null (rearranged : Rearranged .null written) : written = .null := by
  cases rearranged
  rfl

theorem eq_bool {value : Bool} (rearranged : Rearranged (.bool value) written) :
    written = .bool value := by
  cases rearranged
  rfl

theorem eq_ofNat {number : Nat} (rearranged : Rearranged (.ofNat number) written) :
    written = .ofNat number := by
  cases rearranged
  rfl

theorem eq_text {value : String} (rearranged : Rearranged (.text value) written) :
    written = .text value := by
  cases rearranged
  rfl

theorem exists_of_list {items : List Value} (rearranged : Rearranged (.list items) written) :
    ∃ others, List.Forall₂ Rearranged items others ∧ written = .list others := by
  cases rearranged with
  | refl => exact ⟨items, List.forall₂_same.mpr fun item _ => .refl item, rfl⟩
  | list each => exact ⟨_, each, rfl⟩

/-- The entry has the name of the field for its key, and holds its value. -/
def IsEntryOf (field : String × Value) (entry : Value × Value) : Prop :=
  entry.1 = .text field.1 ∧ Rearranged field.2 entry.2

section Fields

variable {fields : List (String × Value)}

theorem forall₂_isEntryOf_iff {entries : List (Value × Value)} :
    List.Forall₂ IsEntryOf fields entries ↔
      entries.map Prod.fst = fields.map (fun field => .text field.1) ∧
        List.Forall₂ Rearranged (fields.map Prod.snd) (entries.map Prod.snd) := by
  induction fields generalizing entries with
  | nil => simp
  | cons field fields ih =>
      cases entries with
      | nil => simp
      | cons entry entries =>
          simp only [List.forall₂_cons, List.map_cons, List.cons.injEq, ih, IsEntryOf]
          tauto

/-- A record of fields is rearranged by rearranging the value of each field, and
then the entries. -/
theorem fields_iff :
    Rearranged (.fields fields) written ↔
      ∃ entries moved, List.Forall₂ IsEntryOf fields entries ∧ entries.Perm moved ∧
        written = .record moved := by
  constructor
  · intro rearranged
    cases rearranged with
    | refl =>
        refine ⟨_, _, List.forall₂_map_right_iff.mpr (List.forall₂_same.mpr ?_), .refl _, rfl⟩
        exact fun field _ => ⟨rfl, .refl _⟩
    | record keys each order =>
        rw [List.map_map] at keys each
        exact ⟨_, _, forall₂_isEntryOf_iff.mpr ⟨keys.symm, each⟩, order, rfl⟩
  · rintro ⟨entries, moved, each, order, rfl⟩
    obtain ⟨keys, each⟩ := forall₂_isEntryOf_iff.mp each
    refine .record ?_ ?_ order
    · rw [keys, List.map_map]
      rfl
    · rw [List.map_map]
      exact each

end Fields

end Rearranged

end PureService.Value
