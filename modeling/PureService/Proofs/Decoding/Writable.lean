import PureService.Proofs.Decoding.Parts
import PureService.Proofs.TypeDescriptor.NormalForm

/-!
# What can be written

A value can be written when its numbers fit and its types read back from their
texts.  Whatever was decoded can be written, since every update that a field
makes keeps it so.
-/

namespace PureService

open Decoding

/-- The type is read from its own text. -/
def TypeDescriptor.IsWritable (type : TypeDescriptor) : Prop :=
  TypeDescriptor.ofText type.text = .ok type

structure Location.IsWritable (location : Location) : Prop where
  line : IsIndex location.line
  column : IsIndex location.column

def Diagnostic.IsWritable (diagnostic : Diagnostic) : Prop :=
  diagnostic.location.IsWritable

def Parameter.IsWritable (parameter : Parameter) : Prop :=
  parameter.type.IsWritable

structure Position.IsWritable (position : Position) : Prop where
  line : IsIndex position.line
  column : IsIndex position.column

structure FunctionDefinition.IsWritable (definition : FunctionDefinition) : Prop where
  parameters : ∀ parameter ∈ definition.parameters, parameter.IsWritable
  position : definition.position.IsWritable

def Item.IsWritable (item : Item) : Prop :=
  item.position.IsWritable

def Declaration.IsWritable : Declaration → Prop
  | .function definition => definition.IsWritable
  | .item _ definition => definition.IsWritable

structure Document.IsWritable (document : Document) : Prop where
  ordinal : document.ordinal < NumberKind.index.bound
  declarations : ∀ declaration ∈ document.declarations, declaration.IsWritable

end PureService

namespace PureService.Decoding

open Attempts

variable {passage : Passage}

theorem locationFormat_maintains :
    (valueSource passage).locationFormat.Maintains Location.IsWritable where
  initial := ⟨isIndex_none, isIndex_none⟩
  update := by
    intro field value change read record held
    simp only [Source.locationFormat] at read
    split at read
    · obtain ⟨document, _, rfl⟩ := exists_of_update read
      exact ⟨held.line, held.column⟩
    · obtain ⟨line, found, rfl⟩ := exists_of_update read
      exact ⟨isIndex_of_optional found, held.column⟩
    · obtain ⟨column, found, rfl⟩ := exists_of_update read
      exact ⟨held.line, isIndex_of_optional found⟩
    · cases read
      exact held

theorem diagnosticFormat_maintains :
    (valueSource passage).diagnosticFormat.Maintains Diagnostic.IsWritable where
  initial := ⟨isIndex_none, isIndex_none⟩
  update := by
    intro field value change read record held
    simp only [Source.diagnosticFormat] at read
    split at read
    · obtain ⟨rule, _, rfl⟩ := exists_of_update read
      exact held
    · obtain ⟨severity, _, rfl⟩ := exists_of_update read
      exact held
    · obtain ⟨message, _, rfl⟩ := exists_of_update read
      exact held
    · obtain ⟨location, found, rfl⟩ := exists_of_update read
      exact locationFormat_maintains.record found
    · cases read
      exact held

theorem isWritable_of_type {value : Value} {type : TypeDescriptor}
    (read : (valueSource passage).type value = .ok type) : type.IsWritable := by
  rw [Source.type] at read
  obtain ⟨text, _, read⟩ := bind_eq_ok_iff.mp read
  split at read
  next accepted =>
    cases read
    rw [TypeDescriptor.ofText, TypeDescriptor.ofCharsWithin_eq_ok_iff] at accepted
    rw [TypeDescriptor.IsWritable, TypeDescriptor.ofText, TypeDescriptor.ofCharsWithin_eq_ok_iff,
      TypeDescriptor.text, String.toList_ofList]
    exact accepted.of_respaced (TypeDescriptor.respaced_chars type)
  next => cases read

theorem parameterFormat_maintains :
    (valueSource passage).parameterFormat.Maintains Parameter.IsWritable where
  initial := TypeDescriptor.ofCharsWithin_of_reads (TypeDescriptor.reads_record _)
  update := by
    intro field value change read record held
    simp only [Source.parameterFormat] at read
    split at read
    · obtain ⟨binding, _, rfl⟩ := exists_of_update read
      exact held
    · obtain ⟨type, found, rfl⟩ := exists_of_update read
      exact isWritable_of_type found
    · obtain ⟨name, _, rfl⟩ := exists_of_update read
      exact held
    · cases read
      exact held

theorem functionFormat_maintains :
    (valueSource passage).functionFormat.Maintains FunctionDefinition.IsWritable where
  initial := ⟨nofun, isIndex_none, isIndex_none⟩
  update := by
    intro field value change read record held
    simp only [Source.functionFormat] at read
    split at read
    · obtain ⟨name, _, rfl⟩ := exists_of_update read
      exact ⟨held.parameters, held.position⟩
    · obtain ⟨qualifiers, _, rfl⟩ := exists_of_update read
      exact ⟨held.parameters, held.position⟩
    · obtain ⟨body, _, rfl⟩ := exists_of_update read
      exact ⟨held.parameters, held.position⟩
    · obtain ⟨annotations, _, rfl⟩ := exists_of_update read
      exact ⟨held.parameters, held.position⟩
    · obtain ⟨parameters, found, rfl⟩ := exists_of_update read
      refine ⟨fun parameter member => ?_, held.position⟩
      obtain ⟨item, itemRead⟩ := exists_of_list found parameter member
      exact parameterFormat_maintains.record itemRead
    · obtain ⟨inTestPart, _, rfl⟩ := exists_of_update read
      exact ⟨held.parameters, held.position⟩
    · obtain ⟨line, found, rfl⟩ := exists_of_update read
      exact ⟨held.parameters, isIndex_of_optional found, held.position.column⟩
    · obtain ⟨column, found, rfl⟩ := exists_of_update read
      exact ⟨held.parameters, held.position.line, isIndex_of_optional found⟩
    · cases read
      exact held

theorem itemFormat_maintains :
    (valueSource passage).itemFormat.Maintains Item.IsWritable where
  initial := ⟨isIndex_none, isIndex_none⟩
  update := by
    intro field value change read record held
    simp only [Source.itemFormat] at read
    split at read
    · obtain ⟨name, _, rfl⟩ := exists_of_update read
      exact held
    · obtain ⟨line, found, rfl⟩ := exists_of_update read
      exact ⟨isIndex_of_optional found, held.column⟩
    · obtain ⟨column, found, rfl⟩ := exists_of_update read
      exact ⟨held.line, isIndex_of_optional found⟩
    · cases read
      exact held

theorem isWritable_of_declaration {value : Value} {declaration : Declaration}
    (read : (valueSource passage).declaration value = .ok declaration) :
    declaration.IsWritable := by
  rw [Source.declaration] at read
  obtain ⟨⟨kind, fields⟩, _, read⟩ := bind_eq_ok_iff.mp read
  dsimp only at read
  split at read
  next found =>
    cases read
    cases kind with
    | none =>
        obtain ⟨definition, functionRead, rfl⟩ := map_eq_ok_iff.mp found
        exact functionFormat_maintains.record functionRead
    | some kind =>
        obtain ⟨definition, itemRead, rfl⟩ := map_eq_ok_iff.mp found
        exact itemFormat_maintains.record itemRead
  next => cases read

theorem documentFormat_maintains :
    (valueSource passage).documentFormat.Maintains Document.IsWritable where
  initial := ⟨Nat.two_pow_pos 64, nofun⟩
  update := by
    intro field value change read record held
    simp only [Source.documentFormat] at read
    split at read
    · obtain ⟨name, _, rfl⟩ := exists_of_update read
      exact ⟨held.ordinal, held.declarations⟩
    · obtain ⟨ordinal, found, rfl⟩ := exists_of_update read
      exact ⟨lt_bound_of_number found, held.declarations⟩
    · obtain ⟨markedTest, _, rfl⟩ := exists_of_update read
      exact ⟨held.ordinal, held.declarations⟩
    · obtain ⟨imports, _, rfl⟩ := exists_of_update read
      exact ⟨held.ordinal, held.declarations⟩
    · obtain ⟨declarations, found, rfl⟩ := exists_of_update read
      refine ⟨held.ordinal, fun declaration member => ?_⟩
      obtain ⟨item, itemRead⟩ := exists_of_list found declaration member
      exact isWritable_of_declaration itemRead
    · cases read
      exact held

end PureService.Decoding
