import PureService.Document.OfText
import PureService.Proofs.Attempts

/-!
# Documents from their files

The name of a document is that of its file, whatever its text says, and a
document among tests is a test document.
-/

namespace PureService.Document

open Attempts

theorem name_markTestFunctions (document : Document) :
    document.markTestFunctions.name = document.name := by
  rw [markTestFunctions]
  split <;> rfl

theorem isTest_markTestFunctions (document : Document) :
    document.markTestFunctions.isTest = document.isTest := by
  rw [markTestFunctions]
  split <;> rfl

variable {name text : String} {inTests : Bool} {document : Document}

theorem name_of_ofText (read : ofText name text inTests = .ok document) : document.name = name := by
  obtain ⟨decoded, -, rfl⟩ := map_eq_ok_iff.mp read
  exact name_markTestFunctions _

theorem isTest_of_ofText (read : ofText name text true = .ok document) :
    document.isTest = true := by
  obtain ⟨decoded, -, rfl⟩ := map_eq_ok_iff.mp read
  rw [isTest_markTestFunctions]
  simp [isTest]

end PureService.Document
