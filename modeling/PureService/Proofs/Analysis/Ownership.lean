import PureService.Analysis.Analyzer
import PureService.Proofs.Document

/-!
# Functions of tests

A function counts as part of a test by a mark of its own.  Reading a document
marks the functions of a test document and takes no mark away: outside tests
the mark is the one that the text gives.  On the mark alone depends whether the
annotations of a function are refused and whether the function is exposed.

An analysis asks both the document and the function.  So it makes no difference to
it whether a document has been marked.
-/

namespace PureService

namespace Declaration

/-- The declaration is a function with the mark of a test. -/
def hasTestMark : Declaration → Bool
  | function definition => definition.inTestPart
  | item _ _ => false

/-- The declaration as it stands in a test document, or elsewhere. -/
def placed (inTest : Bool) : Declaration → Declaration
  | function definition =>
    function { definition with inTestPart := inTest || definition.inTestPart }
  | item kind definition => item kind definition

end Declaration

namespace Document

open Attempts

/-- The functions of the document have the mark of a test exactly if the document is one. -/
def DecidesMarks (document : Document) : Prop :=
  ∀ definition, .function definition ∈ document.declarations →
    definition.inTestPart = document.isTest

theorem declarations_markTestFunctions (document : Document) :
    document.markTestFunctions.declarations =
      document.declarations.map (.placed document.isTest) := by
  rw [markTestFunctions]
  cases document.isTest with
  | true =>
      refine List.map_congr_left ?_
      rintro (definition | ⟨kind, definition⟩) _ <;> rfl
  | false =>
      refine (List.map_id'' ?_ _).symm
      rintro (definition | ⟨kind, definition⟩) <;> rfl

section Placed

variable {document : Document} {written : List Declaration} {definition : FunctionDefinition}
  (placed : document.declarations = written.map (.placed document.isTest))

include placed

theorem exists_of_function_mem (member : .function definition ∈ document.declarations) :
    ∃ original, .function original ∈ written ∧
      definition = { original with inTestPart := document.isTest || original.inTestPart } := by
  rw [placed] at member
  obtain ⟨original | ⟨kind, original⟩, originalMember, same⟩ := List.mem_map.mp member
  · exact ⟨original, originalMember, (Declaration.function.inj same).symm⟩
  · cases same

/-- A mark can only be there against the document when the text gives it. -/
theorem decidesMarks_iff :
    document.DecidesMarks ↔
      document.isTest = true ∨ ∀ declaration ∈ written, declaration.hasTestMark = false := by
  constructor
  · intro decides
    refine or_iff_not_imp_left.mpr ?_
    rintro ordinary (definition | ⟨kind, definition⟩) member
    · rw [Bool.not_eq_true] at ordinary
      have stands : .function definition ∈ document.declarations := by
        rw [placed, ordinary]
        exact List.mem_map.mpr ⟨_, member, rfl⟩
      exact (decides definition stands).trans ordinary
    · rfl
  · rintro decided definition member
    obtain ⟨original, originalMember, rfl⟩ := exists_of_function_mem placed member
    rcases decided with test | unmarked
    · simp [test]
    · have none : original.inTestPart = false := unmarked _ originalMember
      simp [none]

/-- In a document that was read, the mark of a function says whether it is tested. -/
theorem isTested_eq (member : .function definition ∈ document.declarations)
    (inDefaultModule : Bool) :
    definition.isTested (document.surroundings inDefaultModule) = definition.inTestPart := by
  obtain ⟨original, -, rfl⟩ := exists_of_function_mem placed member
  simp [FunctionDefinition.isTested, surroundings]

end Placed

/-- A document that is read has the declarations of its text, with the mark of a
test added to every function if the document is a test.  Marks that the text
gives elsewhere stay.  The mark of a function decides whether its annotations
are refused and whether it is exposed. -/
theorem marks_of_ofText {name text : String} {inTests : Bool} {document : Document}
    (read : ofText name text inTests = .ok document) :
    ∃ decoded, decode text = .ok decoded ∧ document.isTest = (inTests || decoded.isTest) ∧
      document.declarations = decoded.declarations.map (.placed document.isTest) ∧
      (document.DecidesMarks ↔ document.isTest = true ∨
        ∀ declaration ∈ decoded.declarations, declaration.hasTestMark = false) ∧
      ∀ definition, .function definition ∈ document.declarations → ∀ inDefaultModule,
        (Rule.unannotated ∈ definition.brokenRules (document.surroundings inDefaultModule) ↔
          definition.hasAnnotations = true ∧ definition.inTestPart = false) ∧
        definition.isTransformer (document.surroundings inDefaultModule) =
          (inDefaultModule && !definition.inTestPart && definition.isTransformerShaped) := by
  obtain ⟨decoded, succeeded, marked⟩ := map_eq_ok_iff.mp read
  have isTest : document.isTest = (inTests || decoded.isTest) := by
    rw [← marked, isTest_markTestFunctions, Document.isTest, Document.isTest]
    cases inTests <;> cases decoded.markedTest <;> simp
  have placed : document.declarations = decoded.declarations.map (.placed document.isTest) := by
    rw [← marked, declarations_markTestFunctions, isTest_markTestFunctions]
  refine ⟨decoded, succeeded, isTest, placed, decidesMarks_iff placed, ?_⟩
  intro definition member inDefaultModule
  have tested := isTested_eq placed member inDefaultModule
  constructor
  · simp [FunctionDefinition.brokenRules, tested]
  · rw [FunctionDefinition.isTransformer, tested]
    rfl

/-- A test by what it imports, of which one function has its mark already. -/
def tested : Document where
  name := "a.yaml"
  ordinal := 0
  markedTest := false
  imports := ["ballerina/test"]
  declarations := [.function (marked "f"), .function (marked "g"),
    .item .classDefinition ⟨none, .unknown⟩]
where
  marked (name : String) : FunctionDefinition :=
    { FunctionDefinition.named name with inTestPart := true }

def testedText : String :=
  "imports: [ballerina/test]\n" ++ "declarations:\n" ++
  "- \x7bkind: function, name: f\x7d\n" ++
  "- \x7bkind: function, name: g, owner_module_part_is_test: true\x7d\n" ++
  "- kind: class\n"

theorem marks_of_ofText_tested :
    ofText "a.yaml" testedText false = .ok tested ∧ tested.DecidesMarks ∧
      ∀ definition, .function definition ∈ tested.declarations →
        definition.isTransformer (tested.surroundings true) = false := by
  have read : ofText "a.yaml" testedText false = .ok tested := by
    decide +kernel
  obtain ⟨decoded, -, -, -, decides, classified⟩ := marks_of_ofText read
  have test : tested.isTest = true := by decide +kernel
  have decided := decides.mpr (.inl test)
  refine ⟨read, decided, fun definition member => ?_⟩
  rw [(classified definition member true).2, decided definition member, test]
  rfl

/-- A document that is no test marks its function by itself, and the annotation is not refused. -/
theorem ofText_keeps_mark :
    ∃ document definition, ofText "src/a.yaml" ("declarations:\n" ++ "- kind: function\n" ++
        "  name: f\n" ++ "  annotations: [display]\n" ++
        "  owner_module_part_is_test: true\n") false = .ok document ∧
      .function definition ∈ document.declarations ∧ document.isTest = false ∧
      definition.inTestPart = true ∧ definition.hasAnnotations = true ∧
      definition.brokenRules (document.surroundings true) = [] := by
  refine ⟨⟨"src/a.yaml", 0, false, [], [.function { FunctionDefinition.named "f" with
    annotations := ["display"]
    inTestPart := true }]⟩, _, ?_, List.mem_singleton_self _, ?_⟩
  · decide +kernel
  · decide +kernel

end Document

/-! ### Marks in an analysis -/

namespace Declaration

variable {surroundings : Surroundings}

theorem placed_placed (inTest : Bool) (declaration : Declaration) :
    (declaration.placed inTest).placed inTest = declaration.placed inTest := by
  cases declaration with
  | function definition => simp [placed]
  | item kind definition => rfl

/-- A declaration is classified by where it stands, whether or not its mark says so too. -/
theorem classify_placed (declaration : Declaration) :
    (declaration.placed surroundings.inTestDocument).classify surroundings =
      declaration.classify surroundings := by
  cases declaration with
  | item kind definition => rfl
  | function definition =>
      set marked := { definition with
        inTestPart := surroundings.inTestDocument || definition.inTestPart } with markedEq
      have tested : marked.isTested surroundings = definition.isTested surroundings := by
        simp [markedEq, FunctionDefinition.isTested]
      have exposed : marked.isTransformer surroundings = definition.isTransformer surroundings := by
        rw [FunctionDefinition.isTransformer, tested]
        rfl
      have broken : marked.brokenRules surroundings = definition.brokenRules surroundings := by
        rw [FunctionDefinition.brokenRules, tested, exposed]
        rfl
      rw [placed, ← markedEq, classify, brokenRules, broken, transformer?, exposed]
      rfl

end Declaration

namespace Document

theorem markTestFunctions_eq (document : Document) :
    document.markTestFunctions =
      { document with declarations := document.declarations.map (.placed document.isTest) } := by
  rw [← declarations_markTestFunctions, markTestFunctions]
  split <;> rfl

theorem markTestFunctions_markTestFunctions (document : Document) :
    document.markTestFunctions.markTestFunctions = document.markTestFunctions := by
  rw [markTestFunctions_eq document.markTestFunctions, isTest_markTestFunctions,
    declarations_markTestFunctions, List.map_map, markTestFunctions_eq]
  simp [Function.comp_def, Declaration.placed_placed]

theorem surroundings_markTestFunctions (document : Document) (inDefaultModule : Bool) :
    document.markTestFunctions.surroundings inDefaultModule =
      document.surroundings inDefaultModule := by
  rw [surroundings, name_markTestFunctions, isTest_markTestFunctions, surroundings]

end Document

namespace Analysis

variable (analyzer : Analyzer) (document : Document) (inDefaultModule : Bool)

theorem declareAll_markTestFunctions :
    analyzer.declareAll document.markTestFunctions inDefaultModule =
      analyzer.declareAll document inDefaultModule := by
  have inTest : document.isTest = (document.surroundings inDefaultModule).inTestDocument := rfl
  rw [Analyzer.declareAll, Document.surroundings_markTestFunctions, Document.markTestFunctions_eq,
    inTest, List.zipIdx_map, List.foldl_map, Analyzer.declareAll]
  simp only [Prod.map_fst, Prod.map_snd, id_eq, Declaration.classify_placed]

/-- Marking the functions of a document changes nothing for its analysis, from whatever
state: the state and the diagnostics that have arrived are the same, in the same order.
To mark a document again changes nothing, and a marked document is a test if it was
one before. -/
theorem analyzeDocument_markTestFunctions :
    analyzer.analyzeDocument document.markTestFunctions inDefaultModule =
        analyzer.analyzeDocument document inDefaultModule ∧
      document.markTestFunctions.markTestFunctions = document.markTestFunctions ∧
      document.markTestFunctions.isTest = document.isTest := by
  refine ⟨?_, document.markTestFunctions_markTestFunctions, document.isTest_markTestFunctions⟩
  simp only [Analyzer.analyzeDocument, declareAll_markTestFunctions,
    Document.isTest_markTestFunctions, Analyzer.completeDocument, Document.name_markTestFunctions]

end Analysis

end PureService
