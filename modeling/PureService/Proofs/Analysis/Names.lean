import Mathlib.Data.List.Induction
import PureService.Proofs.Analysis.Conservation

/-!
# Names in module order

Transformers are recorded under the place of their declaration, and the names
are read out in the order of these places.  A module gives its documents
ascending ordinals, so however the analyses of a project are interleaved, the
names come out as they stand in the default module.
-/

namespace PureService

/-- The functions of a document that are exposed unless it is a test
document, in the order of their declarations. -/
def Document.exposedNames (document : Document) : List String :=
  document.declarations.filterMap fun
    | .function definition =>
      if definition.isTransformerShaped && !definition.inTestPart then some definition.name
      else none
    | .item _ _ => none

/-- The functions that a default module exposes, document by document. -/
def SourceModule.exposedNames (module_ : SourceModule) : List String :=
  (module_.documents.filter (!·.isTest)).flatMap Document.exposedNames

/-- A document of a module has its place there as its ordinal. -/
theorem SourceModule.ofDocuments_eq (name : String) (isDefault : Bool)
    (documents : List Document) :
    ofDocuments name isDefault documents = {
      name
      isDefault
      documents := documents.mapIdx fun index document => { document with ordinal := index } } := by
  induction documents using List.reverseRecOn with
  | nil => rfl
  | append_singleton documents document ih =>
      simp only [ofDocuments, List.foldl_append, List.foldl_cons, List.foldl_nil] at ih ⊢
      simp [push, ih, List.mapIdx_append]

theorem SourceModule.documents_ofDocuments (name : String) (isDefault : Bool)
    (documents : List Document) :
    (ofDocuments name isDefault documents).documents =
      documents.mapIdx fun index document => { document with ordinal := index } := by
  rw [ofDocuments_eq]

theorem SourceModule.pairwise_ordinal_ofDocuments (name : String) (isDefault : Bool)
    (documents : List Document) :
    (ofDocuments name isDefault documents).documents.Pairwise
      fun first second => first.ordinal < second.ordinal := by
  rw [documents_ofDocuments, List.pairwise_iff_getElem]
  intro first second firstBound secondBound ascending
  simpa using ascending

/-- The documents of the module stand in the order of their ordinals. -/
def SourceModule.IsOrdered (module_ : SourceModule) : Prop :=
  module_.documents.Pairwise fun first second => first.ordinal < second.ordinal

theorem SourceModule.isOrdered_ofDocuments (name : String) (isDefault : Bool)
    (documents : List Document) : (ofDocuments name isDefault documents).IsOrdered :=
  pairwise_ordinal_ofDocuments name isDefault documents

namespace Analysis

namespace Transformer

theorem precedes_iff {left right : Transformer} :
    left.precedes right = true ↔ left.key.document < right.key.document ∨
      (left.key.document = right.key.document ∧
        left.key.declaration ≤ right.key.declaration) := by
  simp only [precedes, DeclarationKey.compare, Ordering.isLE_then_iff_or, Nat.compare_eq_lt,
    Nat.compare_eq_eq, Nat.isLE_compare]

theorem precedes_total (left right : Transformer) :
    left.precedes right = true ∨ right.precedes left = true := by
  simp only [precedes_iff]
  omega

theorem precedes_trans {left middle right : Transformer}
    (first : left.precedes middle = true) (second : middle.precedes right = true) :
    left.precedes right = true := by
  simp only [precedes_iff] at *
  omega

theorem precedes_strict {left right : Transformer}
    (before : left.key.document < right.key.document ∨
      (left.key.document = right.key.document ∧
        left.key.declaration < right.key.declaration)) :
    left.precedes right = true ∧ right.precedes left = false := by
  rw [← Bool.not_eq_true, precedes_iff, precedes_iff]
  omega

end Transformer

/-! ### The transformers of a module -/

/-- The transformers of a document in the order of their declarations. -/
def Access.transformers (document : Document) (inDefaultModule : Bool) : List Transformer :=
  (ofDocument document inDefaultModule).filterMap kept?

section Transformers

variable (document : Document)

theorem document_of_mem_transformers {inDefaultModule : Bool} {transformer : Transformer}
    (member : transformer ∈ Access.transformers document inDefaultModule) :
    transformer.key.document = document.ordinal := by
  rw [Access.transformers, Access.filterMap_kept?_ofDocument] at member
  obtain ⟨⟨declaration, index⟩, _, exposed⟩ := List.mem_filterMap.mp member
  obtain ⟨name, _, rfl⟩ := Option.map_eq_some_iff.mp exposed
  rfl

theorem pairwise_transformers (inDefaultModule : Bool) :
    (Access.transformers document inDefaultModule).Pairwise fun first second =>
      first.key.declaration < second.key.declaration := by
  rw [Access.transformers, Access.filterMap_kept?_ofDocument, List.pairwise_filterMap]
  have ascending : document.declarations.zipIdx.Pairwise fun first second =>
      first.2 < second.2 := by
    rw [← List.pairwise_map, List.zipIdx_map_snd]
    exact List.pairwise_lt_range'
  refine ascending.imp ?_
  rintro ⟨_, firstIndex⟩ ⟨_, secondIndex⟩ before first firstEq second secondEq
  obtain ⟨_, _, rfl⟩ := Option.map_eq_some_iff.mp firstEq
  obtain ⟨_, _, rfl⟩ := Option.map_eq_some_iff.mp secondEq
  exact before

theorem transformers_eq_nil {inDefaultModule : Bool}
    (uncountable : (inDefaultModule && !document.isTest) = false) :
    Access.transformers document inDefaultModule = [] := by
  by_contra nonempty
  have countable := Access.countable_of_markFound_mem document inDefaultModule
    ((Access.markFound_mem_ofDocument document inDefaultModule).mpr nonempty)
  rw [uncountable] at countable
  cases countable

theorem map_name_transformers (ordinary : document.isTest = false) :
    (Access.transformers document true).map Transformer.name = document.exposedNames := by
  have exposed : ∀ declaration : Declaration,
      declaration.transformer? (document.surroundings true) =
        match declaration with
        | .function definition =>
          if definition.isTransformerShaped && !definition.inTestPart then some definition.name
          else none
        | .item _ _ => none := by
    rintro (definition | ⟨kind, definition⟩)
    · simp [Declaration.transformer?, FunctionDefinition.isTransformer,
        FunctionDefinition.isTested, Document.surroundings, ordinary, and_comm]
    · rfl
  rw [Access.transformers, Access.filterMap_kept?_ofDocument, List.map_filterMap]
  simp only [Option.map_map, Function.comp_def, Option.map_id', exposed]
  conv_rhs =>
    rw [Document.exposedNames, ← List.zipIdx_map_fst 0 document.declarations,
      List.filterMap_map]
  rfl

end Transformers

/-- The names of the transformers of a module are those of the functions that
it exposes. -/
theorem map_name_flatMap_transformers (documents : List Document) :
    (documents.flatMap (Access.transformers · true)).map Transformer.name =
      (documents.filter (!·.isTest)).flatMap Document.exposedNames := by
  induction documents with
  | nil => rfl
  | cons document documents ih =>
      rw [List.flatMap_cons, List.map_append, ih]
      cases test : document.isTest with
      | true => simp [transformers_eq_nil document, test]
      | false => simp [map_name_transformers document test, test]

/-- Only the documents of the default module have transformers. -/
theorem filterMap_kept?_ofDeliveries {project : Project} (marked : project.IsMarked) :
    (Access.ofDeliveries project.deliveries).filterMap Access.kept? =
      project.defaultModule.documents.flatMap (Access.transformers · true) := by
  have unnamed : (project.namedDocuments.flatMap fun document =>
      (Access.ofDocument document false).filterMap Access.kept?) = [] :=
    List.flatMap_eq_nil_iff.mpr fun document _ => transformers_eq_nil document rfl
  rw [Access.ofDeliveries, marked.deliveries_eq, List.filterMap_flatMap, List.flatMap_append,
    List.flatMap_map, List.flatMap_map, unnamed, List.append_nil]
  rfl

/-- In a module whose documents have ascending ordinals, the transformers
stand in strict order. -/
theorem pairwise_flatMap_transformers {documents : List Document}
    (ascending : documents.Pairwise fun first second => first.ordinal < second.ordinal) :
    (documents.flatMap (Access.transformers · true)).Pairwise fun first second =>
      first.precedes second = true ∧ second.precedes first = false := by
  rw [List.pairwise_flatMap]
  constructor
  · intro document _
    refine (pairwise_transformers document true).imp_of_mem ?_
    intro first second firstMember secondMember before
    have firstKey := document_of_mem_transformers document firstMember
    have secondKey := document_of_mem_transformers document secondMember
    exact Transformer.precedes_strict (.inr ⟨firstKey.trans secondKey.symm, before⟩)
  · refine ascending.imp ?_
    intro firstDocument secondDocument before first firstMember second secondMember
    have firstKey := document_of_mem_transformers firstDocument firstMember
    have secondKey := document_of_mem_transformers secondDocument secondMember
    exact Transformer.precedes_strict (.inl (by omega))

theorem Access.ofDeliveries_perm {first second : List (Document × Bool)}
    (rearranged : first.Perm second) : (ofDeliveries first).Perm (ofDeliveries second) :=
  rearranged.flatMap_right _

/-- In whatever order the documents of a project are delivered, and however
their analyses are interleaved, the names are read out in module order. -/
theorem Execution.Run.names_eq_exposedNames {project : Project} (marked : project.IsMarked)
    (ordered : project.defaultModule.IsOrdered) {deliveries : List (Document × Bool)}
    (rearranged : deliveries.Perm project.deliveries) {total : Nat} {final : Execution}
    (run : Execution.Run (.start total deliveries) final) (done : final.isDone = true) :
    final.analyzer.state.names = project.defaultModule.exposedNames := by
  have recorded := (run.recorded_perm done).trans
    ((Access.ofDeliveries_perm rearranged).filterMap Access.kept?)
  rw [filterMap_kept?_ofDeliveries marked] at recorded
  rw [State.names, Sorting.sort_eq_of_perm_of_strict Transformer.precedes_total
    Transformer.precedes_trans recorded (pairwise_flatMap_transformers ordered)]
  exact map_name_flatMap_transformers project.defaultModule.documents

/-- However the analyses of the documents of a project are interleaved, the
names are those of the exposed functions of the default module as they stand
there. -/
theorem transformers_eq_exposedNames {project : Project} (marked : project.IsMarked)
    {documents : List Document}
    (pushed : project.defaultModule = .ofDocuments project.defaultModule.name true documents)
    {final : Execution} (run : Execution.Run (.ofProject project) final)
    (done : final.isDone = true) :
    final.analyzer.report.transformers = project.defaultModule.exposedNames := by
  have ordered : project.defaultModule.IsOrdered := by
    rw [pushed]
    exact SourceModule.isOrdered_ofDocuments _ true documents
  exact run.names_eq_exposedNames marked ordered (.refl _) done

/-- Two documents of which the first one exposes two functions and the second
one another function of the same name. -/
def overlapping : Project where
  config := .named "app"
  defaultModule := .ofDocuments "app" true
    [⟨"a.yaml", 0, false, [], [exposed "f", exposed "g"]⟩,
      ⟨"b.yaml", 0, false, [], [exposed "f"]⟩]
  namedModules := [.ofDocuments "util" false [⟨"c.yaml", 0, false, [], [exposed "h"]⟩]]
where
  exposed (name : String) : Declaration :=
    .function { FunctionDefinition.named name with
      qualifiers := [.pub, .isolated]
      body := .expression
      parameters := [.required (.primitive .json)] }

/-- The second document is recorded and counted between the two functions of
the first one. -/
theorem transformers_overlapping : overlapping.IsMarked ∧
    (∃ documents, overlapping.defaultModule = .ofDocuments "app" true documents) ∧
    ∃ final, Execution.Run (.ofProject overlapping) final ∧ final.isDone = true ∧
      final.analyzer.report.transformers = ["f", "g", "f"] := by
  have marked : overlapping.IsMarked := ⟨rfl, by decide⟩
  have moves : ∃ final, Execution.Run (.ofProject overlapping) final ∧ final.isDone = true :=
    ⟨_, .head (.advance [] [_, _] rfl) <| .head (.advance [_] [_] rfl) <|
      .head (.advance [_] [_] rfl) <| .head (.advance [] [_, _] rfl) <|
      .head (.advance [_] [_] rfl) <| .head (.advance [_] [_] rfl) <|
      .head (.advance [] [_, _] rfl) <| .head (.advance [] [_, _] rfl) <|
      .head (.advance [] [_, _] rfl) <| .head (.advance [] [_, _] rfl) <|
      .head (.advance [] [_, _] rfl) .refl, rfl⟩
  obtain ⟨final, run, done⟩ := moves
  exact ⟨marked, ⟨_, rfl⟩, final, run, done,
    transformers_eq_exposedNames marked rfl run done⟩

end Analysis

end PureService
