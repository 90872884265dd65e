import PureService.Proofs.Analysis.Classification

/-!
# How a function is presented

The rules look at a function through a few questions: which qualifiers it has, whether
it has annotations and parameters at all, and whether all types can be read from JSON.
Functions of one name and place that answer them alike are classified alike, however
their lists are ordered, repeated or spelled.
-/

namespace PureService

/-- The functions differ at most in the order and the repetition of their qualifiers, in
what their annotations are, and in parameters that are serializable alike. -/
structure FunctionDefinition.Rephrases (first second : FunctionDefinition) : Prop where
  name : first.name = second.name
  body : first.body = second.body
  position : first.position = second.position
  inTestPart : first.inTestPart = second.inTestPart
  qualifiers : ∀ qualifier, qualifier ∈ first.qualifiers ↔ qualifier ∈ second.qualifiers
  annotations : first.annotations = [] ↔ second.annotations = []
  parameters : first.parameters = [] ↔ second.parameters = []
  types : (∀ parameter ∈ first.parameters, parameter.type.isSerializable = true) ↔
    ∀ parameter ∈ second.parameters, parameter.type.isSerializable = true

namespace FunctionDefinition.Rephrases

variable {first second : FunctionDefinition} (same : first.Rephrases second)
  (surroundings : Surroundings)

include same

theorem hasQualifier (qualifier : Qualifier) :
    first.hasQualifier qualifier = second.hasQualifier qualifier := by
  rw [FunctionDefinition.hasQualifier, FunctionDefinition.hasQualifier, Bool.eq_iff_iff,
    List.contains_iff_mem, List.contains_iff_mem]
  exact same.qualifiers qualifier

theorem isEntryPoint : first.isEntryPoint = second.isEntryPoint := by
  rw [FunctionDefinition.isEntryPoint, same.name, FunctionDefinition.isEntryPoint]

theorem isExpressionBodied : first.isExpressionBodied = second.isExpressionBodied := by
  rw [FunctionDefinition.isExpressionBodied, same.body, FunctionDefinition.isExpressionBodied]

theorem hasAnnotations : first.hasAnnotations = second.hasAnnotations := by
  rw [FunctionDefinition.hasAnnotations, FunctionDefinition.hasAnnotations, Bool.eq_iff_iff]
  simpa using not_congr same.annotations

theorem hasSerializableSignature :
    first.hasSerializableSignature = second.hasSerializableSignature := by
  rw [FunctionDefinition.hasSerializableSignature, FunctionDefinition.hasSerializableSignature,
    Bool.eq_iff_iff, Bool.and_eq_true, Bool.and_eq_true, List.all_eq_true, List.all_eq_true]
  exact and_congr (by simpa using not_congr same.parameters) same.types

theorem isTested : first.isTested surroundings = second.isTested surroundings := by
  rw [FunctionDefinition.isTested, same.inTestPart, FunctionDefinition.isTested]

theorem isTransformer : first.isTransformer surroundings = second.isTransformer surroundings := by
  simp only [FunctionDefinition.isTransformer, isTransformerShaped, same.isTested,
    same.hasQualifier, same.isExpressionBodied]

theorem brokenRules : first.brokenRules surroundings = second.brokenRules surroundings := by
  simp only [FunctionDefinition.brokenRules, same.isEntryPoint, same.hasQualifier,
    same.isExpressionBodied, same.hasAnnotations, same.isTested, same.isTransformer,
    same.hasSerializableSignature]

theorem classify :
    (Declaration.function first).classify surroundings =
      (Declaration.function second).classify surroundings := by
  simp only [Declaration.classify, Declaration.brokenRules, Declaration.transformer?,
    Declaration.location, Declaration.position, same.brokenRules, same.isTransformer, same.name,
    same.position]

end FunctionDefinition.Rephrases

namespace Declaration

variable {definition : FunctionDefinition} {surroundings : Surroundings}

/-- A public function without an expression is never exposed. -/
theorem transformer?_of_publicIsExpression
    (broken : .publicIsExpression ∈ ((function definition).classify surroundings).rules) :
    ((function definition).classify surroundings).transformer = none := by
  rw [rules_classify, brokenRules,
    FunctionDefinition.publicIsExpression_mem_brokenRules_iff] at broken
  simp [classify, transformer?, FunctionDefinition.isTransformer,
    FunctionDefinition.isTransformerShaped, broken.2]

/-- A signature is only refused of a function that is exposed. -/
theorem transformer?_of_supportedSignature
    (broken : .supportedSignature ∈ ((function definition).classify surroundings).rules) :
    ((function definition).classify surroundings).transformer = some definition.name := by
  rw [rules_classify, brokenRules,
    FunctionDefinition.supportedSignature_mem_brokenRules_iff] at broken
  simp [classify, transformer?, broken.1]

/-- Functions that differ in presentation only are classified alike in any surroundings.
The codes that are found increase strictly; a function that has to be an expression is
not exposed, and one with an unsupported signature is. -/
theorem classify_eq_of_rephrases {first second : FunctionDefinition}
    (same : first.Rephrases second) (surroundings : Surroundings) :
    (function first).classify surroundings = (function second).classify surroundings ∧
      (((function first).classify surroundings).rules.map Rule.code).Pairwise (· < ·) ∧
      (.publicIsExpression ∈ ((function first).classify surroundings).rules →
        ((function first).classify surroundings).transformer = none) ∧
      (.supportedSignature ∈ ((function first).classify surroundings).rules →
        ((function first).classify surroundings).transformer = some first.name) :=
  ⟨same.classify surroundings, pairwise_codes_classify, transformer?_of_publicIsExpression,
    transformer?_of_supportedSignature⟩

/-- An exposed function of a type that is not serializable. -/
def displayed : FunctionDefinition :=
  { FunctionDefinition.named "f" with
    qualifiers := [.pub, .isolated]
    body := .expression
    annotations := ["display"]
    parameters := [.required (.primitive .xml)] }

/-- The same function with a qualifier twice, other annotations and other types. -/
def redisplayed : FunctionDefinition :=
  { displayed with
    qualifiers := [.isolated, .pub, .isolated]
    annotations := ["deprecated", "display"]
    parameters := [.required (.primitive .int), ⟨.rest, .other "Foo", some "foos"⟩] }

/-- Both are found to have annotations and an unsupported signature, and both are exposed. -/
theorem classify_eq_of_rephrases_displayed :
    displayed.Rephrases redisplayed ∧
      (function displayed).classify ⟨"a.yaml", false, true⟩ =
        (function redisplayed).classify ⟨"a.yaml", false, true⟩ ∧
      ((function displayed).classify ⟨"a.yaml", false, true⟩).rules =
        [.unannotated, .supportedSignature] ∧
      ((function displayed).classify ⟨"a.yaml", false, true⟩).transformer = some "f" := by
  have qualifiers : ∀ qualifier,
      qualifier ∈ displayed.qualifiers ↔ qualifier ∈ redisplayed.qualifiers := by
    intro qualifier
    cases qualifier <;> decide
  have same : displayed.Rephrases redisplayed :=
    ⟨rfl, rfl, rfl, rfl, qualifiers, by decide, by decide, by decide⟩
  obtain ⟨alike, -, -, exposed⟩ := classify_eq_of_rephrases same ⟨"a.yaml", false, true⟩
  exact ⟨same, alike, by decide, exposed (by decide)⟩

end Declaration

end PureService
