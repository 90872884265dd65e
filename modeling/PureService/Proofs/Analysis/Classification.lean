import PureService.Analysis.Classification

/-!
# What a classification can say

The rules that a declaration breaks are read off what it declares.  No
declaration breaks the rule that there has to be a transformer: that is a
matter of the whole module.
-/

namespace PureService

namespace FunctionDefinition

variable {definition : FunctionDefinition} {surroundings : Surroundings}

theorem brokenRules_eq_nil_iff :
    definition.brokenRules surroundings = [] ↔
      definition.isEntryPoint = false ∧
      (definition.hasQualifier .pub = true → definition.isExpressionBodied = true) ∧
      (definition.hasAnnotations = true → definition.isTested surroundings = true) ∧
      (definition.isTransformer surroundings = true →
        definition.hasSerializableSignature = true) := by
  simp [brokenRules]

theorem someTransformer_notMem_brokenRules :
    Rule.someTransformer ∉ definition.brokenRules surroundings := by
  simp [brokenRules]

theorem supportedSignature_mem_brokenRules_iff :
    Rule.supportedSignature ∈ definition.brokenRules surroundings ↔
      definition.isTransformer surroundings = true ∧
        definition.hasSerializableSignature = false := by
  simp [brokenRules]

theorem publicIsExpression_mem_brokenRules_iff :
    Rule.publicIsExpression ∈ definition.brokenRules surroundings ↔
      definition.hasQualifier .pub = true ∧ definition.isExpressionBodied = false := by
  simp [brokenRules]

/-- Rules are found broken in the order of their codes, each at most once. -/
theorem brokenRules_sublist_all : (definition.brokenRules surroundings).Sublist Rule.all := by
  have part : ∀ (condition : Bool) (rule : Rule),
      (if condition then [rule] else []).Sublist [rule] := by
    intro condition rule
    cases condition <;> simp
  have known : ([.noEntryPoint] ++ [.publicIsExpression] ++ [.unannotated] ++
      [.supportedSignature] : List Rule).Sublist Rule.all := by decide
  rw [brokenRules]
  refine List.Sublist.trans ?_ known
  exact (((part _ _).append (part _ _)).append (part _ _)).append (part _ _)

theorem surroundings_of_isTransformer
    (transformer : definition.isTransformer surroundings = true) :
    surroundings.inDefaultModule = true ∧ surroundings.inTestDocument = false := by
  simp only [isTransformer, isTested, Bool.and_eq_true, Bool.not_eq_true',
    Bool.or_eq_false_iff] at transformer
  exact ⟨transformer.1.1, transformer.1.2.1⟩

end FunctionDefinition

namespace Declaration

variable {surroundings : Surroundings} {declaration : Declaration}

theorem someTransformer_notMem_brokenRules :
    Rule.someTransformer ∉ declaration.brokenRules surroundings := by
  cases declaration with
  | function definition => exact FunctionDefinition.someTransformer_notMem_brokenRules
  | item kind item => cases kind <;> simp [brokenRules, ItemKind.brokenRules]

theorem brokenRules_sublist_all : (declaration.brokenRules surroundings).Sublist Rule.all := by
  cases declaration with
  | function definition => exact FunctionDefinition.brokenRules_sublist_all
  | item kind item => cases kind <;> simp [brokenRules, ItemKind.brokenRules, Rule.all]

theorem rules_classify :
    (declaration.classify surroundings).rules = declaration.brokenRules surroundings := by
  simp [classify, Classification.rules, Diagnostic.ofRule, Function.comp_def]

theorem pairwise_codes_classify :
    ((declaration.classify surroundings).rules.map Rule.code).Pairwise (· < ·) := by
  have ordered : (Rule.all.map Rule.code).Pairwise (· < ·) := by decide
  rw [rules_classify]
  exact ordered.sublist (brokenRules_sublist_all.map Rule.code)

theorem rule_ne_someTransformer {diagnostic : Diagnostic}
    (member : diagnostic ∈ (declaration.classify surroundings).diagnostics) :
    diagnostic.rule ≠ .someTransformer := by
  obtain ⟨rule, broken, rfl⟩ := List.mem_map.mp member
  rintro rfl
  exact someTransformer_notMem_brokenRules broken

theorem surroundings_of_transformer? {name : String}
    (transformer : declaration.transformer? surroundings = some name) :
    surroundings.inDefaultModule = true ∧ surroundings.inTestDocument = false := by
  cases declaration with
  | function definition =>
      cases accepted : definition.isTransformer surroundings with
      | true => exact FunctionDefinition.surroundings_of_isTransformer accepted
      | false => simp [transformer?, accepted] at transformer
  | item kind item => cases transformer

end Declaration

end PureService
