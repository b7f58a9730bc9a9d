import CogniDQ.Rules.Compiler
import CogniDQ.Rules.Fragments.Comparisons
import CogniDQ.Rules.Fragments.Rows

/-!
# Which user-supplied SQL is vetted

Every expression and operator of the user that stands in compiled SQL has passed the
validator or is an operator of a fixed list, with three exceptions: the operator next
to a reference column, the alias of a rule expression, and the condition of a rule
of no known dimension.
-/

set_option autoImplicit false

namespace CogniDQ.Rules

open CogniDQ.Python CogniDQ.Sql

section Rule

variable {runtime : Runtime} {table : Phrase} {column : String} {parameters : Dict}
  {compiled : Compiled}

/-- What a consistency rule splices in without a check: next to a reference column the
operator, for a formula the alias of the rule expression. -/
def consistencyUnchecked (parameters : Dict) : Option Value :=
  if (parameters.get "rule_expression").truthy then none
  else if (consistencyType parameters).is "intra_record" then
    some (parameters.getD "operator" (.str "="))
  else if (consistencyType parameters).is "formula" then some (parameters.get "formula")
  else none

/-- An intra-record rule is vetted when its operator is, unless it has an expression,
which has been checked. -/
theorem intraRecordExpression_vetted_iff {ruleExpr : Phrase}
    (checked : FilterVetted runtime (parameters.get "rule_expression"))
    (intraRecord : (consistencyType parameters).is "intra_record" = true)
    (made : intraRecordExpression runtime column parameters = some ruleExpr) :
    Only (Vetted runtime) ruleExpr ↔
      ∀ value ∈ consistencyUnchecked parameters, Vetted runtime (runtime.str value) := by
  simp only [intraRecordExpression] at made
  split at made
  · rename_i present
    cases made
    simp [consistencyUnchecked, present, checked present]
  · rename_i absent
    split at made
    · cases made
      simp [consistencyUnchecked, absent, intraRecord]
    · cases made

private theorem formulaExpression_vetted_iff
    (checked : FilterVetted runtime (parameters.get "rule_expression"))
    (otherType : ¬ (consistencyType parameters).is "intra_record" = true)
    (formula : (consistencyType parameters).is "formula" = true) :
    Vetted runtime (runtime.str (formulaExpression parameters)) ↔
      ∀ value ∈ consistencyUnchecked parameters, Vetted runtime (runtime.str value) := by
  by_cases present : (parameters.get "rule_expression").truthy = true
  · simp [formulaExpression, Value.or, consistencyUnchecked, present, checked present]
  · simp [formulaExpression, Value.or, consistencyUnchecked, present, otherType, formula]

theorem consistencyUnchecked_eq_none (otherType : ¬ (consistencyType parameters).is "intra_record" = true)
    (another : ¬ (consistencyType parameters).is "formula" = true) :
    consistencyUnchecked parameters = none := by
  simp [consistencyUnchecked, otherType, another]

private theorem compileConsistencyRule_vetted_iff (clean : Only (Vetted runtime) table)
    (success : compileConsistencyRule runtime table column parameters = .ok (.compiled compiled)) :
    AllVetted runtime compiled ↔
      ∀ value ∈ consistencyUnchecked parameters, Vetted runtime (runtime.str value) := by
  unfold compileConsistencyRule at success
  obtain ⟨known, _, success⟩ := bind_eq_ok success
  obtain ⟨-, success⟩ := check_passed success
  obtain ⟨rejected, checked, success⟩ := bind_eq_ok success
  obtain ⟨accepted, success⟩ := check_passed success
  have filter := filterVetted_of_guard checked accepted
  obtain ⟨rejected, checked, success⟩ := bind_eq_ok success
  obtain ⟨accepted, success⟩ := check_passed success
  have expression := filterVetted_of_guard checked accepted
  rcases ite_eq_iff.mp success with ⟨intraRecord, success⟩ | ⟨intraRecord, success⟩
  · rw [consistencyIntraRecord_vetted_iff filter clean success]
    cases made : intraRecordExpression runtime column parameters with
    | none => simp [consistencyIntraRecord, made, consistencyErrorResult, pure, Except.pure] at success
    | some ruleExpr => simpa using intraRecordExpression_vetted_iff expression intraRecord made
  rcases ite_eq_iff.mp success with ⟨formula, success⟩ | ⟨formula, success⟩
  · rw [consistencyFormula_vetted_iff filter clean success]
    exact formulaExpression_vetted_iff expression intraRecord formula
  rw [consistencyUnchecked_eq_none intraRecord formula]
  simp only [Option.mem_def, reduceCtorEq, false_implies, implies_true, iff_true]
  rcases ite_eq_iff.mp success with ⟨-, success⟩ | ⟨-, success⟩
  · exact consistencyTemporal_vetted filter clean success
  rcases ite_eq_iff.mp success with ⟨-, success⟩ | ⟨-, success⟩
  · exact consistencyInterRecord_vetted filter clean success
  rcases ite_eq_iff.mp success with ⟨-, success⟩ | ⟨-, success⟩
  · exact consistencyCrossTable_vetted filter clean success
  · exact consistencyAggregation_vetted filter clean success

private theorem compileStatisticalRule_vetted (clean : Only (Vetted runtime) table)
    (success : compileStatisticalRule table column = .compiled compiled) :
    AllVetted runtime compiled := by
  cases success
  rw [allVetted_iff, only_query]
  simp [Column.named, Aggregate.phrase, Tally.phrase, clean]

theorem compileGenericRule_vetted_iff {condition : Value} (clean : Only (Vetted runtime) table)
    (success : compileGenericRule runtime table condition = .compiled compiled) :
    AllVetted runtime compiled ↔ Vetted runtime (runtime.str condition) := by
  cases success
  rw [allVetted_iff, only_query]
  simp [Column.named, Aggregate.phrase, Tally.phrase, clean]

def knownDimensions : List String :=
  ["completeness", "validity", "uniqueness", "conformity", "consistency", "timeliness", "accuracy",
    "reconciliation", "statistical"]

/-- What compiling a rule splices in without having looked at it. -/
def CanonicalRule.unchecked (rule : CanonicalRule) : Option Value :=
  if rule.dimension.is "consistency" then consistencyUnchecked rule.parameters
  else if knownDimensions.any rule.dimension.is then none
  else some rule.condition

private theorem CanonicalRule.unchecked_eq_none (rule : CanonicalRule) {dimension : String}
    (chosen : rule.dimension.is dimension = true) (known : dimension ∈ knownDimensions)
    (other : dimension ≠ "consistency") : rule.unchecked = none := by
  have listed : knownDimensions.any rule.dimension.is = true := List.any_eq_true.mpr ⟨_, known, chosen⟩
  have different : ¬ rule.dimension.is "consistency" = true := by
    rw [Value.is_iff.mp chosen]
    simpa using other
  simp only [CanonicalRule.unchecked, listed, if_neg different, if_true]

theorem only_table {property : String → Prop} (rule : CanonicalRule) (targetSchema targetTable : String) :
    Only property (rule.table targetSchema targetTable) := by
  simp only [CanonicalRule.table]
  split <;> split <;> simp

/-- Whatever is unquoted and user-supplied in the SQL of a rule that compiles is vetted
if and only if what the compiler does not look at is. -/
theorem compileRule_vetted_iff {rule : CanonicalRule} {targetSchema targetTable : String}
    {targetColumns : List String}
    (success : compileRule runtime rule targetSchema targetTable targetColumns =
      .ok (.compiled compiled)) :
    AllVetted runtime compiled ↔
      ∀ value ∈ rule.unchecked, Vetted runtime (runtime.str value) := by
  have clean : Only (Vetted runtime) (rule.table targetSchema targetTable) := only_table rule _ _
  unfold compileRule at success
  rcases ite_eq_iff.mp success with ⟨completeness, success⟩ | ⟨noCompleteness, success⟩
  · rw [rule.unchecked_eq_none completeness (by decide) (by decide)]
    simpa using compileCompletenessRule_vetted clean success
  rcases ite_eq_iff.mp success with ⟨validity, success⟩ | ⟨noValidity, success⟩
  · rw [rule.unchecked_eq_none validity (by decide) (by decide)]
    simpa using compileValidityRule_vetted clean success
  rcases ite_eq_iff.mp success with ⟨uniqueness, success⟩ | ⟨noUniqueness, success⟩
  · rw [rule.unchecked_eq_none uniqueness (by decide) (by decide)]
    simpa using compileUniquenessRule_vetted clean success
  rcases ite_eq_iff.mp success with ⟨conformity, success⟩ | ⟨noConformity, success⟩
  · rw [rule.unchecked_eq_none conformity (by decide) (by decide)]
    simpa using compileConformityRule_vetted clean success
  rcases ite_eq_iff.mp success with ⟨consistency, success⟩ | ⟨noConsistency, success⟩
  · simpa [CanonicalRule.unchecked, consistency] using compileConsistencyRule_vetted_iff clean success
  rcases ite_eq_iff.mp success with ⟨timeliness, success⟩ | ⟨noTimeliness, success⟩
  · rw [rule.unchecked_eq_none timeliness (by decide) (by decide)]
    simpa using compileTimelinessRule_vetted clean success
  rcases ite_eq_iff.mp success with ⟨accuracy, success⟩ | ⟨noAccuracy, success⟩
  · rw [rule.unchecked_eq_none accuracy (by decide) (by decide)]
    simpa using compileAccuracyRule_vetted clean success
  rcases ite_eq_iff.mp success with ⟨reconciliation, success⟩ | ⟨noReconciliation, success⟩
  · rw [rule.unchecked_eq_none reconciliation (by decide) (by decide)]
    simpa using compileReconciliationRule_vetted success
  rcases ite_eq_iff.mp success with ⟨statistical, success⟩ | ⟨noStatistical, success⟩
  · rw [rule.unchecked_eq_none statistical (by decide) (by decide)]
    simpa using compileStatisticalRule_vetted clean (Except.ok.inj success)
  · have unknown : knownDimensions.any rule.dimension.is = false := by
      simp [knownDimensions, *]
    rw [compileGenericRule_vetted_iff clean (Except.ok.inj success)]
    simp [CanonicalRule.unchecked, noConsistency, unknown]

end Rule

/-- A comparison of an amount with the total it is made of, by an operator of the user. -/
private def amountRule (operator : String) : CanonicalRule where
  dimension := .str "consistency"
  entity := "orders.amount"
  condition := .str ""
  parameters := [("consistency_type", .str "intra_record"), ("reference_column", .str "total"),
    ("operator", .str operator)]

/-- The operator next to a reference column may be any text. -/
theorem amountRule_unvetted : ∃ compiled,
    compileRule Runtime.ascii (amountRule "= 1 OR 1=1 --") "" "" [] = .ok (.compiled compiled) ∧
      "= 1 OR 1=1 --" ∈ compiled.fragments ∧ ¬ AllVetted Runtime.ascii compiled := by
  refine ⟨_, rfl, by decide +kernel, fun vetted => ?_⟩
  exact absurd (vetted "= 1 OR 1=1 --" (by decide +kernel)) (by decide +kernel)

theorem amountRule_vetted : ∃ compiled,
    compileRule Runtime.ascii (amountRule "<=") "" "" [] = .ok (.compiled compiled) ∧
      AllVetted Runtime.ascii compiled := by
  refine ⟨_, rfl, (@compileRule_vetted_iff Runtime.ascii _ (amountRule "<=") "" "" [] rfl).mpr ?_⟩
  have operator : (amountRule "<=").unchecked = some (.str "<=") := by rfl
  rw [operator]
  rintro value ⟨rfl⟩
  exact .inr (by decide)

end CogniDQ.Rules
