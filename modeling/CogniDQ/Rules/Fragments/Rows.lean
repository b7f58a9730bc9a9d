import CogniDQ.Rules.Completeness
import CogniDQ.Rules.Conformity
import CogniDQ.Rules.Fragments.Basic
import CogniDQ.Rules.Uniqueness
import CogniDQ.Rules.Validity

/-!
# Vetted fragments of checks on one table

The completeness, validity, uniqueness and conformity compilers validate every
expression they splice in, and write operators of their own.
-/

set_option autoImplicit false

namespace CogniDQ.Rules

open CogniDQ.Python CogniDQ.Sql

section Dimensions

variable {runtime : Runtime} {table : Phrase} {column : String} {parameters : Dict}
  {compiled : Compiled}

/-! ## Completeness -/

@[simp] theorem only_valueList {property : String → Prop} (values : List String) :
    Only property (valueList values) := by
  simp [valueList]

@[simp] theorem only_atom {property : String → Prop} (atom : Atom) : Only property atom.phrase := by
  cases atom <;> simp [Atom.phrase]

@[simp] theorem only_condition {property : String → Prop} (condition : Condition) :
    Only property condition.phrase := by
  cases condition <;> simp [Condition.phrase]

@[simp] theorem only_counted {property : String → Prop} (counted : Counted) :
    Only property counted.phrase := by
  cases counted <;> simp [Counted.phrase]

private theorem only_completenessTally (property : String → Prop) (division : Division) :
    Only property (division.passing.map Counted.phrase).phrase ∧
      Only property (division.failing.map Counted.phrase).phrase ∧
        Only property (division.rate.map Counted.phrase).phrase := by
  cases division <;>
    simp [Division.passing, Division.failing, Division.rate, Tally.map, Tally.phrase, Aggregate.map,
      Aggregate.phrase]

theorem compileCompletenessRule_vetted (clean : Only (Vetted runtime) table)
    (success : compileCompletenessRule runtime table column parameters = .ok (.compiled compiled)) :
    AllVetted runtime compiled := by
  obtain ⟨check, outcome, rfl⟩ := Outcome.eq_of_map success
  obtain ⟨mode, _, passed, shape⟩ := completenessCheck_mode outcome
  have tableSame : check.table = table := by cases shape <;> rfl
  have filterSame : check.filter = parameters.get "filter_expression" := by cases shape <;> rfl
  have wherePhrase (existing : Option Condition) :
      Only (Vetted runtime)
        (whereClause runtime check.filter (existing.map Condition.phrase)) := by
    rw [filterSame]
    refine only_whereClause (fun present => vetted_of_not_rejected passed present) ?_
    intro condition member
    obtain ⟨source, _, rfl⟩ := Option.mem_map.mp member
    exact only_condition source
  have tallies := only_completenessTally (Vetted runtime) check.division
  rw [allVetted_iff, only_query]
  refine ⟨⟨?_, ?_, ?_⟩, ?_⟩
  · simp [CompletenessCheck.compiled, CompletenessCheck.sql, CompletenessCheck.query, Query.map]
  · simpa [CompletenessCheck.compiled, CompletenessCheck.sql, CompletenessCheck.query, Query.map,
      Column.map, Column.named, Aggregate.map, Aggregate.phrase, Tally.map, Tally.phrase] using tallies
  · simpa [CompletenessCheck.compiled, CompletenessCheck.sql, CompletenessCheck.query, Query.map,
      tableSame] using ⟨clean, wherePhrase check.selection⟩
  · have violating := wherePhrase check.violation
    simp only [CompletenessCheck.compiled, CompletenessCheck.violationSql, only_append, tableSame]
    cases violation : check.violation with
    | none => simpa using clean
    | some condition => simpa [violation] using ⟨clean, by simpa [violation] using violating⟩

/-! ## Validity -/

/-- All user-supplied SQL a validity query is made of is vetted. -/
structure ValidityClean (runtime : Runtime) (source : ValiditySource) (test : ValidityTest) : Prop where
  before : Only (Vetted runtime) source.before
  tables : Only (Vetted runtime) source.tables
  holds : Only (Vetted runtime) test.holds
  alone : Only (Vetted runtime) test.alone
  fails : Only (Vetted runtime) test.fails
  isNull : Only (Vetted runtime) test.isNull
  isNotNull : Only (Vetted runtime) test.isNotNull

theorem validityCompiled_vetted {source : ValiditySource} {test : ValidityTest}
    {forMysql : String → String} (filter : FilterVetted runtime (parameters.get "filter_expression"))
    (clean : ValidityClean runtime source test)
    (success : validityCompiled runtime parameters source test forMysql = .compiled compiled) :
    AllVetted runtime compiled := by
  cases success
  obtain ⟨before, tables, holds, alone, fails, isNull, isNotNull⟩ := clean
  have wherePhrase : Only (Vetted runtime)
      (whereClause runtime (parameters.get "filter_expression") none) :=
    only_whereClause filter (by simp)
  rw [allVetted_iff, only_query]
  simp [validityQuery, validityColumns, validityViolation, ValidityTest.totalArgument,
    ValidityTest.validCase, ValidityTest.invalidCase, ValidityTest.skippedArgument, Column.named,
    Aggregate.phrase, Tally.phrase, *]

theorem columnTest_clean {holds alone fails : Phrase} (clean : Only (Vetted runtime) table)
    (whole : Only (Vetted runtime) holds) (single : Only (Vetted runtime) alone)
    (negated : Only (Vetted runtime) fails) :
    ValidityClean runtime (tableSource table) (columnTest column holds alone fails) where
  before := by simp [tableSource]
  tables := clean
  holds := whole
  alone := single
  fails := negated
  isNull := by simp [columnTest]
  isNotNull := by simp [columnTest]

@[simp] theorem only_allowedValue {property : String → Prop} (caseSensitive : Bool) (value : Value) :
    Only property (allowedValue runtime caseSensitive value) := by
  simp only [allowedValue]
  split <;> simp

theorem validityRegex_vetted (filter : FilterVetted runtime (parameters.get "filter_expression"))
    (clean : Only (Vetted runtime) table)
    (success : validityRegex runtime table column parameters = .ok (.compiled compiled)) :
    AllVetted runtime compiled :=
  validityCompiled_vetted filter (columnTest_clean clean (by simp) (by simp) (by simp))
    (Except.ok.inj success)

theorem validityAllowedValues_vetted (filter : FilterVetted runtime (parameters.get "filter_expression"))
    (clean : Only (Vetted runtime) table)
    (success : validityAllowedValues runtime table column parameters = .ok (.compiled compiled)) :
    AllVetted runtime compiled := by
  simp only [validityAllowedValues] at success
  split at success
  · cases success
  · obtain ⟨values, _, success⟩ := bind_eq_ok success
    split at success
    · refine validityCompiled_vetted filter ?_ (Except.ok.inj success)
      constructor <;> simp [clean]
    · exact validityCompiled_vetted filter (columnTest_clean clean (by simp) (by simp) (by simp))
        (Except.ok.inj success)

theorem validityRange_vetted (filter : FilterVetted runtime (parameters.get "filter_expression"))
    (clean : Only (Vetted runtime) table)
    (success : validityRange runtime table column parameters = .ok (.compiled compiled)) :
    AllVetted runtime compiled := by
  simp only [validityRange] at success
  split at success
  · cases success
  · exact validityCompiled_vetted filter (columnTest_clean clean (by simp) (by simp) (by simp))
      (Except.ok.inj success)

@[simp] theorem only_referenceTable {property : String → Prop} (dataset : String) :
    Only property (referenceTable dataset) := by
  unfold referenceTable
  split <;> simp

theorem validityReferenceLookup_vetted (filter : FilterVetted runtime (parameters.get "filter_expression"))
    (clean : Only (Vetted runtime) table)
    (success : validityReferenceLookup runtime table column parameters = .ok (.compiled compiled)) :
    AllVetted runtime compiled := by
  simp only [validityReferenceLookup] at success
  split at success
  · cases success
  · obtain ⟨matched, _, success⟩ := bind_eq_ok success
    split at success
    · cases success
    · obtain ⟨matched, _, success⟩ := bind_eq_ok success
      split at success
      · cases success
      · refine validityCompiled_vetted filter ?_ (Except.ok.inj success)
        constructor <;> simp [clean]

theorem validityBusinessRule_vetted (filter : FilterVetted runtime (parameters.get "filter_expression"))
    (clean : Only (Vetted runtime) table)
    (success : validityBusinessRule runtime table column parameters = .ok (.compiled compiled)) :
    AllVetted runtime compiled := by
  simp only [validityBusinessRule] at success
  split at success
  · cases success
  · obtain ⟨accepted, validated, success⟩ := bind_eq_ok success
    split at success
    · cases success
    · rename_i passed
      have vetted := vetted_of_guard validated passed
      refine validityCompiled_vetted filter (columnTest_clean clean ?_ ?_ ?_) (Except.ok.inj success)
      all_goals simpa using vetted

theorem validityNegative_vetted (filter : FilterVetted runtime (parameters.get "filter_expression"))
    (clean : Only (Vetted runtime) table)
    (success : validityNegative runtime table column parameters = .ok (.compiled compiled)) :
    AllVetted runtime compiled := by
  simp only [validityNegative] at success
  split at success
  · cases success
  · obtain ⟨accepted, validated, success⟩ := bind_eq_ok success
    split at success
    · cases success
    · rename_i passed
      have vetted := vetted_of_guard validated passed
      refine validityCompiled_vetted filter (columnTest_clean clean ?_ ?_ ?_) (Except.ok.inj success)
      all_goals simpa using vetted

private theorem validityComparison_vetted {requires default : String} {cast : Phrase → Phrase}
    (filter : FilterVetted runtime (parameters.get "filter_expression")) (clean : Only (Vetted runtime) table)
    (casts : ∀ operand, Only (Vetted runtime) operand → Only (Vetted runtime) (cast operand))
    (success : validityComparison runtime table column parameters requires default cast =
      .ok (.compiled compiled)) :
    AllVetted runtime compiled := by
  simp only [validityComparison] at success
  split at success
  · cases success
  · split at success
    · cases success
    · rename_i known
      refine validityCompiled_vetted filter ?_ (Except.ok.inj success)
      have vetted : Vetted runtime (normalizeComparisonOperator runtime
          (((parameters.get "comparison_operator").or (parameters.get "date_operator")).or
            (.str default)) default) := by
        refine .inr ?_
        simp only [validComparisonOperators, List.contains_eq_mem, List.mem_cons, List.not_mem_nil, or_false, Bool.not_eq_true', decide_eq_false_iff_not, not_not] at known
        simp only [allowedOperators, List.mem_cons, List.not_mem_nil, or_false]
        tauto
      have castName (identifier : String) := casts (name identifier) (only_name identifier)
      constructor <;> simp [tableSource, clean, vetted, castName]

theorem compileValidityRule_vetted (clean : Only (Vetted runtime) table)
    (success : compileValidityRule runtime table column parameters = .ok (.compiled compiled)) :
    AllVetted runtime compiled := by
  unfold compileValidityRule at success
  obtain ⟨known, _, success⟩ := bind_eq_ok success
  obtain ⟨-, success⟩ := check_passed success
  obtain ⟨rejected, passed, success⟩ := bind_eq_ok success
  obtain ⟨accepted, success⟩ := check_passed success
  have filter := filterVetted_of_guard passed accepted
  rcases ite_eq_iff.mp success with ⟨-, success⟩ | ⟨-, success⟩
  · exact validityAllowedValues_vetted filter clean success
  rcases ite_eq_iff.mp success with ⟨-, success⟩ | ⟨-, success⟩
  · exact validityRange_vetted filter clean success
  rcases ite_eq_iff.mp success with ⟨-, success⟩ | ⟨-, success⟩
  · exact validityRegex_vetted filter clean success
  rcases ite_eq_iff.mp success with ⟨-, success⟩ | ⟨-, success⟩
  · exact validityReferenceLookup_vetted filter clean success
  rcases ite_eq_iff.mp success with ⟨-, success⟩ | ⟨-, success⟩
  · exact validityBusinessRule_vetted filter clean success
  rcases ite_eq_iff.mp success with ⟨-, success⟩ | ⟨-, success⟩
  · exact validityComparison_vetted filter clean (fun _ held => held) success
  rcases ite_eq_iff.mp success with ⟨-, success⟩ | ⟨-, success⟩
  · exact validityComparison_vetted filter clean (fun _ held => by simpa using held) success
  · exact validityNegative_vetted filter clean success
/-! ## Uniqueness -/

theorem each_keys {property : String → Prop} {columns : List String} {nullHandling : Value}
    {caseSensitive : Bool} :
    Each property (uniquenessNullHandlingSql columns nullHandling caseSensitive).1 := by
  simp only [uniquenessNullHandlingSql]
  split <;> simp

theorem each_nullCondition {property : String → Prop} {columns : List String} {nullHandling : Value}
    {caseSensitive : Bool} :
    Each property (uniquenessNullHandlingSql columns nullHandling caseSensitive).2.toList := by
  simp only [uniquenessNullHandlingSql]
  split <;> simp

theorem duplicatesCompiled_vetted {cte : String} {selected grouped matched wherePhrase : Phrase}
    (clean : Only (Vetted runtime) table) (selection : Only (Vetted runtime) selected)
    (grouping : Only (Vetted runtime) grouped) (keys : Only (Vetted runtime) matched)
    (filter : Only (Vetted runtime) wherePhrase)
    (success : duplicatesCompiled table cte selected grouped matched wherePhrase =
      .compiled compiled) :
    AllVetted runtime compiled := by
  cases success
  rw [allVetted_iff, only_query]
  simp [uniquenessColumns, Column.named, Aggregate.phrase, Tally.phrase, *]

theorem uniquenessExact_vetted (filter : FilterVetted runtime (parameters.get "filter_expression"))
    (clean : Only (Vetted runtime) table)
    (success : uniquenessExact runtime table column parameters = .ok (.compiled compiled)) :
    AllVetted runtime compiled := by
  simp only [uniquenessExact] at success
  obtain ⟨chosen, _, success⟩ := bind_eq_ok success
  refine duplicatesCompiled_vetted clean ?_ ?_ ?_ ?_ (Except.ok.inj success)
  all_goals simp [each_keys, each_nullCondition, filter.each]

theorem uniquenessComposite_vetted (filter : FilterVetted runtime (parameters.get "filter_expression"))
    (clean : Only (Vetted runtime) table)
    (success : uniquenessComposite runtime table column parameters = .ok (.compiled compiled)) :
    AllVetted runtime compiled := by
  simp only [uniquenessComposite] at success
  obtain ⟨columns, _, success⟩ := bind_eq_ok success
  split at success
  · exact uniquenessExact_vetted filter clean success
  · refine duplicatesCompiled_vetted clean ?_ ?_ ?_ ?_ (Except.ok.inj success)
    all_goals simp [each_keys, each_nullCondition, filter.each]

theorem uniquenessScoped_vetted (filter : FilterVetted runtime (parameters.get "filter_expression"))
    (clean : Only (Vetted runtime) table)
    (success : uniquenessScoped runtime table column parameters = .ok (.compiled compiled)) :
    AllVetted runtime compiled := by
  simp only [uniquenessScoped] at success
  split at success
  · cases success
  · obtain ⟨columns, _, success⟩ := bind_eq_ok success
    obtain ⟨scopes, _, success⟩ := bind_eq_ok success
    refine duplicatesCompiled_vetted clean ?_ ?_ ?_ ?_ (Except.ok.inj success)
    all_goals simp [each_keys, each_nullCondition, filter.each]

theorem uniquenessCrossDataset_vetted (filter : FilterVetted runtime (parameters.get "filter_expression"))
    (clean : Only (Vetted runtime) table)
    (success : uniquenessCrossDataset runtime table column parameters = .ok (.compiled compiled)) :
    AllVetted runtime compiled := by
  simp only [uniquenessCrossDataset] at success
  split at success
  · cases success
  · split at success
    · cases success
    · obtain ⟨chosen, _, success⟩ := bind_eq_ok success
      cases success
      rw [allVetted_iff, only_query]
      simp [uniquenessColumns, Column.named, Aggregate.phrase, Tally.phrase, filterWhere, clean,
        filter.each]

theorem uniquenessFuzzy_vetted (filter : FilterVetted runtime (parameters.get "filter_expression"))
    (clean : Only (Vetted runtime) table)
    (success : uniquenessFuzzy runtime table column parameters = .ok (.compiled compiled)) :
    AllVetted runtime compiled := by
  simp only [uniquenessFuzzy] at success
  obtain ⟨chosen, _, success⟩ := bind_eq_ok success
  cases success
  rw [allVetted_iff, only_query]
  simp [uniquenessColumns, Column.named, Aggregate.phrase, Tally.phrase, filterWhere, clean,
    filter.each]

theorem uniquenessTemporal_vetted (filter : FilterVetted runtime (parameters.get "filter_expression"))
    (clean : Only (Vetted runtime) table)
    (success : uniquenessTemporal runtime table column parameters = .ok (.compiled compiled)) :
    AllVetted runtime compiled := by
  simp only [uniquenessTemporal] at success
  split at success
  · cases success
  split at success
  · cases success
  obtain ⟨window, _, success⟩ := bind_eq_ok success
  split at success
  · cases success
  obtain ⟨columns, _, success⟩ := bind_eq_ok success
  cases success
  rw [allVetted_iff, only_query]
  simp [uniquenessColumns, Column.named, Aggregate.phrase, Tally.phrase, filterWhere, clean,
    filter.each]

theorem compileUniquenessRule_vetted (clean : Only (Vetted runtime) table)
    (success : compileUniquenessRule runtime table column parameters = .ok (.compiled compiled)) :
    AllVetted runtime compiled := by
  simp only [compileUniquenessRule] at success
  obtain ⟨inferred, _, success⟩ := bind_eq_ok success
  obtain ⟨known, _, success⟩ := bind_eq_ok success
  split at success
  · cases success
  obtain ⟨rejected, passed, success⟩ := bind_eq_ok success
  split at success
  · cases success
  rename_i accepted
  have filter := filterVetted_of_guard passed accepted
  split_ifs at success
  · exact uniquenessExact_vetted filter clean success
  · exact uniquenessComposite_vetted filter clean success
  · exact uniquenessScoped_vetted filter clean success
  · exact uniquenessCrossDataset_vetted filter clean success
  · exact uniquenessFuzzy_vetted filter clean success
  · exact uniquenessTemporal_vetted filter clean success

/-! ## Conformity -/

section Conformity

variable {chosen : Value} (filter : FilterVetted runtime (parameters.get "filter_expression"))
  (clean : Only (Vetted runtime) table)

@[simp] theorem only_columnRef {property : String → Prop} :
    Only property (columnRef runtime chosen) := by
  simp [columnRef]

@[simp] theorem only_columnExpr {property : String → Prop} :
    Only property (columnExpr runtime chosen parameters) := by
  simp [columnExpr]

private theorem each_lengthBound {property : String → Prop} {bound : Value} {measured : Phrase}
    {mark : String} {parts : List Phrase} (held : Only property measured)
    (found : (if bound.isNone then .ok []
      else (bound.toInt runtime).map fun number =>
        [measured ++ Phrase.ofText mark ++ Phrase.ofText (toString number)]) = .ok parts) :
    Each property parts := by
  split at found
  · cases found
    simp
  · cases number : bound.toInt runtime with
    | error error => simp [number, Except.map] at found
    | ok value =>
        simp only [number, Except.map, Except.ok.injEq] at found
        simp [← found, held]

theorem only_structuralParse {property : String → Prop} {format : Value} {operand parsed : Phrase}
    (held : Only property operand) (found : structuralParse format operand = some parsed) :
    Only property parsed := by
  unfold structuralParse at found
  split_ifs at found <;> cases found <;> simpa using held

include filter clean

theorem conformityCompiled_vetted {conforming nonConforming violating : Phrase}
    (passing : Only (Vetted runtime) conforming) (failing : Only (Vetted runtime) nonConforming)
    (violation : Only (Vetted runtime) violating)
    (success : conformityCompiled runtime table chosen parameters conforming nonConforming violating =
      .compiled compiled) :
    AllVetted runtime compiled := by
  cases success
  rw [allVetted_iff, only_query]
  simp [conformityWhere, Column.named, Aggregate.phrase, Tally.phrase, filter.each, *]

theorem conformityTest_vetted {holds fails : Phrase} (passing : Only (Vetted runtime) holds)
    (failing : Only (Vetted runtime) fails)
    (success : conformityTest runtime table chosen parameters holds fails = .compiled compiled) :
    AllVetted runtime compiled := by
  unfold conformityTest at success
  split at success
  · exact conformityCompiled_vetted filter clean (by simpa using passing) (by simpa using failing)
      failing success
  · exact conformityCompiled_vetted filter clean passing failing failing success

theorem conformityRegex_vetted
    (success : conformityRegex runtime table chosen parameters = .ok (.compiled compiled)) :
    AllVetted runtime compiled := by
  simp only [conformityRegex] at success
  split at success
  · cases success
  · exact conformityTest_vetted filter clean (by simp) (by simp) (Except.ok.inj success)

private theorem conformityLength_vetted
    (success : conformityLength runtime table chosen parameters = .ok (.compiled compiled)) :
    AllVetted runtime compiled := by
  simp only [conformityLength] at success
  split at success
  · cases success
  · obtain ⟨lower, low, success⟩ := bind_eq_ok success
    obtain ⟨upper, high, success⟩ := bind_eq_ok success
    refine conformityTest_vetted filter clean ?_ ?_ (Except.ok.inj success)
    all_goals
      have first : Each (Vetted runtime) lower := each_lengthBound (by simp) low
      have second : Each (Vetted runtime) upper := each_lengthBound (by simp) high
      simp [first, second]

private theorem conformityCharset_vetted
    (success : conformityCharset runtime table chosen parameters = .ok (.compiled compiled)) :
    AllVetted runtime compiled := by
  simp only [conformityCharset] at success
  split at success
  · cases success
  · exact conformityTest_vetted filter clean (by simp) (by simp) (Except.ok.inj success)

private theorem conformityCase_vetted
    (success : conformityCase runtime table chosen parameters = .ok (.compiled compiled)) :
    AllVetted runtime compiled := by
  simp only [conformityCase] at success
  split at success
  · cases success
  · obtain ⟨found, _, success⟩ := bind_eq_ok success
    split at success
    · cases success
    · exact conformityTest_vetted filter clean (by simp) (by simp) (Except.ok.inj success)

private theorem conformityStructural_vetted
    (success : conformityStructural runtime table chosen parameters = .ok (.compiled compiled)) :
    AllVetted runtime compiled := by
  simp only [conformityStructural] at success
  split at success
  · cases success
  split at success
  · cases success
  split at success
  · rename_i parsed bare isParsed isBare
    have whole : Only (Vetted runtime) parsed := only_structuralParse (by simp) isParsed
    have inner : Only (Vetted runtime) bare := only_structuralParse (by simp) isBare
    split at success
    · exact conformityCompiled_vetted filter clean (by simp [whole]) (by simp [whole]) (by simp [inner])
        (Except.ok.inj success)
    · exact conformityCompiled_vetted filter clean (by simp [whole]) (by simp [whole]) (by simp [inner])
        (Except.ok.inj success)
  · cases success

private theorem conformityStandard_vetted
    (success : conformityStandard runtime table chosen parameters = .ok (.compiled compiled)) :
    AllVetted runtime compiled := by
  simp only [conformityStandard] at success
  split at success
  · cases success
  · obtain ⟨found, _, success⟩ := bind_eq_ok success
    split at success
    · cases success
    · refine conformityRegex_vetted ?_ clean success
      rwa [Dict.get_set_of_ne (by decide)]

end Conformity

theorem compileConformityRule_vetted (clean : Only (Vetted runtime) table)
    (success : compileConformityRule runtime table column parameters = .ok (.compiled compiled)) :
    AllVetted runtime compiled := by
  simp only [compileConformityRule] at success
  obtain ⟨known, _, success⟩ := bind_eq_ok success
  split at success
  · cases success
  obtain ⟨rejected, passed, success⟩ := bind_eq_ok success
  split at success
  · cases success
  rename_i accepted
  have filter := filterVetted_of_guard passed accepted
  obtain ⟨chosen, _, success⟩ := bind_eq_ok success
  split_ifs at success
  · exact conformityRegex_vetted filter clean success
  · exact conformityStandard_vetted filter clean success
  · exact conformityLength_vetted filter clean success
  · exact conformityCharset_vetted filter clean success
  · exact conformityCase_vetted filter clean success
  · exact conformityStructural_vetted filter clean success

end Dimensions

end CogniDQ.Rules
