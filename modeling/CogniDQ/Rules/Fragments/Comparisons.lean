import CogniDQ.Rules.Fragments.Basic
import CogniDQ.Rules.Reconciliation
import CogniDQ.Rules.Timeliness

/-!
# Vetted fragments of comparisons

Of the timeliness, accuracy and reconciliation compilers every expression they splice
in is vetted. Of the consistency compilers two splice in what has not been looked at.
-/

set_option autoImplicit false

namespace CogniDQ.Rules

open CogniDQ.Python CogniDQ.Sql

section Dimensions

variable {runtime : Runtime} {table : Phrase} {column : String} {parameters : Dict}
  {compiled : Compiled}

/-! ## Timeliness -/

section Timeliness

variable (filter : FilterVetted runtime (parameters.get "filter_expression"))
  (clean : Only (Vetted runtime) table)

theorem timelinessCompiled_vetted {columns : List (Column Phrase)} {wherePhrase violation : Phrase}
    (clean : Only (Vetted runtime) table)
    (counted : ∀ column ∈ columns, Only (Vetted runtime) column.aggregate.phrase)
    (filter : Only (Vetted runtime) wherePhrase) (violating : Only (Vetted runtime) violation)
    (success : timelinessCompiled runtime table columns wherePhrase violation = .compiled compiled) :
    AllVetted runtime compiled := by
  cases success
  rw [allVetted_iff, only_query]
  refine ⟨⟨by simp, counted, only_stripEnd ?_⟩, violating⟩
  simp [clean, filter]

include filter in
theorem only_bareWhere : Only (Vetted runtime) (bareWhere runtime parameters) := by
  simpa [bareWhere, FilterVetted] using filter

include filter clean

private theorem timelinessFreshness_vetted
    (success : timelinessFreshness runtime table column parameters = .ok (.compiled compiled)) :
    AllVetted runtime compiled := by
  simp only [timelinessFreshness] at success
  split at success
  · cases success
  · obtain ⟨duration, _, success⟩ := bind_eq_ok success
    split at success
    · cases success
    · refine timelinessCompiled_vetted clean ?_ (only_bareWhere filter) (by simp) (Except.ok.inj success)
      simp [timelinessColumns, Column.named, Aggregate.phrase, Tally.phrase, caseOf, secondsSinceLatest]

theorem timelinessPerRow_vetted {columns : List Phrase} {measured : Phrase} {label : String}
    {seconds : Int} (moments : Each (Vetted runtime) columns)
    (subject : Only (Vetted runtime) measured)
    (success : timelinessPerRow runtime table parameters columns measured label seconds =
      .compiled compiled) :
    AllVetted runtime compiled := by
  have moment (chosen : Phrase) (member : chosen ∈ columns) := moments chosen member
  refine timelinessCompiled_vetted clean ?_ ?_ (by simp [clean, subject]) success
  · simp +contextual [timelinessColumns, Column.named, Aggregate.phrase, Tally.phrase, sumCase, subject,
      moment]
  · simp +contextual [timelinessNulls, filter.each, moment]

private theorem timelinessRecordAge_vetted
    (success : timelinessRecordAge runtime table column parameters = .ok (.compiled compiled)) :
    AllVetted runtime compiled := by
  simp only [timelinessRecordAge] at success
  split at success
  · cases success
  · obtain ⟨duration, _, success⟩ := bind_eq_ok success
    split at success
    · cases success
    · exact timelinessPerRow_vetted filter clean (by simp) (by simp) (Except.ok.inj success)

private theorem timelinessDelayCommon_vetted {delayType : String}
    (success : timelinessDelayCommon runtime table column parameters delayType =
      .ok (.compiled compiled)) :
    AllVetted runtime compiled := by
  simp only [timelinessDelayCommon] at success
  split at success
  · cases success
  split at success
  · cases success
  obtain ⟨duration, _, success⟩ := bind_eq_ok success
  split at success
  · cases success
  · exact timelinessPerRow_vetted filter clean (by simp) (by simp) (Except.ok.inj success)

private theorem timelinessDeliveryWindow_vetted
    (success : timelinessDeliveryWindow runtime table column parameters = .ok (.compiled compiled)) :
    AllVetted runtime compiled := by
  simp only [timelinessDeliveryWindow] at success
  split at success
  · cases success
  split at success
  · cases success
  · cases success
  · refine timelinessCompiled_vetted clean ?_ (only_bareWhere filter) (by simp) (Except.ok.inj success)
    simp [timelinessColumns, Column.named, Aggregate.phrase, Tally.phrase, sumCase]

private theorem timelinessHeartbeat_vetted
    (success : timelinessHeartbeat runtime table column parameters = .ok (.compiled compiled)) :
    AllVetted runtime compiled := by
  simp only [timelinessHeartbeat] at success
  split at success
  · cases success
  · obtain ⟨duration, _, success⟩ := bind_eq_ok success
    split at success
    · cases success
    · refine timelinessCompiled_vetted clean ?_ (only_bareWhere filter) (by simp) (Except.ok.inj success)
      simp [timelinessColumns, Column.named, Aggregate.phrase, Tally.phrase, caseOf, secondsSinceLatest]

end Timeliness

theorem compileTimelinessRule_vetted (clean : Only (Vetted runtime) table)
    (success : compileTimelinessRule runtime table column parameters = .ok (.compiled compiled)) :
    AllVetted runtime compiled := by
  simp only [compileTimelinessRule] at success
  obtain ⟨known, _, success⟩ := bind_eq_ok success
  split at success
  · cases success
  obtain ⟨rejected, passed, success⟩ := bind_eq_ok success
  split at success
  · cases success
  rename_i accepted
  have filter := filterVetted_of_guard passed accepted
  split_ifs at success
  · exact timelinessFreshness_vetted filter clean success
  · exact timelinessRecordAge_vetted filter clean success
  · exact timelinessDelayCommon_vetted filter clean success
  · exact timelinessDelayCommon_vetted filter clean success
  · exact timelinessDeliveryWindow_vetted filter clean success
  · exact timelinessHeartbeat_vetted filter clean success

/-! ## Comparisons within a tolerance -/

section Tolerance

variable {property : String → Prop} {actual expected : Phrase} {toleranceType toleranceValue : Value}

/-! Either condition is made of the two sides that are compared. -/

@[simp] theorem only_toleratedMatch :
    Only property (consistencyToleranceSql runtime actual expected toleranceType toleranceValue).1 ↔
      Only property actual ∧ Only property expected := by
  unfold consistencyToleranceSql
  split_ifs <;> simp [withinTolerance, relativeDeviation, deviation, exactMatch]

@[simp] theorem only_toleratedMismatch :
    Only property (consistencyToleranceSql runtime actual expected toleranceType toleranceValue).2 ↔
      Only property actual ∧ Only property expected := by
  unfold consistencyToleranceSql
  split_ifs <;> simp [withinTolerance, relativeDeviation, deviation, exactMatch]

@[simp] theorem only_accurateMatch :
    Only property (accuracyToleranceSql runtime actual expected toleranceType toleranceValue).1 ↔
      Only property actual ∧ Only property expected := by
  unfold accuracyToleranceSql
  split_ifs <;> simp [withinTolerance, relativeDeviation, deviation, exactMatch]

@[simp] theorem only_accurateMismatch :
    Only property (accuracyToleranceSql runtime actual expected toleranceType toleranceValue).2 ↔
      Only property actual ∧ Only property expected := by
  unfold accuracyToleranceSql
  split_ifs <;> simp [withinTolerance, relativeDeviation, deviation, exactMatch]

theorem only_accuracyConditions {operand matchCond mismatchCond : Phrase}
    (subject : Only property operand) (matching : Only property matchCond)
    (mismatching : Only property mismatchCond) :
    Only property (accuracyConditions parameters operand matchCond mismatchCond).1 ∧
      Only property (accuracyConditions parameters operand matchCond mismatchCond).2 := by
  unfold accuracyConditions
  split <;> simp [subject, matching, mismatching]

@[simp] theorem only_equalColumns {left right : String} {columns : List Phrase} :
    Only property (equalColumns left right columns) ↔ Each property columns := by
  simp [equalColumns, Each]

@[simp] theorem each_namesOf {columns : List Value} : Each property (namesOf runtime columns) := by
  simp [namesOf]

end Tolerance

theorem FilterVetted.andFilter {filter : Value} (vetted : FilterVetted runtime filter) :
    Only (Vetted runtime) (andFilter runtime filter) := by
  simpa [CogniDQ.Rules.andFilter, FilterVetted] using vetted

/-! ## Accuracy -/

section Accuracy

variable (filter : FilterVetted runtime (parameters.get "filter_expression"))
  (clean : Only (Vetted runtime) table)

include filter in
theorem only_accuracyWhere {operand : Phrase} (subject : Only (Vetted runtime) operand) :
    Only (Vetted runtime) (accuracyWhere runtime parameters operand) := by
  simp [accuracyWhere, filter.each, subject]

theorem only_accuracyColumns {property : String → Prop} {verified unverifiable : Tally Phrase}
    {accurate inaccurate : Phrase} (checked : Only property verified.phrase)
    (unchecked : Only property unverifiable.phrase) (passing : Only property accurate)
    (failing : Only property inaccurate) :
    ∀ column ∈ accuracyColumns verified unverifiable accurate inaccurate,
      Only property column.aggregate.phrase := by
  simp [accuracyColumns, Column.named, Aggregate.phrase, Tally.phrase, *]

theorem only_statisticalBounds (property : String → Prop) (runtime : Runtime) (column : String)
    (parameters : Dict) (method : Value) :
    Only property (statisticalBounds runtime column parameters method).1 ∧
      Only property (statisticalBounds runtime column parameters method).2.1 ∧
        Only property (statisticalBounds runtime column parameters method).2.2 := by
  simp only [statisticalBounds]
  split <;> simp

include filter clean

private theorem accuracyReference_vetted
    (success : accuracyReference runtime table column parameters = .ok (.compiled compiled)) :
    AllVetted runtime compiled := by
  simp only [accuracyReference] at success
  split at success
  · cases success
  split at success
  · cases success
  split at success
  · cases success
  obtain ⟨known, _, success⟩ := bind_eq_ok success
  split at success
  · cases success
  obtain ⟨keys, _, success⟩ := bind_eq_ok success
  obtain rfl := Outcome.eq_of_pure success
  rw [allVetted_iff, only_query]
  refine ⟨⟨by simp, only_accuracyColumns (by simp [Tally.phrase]) (by simp [Tally.phrase]) ?_ ?_,
    only_stripEnd ?_⟩, ?_⟩
  · simpa using (only_accuracyConditions (by simp) (by simp) (by simp)).1
  · simpa using (only_accuracyConditions (by simp) (by simp) (by simp)).2
  · simpa [clean] using only_accuracyWhere filter (by simp)
  · simpa [clean, filter.andFilter] using (only_accuracyConditions (by simp) (by simp) (by simp)).2

private theorem accuracyStatistical_vetted
    (success : accuracyStatistical runtime table column parameters = .ok (.compiled compiled)) :
    AllVetted runtime compiled := by
  simp only [accuracyStatistical] at success
  split at success
  · cases success
  obtain ⟨known, _, success⟩ := bind_eq_ok success
  split at success
  · cases success
  cases success
  obtain ⟨statistics, within, beyond⟩ := only_statisticalBounds (Vetted runtime) runtime column parameters
    (((parameters.get "statistical_method").or (parameters.get "method")).or (.str "zscore"))
  have selection : Only (Vetted runtime) (accuracyWhere runtime parameters (name column)) :=
    only_accuracyWhere filter (by simp)
  rw [allVetted_iff, only_query]
  refine ⟨⟨?_, only_accuracyColumns (by simp [Tally.phrase]) (by simp [Tally.phrase]) ?_ ?_,
    only_stripEnd ?_⟩, ?_⟩
  · simp [statistics, clean, selection]
  · split_ifs <;> simp [within]
  · split_ifs <;> simp [beyond]
  · simp [clean, selection]
  · simp [statistics, clean, selection, beyond, filter.andFilter]

private theorem accuracyDerivedValue_vetted
    (success : accuracyDerivedValue runtime table column parameters = .ok (.compiled compiled)) :
    AllVetted runtime compiled := by
  simp only [accuracyDerivedValue] at success
  split at success
  · cases success
  obtain ⟨accepted, validated, success⟩ := bind_eq_ok success
  split at success
  · cases success
  rename_i passed
  have formula := vetted_of_guard validated passed
  obtain ⟨known, _, success⟩ := bind_eq_ok success
  split at success
  · cases success
  obtain rfl := Outcome.eq_of_pure success
  rw [allVetted_iff, only_query]
  refine ⟨⟨by simp, only_accuracyColumns (by simp [Tally.phrase]) (by simp [Tally.phrase]) ?_ ?_,
    only_stripEnd ?_⟩, ?_⟩
  · simpa using (only_accuracyConditions (by simp) (by simpa using formula) (by simpa using formula)).1
  · simpa using (only_accuracyConditions (by simp) (by simpa using formula) (by simpa using formula)).2
  · simpa [clean] using only_accuracyWhere filter (by simp)
  · simpa [clean, filter.andFilter] using (only_accuracyConditions (by simp) (by simpa using formula) (by simpa using formula)).2

end Accuracy

theorem compileAccuracyRule_vetted (clean : Only (Vetted runtime) table)
    (success : compileAccuracyRule runtime table column parameters = .ok (.compiled compiled)) :
    AllVetted runtime compiled := by
  simp only [compileAccuracyRule] at success
  obtain ⟨known, _, success⟩ := bind_eq_ok success
  split at success
  · cases success
  obtain ⟨rejected, passed, success⟩ := bind_eq_ok success
  split at success
  · cases success
  rename_i accepted
  have filter := filterVetted_of_guard passed accepted
  split_ifs at success
  · exact accuracyStatistical_vetted filter clean success
  · exact accuracyDerivedValue_vetted filter clean success
  · exact accuracyReference_vetted filter clean success

/-! ## Consistency -/

section Consistency

variable (filter : FilterVetted runtime (parameters.get "filter_expression"))
  (clean : Only (Vetted runtime) table)

@[simp] theorem only_consistencyColumns {property : String → Prop} {consistent inconsistent : Phrase} :
    (∀ column ∈ consistencyColumns consistent inconsistent, Only property column.aggregate.phrase) ↔
      Only property consistent ∧ Only property inconsistent := by
  simp [consistencyColumns, Column.named, Aggregate.phrase, Tally.phrase]

private theorem each_skippedNulls {property : String → Prop} {nulls : List Phrase}
    (found : skippedNulls runtime column parameters = .ok nulls) : Each property nulls := by
  simp only [skippedNulls] at found
  split at found
  · cases listed : (parameters.getD "columns" (.list [.str column])).elements with
    | error error => simp [listed, Except.map] at found
    | ok columns =>
        simp only [listed, Except.map, Except.ok.injEq] at found
        subst found
        split <;> simp
  · cases found
    simp

@[simp] theorem only_formulaSide {property : String → Prop} {expected : String} {expression : Value} :
    Only property (formulaSide runtime expected expression) ↔ property (runtime.str expression) := by
  simp [formulaSide]

private theorem temporalOperator_vetted (runtime : Runtime) (value : Value) :
    Vetted runtime (temporalOperator runtime value) ∧
      Vetted runtime ((inverseOperators.lookup (temporalOperator runtime value)).getD "!=") := by
  have listed : temporalOperator runtime value ∈ validTemporalOperators := by
    simp only [temporalOperator]
    split
    · simp_all
    · decide
  have allowed : ∀ op ∈ validTemporalOperators,
      op ∈ allowedOperators ∧ (inverseOperators.lookup op).getD "!=" ∈ allowedOperators := by
    decide
  exact ⟨.inr (allowed _ listed).1, .inr (allowed _ listed).2⟩

include filter clean

theorem consistencyIntraRecord_vetted_iff
    (success : consistencyIntraRecord runtime table column parameters = .ok (.compiled compiled)) :
    AllVetted runtime compiled ↔
      ∀ ruleExpr ∈ intraRecordExpression runtime column parameters, Only (Vetted runtime) ruleExpr := by
  unfold consistencyIntraRecord at success
  split at success
  · cases success
  rename_i ruleExpr made
  obtain ⟨nulls, found, success⟩ := bind_eq_ok success
  obtain rfl := Outcome.eq_of_pure success
  rw [allVetted_iff, only_query, made]
  simp [each_skippedNulls found, filter.each, filter.andFilter, clean]

theorem consistencyFormula_vetted_iff
    (success : consistencyFormula runtime table parameters = .ok (.compiled compiled)) :
    AllVetted runtime compiled ↔ Vetted runtime (runtime.str (formulaExpression parameters)) := by
  simp only [consistencyFormula] at success
  split at success
  · cases success
  split at success
  · cases success
  split at success
  · cases success
  obtain rfl := Outcome.eq_of_pure success
  rw [allVetted_iff, only_query]
  split_ifs <;> simp [filter.each, filter.andFilter, clean]

theorem consistencyTemporal_vetted
    (success : consistencyTemporal runtime table column parameters = .ok (.compiled compiled)) :
    AllVetted runtime compiled := by
  simp only [consistencyTemporal] at success
  split at success
  · cases success
  obtain rfl := Outcome.eq_of_pure success
  obtain ⟨operator, inverse⟩ := temporalOperator_vetted runtime
    (parameters.getD "operator" (.str ">="))
  rw [allVetted_iff, only_query]
  simp [filter.each, filter.andFilter, clean, operator, inverse]

theorem consistencyInterRecord_vetted
    (success : consistencyInterRecord runtime table parameters = .ok (.compiled compiled)) :
    AllVetted runtime compiled := by
  simp only [consistencyInterRecord] at success
  split at success
  · cases success
  split at success
  · cases success
  obtain ⟨compared, _, success⟩ := bind_eq_ok success
  obtain ⟨groups, _, success⟩ := bind_eq_ok success
  obtain rfl := Outcome.eq_of_pure success
  rw [allVetted_iff, only_query]
  simp [Column.named, Aggregate.phrase, clean, filter.each]

theorem consistencyCrossTable_vetted
    (success : consistencyCrossTable runtime table parameters = .ok (.compiled compiled)) :
    AllVetted runtime compiled := by
  simp only [consistencyCrossTable] at success
  split at success
  · cases success
  split at success
  · cases success
  split at success
  · cases success
  obtain ⟨keys, _, success⟩ := bind_eq_ok success
  obtain ⟨columns, _, success⟩ := bind_eq_ok success
  obtain rfl := Outcome.eq_of_pure success
  rw [allVetted_iff, only_query]
  simp [clean, filter.each, filter.andFilter]

theorem consistencyAggregation_vetted
    (success : consistencyAggregation runtime table column parameters = .ok (.compiled compiled)) :
    AllVetted runtime compiled := by
  simp only [consistencyAggregation] at success
  split at success
  · cases success
  split at success
  · cases success
  obtain ⟨function, _, success⟩ := bind_eq_ok success
  split at success
  · cases success
  split at success
  · cases success
  obtain ⟨groups, _, success⟩ := bind_eq_ok success
  obtain rfl := Outcome.eq_of_pure success
  rw [allVetted_iff, only_query]
  simp [clean, filter.each]

end Consistency
/-! ## Reconciliation -/

section Reconciliation

variable (sourceFilter : FilterVetted runtime (parameters.get "source_filter"))
  (targetFilter : FilterVetted runtime (parameters.get "target_filter"))

theorem FilterVetted.suffix {filter : Value} (vetted : FilterVetted runtime filter) :
    Only (Vetted runtime) (filterSuffix runtime filter) := by
  simpa [filterSuffix, FilterVetted] using vetted

theorem FilterVetted.dataset {filter : Value} (vetted : FilterVetted runtime filter) (dataset : Value) :
    Only (Vetted runtime) (filteredDataset runtime dataset filter) := by
  simpa [filteredDataset, FilterVetted] using vetted

@[simp] theorem only_joinCondition {property : String → Prop} {left right : String}
    {pairs : List (Value × Value)} : Only property (joinCondition runtime left right pairs) := by
  simp [joinCondition]

private theorem only_beforeAlias {property : String → Prop} {mark : String} {aliased : Phrase}
    (held : Only property aliased) : Only property (beforeAlias mark aliased) :=
  only_stripEnd (only_stripStart (only_take held))

include sourceFilter targetFilter

private theorem reconciliationRecordCount_vetted
    (success : reconciliationRecordCount runtime parameters = .ok (.compiled compiled)) :
    AllVetted runtime compiled := by
  cases success
  rw [allVetted_iff, only_query]
  simp [reconciliationQuery, Column.named, Aggregate.phrase, Tally.phrase, sourceFrom, targetFrom,
    sourceFilter.suffix, targetFilter.suffix]

theorem only_unmatchedViolation {joinCond firstSource firstTarget : Phrase}
    (joined : Only (Vetted runtime) joinCond) (source : Only (Vetted runtime) firstSource)
    (target : Only (Vetted runtime) firstTarget) :
    Only (Vetted runtime) (unmatchedViolation runtime parameters joinCond firstSource firstTarget) := by
  unfold unmatchedViolation
  simp only [only_append, only_ofText, only_literal, joined, source, target, sourceTable, targetTable,
    true_and, and_true]
  exact ⟨⟨⟨sourceFilter.dataset _, targetFilter.dataset _⟩, targetFilter.dataset _⟩, sourceFilter.dataset _⟩

private theorem reconciliationOneToOne_vetted
    (success : reconciliationOneToOne runtime parameters = .ok (.compiled compiled)) :
    AllVetted runtime compiled := by
  simp only [reconciliationOneToOne] at success
  split at success
  · cases success
  obtain ⟨pairs, _, success⟩ := bind_eq_ok success
  obtain ⟨⟨firstSource, firstTarget⟩, _, success⟩ := bind_eq_ok success
  obtain rfl := Outcome.eq_of_pure success
  have source := sourceFilter.dataset (parameters.get "source_dataset")
  have target := targetFilter.dataset (parameters.get "target_dataset")
  rw [allVetted_iff, only_query]
  refine ⟨?_, only_unmatchedViolation sourceFilter targetFilter (by simp) (by simp) (by simp)⟩
  have sourceCounted : Only (Vetted runtime)
      (beforeAlias " a" (sourceTable runtime parameters ++ " a")) := only_beforeAlias (by simpa [sourceTable] using source)
  have targetCounted : Only (Vetted runtime)
      (beforeAlias " b" (targetTable runtime parameters ++ " b")) := only_beforeAlias (by simpa [targetTable] using target)
  simp [reconciliationQuery, Column.named, Aggregate.phrase, Tally.phrase, sourceCounted, targetCounted]
  simp [sourceTable, targetTable, source, target]

private theorem reconciliationAggregate_vetted
    (success : reconciliationAggregate runtime parameters = .ok (.compiled compiled)) :
    AllVetted runtime compiled := by
  simp only [reconciliationAggregate] at success
  split at success
  · cases success
  obtain ⟨function, _, success⟩ := bind_eq_ok success
  split at success
  · cases success
  split at success
  · obtain ⟨groups, _, success⟩ := bind_eq_ok success
    cases success
    rw [allVetted_iff, only_query]
    simp [Aggregate.phrase, sourceFrom, targetFrom, sourceFilter.suffix,
      targetFilter.suffix]
  · cases success
    rw [allVetted_iff, only_query]
    simp [reconciliationQuery, Column.named, Aggregate.phrase, sourceFrom, targetFrom,
      sourceFilter.suffix, targetFilter.suffix]

theorem only_innerJoin {joinCond : Phrase} (joined : Only (Vetted runtime) joinCond) :
    Only (Vetted runtime) (innerJoin runtime parameters joinCond) := by
  simp [innerJoin, sourceTable, targetTable, sourceFilter.dataset, targetFilter.dataset, joined]

private theorem reconciliationFieldLevel_vetted
    (success : reconciliationFieldLevel runtime parameters = .ok (.compiled compiled)) :
    AllVetted runtime compiled := by
  simp only [reconciliationFieldLevel] at success
  split at success
  · cases success
  split at success
  · cases success
  obtain ⟨pairs, _, success⟩ := bind_eq_ok success
  obtain ⟨columns, _, success⟩ := bind_eq_ok success
  cases success
  rw [allVetted_iff, only_query]
  simp [reconciliationQuery, Column.named, Aggregate.phrase, Tally.phrase,
    only_innerJoin sourceFilter targetFilter]

private theorem reconciliationTolerance_vetted
    (success : reconciliationTolerance runtime column parameters = .ok (.compiled compiled)) :
    AllVetted runtime compiled := by
  simp only [reconciliationTolerance] at success
  split at success
  · cases success
  split at success
  · cases success
  split at success
  · cases success
  obtain ⟨pairs, _, success⟩ := bind_eq_ok success
  cases success
  rw [allVetted_iff, only_query]
  simp [reconciliationQuery, Column.named, Aggregate.phrase, Tally.phrase,
    only_innerJoin sourceFilter targetFilter]

private theorem reconciliationMissingExtra_vetted
    (success : reconciliationMissingExtra runtime parameters = .ok (.compiled compiled)) :
    AllVetted runtime compiled := by
  simp only [reconciliationMissingExtra] at success
  split at success
  · cases success
  obtain ⟨pairs, _, success⟩ := bind_eq_ok success
  obtain ⟨⟨firstSource, firstTarget⟩, _, success⟩ := bind_eq_ok success
  obtain rfl := Outcome.eq_of_pure success
  rw [allVetted_iff, only_query]
  refine ⟨?_, only_unmatchedViolation sourceFilter targetFilter (by simp) (by simp) (by simp)⟩
  simp [reconciliationQuery, Column.named, Aggregate.phrase, Tally.phrase, sourceTable, targetTable,
    sourceFilter.dataset, targetFilter.dataset]

end Reconciliation

theorem compileReconciliationRule_vetted
    (success : compileReconciliationRule runtime column parameters = .ok (.compiled compiled)) :
    AllVetted runtime compiled := by
  unfold compileReconciliationRule at success
  obtain ⟨known, _, success⟩ := bind_eq_ok success
  obtain ⟨-, success⟩ := check_passed success
  obtain ⟨-, success⟩ := check_passed success
  obtain ⟨-, success⟩ := check_passed success
  obtain ⟨sourceRejected, sourceChecked, success⟩ := bind_eq_ok success
  obtain ⟨sourcePassed, success⟩ := check_passed success
  obtain ⟨targetRejected, targetChecked, success⟩ := bind_eq_ok success
  obtain ⟨targetPassed, success⟩ := check_passed success
  have source := filterVetted_of_guard sourceChecked sourcePassed
  have target := filterVetted_of_guard targetChecked targetPassed
  obtain ⟨_, _, success⟩ := bind_eq_ok success
  rcases ite_eq_iff.mp success with ⟨-, success⟩ | ⟨-, success⟩
  · exact reconciliationRecordCount_vetted source target success
  rcases ite_eq_iff.mp success with ⟨-, success⟩ | ⟨-, success⟩
  · exact reconciliationOneToOne_vetted source target success
  rcases ite_eq_iff.mp success with ⟨-, success⟩ | ⟨-, success⟩
  · exact reconciliationAggregate_vetted source target success
  rcases ite_eq_iff.mp success with ⟨-, success⟩ | ⟨-, success⟩
  · exact reconciliationFieldLevel_vetted source target success
  rcases ite_eq_iff.mp success with ⟨-, success⟩ | ⟨-, success⟩
  · exact reconciliationTolerance_vetted source target success
  · exact reconciliationMissingExtra_vetted source target success
end Dimensions

end CogniDQ.Rules
