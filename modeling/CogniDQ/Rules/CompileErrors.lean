import CogniDQ.Rules.Compiler

/-!
# How the compilers report errors

Every compiler has one way to report its errors, and what it compiles begins as SQL does, never as
a comment.
-/

set_option autoImplicit false

namespace CogniDQ.Rules

open CogniDQ.Python CogniDQ.Sql

/-- The text begins, and not as a comment does. -/
def Opens (phrase : Phrase) : Prop := ∃ first rest, phrase.chars = first :: rest ∧ first ≠ '-'

theorem Opens.append {phrase : Phrase} (opens : Opens phrase) (others : Phrase) :
    Opens (phrase ++ others) := by
  obtain ⟨first, rest, chars, other⟩ := opens
  exact ⟨first, rest ++ others.chars, by rw [Phrase.chars_append, chars]; rfl, other⟩

theorem opens_text {written : String} {first : Char} {rest : List Char}
    (chars : written.toList = first :: rest) (other : first ≠ '-') :
    Opens (Phrase.ofText written) := ⟨first, rest, by rw [Phrase.chars_ofText, chars], other⟩

section Reports

variable {α β γ : Type}

def Outcome.reports (style : ErrorStyle) (good : α → Prop) : Outcome α → Prop
  | .failed used _ => used = style
  | .compiled result => good result

def Reports (style : ErrorStyle) (good : α → Prop) (outcome : Except Exn (Outcome α)) : Prop :=
  ∀ result, outcome = .ok result → result.reports style good

namespace Reports

variable {style : ErrorStyle} {good : α → Prop}

theorem failed (message : String) : Reports style good (.ok (.failed style message)) := by
  rintro _ ⟨⟩
  exact rfl

theorem compiled {result : α} (holds : good result) : Reports style good (.ok (.compiled result)) := by
  rintro _ ⟨⟩
  exact holds

theorem error (raised : Exn) : Reports style good (.error raised) := nofun

theorem bind {source : Except Exn β} {next : β → Except Exn (Outcome α)}
    (reports : ∀ value, source = .ok value → Reports style good (next value)) :
    Reports style good (source >>= next) := by
  intro result success
  obtain ⟨value, made, success⟩ := bind_eq_ok success
  exact reports value made result success

theorem ite {condition : Prop} [Decidable condition] {yes no : Except Exn (Outcome α)}
    (first : Reports style good yes) (second : Reports style good no) :
    Reports style good (if condition then yes else no) := by
  split
  · exact first
  · exact second

private theorem byCases {condition : Prop} [Decidable condition] {yes no : Except Exn (Outcome α)}
    (first : condition → Reports style good yes) (second : ¬condition → Reports style good no) :
    Reports style good (if condition then yes else no) := by
  split
  · exact first (by assumption)
  · exact second (by assumption)

private theorem map {other : β → Prop} {render : α → β} {outcome : Except Exn (Outcome α)}
    (reports : Reports style good outcome) (keeps : ∀ result, good result → other (render result)) :
    Reports style other (outcome.map (Outcome.map render)) := by
  intro result success
  cases outcome with
  | error raised => cases success
  | ok source =>
    cases success
    have sourceReports := reports source rfl
    cases source with
    | failed used message => exact sourceReports
    | compiled made => exact keeps made sourceReports

end Reports

end Reports

/-- The query begins as SQL does. -/
def Compiled.opens (compiled : Compiled) : Prop := Opens compiled.query.opening

variable {runtime : Runtime} {table : Phrase} {column : String} {parameters : Dict}

section Consistency

private theorem consistencyIntraRecord_reports :
    Reports .commented Compiled.opens (consistencyIntraRecord runtime table column parameters) := by
  unfold consistencyIntraRecord
  split
  · exact .failed _
  · exact .bind fun nulls _ => .compiled (opens_text rfl (by decide))

private theorem consistencyFormula_reports :
    Reports .commented Compiled.opens (consistencyFormula runtime table parameters) := by
  unfold consistencyFormula
  exact .ite (.failed _) (.ite (.failed _) (.ite (.error _) (.compiled (opens_text rfl (by decide)))))

private theorem consistencyTemporal_reports :
    Reports .commented Compiled.opens (consistencyTemporal runtime table column parameters) :=
  .ite (.failed _) (.compiled (opens_text rfl (by decide)))

private theorem consistencyInterRecord_reports :
    Reports .commented Compiled.opens (consistencyInterRecord runtime table parameters) := by
  unfold consistencyInterRecord
  refine .ite (.failed _) (.ite (.failed _) (.bind fun first _ => .bind fun groups _ =>
    .compiled ?_))
  repeat apply Opens.append
  exact opens_text rfl (by decide)

private theorem consistencyCrossTable_reports :
    Reports .commented Compiled.opens (consistencyCrossTable runtime table parameters) := by
  unfold consistencyCrossTable
  exact .ite (.failed _) (.ite (.failed _) (.ite (.failed _) (.bind fun keys _ =>
    .bind fun columns _ => .compiled (opens_text rfl (by decide)))))

private theorem consistencyAggregation_reports :
    Reports .commented Compiled.opens (consistencyAggregation runtime table column parameters) := by
  unfold consistencyAggregation
  refine .ite (.failed _) (.ite (.failed _) (.bind fun function _ => .ite (.failed _)
    (.ite (.failed _) (.bind fun groups _ => .compiled ?_))))
  repeat apply Opens.append
  exact opens_text rfl (by decide)

private theorem compileConsistencyRule_reports :
    Reports .commented Compiled.opens (compileConsistencyRule runtime table column parameters) := by
  unfold compileConsistencyRule
  exact .bind fun known _ => .ite (.failed _) (.bind fun filter _ => .ite (.failed _)
    (.bind fun expression _ => .ite (.failed _) (.ite consistencyIntraRecord_reports
      (.ite consistencyFormula_reports (.ite consistencyTemporal_reports
        (.ite consistencyInterRecord_reports (.ite consistencyCrossTable_reports
          consistencyAggregation_reports)))))))

end Consistency

section Completeness

/-- The check's SELECT begins as SQL does. -/
def CompletenessCheck.opens (check : CompletenessCheck) : Prop := Opens (Phrase.ofText check.select)

theorem opens_select : Opens (Phrase.ofText "\n        SELECT") := opens_text rfl (by decide)

theorem opens_selecting : Opens (Phrase.ofText "\n        SELECT ") := opens_text rfl (by decide)

private theorem completenessNull_reports :
    Reports .flagged CompletenessCheck.opens (completenessNull runtime table column parameters) := by
  unfold completenessNull
  exact .bind fun columns _ => .ite (.compiled opens_select) (.ite (.compiled opens_select)
    (.ite (.compiled opens_selecting) (.compiled opens_selecting)))

private theorem completenessPlaceholder_reports :
    Reports .flagged CompletenessCheck.opens
      (completenessPlaceholder runtime table column parameters) := by
  unfold completenessPlaceholder
  exact .ite (.bind fun elements _ => .bind fun values _ => .compiled opens_select)
    (.compiled opens_select)

private theorem completenessConditional_reports :
    Reports .flagged CompletenessCheck.opens
      (completenessConditional runtime table column parameters) :=
  .ite (.failed _) (.ite (.failed _) (.compiled opens_select))

private theorem completenessMultiField_reports :
    Reports .flagged CompletenessCheck.opens (completenessMultiField runtime table parameters) := by
  unfold completenessMultiField
  exact .bind fun columns _ => .ite (.failed _) (.compiled opens_select)

private theorem completenessGroup_reports :
    Reports .flagged CompletenessCheck.opens (completenessGroup runtime table column parameters) := by
  unfold completenessGroup
  exact .ite (.failed _) (.bind fun groups _ => .compiled opens_select)

private theorem completenessCheck_reports :
    Reports .flagged CompletenessCheck.opens (completenessCheck runtime table column parameters) := by
  unfold completenessCheck
  exact .bind fun known _ => .ite (.failed _) (.bind fun rejected _ => .ite (.failed _)
    (.ite completenessNull_reports (.ite (.compiled opens_select)
      (.ite completenessPlaceholder_reports (.ite completenessConditional_reports
        (.ite completenessMultiField_reports (.ite completenessNull_reports
          (.ite completenessGroup_reports (.failed _)))))))))

private theorem compileCompletenessRule_reports :
    Reports .flagged Compiled.opens (compileCompletenessRule runtime table column parameters) :=
  completenessCheck_reports.map fun _ opens => (opens.append _).append _

end Completeness

section Validity

theorem validityCompiled_reports {source : ValiditySource} {test : ValidityTest}
    {forMysql : String → String} (opens : Opens source.before) :
    Reports .flagged Compiled.opens
      (.ok (validityCompiled runtime parameters source test forMysql)) :=
  .compiled (opens.append _)

theorem tableSource_opens : Opens (tableSource table).before := opens_text rfl (by decide)

private theorem validityAllowedValues_reports :
    Reports .flagged Compiled.opens (validityAllowedValues runtime table column parameters) := by
  unfold validityAllowedValues
  refine .ite (.failed _) (.bind fun values _ => .ite (validityCompiled_reports ?_)
    (validityCompiled_reports tableSource_opens))
  exact ((opens_text rfl (by decide)).append _).append _

private theorem validityReferenceLookup_reports :
    Reports .flagged Compiled.opens (validityReferenceLookup runtime table column parameters) := by
  unfold validityReferenceLookup
  exact .ite (.failed _) (.bind fun dataset _ => .ite (.failed _) (.bind fun column _ =>
    .ite (.failed _) (validityCompiled_reports (opens_text rfl (by decide)))))

private theorem validityBusinessRule_reports :
    Reports .flagged Compiled.opens (validityBusinessRule runtime table column parameters) := by
  unfold validityBusinessRule
  exact .ite (.failed _) (.bind fun valid _ => .ite (.failed _)
    (validityCompiled_reports tableSource_opens))

private theorem validityNegative_reports :
    Reports .flagged Compiled.opens (validityNegative runtime table column parameters) := by
  unfold validityNegative
  exact .ite (.failed _) (.bind fun valid _ => .ite (.failed _)
    (validityCompiled_reports tableSource_opens))

private theorem validityComparison_reports {requires default : String} {cast : Phrase → Phrase} :
    Reports .flagged Compiled.opens
      (validityComparison runtime table column parameters requires default cast) :=
  .ite (.failed _) (.ite (.failed _) (validityCompiled_reports tableSource_opens))

private theorem compileValidityRule_reports :
    Reports .flagged Compiled.opens (compileValidityRule runtime table column parameters) := by
  unfold compileValidityRule
  exact .bind fun known _ => .ite (.failed _) (.bind fun rejected _ => .ite (.failed _)
    (.ite validityAllowedValues_reports
      (.ite (.ite (.failed _) (validityCompiled_reports tableSource_opens))
        (.ite (validityCompiled_reports tableSource_opens) (.ite validityReferenceLookup_reports
          (.ite validityBusinessRule_reports (.ite validityComparison_reports
            (.ite validityComparison_reports validityNegative_reports))))))))

end Validity

section Uniqueness

theorem duplicatesCompiled_reports {cte : String} {selected grouped matched wherePhrase : Phrase} :
    Reports .flagged Compiled.opens
      (.ok (duplicatesCompiled table cte selected grouped matched wherePhrase)) := by
  refine .compiled ?_
  repeat apply Opens.append
  exact opens_text rfl (by decide)

theorem uniquenessExact_reports :
    Reports .flagged Compiled.opens (uniquenessExact runtime table column parameters) := by
  unfold uniquenessExact
  exact .bind fun chosen _ => duplicatesCompiled_reports

private theorem uniquenessComposite_reports :
    Reports .flagged Compiled.opens (uniquenessComposite runtime table column parameters) := by
  unfold uniquenessComposite
  exact .bind fun columns _ => .ite uniquenessExact_reports duplicatesCompiled_reports

private theorem uniquenessScoped_reports :
    Reports .flagged Compiled.opens (uniquenessScoped runtime table column parameters) := by
  unfold uniquenessScoped
  exact .ite (.failed _) (.bind fun columns _ => .bind fun scopes _ => duplicatesCompiled_reports)

private theorem uniquenessCrossDataset_reports :
    Reports .flagged Compiled.opens (uniquenessCrossDataset runtime table column parameters) := by
  unfold uniquenessCrossDataset
  refine .ite (.failed _) (.ite (.failed _) (.bind fun chosen _ => .compiled ?_))
  repeat apply Opens.append
  exact opens_text rfl (by decide)

private theorem uniquenessFuzzy_reports :
    Reports .flagged Compiled.opens (uniquenessFuzzy runtime table column parameters) := by
  unfold uniquenessFuzzy
  refine .bind fun chosen _ => .compiled ?_
  repeat apply Opens.append
  exact opens_text rfl (by decide)

private theorem uniquenessTemporal_reports :
    Reports .flagged Compiled.opens (uniquenessTemporal runtime table column parameters) := by
  unfold uniquenessTemporal
  refine .ite (.failed _) (.ite (.failed _) (.bind fun window _ => .ite (.failed _)
    (.bind fun columns _ => .compiled ?_)))
  repeat apply Opens.append
  exact opens_text rfl (by decide)

private theorem compileUniquenessRule_reports :
    Reports .flagged Compiled.opens (compileUniquenessRule runtime table column parameters) := by
  unfold compileUniquenessRule
  exact .bind fun inferred _ => .bind fun known _ => .ite (.failed _) (.bind fun rejected _ =>
    .ite (.failed _) (.ite uniquenessExact_reports (.ite uniquenessComposite_reports
      (.ite uniquenessScoped_reports (.ite uniquenessCrossDataset_reports
        (.ite uniquenessFuzzy_reports uniquenessTemporal_reports))))))

end Uniqueness

section Conformity

variable {chosen : Value}

theorem conformityCompiled_reports {conforming nonConforming violating : Phrase} :
    Reports .commentedWithoutViolation Compiled.opens
      (.ok (conformityCompiled runtime table chosen parameters conforming nonConforming violating)) :=
  .compiled (opens_text rfl (by decide))

theorem conformityTest_reports {holds fails : Phrase} :
    Reports .commentedWithoutViolation Compiled.opens
      (.ok (conformityTest runtime table chosen parameters holds fails)) := by
  unfold conformityTest
  split
  · exact conformityCompiled_reports
  · exact conformityCompiled_reports

theorem conformityRegex_reports :
    Reports .commentedWithoutViolation Compiled.opens
      (conformityRegex runtime table chosen parameters) :=
  .ite (.failed _) conformityTest_reports

private theorem conformityStandard_reports :
    Reports .commentedWithoutViolation Compiled.opens
      (conformityStandard runtime table chosen parameters) := by
  unfold conformityStandard
  refine .ite (.failed _) (.bind fun pattern _ => ?_)
  split
  · exact .failed _
  · exact conformityRegex_reports

private theorem conformityLength_reports :
    Reports .commentedWithoutViolation Compiled.opens
      (conformityLength runtime table chosen parameters) := by
  unfold conformityLength
  exact .ite (.failed _) (.bind fun lower _ => .bind fun upper _ => conformityTest_reports)

private theorem conformityCase_reports :
    Reports .commentedWithoutViolation Compiled.opens
      (conformityCase runtime table chosen parameters) := by
  unfold conformityCase
  refine .ite (.failed _) (.bind fun sqlFunc _ => ?_)
  split
  · exact .failed _
  · exact conformityTest_reports

private theorem conformityStructural_reports :
    Reports .commentedWithoutViolation Compiled.opens
      (conformityStructural runtime table chosen parameters) := by
  unfold conformityStructural
  refine .ite (.failed _) (.ite (.error _) ?_)
  split
  · exact .ite conformityCompiled_reports conformityCompiled_reports
  · exact .failed _

private theorem compileConformityRule_reports :
    Reports .commentedWithoutViolation Compiled.opens
      (compileConformityRule runtime table column parameters) := by
  unfold compileConformityRule
  exact .bind fun known _ => .ite (.failed _) (.bind fun rejected _ => .ite (.failed _)
    (.bind fun chosen _ => .ite conformityRegex_reports (.ite conformityStandard_reports
      (.ite conformityLength_reports (.ite (.ite (.failed _) conformityTest_reports)
        (.ite conformityCase_reports conformityStructural_reports))))))

end Conformity

section Timeliness

theorem timelinessCompiled_reports {columns : List (Column Phrase)} {wherePhrase violation : Phrase} :
    Reports .commented Compiled.opens
      (.ok (timelinessCompiled runtime table columns wherePhrase violation)) :=
  .compiled (opens_text rfl (by decide))

theorem timelinessPerRow_reports {columns : List Phrase} {measured : Phrase} {label : String}
    {seconds : Int} :
    Reports .commented Compiled.opens
      (.ok (timelinessPerRow runtime table parameters columns measured label seconds)) :=
  timelinessCompiled_reports

private theorem timelinessFreshness_reports :
    Reports .commented Compiled.opens (timelinessFreshness runtime table column parameters) := by
  unfold timelinessFreshness
  refine .ite (.failed _) (.bind fun duration _ => ?_)
  split
  · exact .failed _
  · exact timelinessCompiled_reports

private theorem timelinessRecordAge_reports :
    Reports .commented Compiled.opens (timelinessRecordAge runtime table column parameters) := by
  unfold timelinessRecordAge
  refine .ite (.failed _) (.bind fun duration _ => ?_)
  split
  · exact .failed _
  · exact timelinessPerRow_reports

private theorem timelinessDelayCommon_reports {delayType : String} :
    Reports .commented Compiled.opens
      (timelinessDelayCommon runtime table column parameters delayType) := by
  unfold timelinessDelayCommon
  refine .ite (.failed _) (.ite (.failed _) (.bind fun duration _ => ?_))
  split
  · exact .failed _
  · exact timelinessPerRow_reports

private theorem timelinessDeliveryWindow_reports :
    Reports .commented Compiled.opens (timelinessDeliveryWindow runtime table column parameters) := by
  unfold timelinessDeliveryWindow
  refine .ite (.failed _) ?_
  split
  · exact .failed _
  · exact .failed _
  · exact timelinessCompiled_reports

private theorem timelinessHeartbeat_reports :
    Reports .commented Compiled.opens (timelinessHeartbeat runtime table column parameters) := by
  unfold timelinessHeartbeat
  refine .ite (.failed _) (.bind fun duration _ => ?_)
  split
  · exact .failed _
  · exact timelinessCompiled_reports

private theorem compileTimelinessRule_reports :
    Reports .commented Compiled.opens (compileTimelinessRule runtime table column parameters) := by
  unfold compileTimelinessRule
  exact .bind fun known _ => .ite (.failed _) (.bind fun rejected _ => .ite (.failed _)
    (.ite timelinessFreshness_reports (.ite timelinessRecordAge_reports
      (.ite timelinessDelayCommon_reports (.ite timelinessDelayCommon_reports
        (.ite timelinessDeliveryWindow_reports timelinessHeartbeat_reports))))))

end Timeliness

section Accuracy

private theorem accuracyReference_reports :
    Reports .commented Compiled.opens (accuracyReference runtime table column parameters) := by
  unfold accuracyReference
  exact .ite (.failed _) (.ite (.failed _) (.ite (.failed _) (.bind fun known _ =>
    .ite (.failed _) (.bind fun keys _ => .compiled (opens_text rfl (by decide))))))

private theorem accuracyStatistical_reports :
    Reports .commented Compiled.opens (accuracyStatistical runtime table column parameters) := by
  unfold accuracyStatistical
  refine .ite (.failed _) (.bind fun known _ => .ite (.failed _) (.compiled ?_))
  repeat apply Opens.append
  exact opens_text rfl (by decide)

private theorem accuracyDerivedValue_reports :
    Reports .commented Compiled.opens (accuracyDerivedValue runtime table column parameters) := by
  unfold accuracyDerivedValue
  exact .ite (.failed _) (.bind fun valid _ => .ite (.failed _) (.bind fun known _ =>
    .ite (.failed _) (.compiled (opens_text rfl (by decide)))))

private theorem compileAccuracyRule_reports :
    Reports .commented Compiled.opens (compileAccuracyRule runtime table column parameters) := by
  unfold compileAccuracyRule
  exact .bind fun known _ => .ite (.failed _) (.bind fun rejected _ => .ite (.failed _)
    (.ite accuracyStatistical_reports (.ite accuracyDerivedValue_reports accuracyReference_reports)))

end Accuracy

section Reconciliation

private theorem reconciliationOneToOne_reports :
    Reports .commented Compiled.opens (reconciliationOneToOne runtime parameters) := by
  unfold reconciliationOneToOne
  exact .ite (.failed _) (.bind fun pairs _ => .bind fun first _ =>
    .compiled (opens_text rfl (by decide)))

private theorem reconciliationAggregate_reports :
    Reports .commented Compiled.opens (reconciliationAggregate runtime parameters) := by
  unfold reconciliationAggregate
  exact .ite (.failed _) (.bind fun function _ => .ite (.failed _) (.ite
    (.bind fun groups _ => .compiled (((opens_text rfl (by decide)).append _).append _))
    (.compiled (opens_text rfl (by decide)))))

private theorem reconciliationFieldLevel_reports :
    Reports .commented Compiled.opens (reconciliationFieldLevel runtime parameters) := by
  unfold reconciliationFieldLevel
  exact .ite (.failed _) (.ite (.failed _) (.bind fun pairs _ => .bind fun columns _ =>
    .compiled (opens_text rfl (by decide))))

private theorem reconciliationTolerance_reports :
    Reports .commented Compiled.opens (reconciliationTolerance runtime column parameters) := by
  unfold reconciliationTolerance
  exact .ite (.failed _) (.ite (.failed _) (.ite (.failed _) (.bind fun pairs _ =>
    .compiled (opens_text rfl (by decide)))))

private theorem reconciliationMissingExtra_reports :
    Reports .commented Compiled.opens (reconciliationMissingExtra runtime parameters) := by
  unfold reconciliationMissingExtra
  exact .ite (.failed _) (.bind fun pairs _ => .bind fun first _ =>
    .compiled (opens_text rfl (by decide)))

private theorem compileReconciliationRule_reports :
    Reports .commented Compiled.opens (compileReconciliationRule runtime column parameters) := by
  unfold compileReconciliationRule
  exact .bind fun known _ => .ite (.failed _) (.ite (.failed _) (.ite (.failed _)
    (.bind fun source _ => .ite (.failed _) (.bind fun target _ => .ite (.failed _)
      (.bind fun inspected _ => .ite (.compiled (opens_text rfl (by decide)))
        (.ite reconciliationOneToOne_reports (.ite reconciliationAggregate_reports
          (.ite reconciliationFieldLevel_reports (.ite reconciliationTolerance_reports
            reconciliationMissingExtra_reports)))))))))

end Reconciliation

def flaggedDimensions : List String := ["completeness", "validity", "uniqueness"]

/-- The style in which a compiler of a dimension reports its errors. -/
def errorStyle (dimension : Value) : ErrorStyle :=
  if flaggedDimensions.any dimension.is then .flagged
  else if dimension.is "conformity" then .commentedWithoutViolation
  else .commented

theorem compileRule_reports (rule : CanonicalRule) (targetSchema targetTable : String)
    (targetColumns : List String) :
    Reports (errorStyle rule.dimension) Compiled.opens
      (compileRule runtime rule targetSchema targetTable targetColumns) := by
  have styled {dimension : String} (chosen : rule.dimension.is dimension = true) :
      errorStyle rule.dimension = errorStyle (.str dimension) := by
    rw [Value.is_iff.mp chosen]
  unfold compileRule
  refine .byCases (fun completeness => styled completeness ▸ compileCompletenessRule_reports) fun _ => ?_
  refine .byCases (fun validity => styled validity ▸ compileValidityRule_reports) fun _ => ?_
  refine .byCases (fun uniqueness => styled uniqueness ▸ compileUniquenessRule_reports) fun _ => ?_
  refine .byCases (fun conformity => styled conformity ▸ compileConformityRule_reports) fun _ => ?_
  refine .byCases (fun consistency => styled consistency ▸ compileConsistencyRule_reports) fun _ => ?_
  refine .byCases (fun timeliness => styled timeliness ▸ compileTimelinessRule_reports) fun _ => ?_
  refine .byCases (fun accuracy => styled accuracy ▸ compileAccuracyRule_reports) fun _ => ?_
  refine .byCases (fun reconciliation => styled reconciliation ▸ compileReconciliationRule_reports) fun _ => ?_
  refine .ite (.compiled ?_) (.compiled (opens_text rfl (by decide)))
  repeat apply Opens.append
  exact opens_text rfl (by decide)

end CogniDQ.Rules
