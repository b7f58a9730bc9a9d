import CogniDQ.Rules.Consistency

/-!
# Accuracy rules

A column is held against a reference table, its own statistics or a formula.
-/

set_option autoImplicit false

namespace CogniDQ.Rules

open CogniDQ.Python CogniDQ.Sql

/-- `_accuracy_tolerance_sql`: an unknown type is an exact match. -/
def accuracyToleranceSql (runtime : Runtime) (actual expected : Phrase)
    (toleranceType toleranceValue : Value) : Phrase × Phrase :=
  if toleranceType.is "percentage" then
    withinTolerance (relativeDeviation actual expected) (formattedOr runtime toleranceValue "1.0")
  else if toleranceType.is "absolute" then
    withinTolerance (deviation actual expected) (formattedOr runtime toleranceValue "0.01")
  else exactMatch actual expected

def validAccuracyTypes : List String :=
  ["reference_comparison", "trusted_source", "tolerated_deviation", "statistical", "derived_value"]

def validToleranceTypes : List String := ["none", "absolute", "percentage"]

def validStatisticalMethods : List String := ["zscore", "iqr"]

def inferAccuracyType (parameters : Dict) : String :=
  if (parameters.get "statistical_method").truthy then "statistical"
  else if (parameters.get "formula").truthy then "derived_value"
  else if !(parameters.get "tolerance_value").isNone && (parameters.get "reference_dataset").truthy then
    "tolerated_deviation"
  else "reference_comparison"

def accuracyErrorResult {α : Type} (message : String) : Outcome α := .failed .commented message

section Accuracy

variable (runtime : Runtime) (table : Phrase) (column : String) (parameters : Dict)

def accuracyType : Value := (parameters.get "accuracy_type").or (.str (inferAccuracyType parameters))

def accuracyNullHandling : Value := parameters.getD "null_handling" (.str "fail")

/-- The filter, and the NULL test of the column where rows with a NULL are skipped. -/
def accuracyWhere (operand : Phrase) : Phrase :=
  whereAll (filterPart runtime (parameters.get "filter_expression") ++
    if (accuracyNullHandling parameters).is "skip" then [operand ++ " IS NOT NULL"] else [])

def accuracyColumns (verified unverifiable : Tally Phrase) (accurate inaccurate : Phrase) :
    List (Column Phrase) :=
  [.named " AS " "total_rows" (.tally (.count "*")),
    .named " AS " "verified_rows" (.tally verified),
    .named " AS " "unverifiable_rows" (.tally unverifiable),
    .named " AS " "accurate_rows" (.tally (.count accurate)),
    .named " AS " "inaccurate_rows" (.tally (.count inaccurate))]

def strippedAccuracyFrom (source wherePhrase : Phrase) : Phrase :=
  Phrase.stripEnd runtime.isSpace (" FROM " ++ source ++ " " ++ wherePhrase)

def accuracyConditions (operand matchCond mismatchCond : Phrase) : Phrase × Phrase :=
  if (accuracyNullHandling parameters).is "pass" then
    ("(" ++ operand ++ " IS NULL OR (" ++ matchCond ++ "))",
      "(" ++ operand ++ " IS NOT NULL AND " ++ mismatchCond ++ ")")
  else (matchCond, mismatchCond)

def accuracyReference : Except Exn (Outcome Compiled) := do
  let refDataset := parameters.get "reference_dataset"
  let joinKeys := parameters.get "join_keys"
  let toleranceType := parameters.getD "tolerance_type" (.str "none")
  let toleranceValue := parameters.get "tolerance_value"
  let filter := parameters.get "filter_expression"
  if !refDataset.truthy then
    pure (accuracyErrorResult "reference_dataset is required for reference-based accuracy checks")
  else if !joinKeys.truthy then
    pure (accuracyErrorResult "join_keys is required for reference-based accuracy checks")
  else if (accuracyType parameters).is "tolerated_deviation" &&
      (toleranceType.is "none" || toleranceValue.isNone) then
    pure (accuracyErrorResult "tolerated_deviation requires tolerance_type and tolerance_value")
  else if !(← toleranceType.memberOf validToleranceTypes) then
    pure (accuracyErrorResult ("Invalid tolerance_type: " ++ runtime.str toleranceType))
  else
    let actual : Phrase := "a." ++ name column
    let expected : Phrase := "b." ++ name (runtime.str (parameters.getD "reference_column" (.str column)))
    let joinCond := equalColumns "a" "b" (namesOf runtime (← joinKeys.elements))
    let (matchCond, mismatchCond) :=
      accuracyToleranceSql runtime actual expected toleranceType toleranceValue
    let (passing, failing) := accuracyConditions parameters actual matchCond mismatchCond
    let joined : Phrase := table ++ " a LEFT JOIN " ++ raw (runtime.str refDataset) ++ " b ON " ++ joinCond
    let found : Phrase := expected ++ " IS NOT NULL AND "
    pure (.compiled {
      query := {
        opening := "SELECT "
        columns := accuracyColumns (.count expected) (.minus (.count "*") (.count expected))
          (caseWhen (found ++ passing)) (caseWhen (found ++ failing))
        separator := ", "
        closing := strippedAccuracyFrom runtime joined (accuracyWhere runtime parameters actual) }
      mysql := none
      violation := "SELECT a.* FROM " ++ joined ++ " WHERE " ++ found ++ failing ++
        andFilter runtime filter })

/-- The statistics of the column that its values are held against, the operand, and
the conditions within and out of bounds, by method. -/
def statisticalBounds (method : Value) : Phrase × Phrase × Phrase :=
  let chosen := name column
  let operand : Phrase := "t." ++ chosen
  let threshold (default : String) : Phrase :=
    if parameters.has "statistical_threshold" then
      raw (runtime.str (parameters.get "statistical_threshold"))
    else raw (formattedOr runtime (parameters.get "outlier_threshold") default)
  if method.is "zscore" then
    let score : Phrase := "ABS(" ++ operand ++ " - s.mu) / NULLIF(s.sigma, 0)"
    ("AVG(" ++ chosen ++ ") AS mu, STDDEV(" ++ chosen ++ ") AS sigma",
      score ++ " <= " ++ threshold "3.0", score ++ " > " ++ threshold "3.0")
  else
    let lower : Phrase := "s.q1 - " ++ threshold "1.5" ++ " * (s.q3 - s.q1)"
    let upper : Phrase := "s.q3 + " ++ threshold "1.5" ++ " * (s.q3 - s.q1)"
    ("percentile_cont(0.25) WITHIN GROUP (ORDER BY " ++ chosen ++
        ") AS q1, percentile_cont(0.75) WITHIN GROUP (ORDER BY " ++ chosen ++ ") AS q3",
      operand ++ " >= " ++ lower ++ " AND " ++ operand ++ " <= " ++ upper,
      operand ++ " < " ++ lower ++ " OR " ++ operand ++ " > " ++ upper)

def accuracyStatistical : Except Exn (Outcome Compiled) := do
  let method := ((parameters.get "statistical_method").or (parameters.get "method")).or (.str "zscore")
  let filter := parameters.get "filter_expression"
  if column = "" || column = "*" then
    pure (accuracyErrorResult "statistical accuracy check requires a target column to be selected")
  else if !(← method.memberOf validStatisticalMethods) then
    pure (accuracyErrorResult ("Invalid statistical_method: " ++ runtime.str method))
  else
    let operand : Phrase := "t." ++ name column
    let (statistics, within, beyond) := statisticalBounds runtime column parameters method
    let wherePhrase := accuracyWhere runtime parameters (name column)
    let (passing, failing) : Phrase × Phrase :=
      if (accuracyNullHandling parameters).is "pass" then
        if method.is "zscore" then
          (operand ++ " IS NULL OR " ++ within, operand ++ " IS NOT NULL AND " ++ beyond)
        else
          (operand ++ " IS NULL OR (" ++ within ++ ")", operand ++ " IS NOT NULL AND (" ++ beyond ++ ")")
      else (within, beyond)
    let withStats : Phrase := "WITH stats AS (SELECT " ++ statistics ++ " FROM " ++ table ++ " " ++
      wherePhrase ++ ") SELECT "
    pure (.compiled {
      query := {
        opening := withStats
        columns := accuracyColumns (.count "*") (.constant 0) (caseWhen passing) (caseWhen failing)
        separator := ", "
        closing := strippedAccuracyFrom runtime (table ++ " t CROSS JOIN stats s") wherePhrase }
      mysql := none
      violation := withStats ++ "t.* FROM " ++ table ++ " t CROSS JOIN stats s WHERE " ++ beyond ++
        andFilter runtime filter })

def accuracyDerivedValue : Except Exn (Outcome Compiled) := do
  let formula := parameters.get "formula"
  let toleranceType := parameters.getD "tolerance_type" (.str "none")
  if !formula.truthy then
    pure (accuracyErrorResult "formula is required for derived_value accuracy checks")
  else if !(← validateFilterValue runtime formula) then
    pure (accuracyErrorResult ("Dangerous formula rejected: " ++ runtime.str formula))
  else if !(← toleranceType.memberOf validToleranceTypes) then
    pure (accuracyErrorResult ("Invalid tolerance_type: " ++ runtime.str toleranceType))
  else
    let (matchCond, mismatchCond) := accuracyToleranceSql runtime (name column)
      ("(" ++ spliced runtime formula ++ ")") toleranceType (parameters.get "tolerance_value")
    let (passing, failing) := accuracyConditions parameters (name column) matchCond mismatchCond
    pure (.compiled {
      query := {
        opening := "SELECT "
        columns := accuracyColumns (.count "*") (.constant 0) (caseWhen passing) (caseWhen failing)
        separator := ", "
        closing := strippedAccuracyFrom runtime table (accuracyWhere runtime parameters (name column)) }
      mysql := none
      violation := "SELECT * FROM " ++ table ++ " WHERE " ++ failing ++
        andFilter runtime (parameters.get "filter_expression") })

def compileAccuracyRule : Except Exn (Outcome Compiled) := do
  let chosen := accuracyType parameters
  let filter := parameters.get "filter_expression"
  if !(← chosen.memberOf validAccuracyTypes) then
    pure (accuracyErrorResult ("Unknown accuracy type: " ++ runtime.str chosen))
  else if ← rejects runtime filter then
    pure (accuracyErrorResult ("Dangerous filter expression rejected: " ++ runtime.str filter))
  else if chosen.is "statistical" then accuracyStatistical runtime table column parameters
  else if chosen.is "derived_value" then accuracyDerivedValue runtime table column parameters
  else accuracyReference runtime table column parameters

end Accuracy

end CogniDQ.Rules
