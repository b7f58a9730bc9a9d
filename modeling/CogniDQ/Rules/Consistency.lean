import CogniDQ.Rules.Outcome

/-!
# Consistency rules

The consistency types. A rule expression is written by the user, or made from a
reference column and an operator; a formula is compared with an expected column.
-/

set_option autoImplicit false

namespace CogniDQ.Rules

open CogniDQ.Python CogniDQ.Sql

def validConsistencyTypes : List String :=
  ["intra_record", "formula", "temporal", "inter_record", "cross_table", "aggregation"]

def validAggregationFunctions : List String := ["SUM", "COUNT", "AVG", "MIN", "MAX"]

def inferConsistencyType (parameters : Dict) : String :=
  if (parameters.get "aggregation_function").truthy then "aggregation"
  else if (parameters.get "comparison_dataset").truthy && (parameters.get "join_keys").truthy then
    "cross_table"
  else if (parameters.get "group_by_columns").truthy && (parameters.get "comparison_columns").truthy then
    "inter_record"
  else if (parameters.get "comparison_column").truthy then "temporal"
  else if (parameters.get "expected_column").truthy then "formula"
  else "intra_record"

def consistencyErrorResult {α : Type} (message : String) : Outcome α := .failed .commented message

def deviation (actual expected : Phrase) : Phrase :=
  "ABS((" ++ actual ++ ") - (" ++ expected ++ "))"

def relativeDeviation (actual expected : Phrase) : Phrase :=
  deviation actual expected ++ " / NULLIF(ABS((" ++ expected ++ ")), 0) * 100"

def withinTolerance (measured : Phrase) (tolerance : String) : Phrase × Phrase :=
  (measured ++ " <= " ++ raw tolerance, measured ++ " > " ++ raw tolerance)

def exactMatch (actual expected : Phrase) : Phrase × Phrase :=
  ("(" ++ actual ++ ") = (" ++ expected ++ ")", "(" ++ actual ++ ") != (" ++ expected ++ ")")

def consistencyToleranceSql (runtime : Runtime) (actual expected : Phrase)
    (toleranceType toleranceValue : Value) : Phrase × Phrase :=
  if toleranceType.is "none" then exactMatch actual expected
  else if toleranceType.is "percentage" then
    withinTolerance (relativeDeviation actual expected) (formattedOr runtime toleranceValue "1.0")
  else withinTolerance (deviation actual expected) (formattedOr runtime toleranceValue "0.01")

/-- The columns of every consistency query, over the arguments of its counts. -/
def consistencyColumns (consistent inconsistent : Phrase) : List (Column Phrase) :=
  [.named " as " "total_rows" (.tally (.count "*")),
    .named " as " "consistent_rows" (.tally (.count consistent)),
    .named " as " "inconsistent_rows" (.tally (.count inconsistent))]

/-- `violation_sql += f" AND ({filter_expr})"`. -/
def andFilter (runtime : Runtime) (filter : Value) : Phrase :=
  if filter.truthy then " AND (" ++ spliced runtime filter ++ ")" else Phrase.empty

section Helpers

variable (runtime : Runtime) (table : Phrase) (column : String) (parameters : Dict)

/-- `rule_expression`, or the comparison of the column with a reference column. -/
def intraRecordExpression : Option Phrase :=
  let ruleExpr := parameters.get "rule_expression"
  let refColumn := parameters.get "reference_column"
  if ruleExpr.truthy then some (spliced runtime ruleExpr)
  else if refColumn.truthy then
    some (name column ++ " " ++ spliced runtime (parameters.getD "operator" (.str "=")) ++ " " ++
      name (runtime.str refColumn))
  else none

/-- The NULL test over the columns, where rows with a NULL are skipped. -/
def skippedNulls : Except Exn (List Phrase) :=
  if (parameters.getD "null_handling" (.str "fail")).is "skip" then
    ((parameters.getD "columns" (.list [.str column])).elements).map fun columns =>
      if columns.isEmpty then []
      else [Phrase.join " AND " (columns.map fun chosen => name (runtime.str chosen) ++ " IS NOT NULL")]
  else .ok []

def consistencyIntraRecord : Except Exn (Outcome Compiled) := do
  match intraRecordExpression runtime column parameters with
  | none => pure (consistencyErrorResult "intra_record requires rule_expression")
  | some ruleExpr =>
      let filter := parameters.get "filter_expression"
      let nulls ← skippedNulls runtime column parameters
      let wherePhrase := whereAll (nulls ++ filterPart runtime filter)
      let check : Phrase :=
        if (parameters.getD "null_handling" (.str "fail")).is "pass" then
          "COALESCE((" ++ ruleExpr ++ "), TRUE)"
        else ruleExpr
      pure (.compiled {
        query := {
          opening := "SELECT "
          columns := consistencyColumns (caseWhen ("(" ++ check ++ ")")) (caseWhen ("NOT (" ++ check ++ ")"))
          separator := ", "
          closing := " FROM " ++ table ++ " " ++ wherePhrase }
        mysql := none
        violation := "SELECT * FROM " ++ table ++ " WHERE NOT (" ++ ruleExpr ++ ")" ++
          andFilter runtime filter })

/-- What may remain after `\s*`, the greedy match first. -/
def afterSpaces : List Char → List (List Char)
  | [] => [[]]
  | c :: rest =>
      if runtime.isSpace c then afterSpaces rest ++ [c :: rest] else [c :: rest]

/-- What may remain after `"?`. -/
def afterOptionalQuote : List Char → List (List Char)
  | '"' :: rest => [rest, '"' :: rest]
  | text => [text]

/-- `_re_lhs.sub("", text)`: the text without a leading `expected =`. -/
def withoutTarget (expected text : List Char) : List Char :=
  let ends :=
    ((afterSpaces runtime text).flatMap afterOptionalQuote).flatMap fun rest =>
      (afterSpaces runtime rest).flatMap fun rest =>
        if expected.isPrefixOf rest then
          ((afterSpaces runtime (rest.drop expected.length)).flatMap afterOptionalQuote).flatMap
            fun rest => (afterSpaces runtime rest).flatMap fun rest =>
              match rest with
              | '=' :: after =>
                  if after.head? = some '=' then [] else [after.dropWhile runtime.isSpace]
              | _ => []
        else []
  ends.headD text

def formulaExpression : Value := (parameters.get "rule_expression").or (parameters.get "formula")

def formulaSide (expected : String) (expression : Value) : Phrase :=
  let text := runtime.str expression
  let side := String.ofList (runtime.strip (withoutTarget runtime expected.toList text.toList))
  "(" ++ ⟨[.fragment text side]⟩ ++ ")"

def consistencyFormula : Except Exn (Outcome Compiled) := do
  let expression := formulaExpression parameters
  let expectedColumn := parameters.get "expected_column"
  if !expression.truthy then pure (consistencyErrorResult "formula requires rule_expression")
  else if !expectedColumn.truthy then pure (consistencyErrorResult "formula requires expected_column")
  else if !expectedColumn.isText then .error .typeError
  else
    let expected := runtime.str expectedColumn
    let nullHandling := parameters.getD "null_handling" (.str "fail")
    let filter := parameters.get "filter_expression"
    let (matchCond, mismatchCond) := consistencyToleranceSql runtime (name expected)
      (formulaSide runtime expected expression) (parameters.getD "tolerance_type" (.str "absolute"))
      (parameters.get "tolerance_value")
    let nulls : List Phrase :=
      if nullHandling.is "skip" then [name expected ++ " IS NOT NULL"] else []
    let wherePhrase := whereAll (nulls ++ filterPart runtime filter)
    let passing : Phrase :=
      if nullHandling.is "pass" then "COALESCE((" ++ matchCond ++ "), TRUE)" else matchCond
    -- The mismatch wraps the condition that has just been wrapped.
    let failing : Phrase :=
      if nullHandling.is "pass" then "NOT COALESCE((" ++ passing ++ "), TRUE)" else mismatchCond
    pure (.compiled {
      query := {
        opening := "SELECT "
        columns := consistencyColumns (caseWhen passing) (caseWhen failing)
        separator := ", "
        closing := " FROM " ++ table ++ " " ++ wherePhrase }
      mysql := none
      violation := "SELECT * FROM " ++ table ++ " WHERE " ++ failing ++ andFilter runtime filter })

def temporalOperators : List (String × String) :=
  [("greater_equal", ">="), ("greater", ">"), ("less_equal", "<="), ("less", "<"), ("equal", "="),
    ("equals", "="), ("gte", ">="), ("gt", ">"), ("lte", "<="), ("lt", "<"), ("eq", "="),
    (">=", ">="), (">", ">"), ("<=", "<="), ("<", "<"), ("=", "=")]

def validTemporalOperators : List String := [">=", ">", "<=", "<", "="]

def inverseOperators : List (String × String) :=
  [(">=", "<"), (">", "<="), ("<=", ">"), ("<", ">="), ("=", "!=")]

/-- The operator, in symbols: whatever is unknown is `>=`. -/
def temporalOperator (value : Value) : String :=
  let op := (temporalOperators.lookup (runtime.lowerStr (runtime.str value))).getD ">="
  if validTemporalOperators.contains op then op else ">="

def temporalColumn : Value :=
  let chosen := (((parameters.get "comparison_column").or (parameters.get "right_column")).or
    (parameters.get "start_column")).or (parameters.get "reference_column")
  if chosen.is column then (parameters.get "end_column").or chosen else chosen

def consistencyTemporal : Except Exn (Outcome Compiled) :=
  let compColumn := temporalColumn column parameters
  if !compColumn.truthy then .ok (consistencyErrorResult "temporal requires comparison_column")
  else
    let other := name (runtime.str compColumn)
    let op := temporalOperator runtime (parameters.getD "operator" (.str ">="))
    let inverse := (inverseOperators.lookup op).getD "!="
    let nullHandling := parameters.getD "null_handling" (.str "fail")
    let filter := parameters.get "filter_expression"
    let nulls : List Phrase :=
      if nullHandling.is "skip" then [name column ++ " IS NOT NULL AND " ++ other ++ " IS NOT NULL"]
      else []
    let wherePhrase := whereAll (nulls ++ filterPart runtime filter)
    let compared : Phrase := name column ++ " " ++ fragment op ++ " " ++ other
    let inverted : Phrase := name column ++ " " ++ fragment inverse ++ " " ++ other
    let passing : Phrase :=
      if nullHandling.is "pass" then "COALESCE((" ++ compared ++ "), TRUE)" else compared
    let failing : Phrase :=
      if nullHandling.is "pass" then "NOT COALESCE((" ++ compared ++ "), TRUE)" else inverted
    .ok (.compiled {
      query := {
        opening := "SELECT "
        columns := consistencyColumns (caseWhen passing) (caseWhen failing)
        separator := ", "
        closing := " FROM " ++ table ++ " " ++ wherePhrase }
      mysql := none
      violation := "SELECT * FROM " ++ table ++ " WHERE " ++ inverted ++ andFilter runtime filter })

def equalColumns (left right : String) (columns : List Phrase) : Phrase :=
  Phrase.join " AND " (columns.map fun chosen =>
    Phrase.ofText (left ++ ".") ++ chosen ++ Phrase.ofText (" = " ++ right ++ ".") ++ chosen)

def namesOf (columns : List Value) : List Phrase := columns.map fun chosen => name (runtime.str chosen)

def consistencyInterRecord : Except Exn (Outcome Compiled) := do
  let groupColumns := parameters.get "group_by_columns"
  let compColumns := parameters.get "comparison_columns"
  if !groupColumns.truthy then
    pure (consistencyErrorResult "inter_record requires group_by_columns")
  else if !compColumns.truthy then
    pure (consistencyErrorResult "inter_record requires comparison_columns")
  else
    let compared := name (runtime.str (← compColumns.first))
    let groups := namesOf runtime (← groupColumns.elements)
    let groupBy := Phrase.join ", " groups
    let nulls : List Phrase :=
      if (parameters.getD "null_handling" (.str "fail")).is "skip" then [compared ++ " IS NOT NULL"]
      else []
    let wherePhrase := whereAll (nulls ++ filterPart runtime (parameters.get "filter_expression"))
    pure (.compiled {
      query := {
        opening := "WITH group_stats AS (SELECT " ++ groupBy ++ ", COUNT(DISTINCT " ++ compared ++
          ") as distinct_vals, COUNT(*) as group_size FROM " ++ table ++ " " ++ wherePhrase ++
          " GROUP BY " ++ groupBy ++ ") SELECT "
        columns :=
          [.named " as " "total_rows" (.scalar "SUM(group_size)"),
            .named " as " "consistent_rows"
              (.scalar "SUM(CASE WHEN distinct_vals <= 1 THEN group_size ELSE 0 END)"),
            .named " as " "inconsistent_rows"
              (.scalar "SUM(CASE WHEN distinct_vals > 1 THEN group_size ELSE 0 END)")]
        separator := ", "
        closing := " FROM group_stats" }
      mysql := none
      violation := "WITH group_stats AS (SELECT " ++ groupBy ++ ", COUNT(DISTINCT " ++ compared ++
        ") as distinct_vals FROM " ++ table ++ " " ++ wherePhrase ++ " GROUP BY " ++ groupBy ++
        ") SELECT t.* FROM " ++ table ++ " t INNER JOIN group_stats g ON " ++
        equalColumns "t" "g" groups ++ " WHERE g.distinct_vals > 1" })

def consistencyCrossTable : Except Exn (Outcome Compiled) := do
  let compDataset := parameters.get "comparison_dataset"
  let joinKeys := parameters.get "join_keys"
  let compColumns := parameters.get "comparison_columns"
  if !compDataset.truthy then pure (consistencyErrorResult "cross_table requires comparison_dataset")
  else if !joinKeys.truthy then pure (consistencyErrorResult "cross_table requires join_keys")
  else if !compColumns.truthy then
    pure (consistencyErrorResult "cross_table requires comparison_columns")
  else
    let filter := parameters.get "filter_expression"
    let joinConditions := equalColumns "a" "b" (namesOf runtime (← joinKeys.elements))
    let allMatch := equalColumns "a" "b" (namesOf runtime (← compColumns.elements))
    let joined : Phrase := table ++ " a INNER JOIN " ++ raw (runtime.str compDataset) ++ " b ON " ++
      joinConditions ++ " "
    pure (.compiled {
      query := {
        opening := "SELECT "
        columns := consistencyColumns (caseWhen allMatch) (caseWhen ("NOT (" ++ allMatch ++ ")"))
        separator := ", "
        closing := " FROM " ++ joined ++ whereAll (filterPart runtime filter) }
      mysql := none
      violation := "SELECT a.* FROM " ++ joined ++ "WHERE NOT (" ++ allMatch ++ ")" ++
        andFilter runtime filter })

def consistencyAggregation : Except Exn (Outcome Compiled) := do
  let groupColumns := parameters.get "group_by_columns"
  let aggFunc := parameters.get "aggregation_function"
  let expectedColumn := parameters.get "expected_column"
  if !groupColumns.truthy then pure (consistencyErrorResult "aggregation requires group_by_columns")
  else if !aggFunc.truthy then pure (consistencyErrorResult "aggregation requires aggregation_function")
  else
    let function := runtime.upperStr (← aggFunc.asText)
    if !validAggregationFunctions.contains function then
      pure (consistencyErrorResult ("Invalid aggregation_function: " ++ runtime.str aggFunc))
    else if !expectedColumn.truthy then
      pure (consistencyErrorResult "aggregation requires expected_column")
    else
      let groups := namesOf runtime (← groupColumns.elements)
      let groupBy := Phrase.join ", " groups
      let expected := name (runtime.str expectedColumn)
      let compDataset := parameters.get "comparison_dataset"
      let expectedTable := if compDataset.truthy then raw (runtime.str compDataset) else table
      let (matchCond, mismatchCond) := consistencyToleranceSql runtime "a.computed_value"
        ("h." ++ expected) (parameters.getD "tolerance_type" (.str "absolute"))
        (parameters.get "tolerance_value")
      let opening : Phrase := "WITH agg AS (SELECT " ++ groupBy ++ ", " ++ Phrase.ofText function ++
        "(" ++ name column ++ ") as computed_value FROM " ++ table ++ " " ++
        whereAll (filterPart runtime (parameters.get "filter_expression")) ++ " GROUP BY " ++ groupBy ++
        "), header AS (SELECT DISTINCT " ++ groupBy ++ ", " ++ expected ++ " FROM " ++ expectedTable ++
        ") SELECT "
      let joined : Phrase := " FROM agg a JOIN header h ON " ++ equalColumns "a" "h" groups
      pure (.compiled {
        query := {
          opening
          columns := consistencyColumns (caseWhen matchCond) (caseWhen mismatchCond)
          separator := ", "
          closing := joined }
        mysql := none
        violation := opening ++ "a.*, h." ++ expected ++ " as expected_value" ++ joined ++ " WHERE " ++
          mismatchCond })

def consistencyType : Value :=
  (parameters.get "consistency_type").or (.str (inferConsistencyType parameters))

def compileConsistencyRule : Except Exn (Outcome Compiled) := do
  let chosen := consistencyType parameters
  if !(← chosen.memberOf validConsistencyTypes) then
    pure (consistencyErrorResult ("Unknown consistency_type: " ++ runtime.str chosen))
  else if ← rejects runtime (parameters.get "filter_expression") then
    pure (consistencyErrorResult "Dangerous filter_expression rejected")
  else if ← rejects runtime (parameters.get "rule_expression") then
    pure (consistencyErrorResult "Dangerous rule_expression rejected")
  else if chosen.is "intra_record" then consistencyIntraRecord runtime table column parameters
  else if chosen.is "formula" then consistencyFormula runtime table parameters
  else if chosen.is "temporal" then consistencyTemporal runtime table column parameters
  else if chosen.is "inter_record" then consistencyInterRecord runtime table parameters
  else if chosen.is "cross_table" then consistencyCrossTable runtime table parameters
  else consistencyAggregation runtime table column parameters

end Helpers

end CogniDQ.Rules
