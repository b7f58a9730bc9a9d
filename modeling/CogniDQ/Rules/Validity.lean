import CogniDQ.Rules.Outcome

/-!
# Validity rules

Each validation type tests the rows by an expression of its own; how NULLs are
counted, the columns of the query and the violation query are common to all.
-/

set_option autoImplicit false

namespace CogniDQ.Rules

open CogniDQ.Python CogniDQ.Sql

def validValidationTypes : List String :=
  ["allowed_values", "business_rule", "cross_field", "date_logic", "negative", "range",
    "reference_lookup", "regex"]

def inferValidationType (parameters : Dict) : String :=
  if (parameters.get "regex_pattern").truthy then "regex"
  else if !(parameters.get "min_value").isNone || !(parameters.get "max_value").isNone then "range"
  else if (parameters.get "allowed_values").truthy then "allowed_values"
  else if (parameters.get "reference_dataset").truthy || (parameters.get "reference_column").truthy then
    "reference_lookup"
  else if (parameters.get "expression").truthy || (parameters.get "filter_expression").truthy then
    "business_rule"
  else "unknown"

/-- What a row is tested by: the test in a condition and alone, its negation, and the
tests for NULL. -/
structure ValidityTest where
  holds : Phrase
  alone : Phrase := holds
  fails : Phrase
  isNull : Phrase
  isNotNull : Phrase

namespace ValidityTest

/-- The arguments of `COUNT` for all rows and for skipped rows, as
`_validity_null_handling_sql` and the helpers that replace its result have them. -/
def totalArgument (test : ValidityTest) (nullHandling : Value) : Phrase :=
  if nullHandling.is "skip" then caseWhen test.isNotNull else "*"

def skippedArgument (test : ValidityTest) (nullHandling : Value) : Option Phrase :=
  if nullHandling.is "skip" then some (caseWhen test.isNull) else none

def validCase (test : ValidityTest) (nullHandling : Value) : Phrase :=
  if nullHandling.is "pass" then caseWhen (test.holds ++ " OR " ++ test.isNull)
  else if nullHandling.is "skip" then caseWhen (test.isNotNull ++ " AND " ++ test.holds)
  else caseWhen test.alone

def invalidCase (test : ValidityTest) (nullHandling : Value) : Phrase :=
  if nullHandling.is "pass" || nullHandling.is "skip" then
    caseWhen (test.isNotNull ++ " AND " ++ test.fails)
  else caseWhen (test.fails ++ " OR " ++ test.isNull)

end ValidityTest

/-- Where the rows come from: what stands before SELECT, the rows the violation query
returns, and the tables. -/
structure ValiditySource where
  before : Phrase
  star : String
  tables : Phrase

def validityColumns (total valid invalid : Phrase) (skipped : Option Phrase) :
    List (Column Phrase) :=
  [.named " as " "total_rows" (.tally (.count total)),
    .named " as " "valid_rows" (.tally (.count valid)),
    .named " as " "invalid_rows" (.tally (.count invalid)),
    .named " as " "validity_rate" (.rate (.count valid) (.count total))] ++
  (skipped.map fun argument => Column.named " as " "skipped_rows" (.tally (.count argument))).toList

def validityQuery (source : ValiditySource) (test : ValidityTest) (nullHandling : Value)
    (wherePhrase : Phrase) : Query Phrase where
  opening := source.before ++ "SELECT\n                "
  columns := validityColumns (test.totalArgument nullHandling) (test.validCase nullHandling)
    (test.invalidCase nullHandling) (test.skippedArgument nullHandling)
  separator := ",\n                "
  closing := "\n            FROM " ++ source.tables ++ "\n            " ++ wherePhrase

def validityViolation (source : ValiditySource) (test : ValidityTest) : Phrase :=
  source.before ++ "SELECT " ++ source.star ++ "\n            FROM " ++ source.tables ++
    "\n            WHERE " ++ test.fails ++ " OR " ++ test.isNull

def regexpForMysql (sql : String) : String :=
  replaceStr "!~" "NOT REGEXP" (replaceStr "~" "REGEXP" sql)

def validityErrorResult {α : Type} (message : String) : Outcome α := .failed .flagged message

section Helpers

variable (runtime : Runtime) (table : Phrase) (column : String) (parameters : Dict)

def columnTest (column : String) (holds alone fails : Phrase) : ValidityTest :=
  { holds, alone, fails, isNull := name column ++ " IS NULL", isNotNull := name column ++ " IS NOT NULL" }

def tableSource (table : Phrase) : ValiditySource :=
  { before := "\n            ", star := "*", tables := table }

def validityCompiled (source : ValiditySource) (test : ValidityTest) (forMysql : String → String) :
    Outcome Compiled :=
  let query := validityQuery source test (parameters.getD "null_handling" (.str "fail"))
    (whereClause runtime (parameters.get "filter_expression") none)
  .compiled {
    query
    mysql := some (forMysql query.phrase.text)
    violation := validityViolation source test }

def validityRegex : Except Exn (Outcome Compiled) :=
  let pattern := runtime.str (parameters.getD "regex_pattern" (.str ""))
  let holds := name column ++ " ~ " ++ literal pattern pattern
  let fails := name column ++ " !~ " ++ literal pattern pattern
  .ok (validityCompiled runtime parameters (tableSource table) (columnTest column holds holds fails)
    regexpForMysql)

def validityRange : Except Exn (Outcome Compiled) :=
  let minValue := parameters.get "min_value"
  let maxValue := parameters.get "max_value"
  if minValue.isNone && maxValue.isNone then
    .ok (validityErrorResult "Range validation requires at least min_value or max_value")
  else
    let bounds : List Phrase :=
      (if minValue.isNone then [] else [name column ++ " >= " ++ raw (runtime.str minValue)]) ++
        (if maxValue.isNone then [] else [name column ++ " <= " ++ raw (runtime.str maxValue)])
    let range := Phrase.join " AND " bounds
    .ok (validityCompiled runtime parameters (tableSource table)
      (columnTest column ("(" ++ range ++ ")") range ("NOT (" ++ range ++ ")")) id)

/-- The values in quotes as the IN list has them. Lowering comes after the doubling of
the quotes. -/
def allowedValue (caseSensitive : Bool) (value : Value) : Phrase :=
  let sanitized := String.ofList (doubleQuotes (runtime.str value).toList)
  if caseSensitive then literal (runtime.str value) sanitized
  else literal (runtime.lowerStr (runtime.str value)) (runtime.lowerStr sanitized)

def allowedValuesTable (values : List Value) (caseSensitive : Bool) : Outcome Compiled :=
  let cte : Phrase := "WITH ref_values AS (SELECT unnest(ARRAY[" ++
    Phrase.join ", " (values.map (allowedValue runtime true)) ++ "]) AS val)\n            "
  let joinCond : Phrase :=
    if caseSensitive then "t." ++ name column ++ " = ref_values.val"
    else "LOWER(t." ++ name column ++ ") = LOWER(ref_values.val)"
  let source : ValiditySource := {
    before := cte, star := "t.*"
    tables := table ++ " t\n            LEFT JOIN ref_values ON " ++ joinCond }
  validityCompiled runtime parameters source
    { holds := "ref_values.val IS NOT NULL", fails := "ref_values.val IS NULL"
      isNull := "t." ++ name column ++ " IS NULL"
      isNotNull := "t." ++ name column ++ " IS NOT NULL" } regexpForMysql

def allowedValuesList (values : List Value) (caseSensitive : Bool) : Outcome Compiled :=
  let valuesList := Phrase.join ", " (values.map (allowedValue runtime caseSensitive))
  let subject : Phrase := if caseSensitive then name column else "LOWER(" ++ name column ++ ")"
  let inExpr : Phrase := subject ++ " IN (" ++ valuesList ++ ")"
  let notInExpr : Phrase := subject ++ " NOT IN (" ++ valuesList ++ ")"
  validityCompiled runtime parameters (tableSource table)
    (columnTest column inExpr inExpr notInExpr) regexpForMysql

def validityAllowedValues : Except Exn (Outcome Compiled) := do
  let allowedValues := parameters.getD "allowed_values" (.list [])
  if !allowedValues.truthy then
    pure (validityErrorResult "Allowed values validation requires a non-empty allowed_values list")
  else
    let caseSensitive := (parameters.getD "case_sensitive" (.bool true)).truthy
    let values ← allowedValues.elements
    if values.length > 1000 then
      pure (allowedValuesTable runtime table column parameters values caseSensitive)
    else pure (allowedValuesList runtime table column parameters values caseSensitive)

/-- `^[\w.]+$`, where the end may come before a last line break. -/
def isIdentifier (text : List Char) : Bool :=
  let whole := if text.getLast? = some '\n' then text.dropLast else text
  !whole.isEmpty && whole.all fun c => runtime.isWord c || c == '.'

def matchesIdentifier : Value → Except Exn Bool
  | .str text => .ok (isIdentifier runtime text.toList)
  | _ => .error .typeError

def referenceTable (dataset : String) : Phrase :=
  match splitDot dataset with
  | (schema, some table) => name schema ++ "." ++ name table
  | (table, none) => name table

def validityReferenceLookup : Except Exn (Outcome Compiled) := do
  let refDataset := parameters.get "reference_dataset"
  let refColumn := parameters.get "reference_column"
  if !refDataset.truthy || !refColumn.truthy then
    pure (validityErrorResult "reference_lookup requires both reference_dataset and reference_column")
  else if !(← matchesIdentifier runtime refDataset) then
    pure (validityErrorResult "reference_dataset and reference_column must be valid identifiers")
  else if !(← matchesIdentifier runtime refColumn) then
    pure (validityErrorResult "reference_dataset and reference_column must be valid identifiers")
  else
    let found : Phrase := "ref." ++ name (runtime.str refColumn)
    let source : ValiditySource := {
      before := "\n            ", star := "t.*"
      tables := table ++ " t\n            LEFT JOIN " ++ referenceTable (runtime.str refDataset) ++
        " ref ON t." ++ name column ++ " = " ++ found }
    pure (validityCompiled runtime parameters source
      { holds := found ++ " IS NOT NULL", fails := found ++ " IS NULL"
        isNull := "t." ++ name column ++ " IS NULL"
        isNotNull := "t." ++ name column ++ " IS NOT NULL" } id)

def validityBusinessRule : Except Exn (Outcome Compiled) := do
  let expression := parameters.get "business_rule_expression"
  if !expression.truthy then
    pure (validityErrorResult "business_rule requires a business_rule_expression")
  else if !(← validateFilterValue runtime expression) then
    pure (validityErrorResult "business_rule_expression contains forbidden SQL constructs")
  else
    let holds : Phrase := "(" ++ spliced runtime expression ++ ")"
    pure (validityCompiled runtime parameters (tableSource table)
      (columnTest column holds holds ("NOT " ++ holds)) id)

def validityNegative : Except Exn (Outcome Compiled) := do
  let expression := parameters.get "negative_expression"
  if !expression.truthy then
    pure (validityErrorResult "negative requires a negative_expression")
  else if !(← validateFilterValue runtime expression) then
    pure (validityErrorResult "negative_expression contains forbidden SQL constructs")
  else
    let fails : Phrase := "(" ++ spliced runtime expression ++ ")"
    pure (validityCompiled runtime parameters (tableSource table)
      (columnTest column ("NOT " ++ fails) ("NOT " ++ fails) fails) id)

def validComparisonOperators : List String := ["!=", "<", "<=", "=", ">", ">="]

def opAliases : List (String × String) :=
  [("=", "="), ("==", "="), ("eq", "="), ("equal", "="), ("equals", "="), ("!=", "!="),
    ("<>", "!="), ("ne", "!="), ("not_equal", "!="), ("not_equals", "!="), ("<", "<"), ("lt", "<"),
    ("less", "<"), ("less_than", "<"), ("before", "<"), ("<=", "<="), ("lte", "<="),
    ("less_equal", "<="), ("less_than_or_equal", "<="), ("on_or_before", "<="),
    ("not_after", "<="), (">", ">"), ("gt", ">"), ("greater", ">"), ("greater_than", ">"),
    ("after", ">"), (">=", ">="), ("gte", ">="), ("greater_equal", ">="),
    ("greater_than_or_equal", ">="), ("on_or_after", ">="), ("not_before", ">=")]

def normalizeComparisonOperator (value : Value) (default : String) : String :=
  if value.isNone then default
  else
    (opAliases.lookup (runtime.lowerStr (runtime.stripStr (runtime.str value)))).getD
      (runtime.str value)

/-- The comparison of two columns, which `_validity_cross_field` and `_validity_date_logic`
make on the columns as they are and cast to dates. -/
def validityComparison (requires default : String) (cast : Phrase → Phrase) :
    Except Exn (Outcome Compiled) :=
  let comparisonColumn := parameters.get "comparison_column"
  let rawOp := ((parameters.get "comparison_operator").or (parameters.get "date_operator")).or
    (.str default)
  let operator := normalizeComparisonOperator runtime rawOp default
  if !comparisonColumn.truthy then .ok (validityErrorResult requires)
  else if !validComparisonOperators.contains operator then
    .ok (validityErrorResult ("Invalid comparison_operator '" ++ operator ++ "'. Allowed: " ++
      join ", " validComparisonOperators))
  else
    let other := name (runtime.str comparisonColumn)
    let compared : Phrase := cast (name column) ++ " " ++ fragment operator ++ " " ++ cast other
    let eitherNull : Phrase := "(" ++ name column ++ " IS NULL OR " ++ other ++ " IS NULL)"
    .ok (validityCompiled runtime parameters (tableSource table)
      { holds := "(" ++ compared ++ ")", fails := "NOT (" ++ compared ++ ")"
        isNull := eitherNull, isNotNull := "NOT " ++ eitherNull } id)

def validityCrossField : Except Exn (Outcome Compiled) :=
  validityComparison runtime table column parameters "cross_field requires comparison_column" "="
    fun operand => operand

def validityDateLogic : Except Exn (Outcome Compiled) :=
  validityComparison runtime table column parameters "date_logic requires comparison_column" "<="
    fun operand => "CAST(" ++ operand ++ " AS DATE)"

def compileValidityRule : Except Exn (Outcome Compiled) := do
  let validationType := parameters.getD "validation_type" (.str (inferValidationType parameters))
  if !(← validationType.memberOf validValidationTypes) then
    pure (validityErrorResult ("Unknown validation_type '" ++ runtime.str validationType ++
      "'. Allowed: " ++ join ", " validValidationTypes))
  else if ← rejects runtime (parameters.get "filter_expression") then
    pure (validityErrorResult "Filter expression contains forbidden SQL constructs")
  else if validationType.is "allowed_values" then
    validityAllowedValues runtime table column parameters
  else if validationType.is "range" then validityRange runtime table column parameters
  else if validationType.is "regex" then validityRegex runtime table column parameters
  else if validationType.is "reference_lookup" then
    validityReferenceLookup runtime table column parameters
  else if validationType.is "business_rule" then validityBusinessRule runtime table column parameters
  else if validationType.is "cross_field" then validityCrossField runtime table column parameters
  else if validationType.is "date_logic" then validityDateLogic runtime table column parameters
  else validityNegative runtime table column parameters

end Helpers

end CogniDQ.Rules
