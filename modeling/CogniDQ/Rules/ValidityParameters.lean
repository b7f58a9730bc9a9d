import CogniDQ.Rules.Timeliness
import CogniDQ.Rules.Uniqueness
import CogniDQ.Rules.Compiler

/-!
# The parameters of a validity check

How the configuration of a validity node becomes a canonical rule. The flow builder writes its keys
in two spellings, and an earlier schema nested some of them under `rule`.
-/

set_option autoImplicit false

namespace CogniDQ.Rules

open CogniDQ.Python CogniDQ.Sql

def builtinPatterns : List (String × Value) :=
  [("email", .str "^[a-zA-Z0-9._%+\\-]+@[a-zA-Z0-9.\\-]+\\.[a-zA-Z]\x7b2,\x7d$"),
    ("phone", .str "^\\+?[\\d\\s\\-\\(\\)]\x7b7,20\x7d$"),
    ("date", .str "^\\d\x7b4\x7d-\\d\x7b2\x7d-\\d\x7b2\x7d$")]

def nodeOperatorMap : List (String × Value) :=
  [("equals", .str "="), ("not_equals", .str "!="), ("greater_than", .str ">"),
    ("less_than", .str "<"), ("greater_equal", .str ">="), ("less_equal", .str "<="),
    ("before", .str "<"), ("after", .str ">"), ("same_day", .str "="), ("within", .str "<=")]

def nodeSubtypes : List String :=
  ["cross_field", "date_logic", "business_rule", "negative", "reference_lookup"]

section Reading

variable (config : Dict)

def either (first second : String) : Value := (config.get first).or (config.get second)

def nestedRule : Value := (config.getD "rule" (.dict [])).or (.dict [])

def nested (key : String) : Except Exn Value :=
  match nestedRule config with
  | .dict entries => .ok (Dict.get entries key)
  | _ => .error .attributeError

/-- `value or ...`, where what follows may raise. -/
def orElse (value : Value) (other : Except Exn Value) : Except Exn Value :=
  if value.truthy then .ok value else other

def givenOrNested (key : String) : Except Exn Value :=
  if (config.get key).isNone then nested config key else .ok (config.get key)

def nodePattern : Except Exn Value :=
  orElse (config.get "pattern") do
    orElse (← nested config "pattern") (nested config "expression")

def nodeAllowedValues : Except Exn Value :=
  orElse (config.get "allowed_values")
    (orElse (config.get "allowedValues") (nested config "allowed_values"))

def legacyValidationType : String :=
  if (either config "referenceDataset" "reference_dataset").truthy then "reference_lookup"
  else if (either config "businessRuleExpression" "business_rule_expression").truthy then
    "business_rule"
  else if (either config "negativeExpression" "negative_pattern").truthy then "negative"
  else if (either config "comparisonColumn" "comparison_column").truthy then "cross_field"
  else "regex"

def nodeValidationType : Except Exn Value := do
  let given := config.get "validationType"
  if given.truthy then pure given
  else if (← nodePattern config).truthy then pure (.str "regex")
  else
    let minValue ← givenOrNested config "min_value"
    let maxValue ← givenOrNested config "max_value"
    if !minValue.isNone || !maxValue.isNone then pure (.str "range")
    else if (← nodeAllowedValues config).truthy then pure (.str "allowed_values")
    else
      -- `validation_type in BUILTIN_PATTERNS`: no key is a false value, but a list has no hash.
      let _ ← given.lookupIn builtinPatterns
      let subtype := config.getD "subtype" (.str "")
      if nodeSubtypes.any subtype.is then pure subtype
      else pure (.str (legacyValidationType config))

def nodeRegexPattern : Except Exn Value := do
  let pattern ← nodePattern config
  if pattern.truthy then pure pattern
  else
    let builtin ← (config.getD "validationType" (.str "")).lookupIn builtinPatterns
    pure (builtin.getD .none)

def joinKeyTarget : Value :=
  match (config.get "join_keys").or (.list []) with
  | .list (.dict entries :: _) => Dict.get entries "target"
  | _ => .none

def nodeReferenceColumn : Value :=
  (either config "referenceColumn" "reference_column").or (joinKeyTarget config)

/-- `_OPERATOR_MAP.get(raw_op, raw_op)`. -/
def nodeOperator : Except Exn Value :=
  let given := (either config "comparisonOperator" "comparison_operator").or
    (config.get "date_operator")
  if given.truthy then do
    let operator ← given.lookupIn nodeOperatorMap
    pure (operator.getD given)
  else pure .none

end Reading

/-- The condition that a pattern of values that must not occur is turned into. -/
def negativePatternExpression (column mode pattern : String) : String :=
  let escaped := String.ofList (doubleQuotes pattern.toList)
  if mode = "exact" then "\"" ++ column ++ "\" = '" ++ escaped ++ "'"
  else if mode = "contains" then "\"" ++ column ++ "\" LIKE '%" ++ escaped ++ "%'"
  else "\"" ++ column ++ "\" ~ '" ++ escaped ++ "'"

section Building

variable (runtime : Runtime) (column : String) (config : Dict)

/-- The expression of values that must not occur, as it is supplied or from a pattern. -/
def nodeNegativeExpression : Value :=
  if (config.get "negativeExpression").truthy then config.get "negativeExpression"
  else if (config.get "negative_pattern").truthy then
    let mode := config.getD "negative_match_mode" (.str "regex")
    .str (negativePatternExpression column
      (if mode.is "exact" then "exact" else if mode.is "contains" then "contains" else "regex")
      (runtime.str (config.get "negative_pattern")))
  else .none

def nodeCaseSensitive : Option Value :=
  if config.has "caseSensitive" then some (config.get "caseSensitive")
  else if config.has "case_sensitive" then some (config.get "case_sensitive")
  else none

def setTruthy (key : String) (value : Value) (params : Dict) : Dict :=
  if value.truthy then params.set key value else params

def setGiven (key : String) (value : Value) (params : Dict) : Dict :=
  if value.isNone then params else params.set key value

def withCommonParameters (params : Dict) : Dict :=
  let params := setTruthy "null_handling" (either config "nullHandling" "null_handling") params
  let params :=
    match nodeCaseSensitive config with
    | some value => params.set "case_sensitive" value
    | none => params
  let warn :=
    if (config.get "thresholdWarn").isNone then config.get "threshold_warn"
    else config.get "thresholdWarn"
  setTruthy "filter_expression" (either config "filterExpression" "filter_expression")
    (setGiven "threshold_warn" warn params)

def thresholdOf : Value :=
  ((config.get "pass_threshold").or (config.get "threshold_pass")).or
    (config.getD "threshold" (.int 100))

/-- The parameters that `_build_canonical_rule` gives a validity rule. -/
def validityParameters : Except Exn Dict := do
  let validationType ← nodeValidationType config
  let pattern ← nodeRegexPattern config
  let allowedValues ← nodeAllowedValues config
  let minValue ← givenOrNested config "min_value"
  let maxValue ← givenOrNested config "max_value"
  let operator ← nodeOperator config
  let params : Dict := [("validation_type", validationType), ("threshold_pass", thresholdOf config)]
  let params := setTruthy "regex_pattern" pattern params
  let params := setTruthy "allowed_values" allowedValues params
  let params := setGiven "max_value" maxValue (setGiven "min_value" minValue params)
  let params := setTruthy "reference_dataset"
    (either config "referenceDataset" "reference_dataset") params
  let params := setTruthy "reference_column" (nodeReferenceColumn config) params
  let params := setTruthy "business_rule_expression"
    (either config "businessRuleExpression" "business_rule_expression") params
  let params := setTruthy "comparison_column"
    (either config "comparisonColumn" "comparison_column") params
  let params := setTruthy "comparison_operator" operator params
  let params := setTruthy "negative_expression" (nodeNegativeExpression runtime column config) params
  pure (withCommonParameters config params)

def nodeColumn : Except Exn String :=
  let columns := config.get "columns"
  if columns.truthy then columns.first.map runtime.str else .ok "*"

def validityNodeRule (tableName : String) : Except Exn CanonicalRule := do
  let column ← nodeColumn runtime config
  let parameters ← validityParameters runtime column config
  let pattern ← nodeRegexPattern config
  pure {
    dimension := .str "validity"
    entity := tableName ++ "." ++ column
    condition := pattern.or (.str "")
    parameters }

end Building

end CogniDQ.Rules
