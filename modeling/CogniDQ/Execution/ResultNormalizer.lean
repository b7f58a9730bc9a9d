import CogniDQ.Python.Dynamic

/-!
# The result normalizer

Violating rows of every dimension, brought to rows of one shape.
-/

set_option autoImplicit false

namespace CogniDQ.Execution

open CogniDQ.Python

/-- A float: a number, an infinity or `nan`. -/
inductive Double where
  | finite (value : Rat)
  | infinity (negative : Bool)
  | nan
deriving DecidableEq

namespace Double

/-- The least magnitude that a float of the nearest value no longer has. -/
def limit : Rat := 2 ^ 1024 - 2 ^ 970

def round (runtime : Runtime) (exact : Rat) : Double :=
  if limit ≤ exact then .infinity false
  else if exact ≤ -limit then .infinity true
  else .finite (runtime.nearest exact)

def minus (runtime : Runtime) : Double → Double → Double
  | .finite left, .finite right => round runtime (left - right)
  | .nan, _ => .nan
  | _, .nan => .nan
  | .infinity left, .infinity right => if left = right then .nan else .infinity left
  | .infinity left, .finite _ => .infinity left
  | .finite _, .infinity right => .infinity (!right)

/-- What a text stands for that is read as a float, but as no number. -/
def special (runtime : Runtime) (text : List Char) : Double :=
  let written := runtime.lower (runtime.strip text)
  let unsigned := written.dropWhile fun c => c = '+' ∨ c = '-'
  if unsigned.take 3 = "nan".toList then .nan else .infinity (written.head? = some '-')

end Double

def toFloat (runtime : Runtime) : Value → Except Exn Double
  | .float value => .ok (.finite value)
  | .bool value => .ok (.finite (if value then 1 else 0))
  | .int value =>
    if (value : Rat) ≤ -Double.limit ∨ Double.limit ≤ (value : Rat) then .error .overflowError
    else .ok (.finite (runtime.nearest value))
  | .str text =>
    match runtime.parseFloat text.toList with
    | some (some value) => .ok (.finite value)
    | some none => .ok (Double.special runtime text.toList)
    | none => .error (.valueError "could not convert string to float")
  | _ => .error .typeError

/-- `except (ValueError, TypeError)`: another error is raised. -/
def suppress (result : Except Exn Double) : Except Exn (Option Double) :=
  match result with
  | .ok value => .ok (some value)
  | .error (.valueError _) => .ok none
  | .error .typeError => .ok none
  | .error other => .error other

/-- What a field of a normalized row holds: a value, or a computed float. -/
inductive Cell where
  | held (value : Value)
  | number (value : Double)

abbrev Row := List (String × Cell)

def dimensionSubtypeKey : List (String × String) :=
  [("completeness", "check_mode"),
    ("validity", "validation_type"),
    ("uniqueness", "uniqueness_mode"),
    ("conformity", "conformity_type"),
    ("consistency", "consistency_type"),
    ("timeliness", "timeliness_type"),
    ("accuracy", "accuracy_type"),
    ("reconciliation", "reconciliation_type")]

def firstOf (violation : Dict) : List String → Value
  | [] => .none
  | [key] => violation.get key
  | key :: rest => (violation.get key).or (firstOf violation rest)

/-- `float(actual) - float(expected)`, where both are given and are numbers. -/
def deviationOf (runtime : Runtime) (actual expected : Value) : Except Exn Cell :=
  if actual.isNone || expected.isNone then .ok (.held .none)
  else do
    let difference ← suppress do
      let left ← toFloat runtime actual
      let right ← toFloat runtime expected
      return left.minus runtime right
    return difference.elim (.held .none) .number

def safeFloat (runtime : Runtime) (value : Value) : Except Exn Cell :=
  if value.isNone then .ok (.held .none)
  else do
    let number ← suppress (toFloat runtime value)
    return number.elim (.held .none) .number

/-- `_extract_observed_expected`: the observed value, the expected value and the deviation. -/
def extractObservedExpected (runtime : Runtime) (dimension : Value) (violation : Dict) :
    Except Exn (Value × Value × Cell) :=
  if dimension.is "completeness" then .ok (.str "NULL", .str "NOT NULL", .held .none)
  else if dimension.is "validity" then
    .ok (firstOf violation ["observed_value", "value"],
      (violation.get "expected_value").or (.str "valid per rule"), .held .none)
  else if dimension.is "uniqueness" then
    .ok (firstOf violation ["duplicate_key", "value"], .str "unique", .held .none)
  else if dimension.is "conformity" then
    .ok (firstOf violation ["observed_value", "value"],
      (violation.get "expected_pattern").or (.str "conforming to format"), .held .none)
  else if dimension.is "consistency" then do
    let actual := firstOf violation ["actual_value", "observed_value"]
    let expected := violation.get "expected_value"
    let deviation ← deviationOf runtime actual expected
    return (actual, expected, deviation)
  else if dimension.is "timeliness" then do
    let deviation ← safeFloat runtime (firstOf violation ["age_seconds", "deviation"])
    return (firstOf violation ["timestamp", "observed_value"],
      firstOf violation ["max_age", "expected_value"], deviation)
  else if dimension.is "accuracy" then do
    let actual := firstOf violation ["actual_value", "observed_value"]
    let reference := firstOf violation ["reference_value", "expected_value"]
    let deviation ← deviationOf runtime actual reference
    return (actual, reference, deviation)
  else if dimension.is "reconciliation" then
    .ok (firstOf violation ["source_key", "key", "value"],
      (violation.get "match_status").or (.str "matched in target"), .held .none)
  else .ok (violation.get "observed_value", violation.get "expected_value", .held .none)

def buildIssueReason (runtime : Runtime) (dimension subtype : Value) (violation : Dict) : String :=
  let named (value : Value) := runtime.str value
  if dimension.is "completeness" then
    let col := (firstOf violation ["column", "column_name"]).or (.str "")
    let mode := subtype.or (.str "null")
    if mode.is "null" || mode.is "unknown" then
      if col.truthy then "Column '" ++ named col ++ "' is NULL" else "Value is NULL"
    else if mode.is "empty" then
      if col.truthy then "Column '" ++ named col ++ "' is empty" else "Value is empty"
    else if mode.is "placeholder" then
      if col.truthy then "Column '" ++ named col ++ "' contains a placeholder value"
      else "Placeholder value detected"
    else
      "Completeness " ++ named mode ++ " check failed" ++
        (if col.truthy then " on column '" ++ named col ++ "'" else "")
  else if dimension.is "validity" then
    if subtype.is "unknown" then "Invalid value"
    else "Value does not satisfy " ++ named subtype ++ " validation"
  else if dimension.is "uniqueness" then
    let count := firstOf violation ["duplicate_count", "count"]
    if count.truthy then "Duplicate value found (" ++ named count ++ " occurrences)"
    else "Duplicate value found"
  else if dimension.is "conformity" then
    if subtype.is "unknown" then "Non-conforming value"
    else "Value does not conform to " ++ named subtype ++ " format"
  else if dimension.is "consistency" then "Inconsistent value detected"
  else if dimension.is "timeliness" then
    let age := firstOf violation ["age_seconds", "deviation"]
    if age.isNone then "Record exceeds maximum allowed age"
    else "Record exceeds maximum allowed age (" ++ named age ++ "s)"
  else if dimension.is "accuracy" then "Value deviates from reference"
  else if dimension.is "reconciliation" then
    let status := firstOf violation ["match_status", "side"]
    if status.truthy then "Record " ++ named status else "Reconciliation mismatch"
  else "Data quality check failed"

def skipKeys : List String :=
  ["row_identifier", "business_key", "key", "value", "observed_value", "expected_value",
    "actual_value", "reference_value", "duplicate_key", "source_key", "column", "column_name",
    "timestamp", "max_age", "age_seconds", "expected_pattern", "deviation", "duplicate_count",
    "count", "match_status", "side"]

def buildViolationMetadata (violation : Dict) : Value :=
  .dict (List.filter (fun entry => !skipKeys.contains entry.1) violation)

structure Header where
  dimension : Value
  subtype : Value
  severity : Value
  targetTable : Value
  columnName : Value
  ruleId : Value

def onlyColumn (columns : Value) : Except Exn Value :=
  match columns with
  | .list [column] => .ok column
  | .list _ => .ok .none
  | .str text => .ok (if text.length = 1 then .str text else .none)
  | .dict [_] => .error (.keyError "0")
  | .dict _ => .ok .none
  | _ => .error .typeError

/-- What `normalize_violations` reads of the canonical rule. -/
def header (canonicalRule : Dict) : Except Exn Header := do
  let params := canonicalRule.getD "parameters" (.dict [])
  let dimension := canonicalRule.getD "dimension" (.str "")
  let subtypeKey ← dimension.lookupIn dimensionSubtypeKey
  match params with
  | .dict params =>
    let subtype := match subtypeKey with
      | some key => Dict.getD params key (.str "unknown")
      | none => .str "unknown"
    let columnName ← onlyColumn (Dict.getD params "columns" (.list []))
    return {
      dimension
      subtype
      severity := canonicalRule.getD "severity" (.str "medium")
      targetTable := canonicalRule.getD "target_table" (.str "")
      columnName
      ruleId := canonicalRule.get "rule_id" }
  | _ => .error .attributeError

def textOf (runtime : Runtime) (value : Value) : Value :=
  if value.isNone then .none else .str (runtime.str value)

def normalizeViolation (runtime : Runtime) (context : Dict) (header : Header) (resultId : String)
    (violation : Dict) : Except Exn Row := do
  let (observed, expected, deviation) ←
    extractObservedExpected runtime header.dimension violation
  let businessKey := firstOf violation ["row_identifier", "business_key", "key"]
  return [
    ("result_id", .held (.str resultId)),
    ("execution_id", .held (context.get "execution_id")),
    ("rule_id", .held header.ruleId),
    ("dimension", .held header.dimension),
    ("dimension_subtype", .held header.subtype),
    ("dataset_name", .held header.targetTable),
    ("column_name", .held header.columnName),
    ("business_key", .held (textOf runtime businessKey)),
    ("check_status", .held (.str "FAIL")),
    ("observed_value", .held (textOf runtime observed)),
    ("expected_value", .held (textOf runtime expected)),
    ("deviation", deviation),
    ("issue_reason", .held (.str
      (buildIssueReason runtime header.dimension header.subtype violation))),
    ("severity", .held header.severity),
    ("execution_timestamp", .held (context.get "execution_timestamp")),
    ("metadata", .held (buildViolationMetadata violation))]

/-- `normalize_violations`, with the identifiers drawn for the rows. -/
def normalizeViolations (runtime : Runtime) (context canonicalRule : Dict) (resultIds : Nat → String)
    (violations : List Dict) : Except Exn (List Row) :=
  if violations.isEmpty then .ok []
  else do
    let header ← header canonicalRule
    violations.zipIdx.mapM fun (violation, index) =>
      normalizeViolation runtime context header (resultIds index) violation

end CogniDQ.Execution
