import CogniDQ.Execution.ResultNormalizer
import CogniDQ.Rules.Outcome

/-!
# Timeliness rules

The timeliness types, and the durations and times of day their parameters are
written in.
-/

set_option autoImplicit false

namespace CogniDQ.Rules

open CogniDQ.Python CogniDQ.Sql

def validTimelinessTypes : List String :=
  ["freshness", "record_age", "latency", "processing_delay", "delivery_window", "heartbeat"]

def inferTimelinessType (parameters : Dict) : String :=
  if (parameters.get "comparison_timestamp").truthy then "latency"
  else if (parameters.get "delivery_window_start").truthy then "delivery_window"
  else if (parameters.get "expected_frequency").truthy then "heartbeat"
  else "freshness"

def timelinessErrorResult {α : Type} (message : String) : Outcome α := .failed .commented message

section Parsing

variable (runtime : Runtime)

def truncate (value : Rat) : Int := value.num.tdiv value.den

/-- The seconds in a minute, an hour or a day, by the letter for the unit. -/
def durationUnit (unit : Char) : Option Nat :=
  if unit = 'm' ∨ unit = 'M' then some 60
  else if unit = 'h' ∨ unit = 'H' then some 3600
  else if unit = 'd' ∨ unit = 'D' then some 86400
  else none

def scaledDuration (digits : List Char) (seconds : Nat) : Except Exn (Option Int) :=
  match runtime.parseFloat digits with
  | some (some number) =>
      match Execution.Double.round runtime (number * seconds) with
      | .finite product => .ok (some (truncate product))
      | _ => .error .overflowError
  | some none => .error .overflowError
  | none => .error (.valueError "could not convert string to float")

/-- The number in front of a unit: `\d+(?:\.\d+)?`, and nothing else. -/
def isPlainNumber (text : List Char) : Bool :=
  let whole := text.takeWhile runtime.isDigit
  match text.dropWhile runtime.isDigit with
  | [] => !whole.isEmpty
  | '.' :: fraction => !whole.isEmpty && !fraction.isEmpty && fraction.all runtime.isDigit
  | _ => false

def parseDurationToSeconds (value : Value) : Except Exn (Option Int) :=
  match value with
  | .none => .ok none
  | .int number => .ok (some number)
  | .bool flag => .ok (some (if flag then 1 else 0))
  | .float number => .ok (some (truncate number))
  | other =>
      let text := runtime.strip (runtime.str other).toList
      match runtime.parseFloat text with
      | some (some number) => .ok (some (truncate number))
      | some none => .error .overflowError
      | none =>
          let number := (text.dropLast.reverse.dropWhile runtime.isSpace).reverse
          match text.getLast?.bind durationUnit with
          | some seconds =>
              if isPlainNumber runtime number then scaledDuration runtime number seconds else .ok none
          | none => .ok none

def parseWindowTime (value : Value) : Option Nat :=
  if value.isNone then none
  else
    let text := runtime.strip (runtime.str value).toList
    let hour := text.takeWhile (· != ':')
    let minute := (text.dropWhile (· != ':')).drop 1
    if (hour.length = 1 ∨ hour.length = 2) ∧ minute.length = 2 ∧ text.contains ':' ∧
        hour.all runtime.isDigit ∧ minute.all runtime.isDigit then
      if runtime.int hour > 23 ∨ runtime.int minute > 59 then none
      else some (runtime.int hour * 60 + runtime.int minute)
    else none

end Parsing

section Helpers

variable (runtime : Runtime) (table : Phrase) (column : String) (parameters : Dict)

def timestampColumn : Value := parameters.getD "timestamp_column" (.str column)

/-- `f"WHERE {filter_expr}"`: the filter is not put in parentheses. -/
def bareWhere : Phrase :=
  let filter := parameters.get "filter_expression"
  if filter.truthy then "WHERE " ++ spliced runtime filter else Phrase.empty

def strippedFrom (wherePhrase : Phrase) : Phrase :=
  Phrase.stripEnd runtime.isSpace (" FROM " ++ table ++ " " ++ wherePhrase)

def secondsSinceLatest (moment : Phrase) : Phrase :=
  "EXTRACT(EPOCH FROM (NOW() - MAX(" ++ moment ++ ")))"

def timelinessColumns (total : Tally Phrase) (others : List (String × Phrase))
    (timely untimely : Aggregate Phrase) : List (Column Phrase) :=
  [.named " AS " "total_rows" (.tally total)] ++
    (others.map fun (key, written) => .named " AS " key (.scalar written)) ++
    [.named " AS " "timely_rows" timely, .named " AS " "untimely_rows" untimely]

def timelinessCompiled (columns : List (Column Phrase)) (wherePhrase violation : Phrase) :
    Outcome Compiled :=
  .compiled {
    query := { opening := "SELECT ", columns, separator := ", ",
               closing := strippedFrom runtime table wherePhrase }
    mysql := none
    violation }

/-- Checks that read a duration: its name, and what the check is called. -/
def durationParameter (key kind : String) : Except Exn (Except String Int) :=
  let value := parameters.get key
  (parseDurationToSeconds runtime value).map fun
    | some seconds => .ok seconds
    | none => .error (key ++ " is required for " ++ kind ++ " checks (got: " ++ runtime.str value ++ ")")

def caseOf (condition : Phrase) (counted : String) : Aggregate Phrase :=
  .tally (.rows ("CASE WHEN " ++ condition ++ " THEN " ++ counted ++ " ELSE 0 END"))

def timelinessFreshness : Except Exn (Outcome Compiled) := do
  let tsColumn := timestampColumn column parameters
  if !tsColumn.truthy then
    pure (timelinessErrorResult "timestamp_column is required for freshness checks")
  else
    match ← durationParameter runtime parameters "max_age" "freshness" with
    | .error message => pure (timelinessErrorResult message)
    | .ok seconds =>
        let moment := name (runtime.str tsColumn)
        let age := secondsSinceLatest moment
        let limit := Phrase.ofText (toString seconds)
        pure (timelinessCompiled runtime table
          (timelinessColumns (.count "*")
            [("most_recent", "MAX(" ++ moment ++ ")"), ("age_seconds", age)]
            (caseOf (age ++ " <= " ++ limit) "COUNT(*)") (caseOf (age ++ " > " ++ limit) "COUNT(*)"))
          (bareWhere runtime parameters) Phrase.empty)

/-- The NULL test over the columns, where rows with a NULL are skipped. -/
def timelinessNulls (columns : List Phrase) : List Phrase :=
  if (parameters.getD "null_handling" (.str "fail")).is "skip" then
    [Phrase.join " AND " (columns.map fun chosen => chosen ++ " IS NOT NULL")]
  else []

/-- `SUM(CASE WHEN condition THEN 1 ELSE 0 END)`, which is NULL where there is no row. -/
def sumCase (condition : Phrase) : Aggregate Phrase :=
  .scalar ("SUM(CASE WHEN " ++ condition ++ " THEN 1 ELSE 0 END)")

def timelinessPerRow (columns : List Phrase) (measured : Phrase) (label : String) (seconds : Int) :
    Outcome Compiled :=
  let limit := Phrase.ofText (toString seconds)
  let wherePhrase := whereAll (timelinessNulls parameters columns ++
    filterPart runtime (parameters.get "filter_expression"))
  let late : Phrase := measured ++ " > " ++ limit
  let inTime : Phrase := measured ++ " <= " ++ limit
  let passing : Phrase :=
    if (parameters.getD "null_handling" (.str "fail")).is "pass" then
      Phrase.join " OR " (columns.map (fun chosen => (chosen ++ " IS NULL" : Phrase)) ++ [inTime])
    else inTime
  let failing : Phrase :=
    if (parameters.getD "null_handling" (.str "fail")).is "pass" then
      Phrase.join " AND " (columns.map (fun chosen => (chosen ++ " IS NOT NULL" : Phrase)) ++ [late])
    else late
  timelinessCompiled runtime table
    (timelinessColumns (.count "*") [] (sumCase passing) (sumCase failing)) wherePhrase
    ("SELECT *, " ++ measured ++ " AS " ++ Phrase.ofText label ++ " FROM " ++ table ++ " WHERE " ++ late)

def timelinessRecordAge : Except Exn (Outcome Compiled) := do
  let tsColumn := timestampColumn column parameters
  if !tsColumn.truthy then
    pure (timelinessErrorResult "timestamp_column is required for record_age checks")
  else
    match ← durationParameter runtime parameters "max_age" "record_age" with
    | .error message => pure (timelinessErrorResult message)
    | .ok seconds =>
        let moment := name (runtime.str tsColumn)
        pure (timelinessPerRow runtime table parameters [moment]
          ("EXTRACT(EPOCH FROM (NOW() - " ++ moment ++ "))") "record_age_seconds" seconds)

def timelinessDelayCommon (delayType : String) : Except Exn (Outcome Compiled) := do
  let tsColumn := timestampColumn column parameters
  let compColumn := parameters.get "comparison_timestamp"
  if !compColumn.truthy then
    pure (timelinessErrorResult ("comparison_timestamp is required for " ++ delayType ++ " checks"))
  else if !tsColumn.truthy then
    pure (timelinessErrorResult ("timestamp_column is required for " ++ delayType ++ " checks"))
  else
    match ← durationParameter runtime parameters "max_age" delayType with
    | .error message => pure (timelinessErrorResult message)
    | .ok seconds =>
        let moment := name (runtime.str tsColumn)
        let other := name (runtime.str compColumn)
        pure (timelinessPerRow runtime table parameters [moment, other]
          ("ABS(EXTRACT(EPOCH FROM (" ++ other ++ " - " ++ moment ++ ")))") "delay_seconds" seconds)

def timelinessLatency : Except Exn (Outcome Compiled) :=
  timelinessDelayCommon runtime table column parameters "latency"

def timelinessProcessingDelay : Except Exn (Outcome Compiled) :=
  timelinessDelayCommon runtime table column parameters "processing_delay"

def timelinessDeliveryWindow : Except Exn (Outcome Compiled) :=
  let tsColumn := timestampColumn column parameters
  let windowStart := parameters.get "delivery_window_start"
  let windowEnd := parameters.get "delivery_window_end"
  if !tsColumn.truthy then
    .ok (timelinessErrorResult "timestamp_column is required for delivery_window checks")
  else
    match parseWindowTime runtime windowStart, parseWindowTime runtime windowEnd with
    | none, _ => .ok (timelinessErrorResult
        ("delivery_window_start is required and must be HH:MM format (got: " ++
          runtime.str windowStart ++ ")"))
    | some _, none => .ok (timelinessErrorResult
        ("delivery_window_end is required and must be HH:MM format (got: " ++
          runtime.str windowEnd ++ ")"))
    | some start, some stop =>
        let moment := name (runtime.str tsColumn)
        let inWindow : Phrase := "(EXTRACT(HOUR FROM " ++ moment ++ ") * 60 + EXTRACT(MINUTE FROM " ++
          moment ++ ") BETWEEN " ++ Phrase.ofText (toString start) ++ " AND " ++
          Phrase.ofText (toString stop) ++ ")"
        .ok (timelinessCompiled runtime table
          (timelinessColumns (.count "*") [("most_recent", "MAX(" ++ moment ++ ")")]
            (sumCase inWindow) (sumCase ("NOT " ++ inWindow)))
          (bareWhere runtime parameters) Phrase.empty)

def timelinessHeartbeat : Except Exn (Outcome Compiled) := do
  let tsColumn := timestampColumn column parameters
  if !tsColumn.truthy then
    pure (timelinessErrorResult "timestamp_column is required for heartbeat checks")
  else
    match ← durationParameter runtime parameters "expected_frequency" "heartbeat" with
    | .error message => pure (timelinessErrorResult message)
    | .ok seconds =>
        let moment := name (runtime.str tsColumn)
        let age := secondsSinceLatest moment
        let limit := Phrase.ofText (toString seconds)
        pure (timelinessCompiled runtime table
          (timelinessColumns (.constant 1) [("most_recent", "MAX(" ++ moment ++ ")")]
            (caseOf ("COUNT(*) > 0 AND " ++ age ++ " <= " ++ limit) "1")
            (caseOf ("COUNT(*) = 0 OR " ++ age ++ " > " ++ limit) "1"))
          (bareWhere runtime parameters) Phrase.empty)

def compileTimelinessRule : Except Exn (Outcome Compiled) := do
  let timelinessType :=
    (parameters.get "timeliness_type").or (.str (inferTimelinessType parameters))
  let filter := parameters.get "filter_expression"
  if !(← timelinessType.memberOf validTimelinessTypes) then
    pure (timelinessErrorResult ("Unknown timeliness type: " ++ runtime.str timelinessType))
  else if ← rejects runtime filter then
    pure (timelinessErrorResult ("Dangerous filter expression rejected: " ++ runtime.str filter))
  else if timelinessType.is "freshness" then timelinessFreshness runtime table column parameters
  else if timelinessType.is "record_age" then timelinessRecordAge runtime table column parameters
  else if timelinessType.is "latency" then timelinessLatency runtime table column parameters
  else if timelinessType.is "processing_delay" then
    timelinessProcessingDelay runtime table column parameters
  else if timelinessType.is "delivery_window" then
    timelinessDeliveryWindow runtime table column parameters
  else timelinessHeartbeat runtime table column parameters

end Helpers

end CogniDQ.Rules
