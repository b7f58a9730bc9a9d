import CogniDQ.Rules.Accuracy

/-!
# Reconciliation rules

Two datasets are held against each other: their sizes, their aggregates, the rows
that have no partner, the fields of those that have one.
-/

set_option autoImplicit false

namespace CogniDQ.Rules

open CogniDQ.Python CogniDQ.Sql

def validReconciliationTypes : List String :=
  ["record_count", "one_to_one", "aggregate", "field_level", "tolerance", "missing_extra"]

def validAggregateFunctions : List String := ["SUM", "COUNT", "AVG", "MIN", "MAX"]

def reconciliationErrorResult {α : Type} (message : String) : Outcome α := .failed .commented message

section JoinKeys

variable (runtime : Runtime)

def keySide (key short : String) : Value → Except Exn Value
  | .dict entries =>
      let entries : Dict := entries
      .ok (entries.getD key (entries.get short))
  | _ => .error .attributeError

/-- `_normalize_join_keys` of keys that are not empty: pairs of columns, whether they
are written as dictionaries or as names. -/
def normalizeJoinKeys (joinKeys : Value) : Except Exn (List (Value × Value)) := do
  match ← joinKeys.first with
  | .dict _ =>
      (← joinKeys.elements).mapM fun key => do
        pure (← keySide "source" "src" key, ← keySide "target" "tgt" key)
  | _ => pure ((← joinKeys.elements).map fun key => (key, key))

/-- The keys are looked at for dictionaries, whether or not the type uses them. -/
def inspectJoinKeys (joinKeys : Value) : Except Exn Unit :=
  if joinKeys.truthy then joinKeys.first.map fun _ => () else .ok ()

def joinCondition (left right : String) (pairs : List (Value × Value)) : Phrase :=
  Phrase.join " AND " (pairs.map fun (source, target) =>
    Phrase.ofText (left ++ ".") ++ name (runtime.str source) ++ Phrase.ofText (" = " ++ right ++ ".") ++
      name (runtime.str target))

def firstPair (pairs : List (Value × Value)) : Except Exn (Value × Value) :=
  match pairs with
  | pair :: _ => .ok pair
  | [] => .error .indexError

end JoinKeys

section Reconciliation

variable (runtime : Runtime) (column : String) (parameters : Dict)

def filterSuffix (filter : Value) : Phrase :=
  if filter.truthy then " WHERE " ++ spliced runtime filter else Phrase.empty

/-- A dataset as a table of a join: `(SELECT * FROM dataset WHERE filter)`, or itself. -/
def filteredDataset (dataset filter : Value) : Phrase :=
  if filter.truthy then
    "(SELECT * FROM " ++ raw (runtime.str dataset) ++ " WHERE " ++ spliced runtime filter ++ ")"
  else raw (runtime.str dataset)

def sourceTable : Phrase :=
  filteredDataset runtime (parameters.get "source_dataset") (parameters.get "source_filter")

def targetTable : Phrase :=
  filteredDataset runtime (parameters.get "target_dataset") (parameters.get "target_filter")

def sourceFrom : Phrase :=
  raw (runtime.str (parameters.get "source_dataset")) ++
    filterSuffix runtime (parameters.get "source_filter")

def targetFrom : Phrase :=
  raw (runtime.str (parameters.get "target_dataset")) ++
    filterSuffix runtime (parameters.get "target_filter")

def reconciliationQuery (columns : List (Column Phrase)) (closing : Phrase) : Query Phrase :=
  { opening := "SELECT ", columns, separator := ", ", closing }

def reconciliationRecordCount : Except Exn (Outcome Compiled) :=
  let source := sourceFrom runtime parameters
  let target := targetFrom runtime parameters
  .ok (.compiled {
    query := reconciliationQuery
      [.named " AS " "source_count" (.tally (.rows ("(SELECT COUNT(*) FROM " ++ source ++ ")"))),
        .named " AS " "target_count" (.tally (.rows ("(SELECT COUNT(*) FROM " ++ target ++ ")")))]
      Phrase.empty
    mysql := none
    violation := "SELECT " ++ literal "source" "source" ++ " AS side, COUNT(*) AS row_count FROM " ++
      source ++ " UNION ALL SELECT " ++ literal "target" "target" ++
      " AS side, COUNT(*) AS row_count FROM " ++ target })

/-- `alias.split(mark)[0].lstrip('(').rstrip(')')`: what stands before the first mark,
which need not be the one the alias ends with. -/
def beforeAlias (mark : String) (aliased : Phrase) : Phrase :=
  ((aliased.take (beforeMark mark.toList aliased.chars).length).stripStart (· == '(')).stripEnd (· == ')')

/-- The violation query of rules that look for rows without a partner. -/
def unmatchedViolation (joinCond firstSource firstTarget : Phrase) : Phrase :=
  let source := sourceTable runtime parameters ++ " a"
  let target := targetTable runtime parameters ++ " b"
  "SELECT a.*, " ++ literal "missing_in_target" "missing_in_target" ++ " AS _recon_status FROM " ++
    source ++ " LEFT JOIN " ++ target ++ " ON " ++ joinCond ++ " WHERE b." ++ firstTarget ++
    " IS NULL UNION ALL SELECT b.*, " ++ literal "extra_in_target" "extra_in_target" ++
    " AS _recon_status FROM " ++ target ++ " LEFT JOIN " ++ source ++ " ON " ++ joinCond ++
    " WHERE a." ++ firstSource ++ " IS NULL"

def reconciliationOneToOne : Except Exn (Outcome Compiled) := do
  let joinKeys := parameters.get "join_keys"
  if !joinKeys.truthy then
    pure (reconciliationErrorResult "join_keys is required for one_to_one reconciliation")
  else
    let pairs ← normalizeJoinKeys joinKeys
    let (firstSource, firstTarget) ← firstPair pairs
    let joinCond := joinCondition runtime "a" "b" pairs
    let sourceKey := name (runtime.str firstSource)
    let targetKey := name (runtime.str firstTarget)
    let source := sourceTable runtime parameters ++ " a"
    let target := targetTable runtime parameters ++ " b"
    let both (left right : String) : Aggregate Phrase := .tally (.count (caseWhen
      ("a." ++ sourceKey ++ Phrase.ofText left ++ " AND b." ++ targetKey ++ Phrase.ofText right)))
    pure (.compiled {
      query := reconciliationQuery
        [.named " AS " "source_count"
            (.tally (.rows ("(SELECT COUNT(*) FROM " ++ beforeAlias " a" source ++ ")"))),
          .named " AS " "target_count"
            (.tally (.rows ("(SELECT COUNT(*) FROM " ++ beforeAlias " b" target ++ ")"))),
          .named " AS " "matched_count" (both " IS NOT NULL" " IS NOT NULL"),
          .named " AS " "missing_in_target" (both " IS NOT NULL" " IS NULL"),
          .named " AS " "extra_in_target" (both " IS NULL" " IS NOT NULL")]
        (" FROM " ++ source ++ " FULL OUTER JOIN " ++ target ++ " ON " ++ joinCond)
      mysql := none
      violation := unmatchedViolation runtime parameters joinCond sourceKey targetKey })

def reconciliationAggregate : Except Exn (Outcome Compiled) := do
  let aggColumn := parameters.get "aggregate_column"
  if !aggColumn.truthy then
    pure (reconciliationErrorResult "aggregate_column is required for aggregate reconciliation")
  else
    let aggFn := runtime.upperStr (← (parameters.getD "aggregate_function" (.str "SUM")).asText)
    if !validAggregateFunctions.contains aggFn then
      pure (reconciliationErrorResult ("Invalid aggregate_function: " ++ aggFn))
    else
      let groupBy := parameters.get "group_by_columns"
      let aggregated : Phrase := Phrase.ofText aggFn ++ "(" ++ name (runtime.str aggColumn) ++ ")"
      let source := sourceFrom runtime parameters
      let target := targetFrom runtime parameters
      if groupBy.truthy then
        let groups := namesOf runtime (← groupBy.elements)
        let groupColumns := Phrase.join ", " groups
        let query : Query Phrase := {
          opening := "SELECT s." ++ groupColumns ++ ", "
          columns :=
            [{ aggregate := .scalar "s.source_agg", key := "source_agg", naming := "" },
              { aggregate := .scalar "t.target_agg", key := "target_agg", naming := "" }]
          separator := ", "
          closing := " FROM (SELECT " ++ groupColumns ++ ", " ++ aggregated ++ " AS source_agg FROM " ++
            source ++ " GROUP BY " ++ groupColumns ++ ") s FULL OUTER JOIN (SELECT " ++ groupColumns ++
            ", " ++ aggregated ++ " AS target_agg FROM " ++ target ++ " GROUP BY " ++ groupColumns ++
            ") t ON " ++ equalColumns "s" "t" groups }
        pure (.compiled { query, mysql := none, violation := query.phrase })
      else
        let query := reconciliationQuery
          [.named " AS " "source_agg" (.scalar ("(SELECT " ++ aggregated ++ " FROM " ++ source ++ ")")),
            .named " AS " "target_agg" (.scalar ("(SELECT " ++ aggregated ++ " FROM " ++ target ++ ")"))]
          Phrase.empty
        pure (.compiled { query, mysql := none, violation := query.phrase })

def innerJoin (joinCond : Phrase) : Phrase :=
  sourceTable runtime parameters ++ " a INNER JOIN " ++ targetTable runtime parameters ++ " b ON " ++
    joinCond

def reconciliationFieldLevel : Except Exn (Outcome Compiled) := do
  let joinKeys := parameters.get "join_keys"
  let compareColumns := parameters.get "compare_columns"
  if !joinKeys.truthy then
    pure (reconciliationErrorResult "join_keys is required for field_level reconciliation")
  else if !compareColumns.truthy then
    pure (reconciliationErrorResult "compare_columns is required for field_level reconciliation")
  else
    let joinCond := joinCondition runtime "a" "b" (← normalizeJoinKeys joinKeys)
    let allMatch := equalColumns "a" "b" (namesOf runtime (← compareColumns.elements))
    let joined := innerJoin runtime parameters joinCond
    pure (.compiled {
      query := reconciliationQuery
        [.named " AS " "matched_count" (.tally (.count "*")),
          .named " AS " "field_match_count" (.tally (.count (caseWhen allMatch))),
          .named " AS " "field_mismatch_count" (.tally (.count (caseWhen ("NOT (" ++ allMatch ++ ")"))))]
        (" FROM " ++ joined)
      mysql := none
      violation := "SELECT a.*, b.* FROM " ++ joined ++ " WHERE NOT (" ++ allMatch ++ ")" })

def reconciliationTolerance : Except Exn (Outcome Compiled) := do
  let joinKeys := parameters.get "join_keys"
  let toleranceType := parameters.getD "tolerance_type" (.str "absolute")
  let toleranceValue := parameters.get "tolerance_value"
  if !joinKeys.truthy then
    pure (reconciliationErrorResult "join_keys is required for tolerance reconciliation")
  else if (toleranceType.is "absolute" || toleranceType.is "percentage") && toleranceValue.isNone then
    pure (reconciliationErrorResult ("tolerance_value is required for " ++ runtime.str toleranceType ++
      " tolerance"))
  else if !(toleranceType.is "none" || toleranceType.is "absolute" || toleranceType.is "percentage") then
    pure (reconciliationErrorResult ("Invalid tolerance_type: " ++ runtime.str toleranceType))
  else
    let compared := runtime.str (parameters.getD "compare_column" (.str column))
    let joinCond := joinCondition runtime "a" "b" (← normalizeJoinKeys joinKeys)
    let (matchCond, mismatchCond) := accuracyToleranceSql runtime ("a." ++ name compared)
      ("b." ++ name compared) toleranceType toleranceValue
    let joined := innerJoin runtime parameters joinCond
    pure (.compiled {
      query := reconciliationQuery
        [.named " AS " "matched_count" (.tally (.count "*")),
          .named " AS " "within_tolerance" (.tally (.count (caseWhen matchCond))),
          .named " AS " "outside_tolerance" (.tally (.count (caseWhen mismatchCond)))]
        (" FROM " ++ joined)
      mysql := none
      violation := "SELECT a.*, b." ++ name compared ++ " AS target_" ++ raw compared ++ " FROM " ++
        joined ++ " WHERE " ++ mismatchCond })

def reconciliationMissingExtra : Except Exn (Outcome Compiled) := do
  let joinKeys := parameters.get "join_keys"
  if !joinKeys.truthy then
    pure (reconciliationErrorResult "join_keys is required for missing_extra reconciliation")
  else
    let pairs ← normalizeJoinKeys joinKeys
    let (firstSource, firstTarget) ← firstPair pairs
    let joinCond := joinCondition runtime "a" "b" pairs
    let sourceKey := name (runtime.str firstSource)
    let targetKey := name (runtime.str firstTarget)
    let source := sourceTable runtime parameters
    let target := targetTable runtime parameters
    pure (.compiled {
      query := reconciliationQuery
        [.named " AS " "source_count" (.tally (.rows ("(SELECT COUNT(*) FROM " ++ source ++ ")"))),
          .named " AS " "target_count" (.tally (.rows ("(SELECT COUNT(*) FROM " ++ target ++ ")"))),
          .named " AS " "missing_in_target" (.tally (.rows ("(SELECT COUNT(*) FROM " ++ source ++
            " a LEFT JOIN " ++ target ++ " b ON " ++ joinCond ++ " WHERE b." ++ targetKey ++ " IS NULL)"))),
          .named " AS " "extra_in_target" (.tally (.rows ("(SELECT COUNT(*) FROM " ++ target ++
            " b2 LEFT JOIN " ++ source ++ " a2 ON " ++ joinCondition runtime "a2" "b2" pairs ++
            " WHERE a2." ++ sourceKey ++ " IS NULL)")))]
        Phrase.empty
      mysql := none
      violation := unmatchedViolation runtime parameters joinCond sourceKey targetKey })

def compileReconciliationRule : Except Exn (Outcome Compiled) := do
  let reconType := parameters.get "reconciliation_type"
  let sourceFilter := parameters.get "source_filter"
  let targetFilter := parameters.get "target_filter"
  let joinKeys := parameters.get "join_keys"
  if !(← reconType.memberOf validReconciliationTypes) then
    pure (reconciliationErrorResult ("Unknown reconciliation type: " ++ runtime.str reconType))
  else if !(parameters.get "source_dataset").truthy then
    pure (reconciliationErrorResult "source_dataset is required")
  else if !(parameters.get "target_dataset").truthy then
    pure (reconciliationErrorResult "target_dataset is required")
  else if ← rejects runtime sourceFilter then
    pure (reconciliationErrorResult ("Dangerous source_filter rejected: " ++ runtime.str sourceFilter))
  else if ← rejects runtime targetFilter then
    pure (reconciliationErrorResult ("Dangerous target_filter rejected: " ++ runtime.str targetFilter))
  else
    inspectJoinKeys joinKeys
    if reconType.is "record_count" then reconciliationRecordCount runtime parameters
    else if reconType.is "one_to_one" then reconciliationOneToOne runtime parameters
    else if reconType.is "aggregate" then reconciliationAggregate runtime parameters
    else if reconType.is "field_level" then reconciliationFieldLevel runtime parameters
    else if reconType.is "tolerance" then reconciliationTolerance runtime column parameters
    else reconciliationMissingExtra runtime parameters

end Reconciliation

end CogniDQ.Rules
