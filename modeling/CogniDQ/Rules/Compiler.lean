import CogniDQ.Rules.Completeness
import CogniDQ.Rules.Conformity
import CogniDQ.Rules.Reconciliation
import CogniDQ.Rules.Timeliness
import CogniDQ.Rules.Uniqueness
import CogniDQ.Rules.Validity

/-!
# The rule compiler

The dispatch over the dimensions of a canonical rule, with the two compilers that
have no types of their own.
-/

set_option autoImplicit false

namespace CogniDQ.Rules

open CogniDQ.Python CogniDQ.Sql

/-- A canonical rule. `severity` and `expectation` reach no compiler's output. -/
structure CanonicalRule where
  dimension : Value
  entity : String
  condition : Value
  parameters : Dict

def compileStatisticalRule (table : Phrase) (column : String) : Outcome Compiled :=
  let chosen := name column
  let query : Query Phrase := {
    opening := "\n        WITH stats AS (\n            SELECT \n                AVG(" ++ chosen ++
      ") as mean_value,\n                STDDEV(" ++ chosen ++
      ") as stddev_value,\n                MIN(" ++ chosen ++ ") as min_value,\n                MAX(" ++
      chosen ++ ") as max_value\n            FROM " ++ table ++ "\n            WHERE " ++ chosen ++
      " IS NOT NULL\n        )\n        SELECT \n            "
    columns :=
      [.named " as " "total_rows" (.tally (.count "*")),
        .named " as " "mean_value" (.scalar "(SELECT mean_value FROM stats)"),
        .named " as " "stddev_value" (.scalar "(SELECT stddev_value FROM stats)"),
        .named " as " "min_value" (.scalar "(SELECT min_value FROM stats)"),
        .named " as " "max_value" (.scalar "(SELECT max_value FROM stats)")]
    separator := ",\n            "
    closing := "\n        FROM " ++ table ++ "\n        " }
  .compiled {
    query
    mysql := some query.phrase.text
    violation := "\n        WITH stats AS (\n            SELECT \n                AVG(" ++ chosen ++
      ") as mean_value,\n                STDDEV(" ++ chosen ++ ") as stddev_value\n            FROM " ++
      table ++ "\n            WHERE " ++ chosen ++
      " IS NOT NULL\n        )\n        SELECT t.*\n        FROM " ++ table ++
      " t, stats\n        WHERE " ++ chosen ++
      " < (stats.mean_value - 3 * stats.stddev_value)\n           OR " ++ chosen ++
      " > (stats.mean_value + 3 * stats.stddev_value)\n        " }

def compileGenericRule (runtime : Runtime) (table : Phrase) (condition : Value) : Outcome Compiled :=
  let held := spliced runtime condition
  let query : Query Phrase := {
    opening := "\n        SELECT \n            "
    columns :=
      [.named " as " "total_rows" (.tally (.count "*")),
        .named " as " "passed_rows" (.tally (.count (caseWhen held))),
        .named " as " "failed_rows" (.tally (.count (caseWhen ("NOT (" ++ held ++ ")"))))]
    separator := ",\n            "
    closing := "\n        FROM " ++ table ++ "\n        " }
  .compiled {
    query
    mysql := some query.phrase.text
    violation := "\n        SELECT *\n        FROM " ++ table ++ "\n        WHERE NOT (" ++ held ++
      ")\n        " }

def CanonicalRule.table (rule : CanonicalRule) (targetSchema targetTable : String) : Phrase :=
  let table := if targetTable = "" then (splitDot rule.entity).1 else targetTable
  if targetSchema = "" then name table else name targetSchema ++ "." ++ name table

/-- The column a rule checks: the first given one, or the one its entity names. -/
def CanonicalRule.column (rule : CanonicalRule) (targetColumns : List String) : String :=
  match targetColumns with
  | chosen :: _ => chosen
  | [] => (splitDot rule.entity).2.getD "*"

def compileRule (runtime : Runtime) (rule : CanonicalRule) (targetSchema targetTable : String)
    (targetColumns : List String) : Except Exn (Outcome Compiled) :=
  let table := rule.table targetSchema targetTable
  let column := rule.column targetColumns
  let parameters := rule.parameters
  if rule.dimension.is "completeness" then compileCompletenessRule runtime table column parameters
  else if rule.dimension.is "validity" then compileValidityRule runtime table column parameters
  else if rule.dimension.is "uniqueness" then compileUniquenessRule runtime table column parameters
  else if rule.dimension.is "conformity" then compileConformityRule runtime table column parameters
  else if rule.dimension.is "consistency" then compileConsistencyRule runtime table column parameters
  else if rule.dimension.is "timeliness" then compileTimelinessRule runtime table column parameters
  else if rule.dimension.is "accuracy" then compileAccuracyRule runtime table column parameters
  else if rule.dimension.is "reconciliation" then
    compileReconciliationRule runtime column parameters
  else if rule.dimension.is "statistical" then .ok (compileStatisticalRule table column)
  else .ok (compileGenericRule runtime table rule.condition)

end CogniDQ.Rules
