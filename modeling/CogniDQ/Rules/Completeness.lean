import CogniDQ.Rules.Outcome

/-!
# Completeness rules

The check modes of the completeness compiler. Each builds a condition for the rows
that pass, one for the rows that fail and one for the violation query; they are
kept as conditions here, and written out as SQL at the end.
-/

set_option autoImplicit false

namespace CogniDQ.Rules

open CogniDQ.Python CogniDQ.Sql

inductive Atom where
  | isNull (column : String)
  | isNotNull (column : String)
  | trimmedEmpty (column : String)
  | trimmedNotEmpty (column : String)
  | placeholder (column : String) (values : List String)
  | notPlaceholder (column : String) (values : List String)
  | oneOf (column : String) (values : List String)
  | someNotNull (columns : List String)
  | never
deriving DecidableEq, Repr

inductive Condition where
  | all (atoms : List Atom)
  | any (atoms : List Atom)
deriving DecidableEq, Repr

/-- What `COUNT` is applied to. -/
inductive Counted where
  | rows
  | column (name : String)
  | cases (condition : Condition)
deriving DecidableEq, Repr

/-- How the rows are divided: none of them fails, those with a NULL fail, or there is
a condition for each side. -/
inductive Division where
  | everything
  | column (name : String)
  | cases (pass fail : Condition)
deriving DecidableEq, Repr

def valueList (values : List String) : Phrase := Phrase.join ", " (values.map quoted)

def Atom.phrase : Atom → Phrase
  | .isNull column => name column ++ " IS NULL"
  | .isNotNull column => name column ++ " IS NOT NULL"
  | .trimmedEmpty column => "TRIM(" ++ name column ++ ") = " ++ literal "" ""
  | .trimmedNotEmpty column => "TRIM(" ++ name column ++ ") != " ++ literal "" ""
  | .placeholder column values => "LOWER(TRIM(" ++ name column ++ ")) IN (" ++ valueList values ++ ")"
  | .notPlaceholder column values =>
      "LOWER(TRIM(" ++ name column ++ ")) NOT IN (" ++ valueList values ++ ")"
  | .oneOf column values => name column ++ " IN (" ++ valueList values ++ ")"
  | .someNotNull columns => "COALESCE(" ++ nameList columns ++ ") IS NOT NULL"
  | .never => "1=0"

def Condition.phrase : Condition → Phrase
  | .all atoms => Phrase.join " AND " (atoms.map Atom.phrase)
  | .any atoms => Phrase.join " OR " (atoms.map Atom.phrase)

def Counted.phrase : Counted → Phrase
  | .rows => "*"
  | .column chosen => name chosen
  | .cases condition => "CASE WHEN " ++ condition.phrase ++ " THEN 1 END"

def Division.passing : Division → Tally Counted
  | .everything => .count .rows
  | .column chosen => .count (.column chosen)
  | .cases pass _ => .count (.cases pass)

def Division.failing : Division → Tally Counted
  | .everything => .constant 0
  | .column chosen => .minus (.count .rows) (.count (.column chosen))
  | .cases _ fail => .count (.cases fail)

def Division.rate : Division → Aggregate Counted
  | .everything => .decimal 100 "100.00"
  | division => .rate division.passing (.count .rows)

/-- What a check mode compiles to. The violation query looks for no row where it has
no condition. -/
structure CompletenessCheck where
  table : Phrase
  select : String
  groupBy : List String
  division : Division
  filter : Value
  selection : Option Condition
  violation : Option Condition

namespace CompletenessCheck

def query (runtime : Runtime) (check : CompletenessCheck) : Query Counted where
  opening :=
    check.select ++ "\n            " ++
      (if check.groupBy.isEmpty then Phrase.empty else nameList check.groupBy ++ ",\n            ")
  columns :=
    [.named " as " "total_rows" (.tally (.count .rows)),
      .named " as " "non_null_rows" (.tally check.division.passing),
      .named " as " "null_rows" (.tally check.division.failing),
      .named " as " "completeness_rate" check.division.rate]
  separator := ",\n            "
  closing :=
    "\n        FROM " ++ check.table ++ "\n        " ++
      whereClause runtime check.filter (check.selection.map Condition.phrase) ++
      (if check.groupBy.isEmpty then Phrase.empty
        else "\n        GROUP BY " ++ nameList check.groupBy ++
          "\n        ORDER BY completeness_rate ASC")

def violationSql (runtime : Runtime) (check : CompletenessCheck) : Phrase :=
  "\n        SELECT *\n        FROM " ++ check.table ++ "\n        " ++
    match check.violation with
    | some condition => whereClause runtime check.filter (some condition.phrase)
    | none => "WHERE 1=0"

def sql (runtime : Runtime) (check : CompletenessCheck) : Query Phrase :=
  (check.query runtime).map Counted.phrase

def compiled (runtime : Runtime) (check : CompletenessCheck) : Compiled where
  query := check.sql runtime
  mysql := some (replaceStr "NULLIF" "IFNULL" (check.sql runtime).phrase.text)
  violation := check.violationSql runtime

end CompletenessCheck

def validCheckModes : List String :=
  ["conditional", "empty", "group", "multi_field", "null", "placeholder", "population"]

def completenessErrorResult {α : Type} (message : String) : Outcome α := .failed .flagged message

section Modes

variable (runtime : Runtime) (table : Phrase) (column : String) (parameters : Dict)

def blankDivision : Division :=
  .cases (.all [.isNotNull column, .trimmedNotEmpty column])
    (.any [.isNull column, .trimmedEmpty column])

def completenessNull : Except Exn (Outcome CompletenessCheck) := do
  let filter := parameters.get "filter_expression"
  let includeEmpty := parameters.getD "include_empty_strings" (.bool false)
  let columns := (← (parameters.getD "columns" (.list [])).elements).map runtime.str
  if columns.length > 1 && !includeEmpty.truthy then
    let fail := Condition.any (columns.map .isNull)
    pure (.compiled {
      table, select := "\n        SELECT", groupBy := [], filter, selection := none,
      division := .cases (.all (columns.map .isNotNull)) fail
      violation := some fail })
  else if includeEmpty.truthy then
    pure (.compiled {
      table, select := "\n        SELECT", groupBy := [], filter, selection := none,
      division := blankDivision column
      violation := some (.any [.isNull column, .trimmedEmpty column]) })
  else if column = "*" then
    pure (.compiled {
      table, select := "\n        SELECT ", groupBy := [], filter, selection := none,
      division := .everything
      violation := none })
  else
    pure (.compiled {
      table, select := "\n        SELECT ", groupBy := [], filter, selection := none,
      division := .column column
      violation := some (.all [.isNull column]) })

def completenessEmpty : Except Exn (Outcome CompletenessCheck) :=
  .ok (.compiled {
    table, select := "\n        SELECT", groupBy := [], selection := none,
    filter := parameters.get "filter_expression"
    division := blankDivision column
    violation := some (.any [.isNull column, .trimmedEmpty column]) })

/-- `p.strip().lower()`, the value a placeholder is written as. -/
def placeholderValue (placeholder : Value) : Except Exn String :=
  placeholder.asText.map fun text => runtime.lowerStr (runtime.stripStr text)

def completenessPlaceholder : Except Exn (Outcome CompletenessCheck) := do
  let filter := parameters.get "filter_expression"
  let placeholders := parameters.getD "placeholder_values" (.list [])
  if placeholders.truthy then
    let values ← (← placeholders.elements).mapM (placeholderValue runtime)
    let fail :=
      Condition.any [.isNull column, .trimmedEmpty column, .placeholder column values]
    pure (.compiled {
      table, select := "\n        SELECT", groupBy := [], filter, selection := none,
      division := .cases
        (.all [.isNotNull column, .trimmedNotEmpty column, .notPlaceholder column values]) fail
      violation := some fail })
  else
    -- An empty list is the same as the empty mode.
    pure (.compiled {
      table, select := "\n        SELECT", groupBy := [], filter, selection := none,
      division := blankDivision column
      violation := some (.any [.isNull column, .trimmedEmpty column]) })

def conditionValues (conditionValue : Value) : List String :=
  match conditionValue with
  | .list values => values.map runtime.str
  | value => [runtime.str value]

def completenessConditional : Except Exn (Outcome CompletenessCheck) :=
  let conditionColumn := parameters.get "condition_column"
  let conditionValue := parameters.get "condition_value"
  if !conditionColumn.truthy then
    .ok (completenessErrorResult "Conditional completeness requires condition_column parameter")
  else if conditionValue.isNone then
    .ok (completenessErrorResult "Conditional completeness requires condition_value parameter")
  else
    let chosen := runtime.str conditionColumn
    let values := conditionValues runtime conditionValue
    .ok (.compiled {
      table, select := "\n        SELECT", groupBy := [],
      filter := parameters.get "filter_expression"
      selection := some (.all [.isNotNull chosen, .oneOf chosen values])
      division := .cases (.all [.isNotNull column]) (.all [.isNull column])
      violation := some (.all [.isNotNull chosen, .oneOf chosen values, .isNull column]) })

def completenessMultiField : Except Exn (Outcome CompletenessCheck) := do
  let columns := (← (parameters.getD "columns" (.list [])).elements).map runtime.str
  let multiFieldMode := parameters.getD "multi_field_mode" (.str "all")
  if columns.length < 2 then
    pure (completenessErrorResult "Multi-field completeness requires at least 2 columns")
  else
    let pass :=
      if multiFieldMode.is "any" then Condition.all [.someNotNull columns]
      else .all (columns.map .isNotNull)
    let fail :=
      if multiFieldMode.is "any" then Condition.all (columns.map .isNull)
      else .any (columns.map .isNull)
    pure (.compiled {
      table, select := "\n        SELECT", groupBy := [], selection := none,
      filter := parameters.get "filter_expression"
      division := .cases pass fail
      violation := some fail })

def completenessGroup : Except Exn (Outcome CompletenessCheck) := do
  let groupByColumns := parameters.getD "group_by_columns" (.list [])
  if !groupByColumns.truthy then
    pure (completenessErrorResult "Group completeness requires group_by_columns parameter")
  else
    let groupBy := (← groupByColumns.elements).map runtime.str
    pure (.compiled {
      table, select := "\n        SELECT", groupBy, selection := none,
      filter := parameters.get "filter_expression"
      division := if column = "*" then .everything else .column column
      violation := some (.all [if column = "*" then .never else .isNull column]) })

/-- The dispatch of `_compile_completeness_rule`. -/
def completenessCheck : Except Exn (Outcome CompletenessCheck) := do
  let checkMode := parameters.getD "check_mode" (.str "null")
  if !(← checkMode.memberOf validCheckModes) then
    pure (completenessErrorResult ("Invalid check_mode '" ++ runtime.str checkMode ++
      "'. Allowed: " ++ join ", " validCheckModes))
  else if ← rejects runtime (parameters.get "filter_expression") then
    pure (completenessErrorResult "Filter expression contains forbidden SQL constructs")
  else if checkMode.is "null" then completenessNull runtime table column parameters
  else if checkMode.is "empty" then completenessEmpty table column parameters
  else if checkMode.is "placeholder" then completenessPlaceholder runtime table column parameters
  else if checkMode.is "conditional" then completenessConditional runtime table column parameters
  else if checkMode.is "multi_field" then completenessMultiField runtime table parameters
  else if checkMode.is "population" then completenessNull runtime table column parameters
  else if checkMode.is "group" then completenessGroup runtime table column parameters
  else
    pure (completenessErrorResult ("Unhandled check_mode '" ++ runtime.str checkMode ++ "'"))

def compileCompletenessRule : Except Exn (Outcome Compiled) :=
  (completenessCheck runtime table column parameters).map
    (Outcome.map (CompletenessCheck.compiled runtime))

end Modes

/-! ## What each mode compiles to -/

section Inversion

variable {runtime : Runtime} {table : Phrase} {column : String} {parameters : Dict}

inductive CompletenessMode (runtime : Runtime) (table : Phrase) (column : String)
    (parameters : Dict) : String → CompletenessCheck → Prop where
  | columns (mode : String) (columns : List String) :
      CompletenessMode runtime table column parameters mode {
        table, select := "\n        SELECT", groupBy := [], selection := none,
        filter := parameters.get "filter_expression",
        division := .cases (.all (columns.map .isNotNull)) (.any (columns.map .isNull))
        violation := some (.any (columns.map .isNull)) }
  | blank (mode : String) :
      CompletenessMode runtime table column parameters mode {
        table, select := "\n        SELECT", groupBy := [], selection := none,
        filter := parameters.get "filter_expression",
        division := blankDivision column
        violation := some (.any [.isNull column, .trimmedEmpty column]) }
  | everything (mode : String) :
      CompletenessMode runtime table column parameters mode {
        table, select := "\n        SELECT ", groupBy := [], selection := none,
        filter := parameters.get "filter_expression",
        division := .everything
        violation := none }
  | column (mode select : String) (groupBy : List String) :
      CompletenessMode runtime table column parameters mode {
        table, select, groupBy, selection := none,
        filter := parameters.get "filter_expression",
        division := .column column
        violation := some (.all [.isNull column]) }
  | placeholder (elements : List Value) (values : List String)
      (found : (parameters.getD "placeholder_values" (.list [])).elements = .ok elements)
      (cleaned : elements.mapM (placeholderValue runtime) = .ok values) :
      CompletenessMode runtime table column parameters "placeholder" {
        table, select := "\n        SELECT", groupBy := [], selection := none,
        filter := parameters.get "filter_expression",
        division := .cases
          (.all [.isNotNull column, .trimmedNotEmpty column, .notPlaceholder column values])
          (.any [.isNull column, .trimmedEmpty column, .placeholder column values])
        violation := some (.any [.isNull column, .trimmedEmpty column, .placeholder column values]) }
  | conditional (chosen : String) (values : List String)
      (written : values = conditionValues runtime (parameters.get "condition_value")) :
      CompletenessMode runtime table column parameters "conditional" {
        table, select := "\n        SELECT", groupBy := [],
        filter := parameters.get "filter_expression",
        selection := some (.all [.isNotNull chosen, .oneOf chosen values])
        division := .cases (.all [.isNotNull column]) (.all [.isNull column])
        violation := some (.all [.isNotNull chosen, .oneOf chosen values, .isNull column]) }
  | anyField (columns : List String) :
      CompletenessMode runtime table column parameters "multi_field" {
        table, select := "\n        SELECT", groupBy := [], selection := none,
        filter := parameters.get "filter_expression",
        division := .cases (.all [.someNotNull columns]) (.all (columns.map .isNull))
        violation := some (.all (columns.map .isNull)) }
  | groups (groupBy : List String) :
      CompletenessMode runtime table column parameters "group" {
        table, select := "\n        SELECT", groupBy, selection := none,
        filter := parameters.get "filter_expression",
        division := .everything
        violation := some (.all [.never]) }

variable {check : CompletenessCheck}

private theorem completenessNull_mode {mode : String}
    (compiled : completenessNull runtime table column parameters = .ok (.compiled check)) :
    CompletenessMode runtime table column parameters mode check := by
  obtain ⟨elements, _, compiled⟩ := bind_eq_ok compiled
  dsimp only at compiled
  split at compiled
  · cases compiled
    exact .columns mode _
  · split at compiled
    · cases compiled
      exact .blank mode
    · split at compiled
      · cases compiled
        exact .everything mode
      · cases compiled
        exact .column mode _ []

private theorem completenessPlaceholder_mode
    (compiled : completenessPlaceholder runtime table column parameters = .ok (.compiled check)) :
    CompletenessMode runtime table column parameters "placeholder" check := by
  unfold completenessPlaceholder at compiled
  dsimp only at compiled
  split at compiled
  · obtain ⟨elements, found, compiled⟩ := bind_eq_ok compiled
    obtain ⟨values, cleaned, compiled⟩ := bind_eq_ok compiled
    cases compiled
    exact .placeholder elements values found cleaned
  · cases compiled
    exact .blank "placeholder"

private theorem completenessConditional_mode
    (compiled : completenessConditional runtime table column parameters = .ok (.compiled check)) :
    CompletenessMode runtime table column parameters "conditional" check := by
  unfold completenessConditional at compiled
  dsimp only at compiled
  split at compiled
  · cases compiled
  · split at compiled
    · cases compiled
    · cases compiled
      exact .conditional _ _ rfl

private theorem completenessMultiField_mode
    (compiled : completenessMultiField runtime table parameters = .ok (.compiled check)) :
    CompletenessMode runtime table column parameters "multi_field" check := by
  obtain ⟨elements, _, compiled⟩ := bind_eq_ok compiled
  dsimp only at compiled
  split at compiled
  · cases compiled
  · cases compiled
    cases (parameters.getD "multi_field_mode" (.str "all")).is "any" with
    | true => exact .anyField _
    | false => exact .columns "multi_field" _

private theorem completenessGroup_mode
    (compiled : completenessGroup runtime table column parameters = .ok (.compiled check)) :
    CompletenessMode runtime table column parameters "group" check := by
  unfold completenessGroup at compiled
  dsimp only at compiled
  split at compiled
  · cases compiled
  · obtain ⟨elements, _, compiled⟩ := bind_eq_ok compiled
    cases compiled
    by_cases star : column = "*"
    · simp only [if_pos star]
      exact .groups _
    · simp only [if_neg star]
      exact .column "group" _ _

theorem completenessCheck_mode
    (compiled : completenessCheck runtime table column parameters = .ok (.compiled check)) :
    ∃ mode, parameters.getD "check_mode" (.str "null") = .str mode ∧
      rejects runtime (parameters.get "filter_expression") = .ok false ∧
        CompletenessMode runtime table column parameters mode check := by
  obtain ⟨known, found, compiled⟩ := bind_eq_ok compiled
  obtain ⟨member, compiled⟩ := check_passed compiled
  have valid : known = true := by simpa using member
  obtain ⟨mode, _, chosen⟩ := Value.eq_str_of_memberOf (valid ▸ found)
  obtain ⟨rejected, passed, compiled⟩ := bind_eq_ok compiled
  obtain ⟨accepted, compiled⟩ := check_passed compiled
  refine ⟨mode, chosen, eq_false_of_ne_true accepted ▸ passed, ?_⟩
  have named {name : String} (same : (Value.str mode).is name = true) : mode = name := by
    simpa [Value.is] using same
  rw [chosen] at compiled
  rcases ite_eq_iff.mp compiled with ⟨-, compiled⟩ | ⟨-, compiled⟩
  · exact completenessNull_mode compiled
  rcases ite_eq_iff.mp compiled with ⟨-, compiled⟩ | ⟨-, compiled⟩
  · cases compiled
    exact .blank mode
  rcases ite_eq_iff.mp compiled with ⟨same, compiled⟩ | ⟨-, compiled⟩
  · exact named same ▸ completenessPlaceholder_mode compiled
  rcases ite_eq_iff.mp compiled with ⟨same, compiled⟩ | ⟨-, compiled⟩
  · exact named same ▸ completenessConditional_mode compiled
  rcases ite_eq_iff.mp compiled with ⟨same, compiled⟩ | ⟨-, compiled⟩
  · exact named same ▸ completenessMultiField_mode compiled
  rcases ite_eq_iff.mp compiled with ⟨-, compiled⟩ | ⟨-, compiled⟩
  · exact completenessNull_mode compiled
  rcases ite_eq_iff.mp compiled with ⟨same, compiled⟩ | ⟨-, compiled⟩
  · exact named same ▸ completenessGroup_mode compiled
  · cases compiled

end Inversion

end CogniDQ.Rules
