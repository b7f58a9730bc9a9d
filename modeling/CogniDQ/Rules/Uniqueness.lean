import CogniDQ.Rules.Outcome

/-!
# Uniqueness rules

The uniqueness modes. Rows with the same key are grouped in a query of their own,
and the counts are subqueries over its groups.
-/

set_option autoImplicit false

namespace CogniDQ.Rules

open CogniDQ.Python CogniDQ.Sql

def validUniquenessModes : List String :=
  ["composite", "cross_dataset", "exact", "fuzzy", "scoped", "temporal"]

def inferUniquenessMode (parameters : Dict) : Except Exn String :=
  if (parameters.get "scope_columns").truthy then .ok "scoped"
  else if (parameters.get "cross_dataset_name").truthy then .ok "cross_dataset"
  else if (parameters.get "fuzzy_algorithm").truthy then .ok "fuzzy"
  else if (parameters.get "temporal_window").truthy then .ok "temporal"
  else
    ((parameters.getD "columns" (.list [])).elements).map fun columns =>
      if columns.length > 1 then "composite" else "exact"

def uniquenessErrorResult {α : Type} (message : String) : Outcome α := .failed .flagged message

/-- The columns of `_uniqueness_*`, each with its key in the result. -/
def uniquenessColumns (columns : List (String × Tally Phrase)) (total duplicates : Tally Phrase) :
    List (Column Phrase) :=
  (columns.map fun (key, size) => .named " as " key (.tally size)) ++
    [.named " as " "uniqueness_rate" (.restRate total duplicates)]

section Helpers

variable (runtime : Runtime) (table : Phrase) (column : String) (parameters : Dict)

/-- `parameters.get("columns", [column])`, or the column where that is empty. -/
def keyColumns : Value :=
  (parameters.getD "columns" (.list [.str column])).or (.list [.str column])

/-- What the rows are grouped by for each column, and the condition that leaves NULLs
out where they are not included. -/
def uniquenessNullHandlingSql (columns : List String) (nullHandling : Value)
    (caseSensitive : Bool) : List Phrase × Option Phrase :=
  let exprs := columns.map fun chosen =>
    if caseSensitive then name chosen else "LOWER(" ++ name chosen ++ "::text)"
  if nullHandling.is "include" then
    (exprs.map fun expr => "COALESCE(" ++ expr ++ "::text, " ++ literal "__NULL__" "__NULL__" ++ ")",
      none)
  else
    (exprs, some (Phrase.join " AND " (columns.map fun chosen => name chosen ++ " IS NOT NULL")))

/-- The query that groups the rows by their key, and the violation query, which looks
for the rows of its groups. -/
def duplicatesCompiled (cte : String) (selected grouped matched wherePhrase : Phrase) :
    Outcome Compiled :=
  let total : Phrase := "(SELECT COUNT(*) FROM " ++ table ++ " " ++ wherePhrase ++ ")"
  let groups : Phrase := Phrase.ofText ("(SELECT COUNT(*) FROM " ++ cte ++ ")")
  let duplicates : Phrase :=
    Phrase.ofText ("(SELECT COALESCE(SUM(duplicate_count), 0) FROM " ++ cte ++ ")")
  let largest : Phrase :=
    Phrase.ofText ("(SELECT COALESCE(MAX(duplicate_count), 0) FROM " ++ cte ++ ")")
  let query : Query Phrase := {
    opening := "\n            WITH " ++ Phrase.ofText cte ++ " AS (\n                SELECT " ++ selected ++
      ", COUNT(*) as duplicate_count\n                FROM " ++ table ++ "\n                " ++
      wherePhrase ++ "\n                GROUP BY " ++ grouped ++
      "\n                HAVING COUNT(*) > 1\n            )\n            SELECT\n                "
    columns := uniquenessColumns
      [("total_rows", .rows total), ("duplicate_groups", .rows groups),
        ("duplicate_rows", .rows duplicates), ("max_group_size", .rows largest)]
      (.rows total) (.rows duplicates)
    separator := ",\n                "
    closing := "" }
  .compiled {
    query
    mysql := some query.phrase.text
    violation := "\n            SELECT t.*\n            FROM " ++ table ++ " t\n            WHERE " ++
      matched ++ " IN (\n                SELECT " ++ grouped ++ "\n                FROM " ++ table ++
      "\n                " ++ wherePhrase ++ "\n                GROUP BY " ++ grouped ++
      "\n                HAVING COUNT(*) > 1\n            )" }

def uniquenessExact : Except Exn (Outcome Compiled) := do
  let chosen := runtime.str (← (keyColumns column parameters).first)
  let (keys, nullWhere) := uniquenessNullHandlingSql [chosen]
    (parameters.getD "null_handling" (.str "exclude"))
    (parameters.getD "case_sensitive" (.bool true)).truthy
  let key := Phrase.join ", " keys
  let wherePhrase := whereAll (nullWhere.toList ++ filterPart runtime (parameters.get "filter_expression"))
  pure (duplicatesCompiled table "duplicates" (key ++ " as key_val") key key wherePhrase)

def uniquenessComposite : Except Exn (Outcome Compiled) := do
  let columns ← (keyColumns column parameters).elements
  if columns.length ≤ 1 then uniquenessExact runtime table column parameters
  else
    let (keys, nullWhere) := uniquenessNullHandlingSql (columns.map runtime.str)
      (parameters.getD "null_handling" (.str "exclude"))
      (parameters.getD "case_sensitive" (.bool true)).truthy
    let keyList := Phrase.join ", " keys
    let wherePhrase :=
      whereAll (nullWhere.toList ++ filterPart runtime (parameters.get "filter_expression"))
    pure (duplicatesCompiled table "duplicates" keyList keyList ("(" ++ keyList ++ ")") wherePhrase)

def uniquenessScoped : Except Exn (Outcome Compiled) := do
  let scopeColumns := parameters.getD "scope_columns" (.list [])
  if !scopeColumns.truthy then
    pure (uniquenessErrorResult "Scoped uniqueness requires scope_columns")
  else
    let columns ← (keyColumns column parameters).elements
    let (keys, nullWhere) := uniquenessNullHandlingSql (columns.map runtime.str)
      (parameters.getD "null_handling" (.str "exclude"))
      (parameters.getD "case_sensitive" (.bool true)).truthy
    let scopes ← scopeColumns.elements
    let allGroup := Phrase.join ", " ((scopes.map fun scope => name (runtime.str scope)) ++ keys)
    let wherePhrase :=
      whereAll (nullWhere.toList ++ filterPart runtime (parameters.get "filter_expression"))
    pure (duplicatesCompiled table "scoped_dups" allGroup allGroup ("(" ++ allGroup ++ ")") wherePhrase)

def filterWhere : Phrase := whereAll (filterPart runtime (parameters.get "filter_expression"))

def uniquenessCrossDataset : Except Exn (Outcome Compiled) := do
  let crossName := parameters.get "cross_dataset_name"
  let crossColumn := parameters.get "cross_dataset_column"
  if !crossName.truthy then
    pure (uniquenessErrorResult "cross_dataset mode requires cross_dataset_name")
  else if !crossColumn.truthy then
    pure (uniquenessErrorResult "cross_dataset mode requires cross_dataset_column")
  else
    let chosen := name (runtime.str (← (keyColumns column parameters).first))
    let other := name (runtime.str crossColumn)
    let caseSensitive := (parameters.getD "case_sensitive" (.bool true)).truthy
    let joinCond : Phrase :=
      if caseSensitive then "t." ++ chosen ++ " = c." ++ other
      else "LOWER(t." ++ chosen ++ "::text) = LOWER(c." ++ other ++ "::text)"
    let key : Phrase := if caseSensitive then "t." ++ chosen else "LOWER(t." ++ chosen ++ "::text)"
    let wherePhrase := whereAll (["t." ++ chosen ++ " IS NOT NULL"] ++
      filterPart runtime (parameters.get "filter_expression"))
    let joined : Phrase := table ++ " t\n                INNER JOIN " ++ raw (runtime.str crossName) ++
      " c ON " ++ joinCond
    let total : Phrase :=
      "(SELECT COUNT(*) FROM " ++ table ++ " t " ++ filterWhere runtime parameters ++ ")"
    let duplicates : Phrase := "(SELECT COUNT(*) FROM " ++ table ++ " t WHERE " ++ key ++
      " IN (SELECT key_val FROM overlaps))"
    let query : Query Phrase := {
      opening := "\n            WITH overlaps AS (\n                SELECT DISTINCT " ++ key ++
        " as key_val\n                FROM " ++ joined ++ "\n                " ++ wherePhrase ++
        "\n            )\n            SELECT\n                "
      columns := uniquenessColumns
        [("total_rows", .rows total), ("duplicate_groups", .rows "(SELECT COUNT(*) FROM overlaps)"),
          ("duplicate_rows", .rows duplicates), ("max_group_size", .constant 1)]
        (.rows total) (.rows duplicates)
      separator := ",\n                "
      closing := "" }
    pure (.compiled {
      query
      mysql := some query.phrase.text
      violation := "\n            SELECT t.*\n            FROM " ++ table ++ " t\n            INNER JOIN " ++
        raw (runtime.str crossName) ++ " c ON " ++ joinCond ++ "\n            " ++ wherePhrase })

def uniquenessFuzzy : Except Exn (Outcome Compiled) := do
  let chosen := name (runtime.str (← (keyColumns column parameters).first))
  let algorithm := parameters.getD "fuzzy_algorithm" (.str "levenshtein")
  let threshold := raw (formatted runtime parameters "fuzzy_threshold" "0.85")
  let wherePhrase := Phrase.join " AND "
    (["a." ++ chosen ++ " IS NOT NULL", "b." ++ chosen ++ " IS NOT NULL"] ++
      filterPart runtime (parameters.get "filter_expression"))
  let soundex : Phrase := "soundex(a." ++ chosen ++ "::text) = soundex(b." ++ chosen ++ "::text)"
  let levenshtein : Phrase := "1.0 - (levenshtein(a." ++ chosen ++ "::text, b." ++ chosen ++
    "::text)::float / GREATEST(length(a." ++ chosen ++ "::text), length(b." ++ chosen ++ "::text), 1))"
  let similarityExpr : Phrase :=
    if algorithm.is "soundex" then "CASE WHEN " ++ soundex ++ " THEN 1.0 ELSE 0.0 END" else levenshtein
  let similarityCond : Phrase :=
    if algorithm.is "soundex" then soundex else levenshtein ++ " >= " ++ threshold
  let total : Phrase := "(SELECT COUNT(*) FROM " ++ table ++ " " ++ filterWhere runtime parameters ++ ")"
  let duplicates : Phrase := "(SELECT COUNT(DISTINCT a_val) + COUNT(DISTINCT b_val) FROM fuzzy_matches)"
  let query : Query Phrase := {
    opening := "\n            WITH pairs AS (\n                SELECT a.ctid as a_ctid, b.ctid as b_ctid,\n                       a." ++
      chosen ++ " as a_val, b." ++ chosen ++ " as b_val,\n                       " ++ similarityExpr ++
      " as similarity\n                FROM " ++ table ++ " a\n                CROSS JOIN " ++ table ++
      " b\n                WHERE a.ctid < b.ctid AND " ++ wherePhrase ++
      "\n            ),\n            fuzzy_matches AS (\n                SELECT * FROM pairs WHERE similarity >= " ++
      threshold ++ "\n            )\n            SELECT\n                "
    columns := uniquenessColumns
      [("total_rows", .rows total),
        ("candidate_duplicate_pairs", .rows "(SELECT COUNT(*) FROM fuzzy_matches)"),
        ("duplicate_rows", .rows duplicates), ("duplicate_groups", .constant 0),
        ("max_group_size", .constant 0)]
      (.rows total) (.rows duplicates)
    separator := ",\n                "
    closing := "" }
  pure (.compiled {
    query
    mysql := some query.phrase.text
    violation := "\n            SELECT a.*, b." ++ chosen ++
      " as matched_value,\n                   " ++ similarityExpr ++
      " as similarity\n            FROM " ++ table ++ " a\n            CROSS JOIN " ++ table ++
      " b\n            WHERE a.ctid < b.ctid AND " ++ wherePhrase ++ "\n              AND " ++
      similarityCond })

/-- The digits that `int` reads, and that an integer is written with, at most. -/
def maxStrDigits : Nat := 4300

/-- The seconds in a day, an hour, a minute or a second, by the letter for the unit. -/
def windowUnit (unit : Char) : Option Nat :=
  if unit = 'd' then some 86400
  else if unit = 'h' then some 3600
  else if unit = 'm' then some 60
  else if unit = 's' then some 1
  else none

/-- `_parse_temporal_window`: a number of days, hours, minutes or seconds, in seconds. -/
def parseTemporalWindow (window : Value) : Except Exn Int :=
  let text := runtime.strip (runtime.str window).toList
  let digits := text.dropLast
  if digits.isEmpty || !digits.all runtime.isDigit then .ok (-1)
  else
    match text.getLast?.bind windowUnit with
    | some seconds =>
        if maxStrDigits < digits.length then
          .error (.valueError "Exceeds the limit for integer string conversion")
        else .ok (runtime.int digits * seconds)
    | none => .ok (-1)

def uniquenessTemporal : Except Exn (Outcome Compiled) := do
  let temporalColumn := parameters.get "temporal_column"
  let temporalWindow := parameters.get "temporal_window"
  if !temporalColumn.truthy then
    pure (uniquenessErrorResult "temporal mode requires temporal_column")
  else if !temporalWindow.truthy then
    pure (uniquenessErrorResult "temporal mode requires temporal_window")
  else
    let windowSeconds ← parseTemporalWindow runtime temporalWindow
    if windowSeconds < 0 then
      pure (uniquenessErrorResult ("Invalid temporal_window format: '" ++ runtime.str temporalWindow ++
        "'. Use Nd, Nh, Nm, or Ns."))
    else
      let columns := ((← (keyColumns column parameters).elements).map runtime.str).map name
      let caseSensitive := (parameters.getD "case_sensitive" (.bool true)).truthy
      let keyJoin := Phrase.join " AND " (columns.map fun chosen =>
        if caseSensitive then "a." ++ chosen ++ " = b." ++ chosen
        else "LOWER(a." ++ chosen ++ "::text) = LOWER(b." ++ chosen ++ "::text)")
      let nulls : List Phrase :=
        if (parameters.getD "null_handling" (.str "exclude")).is "include" then []
        else columns.flatMap fun chosen =>
          ["a." ++ chosen ++ " IS NOT NULL", "b." ++ chosen ++ " IS NOT NULL"]
      let moment := name (runtime.str temporalColumn)
      let wherePhrase := Phrase.join " AND "
        (Phrase.ofText "a.ctid <> b.ctid" :: nulls ++
          ("ABS(EXTRACT(EPOCH FROM (a." ++ moment ++ "::timestamp - b." ++ moment ++
            "::timestamp))) <= " ++ Phrase.ofText (toString windowSeconds)) ::
          filterPart runtime (parameters.get "filter_expression"))
      let total : Phrase := "(SELECT COUNT(*) FROM " ++ table ++ " " ++ filterWhere runtime parameters ++ ")"
      let duplicates : Phrase := "(SELECT COUNT(*) FROM temporal_dups)"
      let query : Query Phrase := {
        opening := "\n            WITH temporal_dups AS (\n                SELECT DISTINCT a.ctid as row_id\n                FROM " ++
          table ++ " a\n                JOIN " ++ table ++ " b ON " ++ keyJoin ++
          "\n                WHERE " ++ wherePhrase ++ "\n            )\n            SELECT\n                "
        columns := uniquenessColumns
          [("total_rows", .rows total), ("duplicate_rows", .rows duplicates),
            ("duplicate_groups", .constant 0), ("max_group_size", .constant 0)]
          (.rows total) (.rows duplicates)
        separator := ",\n                "
        closing := "" }
      pure (.compiled {
        query
        mysql := some query.phrase.text
        violation := "\n            SELECT DISTINCT a.*\n            FROM " ++ table ++
          " a\n            JOIN " ++ table ++ " b ON " ++ keyJoin ++ "\n            WHERE " ++ wherePhrase })

def compileUniquenessRule : Except Exn (Outcome Compiled) := do
  let inferred ← inferUniquenessMode parameters
  let uniquenessMode := parameters.getD "uniqueness_mode" (.str inferred)
  if !(← uniquenessMode.memberOf validUniquenessModes) then
    pure (uniquenessErrorResult ("Unknown uniqueness_mode '" ++ runtime.str uniquenessMode ++
      "'. Allowed: " ++ join ", " validUniquenessModes))
  else if ← rejects runtime (parameters.get "filter_expression") then
    pure (uniquenessErrorResult "Filter expression contains forbidden SQL constructs")
  else if uniquenessMode.is "exact" then uniquenessExact runtime table column parameters
  else if uniquenessMode.is "composite" then uniquenessComposite runtime table column parameters
  else if uniquenessMode.is "scoped" then uniquenessScoped runtime table column parameters
  else if uniquenessMode.is "cross_dataset" then uniquenessCrossDataset runtime table column parameters
  else if uniquenessMode.is "fuzzy" then uniquenessFuzzy runtime table column parameters
  else uniquenessTemporal runtime table column parameters

end Helpers

end CogniDQ.Rules
