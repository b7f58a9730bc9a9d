import CogniDQ.Rules.UniquenessJoins

/-!
# Similar values and keys that repeat

The modes that join a table with itself. Similar values are counted on the earlier and on the later
side of the pairs, rows whose key repeats within the time window once each.
-/

set_option autoImplicit false

namespace CogniDQ.Rules

open CogniDQ.Python CogniDQ.Sql

def beside {Row : Type} (pair : (Row × Nat) × (Row × Nat)) : Row × Option Row :=
  (pair.1.1, some pair.2.1)

/-! ## Similar values -/

/-- A compiled rule of the mode `fuzzy`, before it is written as SQL. -/
structure FuzzyCheck where
  table : Phrase
  column : String
  soundex : Bool
  threshold : String
  filter : Value

namespace FuzzyCheck

section Query

variable (runtime : Runtime) (check : FuzzyCheck)

def value (relation : String) : Expr := .column ⟨relation, check.column⟩

def similarity : Expr :=
  if check.soundex then
    .binary "CASE WHEN soundex(" "::text) = soundex(" "::text) THEN 1.0 ELSE 0.0 END" (check.value "a")
      (check.value "b")
  else
    .unary "1.0 - " ""
      (.binary "(" "::float / " ")"
        (.binary "levenshtein(" "::text, " "::text)" (check.value "a") (check.value "b"))
        (.binary "GREATEST(length(" "::text), length(" "::text), 1)" (check.value "a")
          (check.value "b")))

def similar : Predicate := .atom (.compare .greaterEqual check.similarity (.raw check.threshold))

def conditions : List Predicate :=
  presentIn "a" check.column :: presentIn "b" check.column :: filterCondition runtime check.filter

def total : Phrase :=
  "(SELECT COUNT(*) FROM " ++ check.table ++ " " ++ filterClause runtime check.filter ++ ")"

def duplicates : Phrase := "(SELECT COUNT(DISTINCT a_val) + COUNT(DISTINCT b_val) FROM fuzzy_matches)"

def query : Query Phrase where
  opening := "\n            WITH pairs AS (\n                SELECT a.ctid as a_ctid, b.ctid as b_ctid,\n                       a." ++
    name check.column ++ " as a_val, b." ++ name check.column ++ " as b_val,\n                       " ++ check.similarity.phrase ++
    " as similarity\n                FROM " ++ check.table ++ " a\n                CROSS JOIN " ++
    check.table ++ " b\n                WHERE a.ctid < b.ctid AND " ++
    Phrase.join " AND " ((check.conditions runtime).map Predicate.phrase) ++
    "\n            ),\n            fuzzy_matches AS (\n                SELECT * FROM pairs WHERE similarity >= " ++
    raw check.threshold ++ "\n            )\n            SELECT\n                "
  columns := uniquenessColumns
    [("total_rows", .rows (check.total runtime)),
      ("candidate_duplicate_pairs", .rows "(SELECT COUNT(*) FROM fuzzy_matches)"),
      ("duplicate_rows", .rows duplicates), ("duplicate_groups", .constant 0),
      ("max_group_size", .constant 0)]
    (.rows (check.total runtime)) (.rows duplicates)
  separator := ",\n                "
  closing := ""

end Query

section Rows

variable {Row V : Type} (runtime : Runtime) (engine : Engine Row V) (check : FuzzyCheck)
  (rows : List Row)

/-- The pairs of rows with similar values, the earlier row first. -/
def fuzzyMatches : List (Row × Option Row) :=
  (((selfJoin (fun earlier later => decide (earlier < later)) rows).map beside).filter fun pair =>
    admits (engine.paired "a" "b") pair (check.conditions runtime)).filter fun pair =>
      check.similar.holds (engine.paired "a" "b") pair

def matchedValues (relation : String) : List V :=
  (check.fuzzyMatches runtime engine rows).filterMap
    ((check.value relation).eval (engine.paired "a" "b"))

def countedTotal : Nat := (rows.filter (inFilter runtime engine check.filter)).length

def countedDuplicates : Nat :=
  distinctCount engine.equal (check.matchedValues runtime engine rows "a") +
    distinctCount engine.equal (check.matchedValues runtime engine rows "b")

def returned : Dict :=
  uniquenessRow
    [("total_rows", check.countedTotal runtime engine rows),
      ("candidate_duplicate_pairs", (check.fuzzyMatches runtime engine rows).length),
      ("duplicate_rows", check.countedDuplicates runtime engine rows), ("duplicate_groups", 0),
      ("max_group_size", 0)]
    (check.countedTotal runtime engine rows) (check.countedDuplicates runtime engine rows)

/-- The values that are similar to an earlier as well as to a later one are no more than the rows
beyond one for each value that is similar to any. -/
def Balanced : Prop :=
  commonCount engine.equal (check.matchedValues runtime engine rows "a")
      (check.matchedValues runtime engine rows "b") ≤
    check.countedTotal runtime engine rows -
      distinctCount engine.equal (check.matchedValues runtime engine rows "a" ++
        check.matchedValues runtime engine rows "b")

end Rows

section Bounds

variable {Row V : Type} {runtime : Runtime} {engine : Engine Row V} {check : FuzzyCheck}
  {rows : List Row}

private theorem mem_fuzzyMatches {pair : Row × Option Row}
    (member : pair ∈ check.fuzzyMatches runtime engine rows) :
    ∃ later, pair.2 = some later ∧ pair.1 ∈ rows ∧ later ∈ rows ∧
      inFilter runtime engine check.filter pair.1 = true := by
  obtain ⟨kept, _⟩ := List.mem_filter.mp member
  obtain ⟨listed, admitted⟩ := List.mem_filter.mp kept
  obtain ⟨⟨earlier, later⟩, joined, rfl⟩ := List.mem_map.mp listed
  obtain ⟨first, second⟩ := getElem?_of_selfJoin joined
  have split : check.conditions runtime =
      [presentIn "a" check.column, presentIn "b" check.column] ++ filterCondition runtime check.filter :=
    rfl
  rw [split, admits_append, admits_paired, Bool.and_eq_true] at admitted
  exact ⟨later.1, rfl, List.mem_of_getElem? first, List.mem_of_getElem? second, admitted.2⟩

private theorem matchedValues_covered (equating : Equating engine.equal)
    (constant : ∀ row other, inFilter runtime engine check.filter row =
      inFilter runtime engine check.filter other) :
    ∀ value ∈ check.matchedValues runtime engine rows "a" ++ check.matchedValues runtime engine rows "b",
      ((rows.filter (inFilter runtime engine check.filter)).filterMap fun row =>
        engine.cell row check.column).any (engine.equal value) = true := by
  have cover : ∀ row ∈ rows, inFilter runtime engine check.filter row = true → ∀ value,
      engine.cell row check.column = some value →
        ((rows.filter (inFilter runtime engine check.filter)).filterMap fun row =>
          engine.cell row check.column).any (engine.equal value) = true := by
    intro row member filtered value known
    refine List.any_eq_true.mpr ⟨value, List.mem_filterMap.mpr ⟨row, ?_, known⟩, equating.refl value⟩
    exact List.mem_filter.mpr ⟨member, filtered⟩
  intro value member
  rcases List.mem_append.mp member with earlier | later
  · obtain ⟨pair, matched, read⟩ := List.mem_filterMap.mp earlier
    obtain ⟨_, _, present, _, filtered⟩ := mem_fuzzyMatches matched
    exact cover pair.1 present filtered value read
  · obtain ⟨⟨row, partner⟩, matched, read⟩ := List.mem_filterMap.mp later
    obtain ⟨other, rfl, _, present, filtered⟩ := mem_fuzzyMatches matched
    exact cover other present ((constant other row).trans filtered) value read

theorem countedDuplicates_le_iff (equating : Equating engine.equal)
    (constant : ∀ row other, inFilter runtime engine check.filter row =
      inFilter runtime engine check.filter other) :
    check.countedDuplicates runtime engine rows ≤ check.countedTotal runtime engine rows ↔
      check.Balanced runtime engine rows := by
  have twice := distinctCount_append equating (check.matchedValues runtime engine rows "a")
    (check.matchedValues runtime engine rows "b")
  have within : distinctCount engine.equal (check.matchedValues runtime engine rows "a" ++
      check.matchedValues runtime engine rows "b") ≤ check.countedTotal runtime engine rows :=
    (distinctCount_le equating (matchedValues_covered equating constant)).trans
      (List.length_filterMap_le _ _)
  unfold countedDuplicates Balanced
  omega

end Bounds

end FuzzyCheck

/-! ## Keys that repeat -/

/-- A compiled rule of the mode `temporal`, before it is written as SQL. -/
structure TemporalCheck where
  table : Phrase
  columns : List String
  includes : Bool
  caseSensitive : Bool
  moment : String
  window : Int
  filter : Value

namespace TemporalCheck

section Query

variable (runtime : Runtime) (check : TemporalCheck)

def joinConds : List Predicate :=
  check.columns.map fun column =>
    .atom (.compare .equal (keyIn check.caseSensitive "a" column) (keyIn check.caseSensitive "b" column))

def nullConditions : List Predicate :=
  if check.includes then []
  else check.columns.flatMap fun column => [presentIn "a" column, presentIn "b" column]

def withinWindow : Predicate :=
  .atom (.compare .lessEqual
    (.binary "ABS(EXTRACT(EPOCH FROM (" "::timestamp - " "::timestamp)))" (.column ⟨"a", check.moment⟩)
      (.column ⟨"b", check.moment⟩)) (.whole check.window))

def conditions : List Predicate :=
  check.nullConditions ++ check.withinWindow :: filterCondition runtime check.filter

def total : Phrase :=
  "(SELECT COUNT(*) FROM " ++ check.table ++ " " ++ filterClause runtime check.filter ++ ")"

def duplicates : Phrase := "(SELECT COUNT(*) FROM temporal_dups)"

def query : Query Phrase where
  opening := "\n            WITH temporal_dups AS (\n                SELECT DISTINCT a.ctid as row_id\n                FROM " ++
    check.table ++ " a\n                JOIN " ++ check.table ++ " b ON " ++
    Phrase.join " AND " (check.joinConds.map Predicate.phrase) ++ "\n                WHERE " ++
    Phrase.join " AND " (Phrase.ofText "a.ctid <> b.ctid" ::
      (check.conditions runtime).map Predicate.phrase) ++
    "\n            )\n            SELECT\n                "
  columns := uniquenessColumns
    [("total_rows", .rows (check.total runtime)), ("duplicate_rows", .rows duplicates),
      ("duplicate_groups", .constant 0), ("max_group_size", .constant 0)]
    (.rows (check.total runtime)) (.rows duplicates)
  separator := ",\n                "
  closing := ""

end Query

section Rows

variable {Row V : Type} (runtime : Runtime) (engine : Engine Row V) (check : TemporalCheck)
  (rows : List Row)

def temporalPairs : List ((Row × Nat) × (Row × Nat)) :=
  ((selfJoin (fun first second => first != second) rows).filter fun pair =>
    admits (engine.paired "a" "b") (beside pair) check.joinConds).filter fun pair =>
      admits (engine.paired "a" "b") (beside pair) (check.conditions runtime)

def countedTotal : Nat := (rows.filter (inFilter runtime engine check.filter)).length

def countedDuplicates : Nat :=
  distinctCount (fun first second => first == second)
    ((check.temporalPairs runtime engine rows).map fun pair => pair.1.2)

def returned : Dict :=
  uniquenessRow
    [("total_rows", check.countedTotal runtime engine rows),
      ("duplicate_rows", check.countedDuplicates runtime engine rows), ("duplicate_groups", 0),
      ("max_group_size", 0)]
    (check.countedTotal runtime engine rows) (check.countedDuplicates runtime engine rows)

end Rows

section Bounds

variable {Row V : Type} {runtime : Runtime} {engine : Engine Row V} {check : TemporalCheck}
  {rows : List Row}

private theorem equating_positions : Equating fun first second : Nat => first == second where
  refl position := beq_self_eq_true position
  symm same := beq_iff_eq.mpr (beq_iff_eq.mp same).symm
  trans left right := beq_iff_eq.mpr ((beq_iff_eq.mp left).trans (beq_iff_eq.mp right))

theorem countedDuplicates_le :
    check.countedDuplicates runtime engine rows ≤ check.countedTotal runtime engine rows := by
  have positions : ((rows.zipIdx.filter fun entry =>
      inFilter runtime engine check.filter entry.1).map Prod.snd).length =
        check.countedTotal runtime engine rows := by
    have rowsOf := List.filter_map (f := Prod.fst)
      (p := inFilter runtime engine check.filter) (l := rows.zipIdx)
    rw [List.zipIdx_map_fst] at rowsOf
    unfold countedTotal
    rw [rowsOf, List.length_map, List.length_map]
    rfl
  rw [← positions]
  refine distinctCount_le equating_positions fun position member => ?_
  obtain ⟨pair, matched, rfl⟩ := List.mem_map.mp member
  obtain ⟨kept, admitted⟩ := List.mem_filter.mp matched
  obtain ⟨joined, _⟩ := List.mem_filter.mp kept
  have split : check.conditions runtime =
      (check.nullConditions ++ [check.withinWindow]) ++ filterCondition runtime check.filter := by
    simp [conditions]
  rw [split, admits_append, admits_paired, Bool.and_eq_true] at admitted
  obtain ⟨first, _⟩ := getElem?_of_selfJoin joined
  refine List.any_eq_true.mpr ⟨pair.1.2, List.mem_map_of_mem (List.mem_filter.mpr ⟨?_, admitted.2⟩),
    beq_self_eq_true _⟩
  exact List.mem_zipIdx_iff_getElem?.mpr first

end Bounds

end TemporalCheck

/-! ## Every compiled rule is a check -/

section Compiled

variable {runtime : Runtime} {table : Phrase} {column : String} {parameters : Dict}
  {compiled : Compiled}

def fuzzyCheck (runtime : Runtime) (table : Phrase) (parameters : Dict) (chosen : Value) :
    FuzzyCheck where
  table := table
  column := runtime.str chosen
  soundex := (parameters.getD "fuzzy_algorithm" (.str "levenshtein")).is "soundex"
  threshold := formatted runtime parameters "fuzzy_threshold" "0.85"
  filter := parameters.get "filter_expression"

theorem fuzzy_rule (success : uniquenessFuzzy runtime table column parameters = .ok (.compiled compiled)) :
    ∃ chosen, (keyColumns column parameters).first = .ok chosen ∧
      compiled.query.phrase.text =
        ((fuzzyCheck runtime table parameters chosen).query runtime).phrase.text := by
  obtain ⟨chosen, first, success⟩ := bind_eq_ok success
  obtain rfl := Outcome.compiled.inj (Except.ok.inj success)
  have similarity : (fuzzyCheck runtime table parameters chosen).similarity.phrase.chars =
      (if (parameters.getD "fuzzy_algorithm" (.str "levenshtein")).is "soundex" then
          "CASE WHEN " ++ ("soundex(a." ++ name (runtime.str chosen) ++ "::text) = soundex(b." ++
            name (runtime.str chosen) ++ "::text)") ++ " THEN 1.0 ELSE 0.0 END"
        else "1.0 - (levenshtein(a." ++ name (runtime.str chosen) ++ "::text, b." ++
          name (runtime.str chosen) ++ "::text)::float / GREATEST(length(a." ++ name (runtime.str chosen) ++
          "::text), length(b." ++ name (runtime.str chosen) ++ "::text), 1))" : Phrase).chars := by
    unfold FuzzyCheck.similarity fuzzyCheck
    split <;> simp [Expr.phrase, FuzzyCheck.value, ColumnRef.phrase]
  have conditions : (Phrase.join " AND " (((fuzzyCheck runtime table parameters chosen).conditions
      runtime).map Predicate.phrase)).chars =
        (Phrase.join " AND " (["a." ++ name (runtime.str chosen) ++ " IS NOT NULL",
          "b." ++ name (runtime.str chosen) ++ " IS NOT NULL"] ++
            filterPart runtime (parameters.get "filter_expression"))).chars := by
    rw [FuzzyCheck.conditions, List.map_cons, List.map_cons, phrase_filterCondition]
    rfl
  refine ⟨chosen, first, Query.text_congr ?_ rfl ?_ rfl⟩
  · simp only [FuzzyCheck.query, Phrase.chars_append, similarity, conditions]
    rfl
  · simp only [FuzzyCheck.query, FuzzyCheck.total, FuzzyCheck.duplicates, fuzzyCheck, filterClause_eq]

def temporalCheck (runtime : Runtime) (table : Phrase) (parameters : Dict) (columns : List Value)
    (window : Int) : TemporalCheck where
  table := table
  columns := columns.map runtime.str
  includes := (parameters.getD "null_handling" (.str "exclude")).is "include"
  caseSensitive := (parameters.getD "case_sensitive" (.bool true)).truthy
  moment := runtime.str (parameters.get "temporal_column")
  window := window
  filter := parameters.get "filter_expression"

private theorem chars_joinConds {check : TemporalCheck} :
    (Phrase.join " AND " (check.joinConds.map Predicate.phrase)).chars =
      (Phrase.join " AND " ((check.columns.map name).map fun chosen =>
        if check.caseSensitive then "a." ++ chosen ++ " = b." ++ chosen
        else "LOWER(a." ++ chosen ++ "::text) = LOWER(b." ++ chosen ++ "::text)")).chars := by
  refine Phrase.chars_join_congr ?_
  rw [TemporalCheck.joinConds, List.map_map, List.map_map, List.map_map, List.map_map]
  refine List.map_congr_left fun column _ => ?_
  simp only [Function.comp_apply, keyIn]
  cases check.caseSensitive <;>
    simp [Predicate.phrase, Atomic.phrase, Expr.phrase, ColumnRef.phrase, Comparison.operator]

private theorem chars_temporalConditions {check : TemporalCheck} :
    (Phrase.join " AND " (Phrase.ofText "a.ctid <> b.ctid" ::
        (check.conditions runtime).map Predicate.phrase)).chars =
      (Phrase.join " AND " (Phrase.ofText "a.ctid <> b.ctid" ::
        (if check.includes then []
          else (check.columns.map name).flatMap fun chosen =>
            ["a." ++ chosen ++ " IS NOT NULL", "b." ++ chosen ++ " IS NOT NULL"]) ++
        ("ABS(EXTRACT(EPOCH FROM (a." ++ name check.moment ++ "::timestamp - b." ++ name check.moment ++
          "::timestamp))) <= " ++ Phrase.ofText (toString check.window)) ::
        filterPart runtime check.filter)).chars := by
  refine Phrase.chars_join_congr ?_
  have nulls : check.nullConditions.map Predicate.phrase =
      if check.includes then []
      else (check.columns.map name).flatMap fun chosen : Phrase =>
        (["a." ++ chosen ++ " IS NOT NULL", "b." ++ chosen ++ " IS NOT NULL"] : List Phrase) := by
    unfold TemporalCheck.nullConditions
    cases check.includes with
    | true => rfl
    | false =>
        simp only [Bool.false_eq_true, if_false, List.map_flatMap, List.flatMap_map]
        rfl
  have window : check.withinWindow.phrase.chars =
      ("ABS(EXTRACT(EPOCH FROM (a." ++ name check.moment ++ "::timestamp - b." ++ name check.moment ++
        "::timestamp))) <= " ++ Phrase.ofText (toString check.window) : Phrase).chars := by
    simp [TemporalCheck.withinWindow, Predicate.phrase, Atomic.phrase, Expr.phrase, ColumnRef.phrase,
      Comparison.operator]
  rw [TemporalCheck.conditions, List.map_append, nulls, List.map_cons, List.map_cons,
    phrase_filterCondition]
  simp only [List.map_cons, List.map_append, List.cons_append, window]

theorem temporal_rule
    (success : uniquenessTemporal runtime table column parameters = .ok (.compiled compiled)) :
    ∃ columns window, (keyColumns column parameters).elements = .ok columns ∧
      parseTemporalWindow runtime (parameters.get "temporal_window") = .ok window ∧ 0 ≤ window ∧
        compiled.query.phrase.text =
          ((temporalCheck runtime table parameters columns window).query runtime).phrase.text := by
  simp only [uniquenessTemporal] at success
  split at success
  · cases success
  · split at success
    · cases success
    · obtain ⟨window, parsed, success⟩ := bind_eq_ok success
      split at success
      · cases success
      · rename_i known
        obtain ⟨columns, elements, success⟩ := bind_eq_ok success
        obtain rfl := Outcome.compiled.inj (Except.ok.inj success)
        refine ⟨columns, window, elements, parsed, by omega, Query.text_congr ?_ rfl ?_ rfl⟩
        · simp only [TemporalCheck.query, Phrase.chars_append, chars_joinConds, chars_temporalConditions]
          rfl
        · simp only [TemporalCheck.query, TemporalCheck.total, TemporalCheck.duplicates, temporalCheck,
            filterClause_eq]

end Compiled

end CogniDQ.Rules
