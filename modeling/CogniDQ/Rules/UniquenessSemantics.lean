import CogniDQ.Rules.Uniqueness
import CogniDQ.Rules.ValidityCheck

/-!
# What the uniqueness queries count

The modes that group the rows of one table by a key. The groups are those of the
selected rows, and the violation query looks its keys up for the rows of the whole
table.
-/

set_option autoImplicit false

namespace CogniDQ.Rules

open CogniDQ.Python CogniDQ.Sql

/-- A compiled rule that groups rows by a key, before it is written as SQL. -/
structure UniquenessCheck where
  table : Phrase
  cte : String
  single : Bool
  scopes : List String
  columns : List String
  includes : Bool
  caseSensitive : Bool
  filter : Value

/-- Whether a tuple equals one of the found ones, as IN compares them. -/
def tupleIn {V : Type} [DecidableEq V] (tuple : List (Option V)) (found : List (List (Option V))) :
    Ternary :=
  Ternary.any (found.map fun other =>
    Ternary.all (List.zipWith (fun left right : Option V =>
      left.bind fun first => right.map fun second => decide (first = second)) tuple other))

private theorem all_zipWith_eq_true {V : Type} [DecidableEq V] {tuple other : List (Option V)}
    (same : tuple.length = other.length) :
    Ternary.all (List.zipWith (fun left right : Option V =>
      left.bind fun first => right.map fun second => decide (first = second)) tuple other) = some true ↔
      tuple = other ∧ none ∉ tuple := by
  induction tuple generalizing other with
  | nil =>
      obtain rfl := List.length_eq_zero_iff.mp same.symm
      simp [Ternary.all]
  | cons left tuple ih =>
      cases other with
      | nil => cases same
      | cons right other =>
          have joined : ∀ value values, Ternary.all (value :: values) = value.and (Ternary.all values) :=
            fun _ _ => rfl
          rw [List.zipWith_cons_cons, joined, Ternary.and_eq_true, ih (Nat.succ.inj same)]
          cases left <;> cases right <;> simp [and_assoc]

private theorem tupleIn_eq_true {V : Type} [DecidableEq V] {tuple : List (Option V)}
    {found : List (List (Option V))} (same : ∀ other ∈ found, tuple.length = other.length) :
    tupleIn tuple found = some true ↔ tuple ∈ found ∧ none ∉ tuple := by
  rw [tupleIn, Ternary.any_eq_true, List.mem_map]
  constructor
  · intro ⟨other, member, equal⟩
    obtain ⟨rfl, whole⟩ := (all_zipWith_eq_true (same other member)).mp equal
    exact ⟨member, whole⟩
  · intro ⟨member, whole⟩
    exact ⟨tuple, member, (all_zipWith_eq_true rfl).mpr ⟨rfl, whole⟩⟩

namespace UniquenessCheck

section Query

variable (runtime : Runtime) (check : UniquenessCheck)

def keyExpr (column : String) : Expr :=
  let chosen := if check.caseSensitive then Expr.cell column else .unary "LOWER(" "::text)" (.cell column)
  if check.includes then .textOr chosen "__NULL__" else chosen

def keys : List Expr := check.scopes.map Expr.cell ++ check.columns.map check.keyExpr

def keyList : Phrase := Phrase.join ", " (check.keys.map Expr.phrase)

def nullConditions : List Predicate := if check.includes then [] else presence check.columns

def conditions : List Predicate := check.nullConditions ++ filterCondition runtime check.filter

/-- In the grouping query `duplicate_count` is ambiguous beside a key column of that name. -/
def legible : Bool :=
  check.single || !(check.scopes ++ if check.includes || !check.caseSensitive then [] else
    check.columns).contains "duplicate_count"

def compiled : Outcome Compiled :=
  duplicatesCompiled check.table check.cte
    (if check.single then check.keyList ++ " as key_val" else check.keyList) check.keyList
    (if check.single then check.keyList else "(" ++ check.keyList ++ ")")
    (whereAll ((check.conditions runtime).map Predicate.phrase))

/-- The texts are those of the check, and end where they are meant to. -/
structure ReadsAs (compiled : Compiled) : Prop where
  made : check.compiled runtime = .compiled compiled
  closed : compiled.closed = true

end Query

section Rows

variable {Row V : Type} [DecidableEq V] (runtime : Runtime) (engine : Engine Row V)
  (check : UniquenessCheck)

def key (row : Row) : List (Option V) := check.keys.map (Expr.eval engine row)

def selected (rows : List Row) : List Row := engine.selected (check.conditions runtime) rows

def duplicated (rows : List Row) (key : List (Option V)) : Bool :=
  1 < (check.selected runtime engine rows).countP fun row => decide (check.key engine row = key)

def duplicateKeys (rows : List Row) : List (List (Option V)) :=
  ((check.selected runtime engine rows).map (check.key engine)).dedup.filter
    (check.duplicated runtime engine rows)

def duplicateRows (rows : List Row) : List Row :=
  (check.selected runtime engine rows).filter fun row =>
    check.duplicated runtime engine rows (check.key engine row)

/-- The rows that the query counts as duplicates, if it returns a row. -/
def countedRows (rows : List Row) : Option (List Row) :=
  if check.legible then some (check.duplicateRows runtime engine rows) else none

def violationRows (rows : List Row) : List Row :=
  rows.filter fun row =>
    tupleIn (check.key engine row) (check.duplicateKeys runtime engine rows) == some true

end Rows

/-! ## Keys -/

section Keys

variable {Row V : Type} [DecidableEq V] {runtime : Runtime} {engine : Engine Row V}
  {check : UniquenessCheck}

omit [DecidableEq V] in
private theorem length_key (row : Row) : (check.key engine row).length = check.keys.length := by
  simp [key]

private theorem mem_duplicateKeys {rows : List Row} {key : List (Option V)} :
    key ∈ check.duplicateKeys runtime engine rows ↔ check.duplicated runtime engine rows key = true := by
  simp only [duplicateKeys, List.mem_filter, List.mem_dedup, List.mem_map, and_iff_right_iff_imp]
  intro several
  have found : 0 < (check.selected runtime engine rows).countP fun row =>
      decide (check.key engine row = key) := by
    have more : 1 < (check.selected runtime engine rows).countP fun row =>
        decide (check.key engine row = key) := by simpa [duplicated] using several
    omega
  obtain ⟨row, member, same⟩ := List.countP_pos_iff.mp found
  exact ⟨row, member, by simpa using same⟩

end Keys

/-! ## Evidence -/

section Evidence

variable {Row V : Type} [DecidableEq V] {runtime : Runtime} {engine : Engine Row V}
  {check : UniquenessCheck}

/-- When the violation query returns the rows that are counted: no row outside the
filter has the key of a duplicate, and no duplicate has a NULL in a scope column. -/
structure Exact (runtime : Runtime) (engine : Engine Row V) (check : UniquenessCheck)
    (rows : List Row) : Prop where
  inFilter : ∀ row ∈ rows, check.duplicated runtime engine rows (check.key engine row) = true →
    none ∉ check.key engine row → admits engine row (filterCondition runtime check.filter) = true
  scopes : ∀ row ∈ check.duplicateRows runtime engine rows, ∀ scope ∈ check.scopes,
    (Expr.cell scope).isNull engine row = false

omit [DecidableEq V] in
theorem isNull_keyExpr (column : String) (row : Row) :
    (check.keyExpr column).isNull engine row =
      (!check.includes && (Expr.cell column).isNull engine row) := by
  unfold keyExpr
  cases check.includes
  · cases check.caseSensitive
    · exact Expr.isNull_unary
    · rfl
  · rfl

omit [DecidableEq V] in
theorem admits_nullConditions {row : Row} :
    admits engine row check.nullConditions = true ↔
      ∀ column ∈ check.columns, (check.keyExpr column).isNull engine row = false := by
  simp only [isNull_keyExpr]
  unfold nullConditions
  cases check.includes with
  | true => simp [admits_iff]
  | false => simp [admits_presence]

omit [DecidableEq V] in
private theorem none_not_mem_key {row : Row} :
    none ∉ check.key engine row ↔
      (∀ scope ∈ check.scopes, (Expr.cell scope).isNull engine row = false) ∧
        admits engine row check.nullConditions = true := by
  rw [admits_nullConditions]
  simp only [key, keys, List.map_append, List.mem_append, List.map_map, List.mem_map, not_or,
    Function.comp_apply, not_exists, not_and, Expr.isNull, Option.isNone_eq_false_iff,
    Option.isSome_iff_ne_none]

private theorem mem_duplicateRows {rows : List Row} {row : Row} :
    row ∈ check.duplicateRows runtime engine rows ↔
      row ∈ rows ∧ check.duplicated runtime engine rows (check.key engine row) = true ∧
        admits engine row check.nullConditions = true ∧
          admits engine row (filterCondition runtime check.filter) = true := by
  rw [duplicateRows, selected, Engine.selected, List.mem_filter, List.mem_filter, conditions,
    admits_append, Bool.and_eq_true]
  exact ⟨fun ⟨⟨member, kept⟩, several⟩ => ⟨member, several, kept⟩,
    fun ⟨member, several, kept⟩ => ⟨⟨member, kept⟩, several⟩⟩

private theorem mem_violationRows {rows : List Row} {row : Row} :
    row ∈ check.violationRows runtime engine rows ↔
      row ∈ rows ∧ check.duplicated runtime engine rows (check.key engine row) = true ∧
        none ∉ check.key engine row := by
  rw [violationRows, List.mem_filter, beq_iff_eq, tupleIn_eq_true fun other member => ?_,
    mem_duplicateKeys]
  obtain ⟨_, _, rfl⟩ := List.mem_map.mp (List.mem_dedup.mp (List.mem_filter.mp member).1)
  rw [length_key, length_key]

private theorem violationRows_eq_iff_mem (rows : List Row) :
    check.violationRows runtime engine rows = check.duplicateRows runtime engine rows ↔
      ∀ row, row ∈ check.violationRows runtime engine rows ↔
        row ∈ check.duplicateRows runtime engine rows := by
  constructor
  · intro same row
    rw [same]
  · intro same
    rw [violationRows, duplicateRows, selected, Engine.selected, List.filter_filter] at same ⊢
    refine List.filter_congr fun row member => ?_
    have both := same row
    rw [List.mem_filter, List.mem_filter] at both
    rw [Bool.eq_iff_iff]
    simpa only [member, true_and] using both

theorem violationRows_eq_iff (rows : List Row) :
    check.violationRows runtime engine rows = check.duplicateRows runtime engine rows ↔
      check.Exact runtime engine rows := by
  rw [violationRows_eq_iff_mem]
  constructor
  · intro same
    refine ⟨fun row member several whole => ?_, fun row counted => ?_⟩
    · exact (mem_duplicateRows.mp ((same row).mp (mem_violationRows.mpr ⟨member, several, whole⟩))).2.2.2
    · exact (none_not_mem_key.mp (mem_violationRows.mp ((same row).mpr counted)).2.2).1
  · intro exact row
    constructor
    · intro returned
      obtain ⟨member, several, whole⟩ := mem_violationRows.mp returned
      exact mem_duplicateRows.mpr
        ⟨member, several, (none_not_mem_key.mp whole).2, exact.inFilter row member several whole⟩
    · intro counted
      obtain ⟨member, several, present, _⟩ := mem_duplicateRows.mp counted
      exact mem_violationRows.mpr
        ⟨member, several, none_not_mem_key.mpr ⟨exact.scopes row counted, present⟩⟩

end Evidence

end UniquenessCheck

/-! ## Every compiled rule is a check -/

section Inversion

variable {runtime : Runtime} {table : Phrase} {column : String} {parameters : Dict}
  {compiled : Compiled}

def groupingCheck (table : Phrase) (parameters : Dict) (cte : String) (single : Bool)
    (scopes columns : List String) : UniquenessCheck where
  table := table
  cte := cte
  single := single
  scopes := scopes
  columns := columns
  includes := (parameters.getD "null_handling" (.str "exclude")).is "include"
  caseSensitive := (parameters.getD "case_sensitive" (.bool true)).truthy
  filter := parameters.get "filter_expression"

/-- The checks of the modes that group rows: by one column, by several, and within the
values of scope columns. -/
inductive UniquenessMode (table : Phrase) (parameters : Dict) : String → UniquenessCheck → Prop where
  | exact (mode column : String) :
      UniquenessMode table parameters mode (groupingCheck table parameters "duplicates" true [] [column])
  | composite (columns : List String) :
      UniquenessMode table parameters "composite"
        (groupingCheck table parameters "duplicates" false [] columns)
  | scoped (scopes columns : List String) :
      UniquenessMode table parameters "scoped"
        (groupingCheck table parameters "scoped_dups" false scopes columns)

private theorem keyExpr_phrase (check : UniquenessCheck) (chosen : String) :
    (check.keyExpr chosen).phrase =
      let expr : Phrase :=
        if check.caseSensitive then name chosen else "LOWER(" ++ name chosen ++ "::text)"
      if check.includes then "COALESCE(" ++ expr ++ "::text, " ++ literal "__NULL__" "__NULL__" ++ ")"
      else expr := by
  unfold UniquenessCheck.keyExpr
  cases check.includes <;> cases check.caseSensitive <;> rfl

theorem uniquenessNullHandlingSql_eq {cte : String} {single : Bool} {scopes columns : List String}
    (given : columns ≠ []) :
    let check := groupingCheck table parameters cte single scopes columns
    uniquenessNullHandlingSql columns (parameters.getD "null_handling" (.str "exclude"))
        (parameters.getD "case_sensitive" (.bool true)).truthy =
      (columns.map fun column => (check.keyExpr column).phrase,
        (check.nullConditions.map Predicate.phrase).head?) := by
  intro check
  simp only [keyExpr_phrase]
  have includes : check.includes =
    (parameters.getD "null_handling" (.str "exclude")).is "include" := rfl
  have caseSensitive : check.caseSensitive =
    (parameters.getD "case_sensitive" (.bool true)).truthy := rfl
  unfold uniquenessNullHandlingSql UniquenessCheck.nullConditions
  rw [← includes, ← caseSensitive]
  cases check.includes with
  | true => simp [List.map_map, Function.comp_def]
  | false =>
      cases columns with
      | nil => exact absurd rfl given
      | cons first rest =>
          have shape : check.columns = first :: rest := rfl
          simp only [Bool.false_eq_true, if_false, shape, phrase_presence]
          rfl

theorem keyList_groupingCheck {cte : String} {single : Bool} {scopes columns : List String} :
    let check := groupingCheck table parameters cte single scopes columns
    check.keyList = Phrase.join ", "
      (scopes.map name ++ columns.map fun column => (check.keyExpr column).phrase) := by
  intro check
  simp only [UniquenessCheck.keyList, UniquenessCheck.keys, List.map_append, List.map_map]
  rfl

theorem wherePhrase_groupingCheck {cte : String} {single : Bool} {scopes columns : List String} :
    let check := groupingCheck table parameters cte single scopes columns
    whereAll (((check.nullConditions.map Predicate.phrase).head?).toList ++
        filterPart runtime (parameters.get "filter_expression")) =
      whereAll ((check.conditions runtime).map Predicate.phrase) := by
  intro check
  rw [UniquenessCheck.conditions, List.map_append, phrase_filterCondition]
  unfold UniquenessCheck.nullConditions
  cases check.includes with
  | true => rfl
  | false => cases check.columns <;> rfl

theorem compiled_groupingCheck {cte : String} {single : Bool} {scopes columns : List String}
    (given : columns ≠ []) :
    (groupingCheck table parameters cte single scopes columns).compiled runtime =
      let found := uniquenessNullHandlingSql columns
        (parameters.getD "null_handling" (.str "exclude"))
        (parameters.getD "case_sensitive" (.bool true)).truthy
      let keyList := Phrase.join ", " (scopes.map name ++ found.1)
      duplicatesCompiled table cte (if single then keyList ++ " as key_val" else keyList) keyList
        (if single then keyList else "(" ++ keyList ++ ")")
        (whereAll (found.2.toList ++ filterPart runtime (parameters.get "filter_expression"))) := by
  rw [uniquenessNullHandlingSql_eq given]
  dsimp only
  rw [wherePhrase_groupingCheck, ← keyList_groupingCheck]
  rfl

theorem uniquenessExact_check {mode : String}
    (success : uniquenessExact runtime table column parameters = .ok (.compiled compiled)) :
    ∃ check, UniquenessMode table parameters mode check ∧ check.compiled runtime = .compiled compiled := by
  unfold uniquenessExact at success
  obtain ⟨chosen, _, success⟩ := bind_eq_ok success
  refine ⟨_, .exact mode (runtime.str chosen), ?_⟩
  exact (compiled_groupingCheck (List.cons_ne_nil _ _)).trans (Except.ok.inj success)

theorem keyColumns_ne_nil {columns : List Value}
    (elements : (keyColumns column parameters).elements = .ok columns) : columns ≠ [] := by
  intro empty
  rw [empty] at elements
  unfold keyColumns Value.or at elements
  split at elements
  · rename_i given
    rw [Value.truthy_of_no_elements elements] at given
    cases given
  · cases elements

theorem uniquenessComposite_check
    (success : uniquenessComposite runtime table column parameters = .ok (.compiled compiled)) :
    ∃ check, UniquenessMode table parameters "composite" check ∧
      check.compiled runtime = .compiled compiled := by
  unfold uniquenessComposite at success
  obtain ⟨columns, elements, success⟩ := bind_eq_ok success
  dsimp only at success
  split at success
  · exact uniquenessExact_check success
  · refine ⟨_, .composite (columns.map runtime.str), ?_⟩
    refine (compiled_groupingCheck ?_).trans (Except.ok.inj success)
    simpa using keyColumns_ne_nil elements

theorem uniquenessScoped_check
    (success : uniquenessScoped runtime table column parameters = .ok (.compiled compiled)) :
    ∃ check, UniquenessMode table parameters "scoped" check ∧
      check.compiled runtime = .compiled compiled := by
  unfold uniquenessScoped at success
  dsimp only at success
  split at success
  · cases success
  · obtain ⟨columns, elements, success⟩ := bind_eq_ok success
    obtain ⟨scopes, _, success⟩ := bind_eq_ok success
    refine ⟨_, .scoped (scopes.map runtime.str) (columns.map runtime.str), ?_⟩
    refine (compiled_groupingCheck ?_).trans ?_
    · simpa using keyColumns_ne_nil elements
    · rw [List.map_map]
      exact Except.ok.inj success

def groupingModes : List String := ["exact", "composite", "scoped"]

theorem compileUniquenessRule_check {inferred mode : String}
    (success : compileUniquenessRule runtime table column parameters = .ok (.compiled compiled))
    (inference : inferUniquenessMode parameters = .ok inferred)
    (chosen : parameters.getD "uniqueness_mode" (.str inferred) = .str mode)
    (grouping : mode ∈ groupingModes) :
    ∃ check, UniquenessMode table parameters mode check ∧ check.compiled runtime = .compiled compiled := by
  obtain ⟨found, same, success⟩ := bind_eq_ok success
  obtain rfl := Except.ok.inj (same.symm.trans inference)
  dsimp only at success
  rw [chosen] at success
  obtain ⟨known, _, success⟩ := bind_eq_ok success
  split at success
  · cases success
  · obtain ⟨rejected, _, success⟩ := bind_eq_ok success
    split at success
    · cases success
    · simp only [groupingModes, List.mem_cons, List.not_mem_nil, or_false] at grouping
      obtain rfl | rfl | rfl := grouping
      · exact uniquenessExact_check success
      · exact uniquenessComposite_check success
      · exact uniquenessScoped_check success

end Inversion

end CogniDQ.Rules
