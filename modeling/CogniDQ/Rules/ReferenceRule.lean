import CogniDQ.Rules.AccuracySides
import CogniDQ.Sql.Join

/-!
# Values held against a reference table

An accuracy rule joins each row with the rows of a reference table that have the same
keys, and counts the pairs. It counts rows where no row has two partners.
-/

set_option autoImplicit false

namespace CogniDQ.Rules

open CogniDQ.Python CogniDQ.Sql

def referenceTypes : List String := ["reference_comparison", "trusted_source", "tolerated_deviation"]

/-- How values are to be compared with those of a trusted source. -/
inductive MatchType where
  | exact
  | caseInsensitive
  | trimmed
deriving DecidableEq

def MatchType.agrees {Row V : Type} (engine : Engine Row V) (actual expected : V) : MatchType → Bool
  | .exact => engine.equal actual expected
  | .caseInsensitive =>
      engine.equal (engine.unary "LOWER(" ")" actual) (engine.unary "LOWER(" ")" expected)
  | .trimmed => engine.equal (engine.unary "TRIM(" ")" actual) (engine.unary "TRIM(" ")" expected)

/-- The match type of a rule with a trusted source. No compiler reads it. -/
def matchType (parameters : Dict) : Option MatchType :=
  if (accuracyType parameters).is "trusted_source" then
    if (parameters.get "match_type").is "case_insensitive" then some .caseInsensitive
    else if (parameters.get "match_type").is "trimmed" then some .trimmed
    else some .exact
  else none

/-- What a rule that compares with a reference table is compiled from. -/
structure ReferenceRule where
  runtime : Runtime
  table : Phrase
  column : String
  parameters : Dict
  keys : List String

namespace ReferenceRule

variable (rule : ReferenceRule)

def referenceColumn : String :=
  rule.runtime.str (rule.parameters.getD "reference_column" (.str rule.column))

def actual : Expr := .column ⟨"a", rule.column⟩

def expected : Expr := .column ⟨"b", rule.referenceColumn⟩

def tolerance : Tolerance :=
  accuracyTolerance rule.runtime rule.actual rule.expected
    (rule.parameters.getD "tolerance_type" (.str "none")) (rule.parameters.get "tolerance_value")

def sides : Sides := guardedSides rule.parameters rule.actual rule.tolerance

def nullHandling : Value := accuracyNullHandling rule.parameters

def conditions : List Predicate :=
  if rule.nullHandling.is "skip" then [.atom (.isNotNull rule.actual)] else []

def accurate : Predicate := .and (.atom (.isNotNull rule.expected)) rule.sides.passing

def inaccurate : Predicate := .and (.atom (.isNotNull rule.expected)) rule.sides.failing

def source : Phrase :=
  strippedAccuracyFrom rule.runtime
    (rule.table ++ " a LEFT JOIN " ++
      raw (rule.runtime.str (rule.parameters.get "reference_dataset")) ++ " b ON " ++
        Phrase.join " AND " ((equalKeys "a" "b" rule.keys).map Predicate.phrase))
    (whereAll (rule.conditions.map Predicate.phrase))

def query : Query Argument where
  opening := "SELECT "
  columns :=
    [.named " AS " "total_rows" (.tally (.count .rows)),
      .named " AS " "verified_rows" (.tally (.count (.value rule.expected))),
      .named " AS " "unverifiable_rows" (.tally (.minus (.count .rows) (.count (.value rule.expected)))),
      .named " AS " "accurate_rows" (.tally (.count (.cases rule.accurate))),
      .named " AS " "inaccurate_rows" (.tally (.count (.cases rule.inaccurate)))]
  separator := ", "
  closing := rule.source

def Renders (compiled : Compiled) : Prop :=
  compiled.query.phrase.text = (rule.query.map Argument.phrase).phrase.text

section Rows

variable {L R V : Type} (engine : Engine L V) (cell : R → String → Option V) (table : List L)
  (reference : List R)

def kept : List L :=
  table.filter fun row =>
    !(rule.nullHandling.is "skip" && (engine.column row ⟨"", rule.column⟩).isNone)

def partners (row : L) : List R := Sql.partners (engine.sameKeys cell rule.keys) reference row

def pairs (row : L) : List (L × Option R) := extended (engine.sameKeys cell rule.keys) reference row

/-- The result of the query: over the pairs that its conditions join and keep. -/
def result : Dict :=
  let joined := engine.joined "a" "b" cell
  let on (row : L) (partner : R) := admits joined (row, some partner) (equalKeys "a" "b" rule.keys)
  rule.query.row (joined.valuation (joined.selected rule.conditions (leftJoin on reference table)))

def isAccurate (pair : L × Option R) : Bool := rule.accurate.holds (engine.joined "a" "b" cell) pair

def isInaccurate (pair : L × Option R) : Bool := rule.inaccurate.holds (engine.joined "a" "b" cell) pair

def isUnverifiable (pair : L × Option R) : Bool :=
  rule.expected.isNull (engine.joined "a" "b" cell) pair

/-- A value is equal to its reference, under the match type of a trusted source or else
under the tolerance. A NULL is where it passes. -/
def agrees (row : L) (partner : R) : Bool :=
  match engine.column row ⟨"", rule.column⟩, cell partner rule.referenceColumn with
  | _, none => false
  | none, some _ => rule.nullHandling.is "pass"
  | some actual, some expected =>
      match matchType rule.parameters with
      | some kind => kind.agrees engine actual expected
      | none => rule.tolerance.matched.holds (engine.joined "a" "b" cell) (row, some partner)

/-- Every checked row that is kept is counted once, and as accurate where it has one
partner and agrees with it. -/
structure CountsChecked : Prop where
  bounded : ∃ total ≤ (table.length : Int),
    (rule.result engine cell table reference).get "total_rows" = .int total
  total : (rule.result engine cell table reference).get "total_rows" =
    .int (rule.kept engine table).length
  accurate : (rule.result engine cell table reference).get "accurate_rows" =
    .int ((rule.kept engine table).map fun row =>
      (rule.pairs engine cell reference row).countP (rule.isAccurate engine cell)).sum
  inaccurate : (rule.result engine cell table reference).get "inaccurate_rows" =
    .int ((rule.kept engine table).map fun row =>
      (rule.pairs engine cell reference row).countP (rule.isInaccurate engine cell)).sum
  unverifiable : (rule.result engine cell table reference).get "unverifiable_rows" =
    .int ((rule.kept engine table).map fun row =>
      (rule.pairs engine cell reference row).countP (rule.isUnverifiable engine cell)).sum
  once : ∀ row ∈ rule.kept engine table,
    let pairs := rule.pairs engine cell reference row
    pairs.countP (rule.isAccurate engine cell) + pairs.countP (rule.isInaccurate engine cell) +
      pairs.countP (rule.isUnverifiable engine cell) = 1
  agreeing : ∀ row ∈ rule.kept engine table, ∀ partner,
    rule.partners engine cell reference row = [partner] →
      rule.isAccurate engine cell (row, some partner) = rule.agrees engine cell row partner

/-- No kept row has two partners. With its partner a row has values that can be
compared, and the comparison is that of the match type. -/
structure Determined : Prop where
  single : ∀ row ∈ rule.kept engine table, (rule.partners engine cell reference row).length ≤ 1
  comparable : ∀ row ∈ rule.kept engine table,
    ∀ partner ∈ rule.partners engine cell reference row,
      (cell partner rule.referenceColumn).isSome = true →
        rule.sides.decided (engine.joined "a" "b" cell) (row, some partner) = true
  matching : ∀ kind, matchType rule.parameters = some kind → ∀ row ∈ rule.kept engine table,
    ∀ partner ∈ rule.partners engine cell reference row, ∀ actual expected,
      engine.column row ⟨"", rule.column⟩ = some actual →
        cell partner rule.referenceColumn = some expected →
          rule.tolerance.matched.holds (engine.joined "a" "b" cell) (row, some partner) =
            kind.agrees engine actual expected

end Rows

/-! ## What the pairs are counted as -/

section Pairs

variable {L R V : Type} {engine : Engine L V} {cell : R → String → Option V} {table : List L}
  {reference : List R} {rule}

private theorem admits_conditions (pair : L × Option R) :
    admits (engine.joined "a" "b" cell) pair rule.conditions =
      !(rule.nullHandling.is "skip" && (engine.column pair.1 ⟨"", rule.column⟩).isNone) := by
  rw [Bool.eq_iff_iff, admits_iff]
  unfold conditions
  split
  · next skips => simp [skips, actual, isNull_left]
  · next keeps => simp [keeps]

theorem result_eq :
    rule.result engine cell table reference =
      rule.query.row ((engine.joined "a" "b" cell).valuation
        (leftJoin (engine.sameKeys cell rule.keys) reference (rule.kept engine table))) := by
  have apart : "b" ≠ "a" := by decide
  unfold result kept Engine.selected
  dsimp only
  rw [← filter_leftJoin]
  simp only [admits_equalKeys apart, admits_conditions]

theorem result_total :
    (rule.result engine cell table reference).get "total_rows" =
      .int (leftJoin (engine.sameKeys cell rule.keys) reference (rule.kept engine table)).length := by
  rw [result_eq, ← List.countP_true]
  rfl

theorem result_accurate :
    (rule.result engine cell table reference).get "accurate_rows" =
      .int ((rule.kept engine table).map fun row =>
        (rule.pairs engine cell reference row).countP (rule.isAccurate engine cell)).sum := by
  unfold pairs
  rw [result_eq, ← countP_leftJoin]
  rfl

theorem result_inaccurate :
    (rule.result engine cell table reference).get "inaccurate_rows" =
      .int ((rule.kept engine table).map fun row =>
        (rule.pairs engine cell reference row).countP (rule.isInaccurate engine cell)).sum := by
  unfold pairs
  rw [result_eq, ← countP_leftJoin]
  rfl

theorem result_unverifiable :
    (rule.result engine cell table reference).get "unverifiable_rows" =
      .int ((rule.kept engine table).map fun row =>
        (rule.pairs engine cell reference row).countP (rule.isUnverifiable engine cell)).sum := by
  unfold pairs
  rw [result_eq, ← countP_leftJoin, ← countP_sub_countP_not]
  rfl

theorem isAccurate_eq (pair : L × Option R) :
    rule.isAccurate engine cell pair =
      (!rule.isUnverifiable engine cell pair &&
        rule.sides.passes (engine.joined "a" "b" cell) pair) := by
  simp [isAccurate, accurate, isUnverifiable, Sides.passes]

private theorem isInaccurate_eq (pair : L × Option R) :
    rule.isInaccurate engine cell pair =
      (!rule.isUnverifiable engine cell pair &&
        rule.sides.fails (engine.joined "a" "b" cell) pair) := by
  simp [isInaccurate, inaccurate, isUnverifiable, Sides.fails]

theorem isUnverifiable_some (row : L) (partner : R) :
    rule.isUnverifiable engine cell (row, some partner) = (cell partner rule.referenceColumn).isNone := by
  simp [isUnverifiable, expected, Expr.isNull, Expr.eval, Engine.joined]

theorem isUnverifiable_none (row : L) : rule.isUnverifiable engine cell (row, none) = true :=
  isNull_right_of_none (by decide)

private theorem made : rule.sides.Made (engine.joined "a" "b" cell) :=
  made_guardedSides known_accuracyTolerance

/-- A pair is counted once exactly if there is nothing to hold the value against, or the
comparison is decided. -/
theorem counted_once_iff (pair : L × Option R) :
    [pair].countP (rule.isAccurate engine cell) + [pair].countP (rule.isInaccurate engine cell) +
        [pair].countP (rule.isUnverifiable engine cell) = 1 ↔
      rule.isUnverifiable engine cell pair = true ∨
        rule.sides.decided (engine.joined "a" "b" cell) pair = true := by
  have made : rule.sides.Made (engine.joined "a" "b" cell) := rule.made
  have apart := made.apart pair
  simp only [List.countP_singleton, isAccurate_eq, isInaccurate_eq, made.decided_iff]
  cases rule.isUnverifiable engine cell pair
  · cases passes : rule.sides.passes (engine.joined "a" "b" cell) pair <;>
      cases fails : rule.sides.fails (engine.joined "a" "b" cell) pair <;> simp_all
  · simp

private theorem actual_mem_needs : Need.value rule.actual ∈ rule.tolerance.needs := by
  unfold tolerance accuracyTolerance
  split_ifs
  · exact List.mem_cons_self
  · exact List.mem_cons_self
  · exact List.mem_cons_self

theorem matched_of_null {pair : L × Option R} (absent : engine.column pair.1 ⟨"", rule.column⟩ = none) :
    rule.tolerance.matched.holds (engine.joined "a" "b" cell) pair = false := by
  refine Predicate.holds_of_unknown ?_
  have unmet : Need.met (engine.joined "a" "b" cell) pair (.value rule.actual) = false := by
    simp [Need.met, actual, isNull_left, absent]
  unfold tolerance
  rw [known_accuracyTolerance]
  exact List.all_eq_false.mpr ⟨_, actual_mem_needs, by simp [unmet]⟩

private theorem passes_eq (pair : L × Option R) :
    rule.sides.passes (engine.joined "a" "b" cell) pair =
      (rule.nullHandling.is "pass" && (engine.column pair.1 ⟨"", rule.column⟩).isNone ||
        rule.tolerance.matched.holds (engine.joined "a" "b" cell) pair) := by
  have absent : rule.actual.isNull (engine.joined "a" "b" cell) pair =
      (engine.column pair.1 ⟨"", rule.column⟩).isNone := isNull_left
  unfold sides guardedSides Sides.passes nullHandling
  split
  · next lets =>
      rw [lets, Bool.true_and, ← absent, Bool.eq_iff_iff, Bool.or_eq_true]
      simp [Predicate.holds, Predicate.eval, Ternary.or_eq_true]
  · next keeps => simp [keeps]

theorem isAccurate_eq_agrees_iff (row : L) (partner : R) :
    rule.isAccurate engine cell (row, some partner) = rule.agrees engine cell row partner ↔
      ∀ kind, matchType rule.parameters = some kind → ∀ actual expected,
        engine.column row ⟨"", rule.column⟩ = some actual →
          cell partner rule.referenceColumn = some expected →
            rule.tolerance.matched.holds (engine.joined "a" "b" cell) (row, some partner) =
              kind.agrees engine actual expected := by
  rw [isAccurate_eq, isUnverifiable_some, passes_eq]
  unfold agrees
  cases found : cell partner rule.referenceColumn with
  | none => simp
  | some expected =>
      cases held : engine.column row ⟨"", rule.column⟩ with
      | none =>
          have unmatched : rule.tolerance.matched.holds (engine.joined "a" "b" cell)
              (row, some partner) = false := matched_of_null held
          simp [unmatched]
      | some actual => cases matchType rule.parameters <;> simp

end Pairs

end ReferenceRule

end CogniDQ.Rules
