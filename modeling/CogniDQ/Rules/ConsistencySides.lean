import CogniDQ.Rules.Consistency
import CogniDQ.Rules.SidedCheck

/-!
# The sides of consistency rules

Comparisons within a row: what the user wrote, a formula held against a column under a
tolerance, and two columns in an order.
-/

set_option autoImplicit false

namespace CogniDQ.Rules

open CogniDQ.Python CogniDQ.Sql

/-! ## Tolerances -/

structure Tolerance where
  comparison : Comparison
  left : Expr
  right : Expr
  needs : List Need

namespace Tolerance

def matched (tolerance : Tolerance) : Predicate :=
  .atom (.compare tolerance.comparison tolerance.left tolerance.right)

def mismatched (tolerance : Tolerance) : Predicate :=
  .atom (.compare tolerance.comparison.negation tolerance.left tolerance.right)

def deviationExpr (actual expected : Expr) : Expr :=
  .unary "ABS(" ")" (.binary "" " - " "" (.paren actual) (.paren expected))

def divisorExpr (expected : Expr) : Expr := .nullIfZero (.unary "ABS(" ")" (.paren expected))

def exact (actual expected : Expr) : Tolerance where
  comparison := .equal
  left := .paren actual
  right := .paren expected
  needs := [.value actual, .value expected]

def absolute (actual expected : Expr) (tolerance : String) : Tolerance where
  comparison := .lessEqual
  left := deviationExpr actual expected
  right := .raw tolerance
  needs := [.value actual, .value expected, .value (.raw tolerance)]

def percentage (actual expected : Expr) (tolerance : String) : Tolerance where
  comparison := .lessEqual
  left := .binary "" " * " "" (.binary "" " / " "" (deviationExpr actual expected) (divisorExpr expected))
    (.whole 100)
  right := .raw tolerance
  needs := [.value actual, .value expected, .value (divisorExpr expected), .value (.raw tolerance)]

variable {Row V : Type} {engine : Engine Row V} {row : Row}

theorem known_exact (actual expected : Expr) :
    ((exact actual expected).matched.eval engine row).isSome =
      allMet engine row (exact actual expected).needs := by
  refine (Comparison.eval_isSome _ _ _).trans ?_
  simp [exact, allMet, Need.met]

theorem known_absolute (actual expected : Expr) (tolerance : String) :
    ((absolute actual expected tolerance).matched.eval engine row).isSome =
      allMet engine row (absolute actual expected tolerance).needs := by
  refine (Comparison.eval_isSome _ _ _).trans ?_
  simp [absolute, deviationExpr, allMet, Need.met, Expr.isNull_unary, Expr.isNull_binary, Bool.and_assoc]

theorem known_percentage (actual expected : Expr) (tolerance : String) :
    ((percentage actual expected tolerance).matched.eval engine row).isSome =
      allMet engine row (percentage actual expected tolerance).needs := by
  have number : (Expr.whole 100).isNull engine row = false := rfl
  refine (Comparison.eval_isSome _ _ _).trans ?_
  simp [percentage, deviationExpr, allMet, Need.met, Expr.isNull_unary, Expr.isNull_binary, number,
    Bool.and_assoc]

theorem chars_exact (actual expected : Expr) :
    (exact actual expected).matched.phrase.chars =
        (exactMatch actual.phrase expected.phrase).1.chars ∧
      (exact actual expected).mismatched.phrase.chars =
        (exactMatch actual.phrase expected.phrase).2.chars := by
  constructor
  · simp [exact, matched, exactMatch, Predicate.phrase, Atomic.phrase, Expr.phrase,
      Comparison.operator]
  · simp [exact, mismatched, exactMatch, Predicate.phrase, Atomic.phrase, Expr.phrase,
      Comparison.operator, Comparison.negation]

theorem chars_absolute (actual expected : Expr) (tolerance : String) :
    (absolute actual expected tolerance).matched.phrase.chars =
        (withinTolerance (deviation actual.phrase expected.phrase) tolerance).1.chars ∧
      (absolute actual expected tolerance).mismatched.phrase.chars =
        (withinTolerance (deviation actual.phrase expected.phrase) tolerance).2.chars := by
  constructor
  · simp [absolute, matched, withinTolerance, deviation, deviationExpr, Predicate.phrase,
      Atomic.phrase, Expr.phrase, Comparison.operator]
  · simp [absolute, mismatched, withinTolerance, deviation, deviationExpr, Predicate.phrase,
      Atomic.phrase, Expr.phrase, Comparison.operator, Comparison.negation]

theorem chars_percentage (actual expected : Expr) (tolerance : String) :
    (percentage actual expected tolerance).matched.phrase.chars =
        (withinTolerance (relativeDeviation actual.phrase expected.phrase) tolerance).1.chars ∧
      (percentage actual expected tolerance).mismatched.phrase.chars =
        (withinTolerance (relativeDeviation actual.phrase expected.phrase) tolerance).2.chars := by
  have percent : Int.repr 100 = "100" := rfl
  constructor
  · simp [percentage, matched, withinTolerance, relativeDeviation, deviation, deviationExpr,
      divisorExpr, Predicate.phrase, Atomic.phrase, Expr.phrase, Comparison.operator, percent]
  · simp [percentage, mismatched, withinTolerance, relativeDeviation, deviation, deviationExpr,
      divisorExpr, Predicate.phrase, Atomic.phrase, Expr.phrase, Comparison.operator,
      Comparison.negation, percent]

end Tolerance

def consistencyTolerance (runtime : Runtime) (actual expected : Expr)
    (toleranceType toleranceValue : Value) : Tolerance :=
  if toleranceType.is "none" then .exact actual expected
  else if toleranceType.is "percentage" then
    .percentage actual expected (formattedOr runtime toleranceValue "1.0")
  else .absolute actual expected (formattedOr runtime toleranceValue "0.01")

section Tolerances

variable {Row V : Type} {engine : Engine Row V} {runtime : Runtime} {actual expected : Expr}
  {toleranceType toleranceValue : Value}

private theorem known_consistencyTolerance (row : Row) :
    let tolerance := consistencyTolerance runtime actual expected toleranceType toleranceValue
    (tolerance.matched.eval engine row).isSome = allMet engine row tolerance.needs := by
  unfold consistencyTolerance
  dsimp only
  split
  · exact Tolerance.known_exact _ _
  · split
    · exact Tolerance.known_percentage _ _ _
    · exact Tolerance.known_absolute _ _ _

private theorem chars_consistencyTolerance :
    let tolerance := consistencyTolerance runtime actual expected toleranceType toleranceValue
    let written := consistencyToleranceSql runtime actual.phrase expected.phrase toleranceType toleranceValue
    tolerance.matched.phrase.chars = written.1.chars ∧ tolerance.mismatched.phrase.chars = written.2.chars := by
  unfold consistencyTolerance consistencyToleranceSql
  dsimp only
  split
  · exact Tolerance.chars_exact _ _
  · split
    · exact Tolerance.chars_percentage _ _ _
    · exact Tolerance.chars_absolute _ _ _

end Tolerances

/-! ## The types -/

section Sides

variable (parameters : Dict)

def consistencyNullHandling : Value := parameters.getD "null_handling" (.str "fail")

def coalescedSides (matched failing : Predicate) (needs : List Need) : Sides where
  passing := .orTrue matched
  failing := failing
  needs := needs
  cover := .coalesced

def intraRecordSides (matched : Predicate) : Sides :=
  if (consistencyNullHandling parameters).is "pass" then
    { passing := .paren (.orTrue matched), failing := .notParen (.orTrue matched)
      needs := [.condition matched], cover := .coalesced }
  else
    { passing := .paren matched, failing := .notParen matched, needs := [.condition matched]
      cover := .plain }

def formulaSides (tolerance : Tolerance) : Sides :=
  if (consistencyNullHandling parameters).is "pass" then
    coalescedSides tolerance.matched (.notOrTrue (.orTrue tolerance.matched)) tolerance.needs
  else
    { passing := tolerance.matched, failing := tolerance.mismatched, needs := tolerance.needs
      cover := .plain }

def temporalSides (column other : String) (comparison : Comparison) : Sides :=
  let compared := Predicate.atom (.chosen comparison (.cell column) (.cell other))
  let needs : List Need := [.value (.cell column), .value (.cell other)]
  if (consistencyNullHandling parameters).is "pass" then
    coalescedSides compared (.notOrTrue compared) needs
  else
    { passing := compared
      failing := .atom (.chosen comparison.negation (.cell column) (.cell other)), needs, cover := .plain }

/-- The sides of the types that compare within a row. -/
inductive ConsistencyMode (runtime : Runtime) (parameters : Dict) (column : String) :
    String → Sides → Prop where
  | expression (expression : String) :
      ConsistencyMode runtime parameters column "intra_record"
        (intraRecordSides parameters (.atom (.supplied expression)))
  | columns (operator other : String) :
      ConsistencyMode runtime parameters column "intra_record"
        (intraRecordSides parameters (.atom (.related operator (.cell column) (.cell other))))
  | formula (expected expression side : String) :
      ConsistencyMode runtime parameters column "formula"
        (formulaSides parameters (consistencyTolerance runtime (.cell expected)
          (.formula expression side) (parameters.getD "tolerance_type" (.str "absolute"))
          (parameters.get "tolerance_value")))
  | temporal (other : String) (comparison : Comparison) :
      ConsistencyMode runtime parameters column "temporal" (temporalSides parameters column other comparison)

end Sides

section Made

variable {Row V : Type} {engine : Engine Row V} {parameters : Dict}

private theorem made_intraRecordSides (matched : Predicate) :
    (intraRecordSides parameters matched).Made engine := by
  have known : ∀ row, (matched.eval engine row).isSome = allMet engine row [.condition matched] := by
    intro row
    simp [allMet, Need.met]
  unfold intraRecordSides
  split
  · exact .coalesced (fun row => matched.eval engine row) known (fun _ => rfl) fun _ => rfl
  · exact .plain (fun row => matched.eval engine row) known (fun _ => rfl) fun _ => rfl

private theorem made_formulaSides {tolerance : Tolerance}
    (known : ∀ row, (tolerance.matched.eval engine row).isSome = allMet engine row tolerance.needs) :
    (formulaSides parameters tolerance).Made engine := by
  unfold formulaSides
  split
  · refine .coalesced (fun row => tolerance.matched.eval engine row) known (fun _ => rfl) fun row => ?_
    rfl
  · refine .plain (fun row => tolerance.matched.eval engine row) known (fun _ => rfl) fun row => ?_
    exact Comparison.eval_negation _ _ _

private theorem made_temporalSides (column other : String) (comparison : Comparison) :
    (temporalSides parameters column other comparison).Made engine := by
  have known : ∀ row, (comparison.eval engine row (.cell column) (.cell other)).isSome =
      allMet engine row [.value (.cell column), .value (.cell other)] := by
    intro row
    rw [Comparison.eval_isSome]
    simp [allMet, Need.met]
  unfold temporalSides
  dsimp only
  split
  · exact .coalesced (fun row => comparison.eval engine row (.cell column) (.cell other)) known
      (fun _ => rfl) fun _ => rfl
  · refine .plain (fun row => comparison.eval engine row (.cell column) (.cell other)) known
      (fun _ => rfl) fun row => ?_
    exact Comparison.eval_negation _ _ _

theorem ConsistencyMode.made {runtime : Runtime} {column type : String} {sides : Sides}
    (mode : ConsistencyMode runtime parameters column type sides) : sides.Made engine := by
  cases mode with
  | expression expression => exact made_intraRecordSides _
  | columns operator other => exact made_intraRecordSides _
  | formula expected expression side => exact made_formulaSides known_consistencyTolerance
  | temporal other comparison => exact made_temporalSides _ _ _

end Made

/-! ## Every compiled rule has such sides -/

section Inversion

variable {runtime : Runtime} {table : Phrase} {column : String} {parameters : Dict}
  {compiled : Compiled}

/-- The check of a rule that skips rows with a NULL in the columns. -/
def consistencyCheckOf (runtime : Runtime) (table : Phrase) (parameters : Dict) (columns : List String)
    (sides : Sides) : SidedCheck where
  dimension := .consistency
  opening := "SELECT "
  sides := sides
  closing wherePhrase := " FROM " ++ table ++ " " ++ wherePhrase
  conditions :=
    (if (consistencyNullHandling parameters).is "skip" then presence columns else []) ++
      filterCondition runtime (parameters.get "filter_expression")
  nullHandling := consistencyNullHandling parameters

def IsConsistencyCheck (runtime : Runtime) (table : Phrase) (column : String) (parameters : Dict)
    (type : String) (compiled : Compiled) : Prop :=
  ∃ columns sides, ConsistencyMode runtime parameters column type sides ∧
    (consistencyCheckOf runtime table parameters columns sides).Renders compiled ∧
      (consistencyCheckOf runtime table parameters columns sides).Suits

theorem renders_of_consistency {columns : List String} {sides : Sides}
    {consistent inconsistent : Phrase} {nulls : List Phrase} {violation : Phrase}
    (passes : sides.passing.phrase.chars = consistent.chars)
    (fails : sides.failing.phrase.chars = inconsistent.chars)
    (skipped : ((if (consistencyNullHandling parameters).is "skip" then presence columns else []).map
      Predicate.phrase).map Phrase.chars = nulls.map Phrase.chars) :
    (consistencyCheckOf runtime table parameters columns sides).Renders {
      query := {
        opening := "SELECT "
        columns := consistencyColumns (caseWhen consistent) (caseWhen inconsistent)
        separator := ", "
        closing := " FROM " ++ table ++ " " ++
          whereAll (nulls ++ filterPart runtime (parameters.get "filter_expression")) }
      mysql := none
      violation } := by
  have kept : (whereAll ((consistencyCheckOf runtime table parameters columns sides).conditions.map
        Predicate.phrase)).chars =
      (whereAll (nulls ++ filterPart runtime (parameters.get "filter_expression"))).chars := by
    refine chars_whereAll_congr ?_
    rw [consistencyCheckOf, List.map_append, List.map_append, List.map_append, skipped,
      phrase_filterCondition]
  refine SidedCheck.text_queryOf (consistencyCheckOf runtime table parameters columns sides)
    passes fails ?_
  have closing : ∀ wherePhrase,
      ((consistencyCheckOf runtime table parameters columns sides).closing wherePhrase).chars =
        (" FROM " ++ table ++ " " : Phrase).chars ++ wherePhrase.chars := fun _ => Phrase.chars_append
  rw [closing, closing, kept]

private theorem skippedNulls_presence {nulls : List Phrase}
    (read : skippedNulls runtime column parameters = .ok nulls) :
    ∃ columns, (if (consistencyNullHandling parameters).is "skip" then presence columns else []).map
      Predicate.phrase = nulls := by
  unfold skippedNulls at read
  unfold consistencyNullHandling
  split at read
  · rename_i skips
    cases found : (parameters.getD "columns" (.list [.str column])).elements with
    | error exn =>
        rw [found] at read
        cases read
    | ok columns =>
        rw [found] at read
        refine ⟨columns.map runtime.str, ?_⟩
        rw [if_pos skips, ← Except.ok.inj read]
        cases columns with
        | nil => rfl
        | cons first rest =>
            rw [List.map_cons, phrase_presence, ← List.map_cons, List.map_map]
            rfl
  · rename_i keeps
    exact ⟨[], by rw [if_neg keeps]; exact Except.ok.inj read⟩

private theorem chars_intraRecordSides {matched : Predicate} {ruleExpr : Phrase}
    (written : matched.phrase.chars = ruleExpr.chars) :
    let check : Phrase :=
      if (consistencyNullHandling parameters).is "pass" then "COALESCE((" ++ ruleExpr ++ "), TRUE)"
      else ruleExpr
    (intraRecordSides parameters matched).passing.phrase.chars = ("(" ++ check ++ ")" : Phrase).chars ∧
      (intraRecordSides parameters matched).failing.phrase.chars =
        ("NOT (" ++ check ++ ")" : Phrase).chars := by
  unfold intraRecordSides
  dsimp only
  split <;> simp [Predicate.phrase, written]

private theorem suits_intraRecordSides {columns : List String} (matched : Predicate) :
    (consistencyCheckOf runtime table parameters columns (intraRecordSides parameters matched)).Suits := by
  unfold SidedCheck.Suits consistencyCheckOf intraRecordSides
  cases (consistencyNullHandling parameters).is "pass" <;> rfl

private theorem intraRecordExpression_mode {ruleExpr : Phrase}
    (written : intraRecordExpression runtime column parameters = some ruleExpr) :
    ∃ matched, ConsistencyMode runtime parameters column "intra_record"
        (intraRecordSides parameters matched) ∧ matched.phrase.chars = ruleExpr.chars := by
  unfold intraRecordExpression at written
  dsimp only at written
  split at written
  · rw [← Option.some.inj written]
    exact ⟨_, .expression (runtime.str (parameters.get "rule_expression")), rfl⟩
  · split at written
    · rw [← Option.some.inj written]
      exact ⟨_, .columns (runtime.str (parameters.getD "operator" (.str "=")))
        (runtime.str (parameters.get "reference_column")), rfl⟩
    · cases written

private theorem consistencyIntraRecord_check
    (success : consistencyIntraRecord runtime table column parameters = .ok (.compiled compiled)) :
    IsConsistencyCheck runtime table column parameters "intra_record" compiled := by
  unfold consistencyIntraRecord at success
  split at success
  · cases success
  · rename_i ruleExpr expressed
    obtain ⟨nulls, read, success⟩ := bind_eq_ok success
    obtain ⟨columns, skipped⟩ := skippedNulls_presence read
    obtain ⟨matched, mode, written⟩ := intraRecordExpression_mode expressed
    obtain ⟨passes, fails⟩ := @chars_intraRecordSides parameters _ _ written
    refine ⟨columns, _, mode, ?_, suits_intraRecordSides matched⟩
    rw [← Outcome.eq_of_pure success]
    exact renders_of_consistency passes fails (congrArg (List.map Phrase.chars) skipped)

theorem skipped_presence (first : String) (rest : List String) :
    (((if (consistencyNullHandling parameters).is "skip" then presence (first :: rest) else []).map
      Predicate.phrase).map Phrase.chars) =
    ((if (consistencyNullHandling parameters).is "skip" then
      [Phrase.join " AND " ((first :: rest).map fun column => name column ++ " IS NOT NULL")]
        else []).map Phrase.chars) := by
  split
  · rw [phrase_presence]
  · rfl

private theorem chars_formulaSides {tolerance : Tolerance} {matchCond mismatchCond : Phrase}
    (matched : tolerance.matched.phrase.chars = matchCond.chars)
    (mismatched : tolerance.mismatched.phrase.chars = mismatchCond.chars) :
    let passing : Phrase :=
      if (consistencyNullHandling parameters).is "pass" then "COALESCE((" ++ matchCond ++ "), TRUE)"
      else matchCond
    let failing : Phrase :=
      if (consistencyNullHandling parameters).is "pass" then "NOT COALESCE((" ++ passing ++ "), TRUE)"
      else mismatchCond
    (formulaSides parameters tolerance).passing.phrase.chars = passing.chars ∧
      (formulaSides parameters tolerance).failing.phrase.chars = failing.chars := by
  unfold formulaSides
  dsimp only
  split
  · simp [coalescedSides, Predicate.phrase, matched]
  · exact ⟨matched, mismatched⟩

private theorem consistencyFormula_check
    (success : consistencyFormula runtime table parameters = .ok (.compiled compiled)) :
    IsConsistencyCheck runtime table column parameters "formula" compiled := by
  simp only [consistencyFormula] at success
  split at success
  · cases success
  · split at success
    · cases success
    · split at success
      · cases success
      · let expected := runtime.str (parameters.get "expected_column")
        let text := runtime.str (formulaExpression parameters)
        let side := String.ofList (runtime.strip (withoutTarget runtime expected.toList text.toList))
        have tolerated := @chars_consistencyTolerance runtime (.cell expected) (.formula text side)
          (parameters.getD "tolerance_type" (.str "absolute")) (parameters.get "tolerance_value")
        obtain ⟨passes, fails⟩ := @chars_formulaSides parameters _ _ _ tolerated.1 tolerated.2
        refine ⟨[expected], _, .formula expected text side, ?_, ?_⟩
        · rw [← Outcome.eq_of_pure success]
          exact renders_of_consistency passes fails (skipped_presence expected [])
        · unfold SidedCheck.Suits consistencyCheckOf formulaSides
          cases (consistencyNullHandling parameters).is "pass" <;> rfl

private theorem temporalOperator_comparison (value : Value) :
    ∃ comparison : Comparison, comparison.operator = temporalOperator runtime value ∧
      comparison.negation.operator =
        (inverseOperators.lookup (temporalOperator runtime value)).getD "!=" := by
  have known : temporalOperator runtime value ∈ validTemporalOperators := by
    unfold temporalOperator
    dsimp only
    split
    · rename_i valid
      simpa using valid
    · decide
  generalize temporalOperator runtime value = operator at known
  simp only [validTemporalOperators, List.mem_cons, List.not_mem_nil, or_false] at known
  obtain rfl | rfl | rfl | rfl | rfl := known
  · exact ⟨.greaterEqual, by decide⟩
  · exact ⟨.greater, by decide⟩
  · exact ⟨.lessEqual, by decide⟩
  · exact ⟨.less, by decide⟩
  · exact ⟨.equal, by decide⟩

private theorem consistencyTemporal_check
    (success : consistencyTemporal runtime table column parameters = .ok (.compiled compiled)) :
    IsConsistencyCheck runtime table column parameters "temporal" compiled := by
  unfold consistencyTemporal at success
  dsimp only at success
  split at success
  · cases success
  · obtain ⟨comparison, operator, inverse⟩ :=
      @temporalOperator_comparison runtime (parameters.getD "operator" (.str ">="))
    let other := runtime.str (temporalColumn column parameters)
    rw [← inverse, ← operator] at success
    refine ⟨[column, other], _, .temporal other comparison, ?_, ?_⟩
    · rw [← Outcome.compiled.inj (Except.ok.inj success)]
      refine renders_of_consistency ?_ ?_ ?_
      · unfold temporalSides consistencyNullHandling
        dsimp only
        split <;> rfl
      · unfold temporalSides consistencyNullHandling
        dsimp only
        split <;> rfl
      · rw [skipped_presence]
        unfold consistencyNullHandling
        split
        · simp [Phrase.join, other]
        · rfl
    · unfold SidedCheck.Suits consistencyCheckOf temporalSides
      cases (consistencyNullHandling parameters).is "pass" <;> rfl

def rowTypes : List String := ["intra_record", "formula", "temporal"]

theorem compileConsistencyRule_check {type : String}
    (success : compileConsistencyRule runtime table column parameters = .ok (.compiled compiled))
    (chosen : consistencyType parameters = .str type) (within : type ∈ rowTypes) :
    IsConsistencyCheck runtime table column parameters type compiled := by
  simp only [compileConsistencyRule, chosen] at success
  obtain ⟨known, _, success⟩ := bind_eq_ok success
  split at success
  · cases success
  · obtain ⟨rejected, _, success⟩ := bind_eq_ok success
    split at success
    · cases success
    · obtain ⟨dangerous, _, success⟩ := bind_eq_ok success
      split at success
      · cases success
      · simp only [rowTypes, List.mem_cons, List.not_mem_nil, or_false] at within
        obtain rfl | rfl | rfl := within
        · exact consistencyIntraRecord_check success
        · exact consistencyFormula_check success
        · exact consistencyTemporal_check success

end Inversion

end CogniDQ.Rules
