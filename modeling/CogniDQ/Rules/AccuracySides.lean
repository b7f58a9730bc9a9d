import CogniDQ.Rules.Accuracy
import CogniDQ.Rules.ConsistencySides

/-!
# The sides of accuracy rules

A column held against a formula under a tolerance, and against the statistics of its own
values.
-/

set_option autoImplicit false

namespace CogniDQ.Rules

open CogniDQ.Python CogniDQ.Sql

def accuracyTolerance (runtime : Runtime) (actual expected : Expr)
    (toleranceType toleranceValue : Value) : Tolerance :=
  if toleranceType.is "percentage" then
    .percentage actual expected (formattedOr runtime toleranceValue "1.0")
  else if toleranceType.is "absolute" then
    .absolute actual expected (formattedOr runtime toleranceValue "0.01")
  else .exact actual expected

section Tolerances

variable {Row V : Type} {engine : Engine Row V} {runtime : Runtime} {actual expected : Expr}
  {toleranceType toleranceValue : Value}

theorem known_accuracyTolerance (row : Row) :
    let tolerance := accuracyTolerance runtime actual expected toleranceType toleranceValue
    (tolerance.matched.eval engine row).isSome = allMet engine row tolerance.needs := by
  unfold accuracyTolerance
  dsimp only
  split
  · exact Tolerance.known_percentage _ _ _
  · split
    · exact Tolerance.known_absolute _ _ _
    · exact Tolerance.known_exact _ _

theorem chars_accuracyTolerance :
    let tolerance := accuracyTolerance runtime actual expected toleranceType toleranceValue
    let written := accuracyToleranceSql runtime actual.phrase expected.phrase toleranceType toleranceValue
    tolerance.matched.phrase.chars = written.1.chars ∧ tolerance.mismatched.phrase.chars = written.2.chars := by
  unfold accuracyTolerance accuracyToleranceSql
  dsimp only
  split
  · exact Tolerance.chars_percentage _ _ _
  · split
    · exact Tolerance.chars_absolute _ _ _
    · exact Tolerance.chars_exact _ _

end Tolerances

/-! ## The types -/

section Sides

variable (parameters : Dict)

def guardedSides (operand : Expr) (tolerance : Tolerance) : Sides :=
  if (accuracyNullHandling parameters).is "pass" then
    { passing := .nullOr operand tolerance.matched, failing := .notNullAnd operand tolerance.mismatched
      needs := tolerance.needs, cover := .guarded operand }
  else
    { passing := tolerance.matched, failing := tolerance.mismatched, needs := tolerance.needs
      cover := .plain }

def scoreExpr (column : String) : Expr :=
  .binary "" " / " "" (.unary "ABS(" ")" (.binary "" " - " "" (Expr.checked column) (.own "s.mu")))
    (.nullIfZero (.own "s.sigma"))

def zscoreNeeds (column threshold : String) : List Need :=
  [.value (Expr.checked column), .value (.own "s.mu"), .value (.nullIfZero (.own "s.sigma")),
    .value (.raw threshold)]

def zscoreSides (column threshold : String) : Sides :=
  let within := Predicate.atom (.compare .lessEqual (scoreExpr column) (.raw threshold))
  let beyond := Predicate.atom (.compare .greater (scoreExpr column) (.raw threshold))
  if (accuracyNullHandling parameters).is "pass" then
    { passing := .or (.atom (.isNull (Expr.checked column))) within
      failing := .and (.atom (.isNotNull (Expr.checked column))) beyond
      needs := zscoreNeeds column threshold
      cover := .guarded (Expr.checked column) }
  else
    { passing := within, failing := beyond, needs := zscoreNeeds column threshold, cover := .plain }

/-- A quartile, the threshold times the distance of the quartiles away. -/
def fenceExpr (quartile mark threshold : String) : Expr :=
  .binary "" mark "" (.own quartile)
    (.binary "" " * (" ")" (.raw threshold) (.binary "" " - " "" (.own "s.q3") (.own "s.q1")))

def iqrNeeds (column threshold : String) : List Need :=
  [.value (Expr.checked column), .value (.own "s.q1"), .value (.own "s.q3"), .value (.raw threshold)]

def iqrSides (column threshold : String) : Sides :=
  let operand := Expr.checked column
  let lower := fenceExpr "s.q1" " - " threshold
  let upper := fenceExpr "s.q3" " + " threshold
  let within := Predicate.and (.atom (.compare .greaterEqual operand lower))
    (.atom (.compare .lessEqual operand upper))
  let beyond := Predicate.or (.atom (.compare .less operand lower))
    (.atom (.compare .greater operand upper))
  if (accuracyNullHandling parameters).is "pass" then
    { passing := .or (.atom (.isNull operand)) (.paren within)
      failing := .and (.atom (.isNotNull operand)) (.paren beyond)
      needs := iqrNeeds column threshold
      cover := .guarded operand }
  else { passing := within, failing := beyond, needs := iqrNeeds column threshold, cover := .plain }

/-- The columns of the statistics that the table is joined with. -/
def statisticsColumns : List String :=
  if (((parameters.get "statistical_method").or (parameters.get "method")).or (.str "zscore")).is "zscore" then
    ["mu", "sigma"]
  else ["q1", "q3"]

/-- The column is tested for NULL behind the join without a qualifier. -/
def ambiguous (sameName : String → String → Bool) (column type : String) : Bool :=
  type == "statistical" && (accuracyNullHandling parameters).is "skip" &&
    (statisticsColumns parameters).any (sameName column)

/-- The sides of the types that look at one table. -/
inductive AccuracyMode (runtime : Runtime) (parameters : Dict) (column : String) :
    String → Sides → Prop where
  | derived (formula : String) :
      AccuracyMode runtime parameters column "derived_value"
        (guardedSides parameters (.cell column) (accuracyTolerance runtime (.cell column)
          (.formula formula formula) (parameters.getD "tolerance_type" (.str "none"))
          (parameters.get "tolerance_value")))
  | zscore (threshold : String) :
      AccuracyMode runtime parameters column "statistical" (zscoreSides parameters column threshold)
  | iqr (threshold : String) :
      AccuracyMode runtime parameters column "statistical" (iqrSides parameters column threshold)

/-- The bounds of a method, and what is out of them. -/
inductive Bounds (column : String) : Predicate → Predicate → List Need → Prop where
  | zscore (threshold : String) :
      Bounds column (.atom (.compare .lessEqual (scoreExpr column) (.raw threshold)))
        (.atom (.compare .greater (scoreExpr column) (.raw threshold))) (zscoreNeeds column threshold)
  | iqr (threshold : String) :
      Bounds column
        (.and (.atom (.compare .greaterEqual (Expr.checked column) (fenceExpr "s.q1" " - " threshold)))
          (.atom (.compare .lessEqual (Expr.checked column) (fenceExpr "s.q3" " + " threshold))))
        (.or (.atom (.compare .less (Expr.checked column) (fenceExpr "s.q1" " - " threshold)))
          (.atom (.compare .greater (Expr.checked column) (fenceExpr "s.q3" " + " threshold))))
        (iqrNeeds column threshold)

end Sides

section Made

variable {Row V : Type} {engine : Engine Row V} {parameters : Dict}

theorem made_guardedSides {operand : Expr} {tolerance : Tolerance}
    (known : ∀ row, (tolerance.matched.eval engine row).isSome = allMet engine row tolerance.needs) :
    (guardedSides parameters operand tolerance).Made engine := by
  have negated : ∀ row, tolerance.mismatched.eval engine row =
      (tolerance.matched.eval engine row).not := fun row => Comparison.eval_negation _ _ _
  unfold guardedSides
  split
  · refine .guarded (fun row => tolerance.matched.eval engine row) known (fun _ => rfl) fun row => ?_
    rw [← negated]
    rfl
  · exact .plain (fun row => tolerance.matched.eval engine row) known (fun _ => rfl) negated

private theorem isNull_fenceExpr {quartile mark threshold : String} {row : Row} :
    (fenceExpr quartile mark threshold).isNull engine row =
      ((Expr.own quartile).isNull engine row || ((Expr.raw threshold).isNull engine row ||
        ((Expr.own "s.q3").isNull engine row || (Expr.own "s.q1").isNull engine row))) := by
  simp [fenceExpr, Expr.isNull_binary]

section Bounds

variable {column : String} {within beyond : Predicate} {needs : List Need}

theorem Bounds.known (bounds : Bounds column within beyond needs) (row : Row) :
    (within.eval engine row).isSome = allMet engine row needs := by
  cases bounds with
  | zscore threshold =>
      refine (Comparison.eval_isSome _ _ _).trans ?_
      simp [scoreExpr, zscoreNeeds, allMet, Need.met, Expr.isNull_unary, Expr.isNull_binary,
        Bool.and_assoc]
  | iqr threshold =>
      refine Ternary.isSome_and ?_ ?_
      · refine (Comparison.eval_isSome _ _ _).trans ?_
        rw [isNull_fenceExpr, Bool.eq_iff_iff]
        simp [iqrNeeds, allMet, Need.met]
        tauto
      · refine (Comparison.eval_isSome _ _ _).trans ?_
        rw [isNull_fenceExpr, Bool.eq_iff_iff]
        simp [iqrNeeds, allMet, Need.met]
        tauto

theorem Bounds.negated (bounds : Bounds column within beyond needs) (row : Row) :
    beyond.eval engine row = (within.eval engine row).not := by
  cases bounds with
  | zscore threshold => exact Comparison.eval_negation .lessEqual _ _
  | iqr threshold =>
      have below := @Comparison.eval_negation _ _ engine row .greaterEqual (Expr.checked column)
        (fenceExpr "s.q1" " - " threshold)
      have above := @Comparison.eval_negation _ _ engine row .lessEqual (Expr.checked column)
        (fenceExpr "s.q3" " + " threshold)
      simp only [Comparison.negation] at below above
      simp only [Predicate.eval, Atomic.eval, below, above, Ternary.or, Ternary.not_not]

end Bounds

private theorem made_zscoreSides (column threshold : String) :
    (zscoreSides parameters column threshold).Made engine := by
  have bounds := @Bounds.zscore column threshold
  unfold zscoreSides
  dsimp only
  split
  · refine .guarded _ bounds.known (fun _ => rfl) fun row => ?_
    rw [← bounds.negated]
    rfl
  · exact .plain _ bounds.known (fun _ => rfl) bounds.negated

private theorem made_iqrSides (column threshold : String) :
    (iqrSides parameters column threshold).Made engine := by
  have bounds := @Bounds.iqr column threshold
  unfold iqrSides
  dsimp only
  split
  · refine .guarded _ bounds.known (fun _ => rfl) fun row => ?_
    rw [← bounds.negated]
    rfl
  · exact .plain _ bounds.known (fun _ => rfl) bounds.negated

theorem AccuracyMode.made {runtime : Runtime} {column type : String} {sides : Sides}
    (mode : AccuracyMode runtime parameters column type sides) : sides.Made engine := by
  cases mode with
  | derived formula => exact made_guardedSides known_accuracyTolerance
  | zscore threshold => exact made_zscoreSides column threshold
  | iqr threshold => exact made_iqrSides column threshold

end Made

/-! ## Every compiled rule has such sides -/

section Inversion

variable {runtime : Runtime} {table : Phrase} {column : String} {parameters : Dict}
  {compiled : Compiled}

def accuracyCheckOf (runtime : Runtime) (parameters : Dict) (opening source : Phrase) (column : String)
    (sides : Sides) : SidedCheck where
  dimension := .accuracy
  opening := opening
  sides := sides
  closing wherePhrase := strippedAccuracyFrom runtime source wherePhrase
  conditions := filterCondition runtime (parameters.get "filter_expression") ++
    if (accuracyNullHandling parameters).is "skip" then [.atom (.isNotNull (.cell column))] else []
  nullHandling := accuracyNullHandling parameters

def IsAccuracyCheck (runtime : Runtime) (column : String) (parameters : Dict) (type : String)
    (compiled : Compiled) : Prop :=
  ∃ opening source sides, AccuracyMode runtime parameters column type sides ∧
    (accuracyCheckOf runtime parameters opening source column sides).Renders compiled ∧
      (accuracyCheckOf runtime parameters opening source column sides).Suits

private theorem accuracyWhere_eq (opening source : Phrase) (sides : Sides) :
    whereAll ((accuracyCheckOf runtime parameters opening source column sides).conditions.map
      Predicate.phrase) = accuracyWhere runtime parameters (name column) := by
  unfold accuracyCheckOf accuracyWhere
  rw [List.map_append, phrase_filterCondition]
  split <;> rfl

theorem renders_of_accuracy {opening source accurate inaccurate violation : Phrase} {sides : Sides}
    (passes : sides.passing.phrase.chars = accurate.chars)
    (fails : sides.failing.phrase.chars = inaccurate.chars) :
    (accuracyCheckOf runtime parameters opening source column sides).Renders {
      query := {
        opening
        columns := accuracyColumns (.count "*") (.constant 0) (caseWhen accurate) (caseWhen inaccurate)
        separator := ", "
        closing := strippedAccuracyFrom runtime source (accuracyWhere runtime parameters (name column)) }
      mysql := none
      violation } := by
  refine SidedCheck.text_queryOf (accuracyCheckOf runtime parameters opening source column sides)
    passes fails ?_
  rw [accuracyWhere_eq]

theorem chars_guardedSides {operand : Expr} {tolerance : Tolerance} {matchCond mismatchCond : Phrase}
    (matched : tolerance.matched.phrase.chars = matchCond.chars)
    (mismatched : tolerance.mismatched.phrase.chars = mismatchCond.chars) :
    let written := accuracyConditions parameters operand.phrase matchCond mismatchCond
    (guardedSides parameters operand tolerance).passing.phrase.chars = written.1.chars ∧
      (guardedSides parameters operand tolerance).failing.phrase.chars = written.2.chars := by
  unfold guardedSides accuracyConditions
  dsimp only
  split <;> simp [Predicate.phrase, matched, mismatched]

private theorem accuracyDerivedValue_check
    (success : accuracyDerivedValue runtime table column parameters = .ok (.compiled compiled)) :
    IsAccuracyCheck runtime column parameters "derived_value" compiled := by
  simp only [accuracyDerivedValue] at success
  split at success
  · cases success
  · obtain ⟨accepted, _, success⟩ := bind_eq_ok success
    split at success
    · cases success
    · obtain ⟨known, _, success⟩ := bind_eq_ok success
      split at success
      · cases success
      · let formula := runtime.str (parameters.get "formula")
        have tolerated := @chars_accuracyTolerance runtime (.cell column) (.formula formula formula)
          (parameters.getD "tolerance_type" (.str "none")) (parameters.get "tolerance_value")
        obtain ⟨passes, fails⟩ := @chars_guardedSides parameters (.cell column) _ _ _ tolerated.1 tolerated.2
        refine ⟨"SELECT ", table, _, .derived formula, ?_, ?_⟩
        · rw [← Outcome.eq_of_pure success]
          exact renders_of_accuracy passes fails
        · unfold SidedCheck.Suits accuracyCheckOf guardedSides
          cases (accuracyNullHandling parameters).is "pass" <;> rfl

def statisticalThreshold (runtime : Runtime) (parameters : Dict) (default : String) : String :=
  if parameters.has "statistical_threshold" then runtime.str (parameters.get "statistical_threshold")
  else formattedOr runtime (parameters.get "outlier_threshold") default

private theorem statisticalThreshold_raw (default : String) :
    (if parameters.has "statistical_threshold" then
        raw (runtime.str (parameters.get "statistical_threshold"))
      else raw (formattedOr runtime (parameters.get "outlier_threshold") default)) =
      raw (statisticalThreshold runtime parameters default) := by
  unfold statisticalThreshold
  split <;> rfl

private theorem accuracyStatistical_check
    (success : accuracyStatistical runtime table column parameters = .ok (.compiled compiled)) :
    IsAccuracyCheck runtime column parameters "statistical" compiled := by
  simp only [accuracyStatistical] at success
  split at success
  · cases success
  · obtain ⟨known, _, success⟩ := bind_eq_ok success
    split at success
    · cases success
    · cases method : (((parameters.get "statistical_method").or (parameters.get "method")).or
          (.str "zscore")).is "zscore" with
      | true =>
          simp only [method, statisticalBounds, if_true, statisticalThreshold_raw] at success
          obtain rfl := Outcome.eq_of_pure success
          refine ⟨_, _, _, .zscore (statisticalThreshold runtime parameters "3.0"),
            renders_of_accuracy ?_ ?_, ?_⟩
          · unfold zscoreSides
            split <;> simp [Predicate.phrase, Atomic.phrase, Expr.phrase, scoreExpr, Expr.checked,
              ColumnRef.phrase, Comparison.operator]
          · unfold zscoreSides
            split <;> simp [Predicate.phrase, Atomic.phrase, Expr.phrase, scoreExpr, Expr.checked,
              ColumnRef.phrase, Comparison.operator]
          · unfold SidedCheck.Suits accuracyCheckOf zscoreSides
            cases (accuracyNullHandling parameters).is "pass" <;> rfl
      | false =>
          simp only [method, statisticalBounds, Bool.false_eq_true, if_false,
            statisticalThreshold_raw] at success
          obtain rfl := Outcome.eq_of_pure success
          refine ⟨_, _, _, .iqr (statisticalThreshold runtime parameters "1.5"),
            renders_of_accuracy ?_ ?_, ?_⟩
          · unfold iqrSides
            split <;> simp [Predicate.phrase, Atomic.phrase, Expr.phrase, fenceExpr, Expr.checked,
              ColumnRef.phrase, Comparison.operator]
          · unfold iqrSides
            split <;> simp [Predicate.phrase, Atomic.phrase, Expr.phrase, fenceExpr, Expr.checked,
              ColumnRef.phrase, Comparison.operator]
          · unfold SidedCheck.Suits accuracyCheckOf iqrSides
            cases (accuracyNullHandling parameters).is "pass" <;> rfl

def tableTypes : List String := ["derived_value", "statistical"]

theorem compileAccuracyRule_check {type : String}
    (success : compileAccuracyRule runtime table column parameters = .ok (.compiled compiled))
    (chosen : accuracyType parameters = .str type) (within : type ∈ tableTypes) :
    IsAccuracyCheck runtime column parameters type compiled := by
  simp only [compileAccuracyRule, chosen] at success
  obtain ⟨known, _, success⟩ := bind_eq_ok success
  split at success
  · cases success
  · obtain ⟨rejected, _, success⟩ := bind_eq_ok success
    split at success
    · cases success
    · obtain rfl | rfl := List.mem_pair.mp within
      · exact accuracyDerivedValue_check success
      · exact accuracyStatistical_check success

end Inversion

end CogniDQ.Rules
