import CogniDQ.Python.Binary64
import CogniDQ.Rules.RuleExecutor

/-!
# What a check node reads of a row

`CheckNodeHandler._parse_uniqueness_results` and `_parse_reconciliation_results`: the numbers of a
check, from the row that its query has returned.
-/

set_option autoImplicit false

namespace CogniDQ.Flow

open CogniDQ.Python CogniDQ.Execution CogniDQ.Rules

/-! ## Decimals -/

/-- A decimal, an infinity or `NaN`. -/
inductive Decimal where
  | finite (value : Rat)
  | infinity (negative : Bool)
  | nan
deriving DecidableEq

namespace Decimal

/-- The result of an operation, in the 28 digits of the default context. -/
def rounded (value : Rat) : Rat := Decimals.significant roundHalfEven 28 value

def minus : Decimal → Decimal → Except Exn Decimal
  | .finite left, .finite right => .ok (.finite (rounded (left - right)))
  | .nan, _ => .ok .nan
  | _, .nan => .ok .nan
  | .infinity left, .infinity right =>
      if left = right then .error .invalidOperation else .ok (.infinity left)
  | .infinity left, .finite _ => .ok (.infinity left)
  | .finite _, .infinity right => .ok (.infinity (!right))

def magnitude : Decimal → Decimal
  | .finite value => .finite (rounded |value|)
  | .infinity _ => .infinity false
  | .nan => .nan

/-- `left / right * Decimal(100)`, of what is not negative by what is not zero. -/
def percentOf : Decimal → Decimal → Except Exn Decimal
  | .finite part, .finite whole => .ok (.finite (rounded (rounded (part / whole) * 100)))
  | .nan, _ => .ok .nan
  | _, .nan => .ok .nan
  | .infinity _, .infinity _ => .error .invalidOperation
  | .infinity negative, .finite _ => .ok (.infinity negative)
  | .finite _, .infinity _ => .ok (.finite 0)

/-- `left <= right`: with `NaN` it raises. -/
def le : Decimal → Decimal → Except Exn Bool
  | .finite left, .finite right => .ok (decide (left ≤ right))
  | .nan, _ => .error .invalidOperation
  | _, .nan => .error .invalidOperation
  | .infinity left, .infinity right => .ok (left || !right)
  | .infinity left, .finite _ => .ok left
  | .finite _, .infinity right => .ok (!right)

def same (left right : Decimal) : Bool := decide (left = right ∧ left ≠ .nan)

end Decimal

/-! ## The status of a check -/

inductive CheckStatus where
  | pass
  | warn
  | fail
deriving DecidableEq

def atLeast : Double → Double → Bool
  | .finite left, .finite right => decide (right ≤ left)
  | .nan, _ => false
  | _, .nan => false
  | .infinity left, .infinity right => !left || right
  | .infinity left, .finite _ => !left
  | .finite _, .infinity right => right

def determineCheckStatus (passRate thresholdPass : Double) (thresholdWarn : Option Double) :
    CheckStatus :=
  if atLeast passRate thresholdPass then .pass
  else if thresholdWarn.any (atLeast passRate) then .warn
  else .fail

def readThresholds (runtime : Runtime) (parameters : Dict) : Except Exn (Double × Option Double) := do
  let pass ← toFloat runtime (parameters.getD "threshold_pass" (.int 100))
  let warn ← if (parameters.get "threshold_warn").isNone then .ok none
    else (toFloat runtime (parameters.get "threshold_warn")).map some
  return (pass, warn)

def ThresholdsRead (runtime : Runtime) (parameters : Dict) : Prop :=
  ∃ thresholds, readThresholds runtime parameters = .ok thresholds

def readCount (runtime : Runtime) (row : Dict) (key : String) : Except Exn Int :=
  (row.getD key (.int 0)).toInt runtime

/-- `Decimal(part) / Decimal(whole) * Decimal(100)`, and `Decimal(100)` of nothing. -/
def rateOf (part whole : Int) : Rat :=
  if whole = 0 then 100 else Decimal.rounded (Decimal.rounded (part / whole) * 100)

/-! ## Uniqueness -/

structure UniquenessResult where
  rowsScanned : Int
  rowsPassed : Int
  rowsFailed : Int
  passRate : Rat
  checkStatus : CheckStatus
  uniquenessMode : Value
  duplicateGroups : Int
  maxGroupSize : Int
  avgGroupSize : Rat
  zeroRows : Bool

def parseUniquenessResults (runtime : Runtime) (row parameters : Dict) :
    Except Exn UniquenessResult := do
  let totalRows ← readCount runtime row "total_rows"
  let duplicateRows ← readCount runtime row "duplicate_rows"
  let duplicateGroups ← readCount runtime row "duplicate_groups"
  let maxGroupSize ← readCount runtime row "max_group_size"
  let uniqueRows := totalRows - duplicateRows
  let uniquenessRate := rateOf uniqueRows totalRows
  let (thresholdPass, thresholdWarn) ← readThresholds runtime parameters
  return {
    rowsScanned := totalRows
    rowsPassed := uniqueRows
    rowsFailed := duplicateRows
    passRate := uniquenessRate
    checkStatus := determineCheckStatus (Double.round runtime uniquenessRate) thresholdPass thresholdWarn
    uniquenessMode := parameters.getD "uniqueness_mode" (.str "exact")
    duplicateGroups
    maxGroupSize
    avgGroupSize :=
      if 0 < duplicateGroups then
        runtime.nearest (roundHalfEven (runtime.nearest (duplicateRows / duplicateGroups) * 100) / 100)
      else 0
    zeroRows := totalRows == 0 }

/-! ## Reconciliation -/

/-- The total, the rows that passed and failed, and the match rate. -/
structure Matching where
  total : Int
  passed : Int
  failed : Int
  rate : Rat

namespace Matching

def recordCount (source target : Int) : Matching where
  total := max source target
  passed := min source target
  failed := |source - target|
  rate := rateOf (min source target) (max source target)

def aggregate (agrees : Bool) : Matching where
  total := 1
  passed := if agrees then 1 else 0
  failed := if agrees then 0 else 1
  rate := if agrees then 100 else 0

/-- `field_level` and `tolerance`: the pairs on either side, of the matched ones if there are any. -/
def sided (matched passed failed : Int) : Matching where
  total := if matched ≠ 0 then matched else passed + failed
  passed := passed
  failed := failed
  rate := rateOf passed (if matched ≠ 0 then matched else passed + failed)

def missingExtra (source missing extra : Int) : Matching where
  total := source + extra
  passed := source + extra - (missing + extra)
  failed := missing + extra
  rate := rateOf (source + extra - (missing + extra)) (source + extra)

def oneToOne (source target matched missing extra : Int) : Matching where
  total := max source target
  passed := matched
  failed := missing + extra
  rate := rateOf matched (max source target)

end Matching

section Reconciliation

variable (runtime : Runtime) (decimal : Value → Except Exn Decimal)

def aggregateValue (value : Value) : Except Exn Decimal :=
  if value.isNone then .ok (.finite 0) else decimal value

/-- Whether the aggregates of the two datasets are close enough. -/
def aggregatesAgree (row parameters : Dict) : Except Exn Bool := do
  let source ← aggregateValue decimal (row.get "source_agg")
  let target ← aggregateValue decimal (row.get "target_agg")
  let toleranceType := parameters.getD "tolerance_type" (.str "none")
  let toleranceValue := parameters.get "tolerance_value"
  if toleranceType.is "absolute" && !toleranceValue.isNone then do
    let difference := (← source.minus target).magnitude
    difference.le (← decimal toleranceValue)
  else if toleranceType.is "percentage" && !toleranceValue.isNone && !source.same (.finite 0) then do
    let percent ← (← source.minus target).magnitude.percentOf source.magnitude
    percent.le (← decimal toleranceValue)
  else .ok (source.same target)

structure ReconciliationResult where
  rowsScanned : Int
  rowsPassed : Int
  rowsFailed : Int
  matchRate : Rat
  checkStatus : CheckStatus
  reconciliationType : Value
  sourceCount : Int
  targetCount : Int
  matchedCount : Int
  missingInTarget : Int
  extraInTarget : Int
  zeroRows : Bool

/-- What `_parse_reconciliation_results` makes of the counts, for each type. -/
def matchingOf (row parameters : Dict) (source target matched missing extra : Int) :
    Except Exn Matching :=
  let type := parameters.getD "reconciliation_type" (.str "one_to_one")
  if type.is "record_count" then .ok (.recordCount source target)
  else if type.is "aggregate" then (aggregatesAgree decimal row parameters).map .aggregate
  else if type.is "field_level" then do
    let agreeing ← readCount runtime row "field_match_count"
    let mismatches ← readCount runtime row "field_mismatch_count"
    return .sided matched agreeing mismatches
  else if type.is "tolerance" then do
    let within ← readCount runtime row "within_tolerance"
    let outside ← readCount runtime row "outside_tolerance"
    return .sided matched within outside
  else if type.is "missing_extra" then .ok (.missingExtra source missing extra)
  else .ok (.oneToOne source target matched missing extra)

def parseReconciliationResults (row parameters : Dict) : Except Exn ReconciliationResult := do
  let sourceCount ← readCount runtime row "source_count"
  let targetCount ← readCount runtime row "target_count"
  let matchedCount ← readCount runtime row "matched_count"
  let missingInTarget ← readCount runtime row "missing_in_target"
  let extraInTarget ← readCount runtime row "extra_in_target"
  let matching ← matchingOf runtime decimal row parameters sourceCount targetCount matchedCount
    missingInTarget extraInTarget
  let (thresholdPass, thresholdWarn) ← readThresholds runtime parameters
  return {
    rowsScanned := matching.total
    rowsPassed := matching.passed
    rowsFailed := matching.failed
    matchRate := matching.rate
    checkStatus := determineCheckStatus (Double.round runtime matching.rate) thresholdPass thresholdWarn
    reconciliationType := parameters.getD "reconciliation_type" (.str "one_to_one")
    sourceCount
    targetCount
    matchedCount
    missingInTarget
    extraInTarget
    zeroRows := matching.total == 0 }

end Reconciliation

/-! ## Rates -/

section Rates

theorem rateOf_bounded {part whole : Int} (nonneg : 0 ≤ part) (within : part ≤ whole) :
    0 ≤ rateOf part whole ∧ rateOf part whole ≤ 100 := by
  unfold rateOf
  split
  · norm_num
  · rename_i some
    have positive : (0 : Rat) < whole := by exact_mod_cast (by omega : 0 < whole)
    have above : (0 : Rat) ≤ part / whole := div_nonneg (by exact_mod_cast nonneg) positive.le
    have below : (part : Rat) / whole ≤ 10 ^ (0 : Int) := by
      rw [zpow_zero, div_le_one positive]
      exact_mod_cast within
    have quotient : 0 ≤ Decimal.rounded (part / whole) :=
      Decimals.significant_nonneg roundHalfEven_near above
    have most : Decimal.rounded (part / whole) ≤ 10 ^ (0 : Int) :=
      Decimals.significant_le_pow roundHalfEven_near above below
    have scaled : Decimal.rounded (part / whole) * 100 ≤ 10 ^ (2 : Int) := by
      rw [zpow_zero] at most
      have hundred : (10 : Rat) ^ (2 : Int) = 100 := by norm_num
      rw [hundred]
      linarith
    have product : 0 ≤ Decimal.rounded (part / whole) * 100 := mul_nonneg quotient (by norm_num)
    constructor
    · exact Decimals.significant_nonneg roundHalfEven_near product
    · have bounded : Decimal.rounded (Decimal.rounded (part / whole) * 100) ≤ 10 ^ (2 : Int) :=
        Decimals.significant_le_pow roundHalfEven_near product scaled
      exact bounded.trans_eq (by norm_num)

end Rates

end CogniDQ.Flow
