import Mathlib.Data.List.Dedup
import CogniDQ.Anomalies.PersistedAnomalies
import CogniDQ.Database.Averages
import CogniDQ.Database.Deviation
import CogniDQ.Python.Value

/-!
# Pass rates below the usual

The detector compares the newest pass rate of each rule with the mean of the rule's pass rates in a
period, in standard deviations of the same sample. Numbers are exact.
-/

set_option autoImplicit false

namespace CogniDQ.Anomalies

open CogniDQ.Database CogniDQ.Python

inductive ExecutionStatus where
  | pending
  | running
  | completed
  | failed
  | cancelled
deriving DecidableEq, Repr

structure RuleExecution (Uuid : Type) where
  id : Uuid
  ruleId : Uuid
  status : ExecutionStatus
  startedAt : Option Int
  passRate : Option Rat

structure DQRule (Uuid : Type) where
  workspaceId : Uuid
  name : String
  targetTable : Option String
  targetColumns : List String

/-- The table of executions, in any order and under distinct ids. -/
structure Executions (Uuid : Type) where
  rows : List (RuleExecution Uuid)
  unique : (rows.map (·.id)).Nodup

/-- What `started_at DESC` puts first; nulls come before all times. -/
def RuleExecution.precedes {Uuid : Type} (first second : RuleExecution Uuid) : Bool :=
  match first.startedAt, second.startedAt with
  | none, some _ => true
  | some start, some other => other < start
  | _, none => false

/-- An execution of `ORDER BY started_at DESC LIMIT 1`. Which of several rows that began at the same
time it returns is open, but not decided by their pass rates. -/
structure NewestExecution (Uuid : Type) where
  first : List (RuleExecution Uuid) → Option (RuleExecution Uuid)
  mem : ∀ rows row, first rows = some row → row ∈ rows
  newest : ∀ rows row, first rows = some row → ∀ other ∈ rows, other.precedes row = false
  found : ∀ rows, rows ≠ [] → (first rows).isSome = true
  steady : ∀ rows change, (∀ row : RuleExecution Uuid, (change row).id = row.id ∧
    (change row).startedAt = row.startedAt) → first (rows.map change) = (first rows).map change

def newestOf {Uuid : Type} : List (RuleExecution Uuid) → Option (RuleExecution Uuid)
  | [] => none
  | row :: rest =>
      match newestOf rest with
      | none => some row
      | some other => if row.precedes other then some row else some other

section Newest

variable {Uuid : Type} {rows : List (RuleExecution Uuid)} {row other : RuleExecution Uuid}

theorem newestOf_cases (row : RuleExecution Uuid) (rest : List (RuleExecution Uuid)) :
    newestOf rest = none ∧ newestOf (row :: rest) = some row ∨
      ∃ other, newestOf rest = some other ∧
        (row.precedes other = true ∧ newestOf (row :: rest) = some row ∨
          row.precedes other = false ∧ newestOf (row :: rest) = some other) := by
  rw [newestOf]
  cases newestOf rest with
  | none => exact .inl ⟨rfl, rfl⟩
  | some other =>
      refine .inr ⟨other, rfl, ?_⟩
      cases ahead : row.precedes other with
      | false => exact .inr ⟨rfl, by simp [ahead]⟩
      | true => exact .inl ⟨rfl, by simp [ahead]⟩

theorem newestOf_isSome (given : rows ≠ []) : (newestOf rows).isSome = true := by
  cases rows with
  | nil => exact absurd rfl given
  | cons row rest =>
      rcases newestOf_cases row rest with ⟨_, same⟩ | ⟨_, _, ⟨_, same⟩ | ⟨_, same⟩⟩ <;> rw [same] <;> rfl

private theorem precedes_irrefl : row.precedes row = false := by
  unfold RuleExecution.precedes
  cases row.startedAt with
  | none => rfl
  | some start => simp

theorem precedes_trans_false {best : RuleExecution Uuid} (first : row.precedes other = false)
    (second : other.precedes best = false) : row.precedes best = false := by
  unfold RuleExecution.precedes at *
  cases rowStart : row.startedAt <;> cases otherStart : other.startedAt <;>
    cases bestStart : best.startedAt <;> simp_all
  omega

theorem precedes_asymm (before : row.precedes other = true) : other.precedes row = false := by
  unfold RuleExecution.precedes at *
  cases rowStart : row.startedAt <;> cases otherStart : other.startedAt <;> simp_all
  omega

theorem newestOf_newest (isNewest : newestOf rows = some row) :
    row ∈ rows ∧ ∀ other ∈ rows, other.precedes row = false := by
  induction rows generalizing row with
  | nil => cases isNewest
  | cons head rest ih =>
      rcases newestOf_cases head rest with ⟨empty, alone⟩ | ⟨best, isBest, ahead | behind⟩
      · rw [alone] at isNewest
        obtain rfl := Option.some.inj isNewest
        have nothing : rest = [] := by
          by_contra given
          have found := newestOf_isSome given
          rw [empty] at found
          cases found
        subst nothing
        exact ⟨List.mem_singleton_self _, by simp [precedes_irrefl]⟩
      · rw [ahead.2] at isNewest
        obtain rfl := Option.some.inj isNewest
        refine ⟨List.mem_cons_self, fun other member => ?_⟩
        rcases List.mem_cons.mp member with rfl | later
        · exact precedes_irrefl
        · exact precedes_trans_false ((ih isBest).2 other later) (precedes_asymm ahead.1)
      · rw [behind.2] at isNewest
        obtain rfl := Option.some.inj isNewest
        refine ⟨List.mem_cons_of_mem _ (ih isBest).1, fun other member => ?_⟩
        rcases List.mem_cons.mp member with rfl | later
        · exact behind.1
        · exact (ih isBest).2 other later

/-- Of rows that began at the same time, the last one of the table. -/
def NewestExecution.last (Uuid : Type) : NewestExecution Uuid where
  first := newestOf
  mem _ _ isNewest := (newestOf_newest isNewest).1
  newest _ _ isNewest := (newestOf_newest isNewest).2
  found _ given := newestOf_isSome given
  steady rows change kept := by
    induction rows with
    | nil => rfl
    | cons row rest ih =>
        have same (other : RuleExecution Uuid) :
            (change row).precedes (change other) = row.precedes other := by
          unfold RuleExecution.precedes
          rw [(kept row).2, (kept other).2]
        rw [List.map_cons, newestOf, newestOf, ih]
        cases newestOf rest with
        | none => rfl
        | some other =>
            simp only [Option.map_some, same]
            split <;> rfl

end Newest

def zScoreThreshold : Rat := 2

def minExecutions : Nat := 3

def severityOrder (severity : String) : Nat :=
  ([("Critical", 0), ("High", 1), ("Medium", 2), ("Low", 3)].lookup severity).getD 4

structure RuleStats (Uuid : Type) where
  ruleId : Uuid
  avgRate : Option Rat
  /-- The square of `std_rate`. -/
  variance : Option Rat
  execCount : Nat

def cutoffOf (now periodDays : Int) : Int := now - periodDays * (24 * 3600 * 1000000)

section Detector

variable {Uuid : Type} [DecidableEq Uuid] (str : Uuid → String)
  -- The text of a number, and of the square root of one, to one decimal.
  (fixed fixedRoot : Rat → String)
  (rules : Rows Uuid (DQRule Uuid)) (executions : Executions Uuid)

def inPeriod (workspaceId : Uuid) (cutoff : Int) (execution : RuleExecution Uuid) : Bool :=
  (rules.lookup execution.ruleId).any (·.workspaceId = workspaceId) &&
    execution.status = .completed && execution.startedAt.any (cutoff ≤ ·)

def ruleStats (selected : List (RuleExecution Uuid)) (ruleId : Uuid) : RuleStats Uuid :=
  let group := selected.filter (·.ruleId = ruleId)
  { ruleId := ruleId
    avgRate := average (group.filterMap (·.passRate))
    variance := sampleVariance (group.filterMap (·.passRate))
    execCount := group.length }

def scoresBelow (threshold variance difference : Rat) : Bool :=
  decide (LiesBelow threshold variance difference)

def severityOf (variance difference : Rat) : String :=
  if scoresBelow 3 variance difference then "Critical"
  else if scoresBelow (5 / 2) variance difference then "High"
  else "Medium"

def completedOf (ruleId : Uuid) : List (RuleExecution Uuid) :=
  executions.rows.filter fun execution =>
    execution.ruleId = ruleId && execution.status = .completed

def passRateDrop (ruleId : Uuid) (rate avgRate variance : Rat) : Anomaly Uuid :=
  let rule := rules.lookup ruleId
  { dataset := (rule.map fun rule =>
      if rule.targetTable.getD "" = "" then rule.name else rule.targetTable.getD "").getD (str ruleId)
    column := (rule.bind (·.targetColumns.head?)).getD ""
    anomaly := "Pass rate drop (" ++ fixed rate ++ "% vs avg " ++ fixed avgRate ++ "%)"
    anomalyType := "pass_rate_drop"
    severity := severityOf variance (rate - avgRate)
    currentValue := fixed rate ++ "%"
    expectedValue := "~" ++ fixed avgRate ++ "%"
    deviation := fixedRoot ((rate - avgRate) ^ 2 / variance) ++ "Ïƒ below mean"
    rule := some ruleId }

/-- One rule: the newest of its executions against its statistics. -/
def passRateAnomaly (newest : NewestExecution Uuid) (stat : RuleStats Uuid) :
    Option (Anomaly Uuid) :=
  match stat.variance, stat.avgRate with
  | some variance, some avgRate =>
      if variance = 0 then none
      else
        match (newest.first (completedOf executions stat.ruleId)).bind (·.passRate) with
        | none => none
        | some rate =>
            if scoresBelow zScoreThreshold variance (rate - avgRate) then
              some (passRateDrop str fixed fixedRoot rules stat.ruleId rate avgRate variance)
            else none
  | _, _ => none

def detectPassRateAnomalies (groups : SetOrder Uuid) (newest : NewestExecution Uuid)
    (workspaceId : Uuid) (now periodDays : Int) : List (Anomaly Uuid) :=
  let selected := executions.rows.filter (inPeriod rules workspaceId (cutoffOf now periodDays))
  let stats := (groups.toList (selected.map (·.ruleId)).dedup).map (ruleStats selected)
  (stats.filter fun stat => minExecutions ≤ stat.execCount).filterMap
    (passRateAnomaly str fixed fixedRoot rules executions newest)

end Detector

end CogniDQ.Anomalies
