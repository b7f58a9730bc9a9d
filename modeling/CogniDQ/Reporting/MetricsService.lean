import CogniDQ.Database.Averages
import CogniDQ.Database.Rows
import CogniDQ.Flow.Schema
import CogniDQ.Kqi.IncidentSlaService
import Mathlib.Data.NNRat.Defs

/-!
# Report metrics

The reports of a workspace about its checks: the overview, the breakdown by category and the one
by check type and dimension. Averages are exact here and rounded where the reports round them.
-/

set_option autoImplicit false

namespace CogniDQ.Reporting

open CogniDQ.Database CogniDQ.Flow CogniDQ.Kqi

/-- What a check writes: `none` is a key that is missing. A pass rate is a share, in percent. -/
structure ResultData where
  checkType : Option String
  passRate : Option NNRat
  rowsScanned : Option Nat
  rowsFailed : Option Nat
  dataset : Option String
  tableName : Option String
  sourceName : Option String
  hasThreshold : Bool

structure FlowNodeResult (Uuid : Type) where
  executionId : Uuid
  nodeId : String
  nodeType : NodeType
  status : NodeStatus
  durationSeconds : Option Int
  resultData : Option ResultData
  createdAt : Int

structure DQFlow (Uuid : Type) where
  workspaceId : Uuid

structure FlowExecution (Uuid : Type) where
  flowId : Uuid

structure ControlSource (Uuid : Type) where
  workspaceId : Uuid
  archivedAt : Option Int

structure Tables (Uuid : Type) where
  flows : Rows Uuid (DQFlow Uuid)
  executions : Rows Uuid (FlowExecution Uuid)
  results : List (FlowNodeResult Uuid)
  controlSources : List (ControlSource Uuid)
  cache : List (CacheEntry Uuid)

structure OverviewMetrics where
  totalRules : Nat
  totalExecutions : Nat
  averagePassRate : Rat
  dqScore : Rat
  criticalViolations : Nat
  totalDataSources : Nat
  totalFlows : Nat
  lastUpdated : Int

structure CategoryMetrics where
  category : String
  totalRules : Nat
  totalExecutions : Nat
  passRate : Rat
  avgExecutionTime : Rat

structure CategoryBreakdown where
  categories : List CategoryMetrics
  total : Nat

structure CheckTypeMetrics where
  checkType : String
  dimension : String
  checkCount : Nat
  avgPassRate : Rat
  totalRowsScanned : Nat
  totalRowsFailed : Nat

structure DimensionMetrics where
  dimension : String
  checkCount : Nat
  avgPassRate : Rat
  totalRowsScanned : Nat
  totalRowsFailed : Nat
  status : String

structure DimensionalBreakdown where
  byDimension : List DimensionMetrics
  byCheckType : List CheckTypeMetrics

namespace FlowNodeResult

variable {Uuid : Type} (result : FlowNodeResult Uuid)

def checkType : Option String := result.resultData.bind (·.checkType)

def passRate : Option Rat :=
  (result.resultData.bind (·.passRate)).map fun rate : NNRat => (rate : Rat)

def rowsScanned : Nat := (result.resultData.bind (·.rowsScanned)).getD 0

def rowsFailed : Nat := (result.resultData.bind (·.rowsFailed)).getD 0

def isFinished : Bool := result.status = .completed || result.status = .failed

end FlowNodeResult

def dqCategories : List String :=
  ["completeness", "validity", "uniqueness", "consistency", "timeliness", "accuracy"]

def dimensionMap (checkType : String) : Option String :=
  match checkType with
  | "completeness" | "uniqueness" | "consistency" => some "structural"
  | "validity" | "conformity" | "accuracy" | "business_rule" => some "semantic"
  | "distribution" | "outliers" | "patterns" => some "statistical"
  | _ => none

def getDateRange (now : Int) (period : String) : Int × Int :=
  match period with
  | "7d" => (now - days 7, now)
  | "90d" => (now - days 90, now)
  | "1y" => (now - days 365, now)
  -- 2020-01-01.
  | "all" => (1577836800 * 1000000, now)
  | _ => (now - days 30, now)

structure CheckTypeData where
  checkType : String
  checkCount : Nat
  totalRowsScanned : Nat
  totalRowsFailed : Nat
  passRates : List Rat

structure DimensionData where
  dimension : String
  checks : List Rat
  totalRows : Nat
  failedRows : Nat

section Aggregation

variable {Uuid : Type}

def checkTypeOf (result : FlowNodeResult Uuid) : String := result.checkType.getD "unknown"

def passRateOf (result : FlowNodeResult Uuid) : Rat := result.passRate.getD 0

def dimensionOf (checkType : String) : String := (dimensionMap checkType).getD "structural"

def CheckTypeData.add (result : FlowNodeResult Uuid) (data : CheckTypeData) : CheckTypeData where
  checkType := data.checkType
  checkCount := data.checkCount + 1
  totalRowsScanned := data.totalRowsScanned + result.rowsScanned
  totalRowsFailed := data.totalRowsFailed + result.rowsFailed
  passRates := data.passRates ++ [passRateOf result]

def addToCheckType (result : FlowNodeResult Uuid) : List CheckTypeData → List CheckTypeData
  | [] => [CheckTypeData.add result ⟨checkTypeOf result, 0, 0, 0, []⟩]
  | data :: rest =>
    if data.checkType = checkTypeOf result then data.add result :: rest
    else data :: addToCheckType result rest

def DimensionData.add (result : FlowNodeResult Uuid) (data : DimensionData) : DimensionData where
  dimension := data.dimension
  checks := data.checks ++ [passRateOf result]
  totalRows := data.totalRows + result.rowsScanned
  failedRows := data.failedRows + result.rowsFailed

def addToDimension (result : FlowNodeResult Uuid) (dimensions : List DimensionData) :
    List DimensionData :=
  dimensions.map fun data =>
    if data.dimension = dimensionOf (checkTypeOf result) then data.add result else data

def emptyDimensions : List DimensionData :=
  [⟨"structural", [], 0, 0⟩, ⟨"semantic", [], 0, 0⟩, ⟨"statistical", [], 0, 0⟩]

def meanOf (values : List Rat) : Rat := if values = [] then 0 else values.sum / values.length

def CheckTypeData.metrics (round2 : Rat → Rat) (data : CheckTypeData) : CheckTypeMetrics where
  checkType := data.checkType
  dimension := dimensionOf data.checkType
  checkCount := data.checkCount
  avgPassRate := round2 (meanOf data.passRates)
  totalRowsScanned := data.totalRowsScanned
  totalRowsFailed := data.totalRowsFailed

def DimensionData.metrics (round2 : Rat → Rat) (data : DimensionData) : DimensionMetrics where
  dimension := data.dimension
  checkCount := data.checks.length
  avgPassRate := round2 (meanOf data.checks)
  totalRowsScanned := data.totalRows
  totalRowsFailed := data.failedRows
  status :=
    if 95 ≤ meanOf data.checks then "healthy"
    else if 80 ≤ meanOf data.checks then "warning"
    else "critical"

end Aggregation

section Service

/- `round2` is `round(value, 2)`. -/
variable {Uuid : Type} [DecidableEq Uuid] (round2 : Rat → Rat) (tables : Tables Uuid)
  (workspaceId : Uuid) (flowId executionId : Option Uuid) (now : Int)

/-- The flow of a result, through its execution, where it is one of the workspace. -/
def flowOf (result : FlowNodeResult Uuid) : Option Uuid :=
  ((tables.executions.lookup result.executionId).map (·.flowId)).filter fun flow =>
    (tables.flows.lookup flow).any fun row => row.workspaceId = workspaceId

/-- The join of results, executions and flows, with the filters that a caller may give. -/
def inScope (result : FlowNodeResult Uuid) : Bool :=
  (flowOf tables workspaceId result).any (fun flow => flowId.all (· = flow)) &&
    executionId.all (· = result.executionId)

def checkResults : List (FlowNodeResult Uuid) :=
  tables.results.filter fun result =>
    inScope tables workspaceId flowId executionId result && result.nodeType = .check

def finishedChecks : List (FlowNodeResult Uuid) :=
  (checkResults tables workspaceId flowId executionId).filter (·.isFinished)

def avgPassRate (results : List (FlowNodeResult Uuid)) : Rat :=
  (average (results.filterMap (·.passRate))).getD 0

def avgDuration (results : List (FlowNodeResult Uuid)) : Rat :=
  (average (results.filterMap fun result =>
    result.durationSeconds.map fun seconds : Int => (seconds : Rat))).getD 0

def calculateDqScore : Rat :=
  round2 (avgPassRate (finishedChecks tables workspaceId flowId executionId))

def totalFlows : Nat :=
  tables.flows.entries.countP fun entry =>
    entry.2.workspaceId = workspaceId && flowId.all (· = entry.1)

def computeOverview : OverviewMetrics where
  totalRules := totalFlows tables workspaceId flowId
  totalExecutions := (finishedChecks tables workspaceId flowId executionId).length
  averagePassRate := round2 (avgPassRate (finishedChecks tables workspaceId flowId executionId))
  dqScore := calculateDqScore round2 tables workspaceId flowId executionId
  criticalViolations := (finishedChecks tables workspaceId flowId executionId).countP fun result =>
    result.passRate.any fun rate => rate < 80
  totalDataSources := tables.controlSources.countP fun source =>
    source.workspaceId = workspaceId && source.archivedAt.isNone
  totalFlows := totalFlows tables workspaceId flowId
  lastUpdated := now

def getOverviewMetrics (useCache : Bool) : Reported OverviewMetrics :=
  let cached := tables.cache.find? fun entry =>
    entry.workspaceId = workspaceId && entry.metricType == "overview" &&
      entry.calculatedAt.any fun calculated => now - 5 * 60 * 1000000 < calculated
  match cached.filter fun _ => useCache with
  | some entry => .cached entry.metricValue
  | none => .computed (computeOverview round2 tables workspaceId flowId executionId now)

def categoryChecks (period : String) (category : String) : List (FlowNodeResult Uuid) :=
  (finishedChecks tables workspaceId flowId none).filter fun result =>
    result.checkType = some category &&
      (decide ((getDateRange now period).1 ≤ result.createdAt) &&
        decide (result.createdAt ≤ (getDateRange now period).2))

/-- `COUNT(DISTINCT flow)` over every check of a category. -/
def categoryRules (category : String) : Nat :=
  (((checkResults tables workspaceId flowId none).filter (·.checkType = some category)).filterMap
    (flowOf tables workspaceId)).dedup.length

def categoryMetrics (period : String) (category : String) : CategoryMetrics where
  category := category
  totalRules := categoryRules tables workspaceId flowId category
  totalExecutions := (categoryChecks tables workspaceId flowId now period category).length
  passRate := round2 (avgPassRate (categoryChecks tables workspaceId flowId now period category))
  avgExecutionTime := round2 (avgDuration (categoryChecks tables workspaceId flowId now period
    category))

def getCategoryBreakdown (period : String) : CategoryBreakdown :=
  let categories :=
    (dqCategories.map (categoryMetrics round2 tables workspaceId flowId now period)).filter
      fun metrics => 0 < metrics.totalExecutions
  { categories, total := categories.length }

def getDimensionalBreakdown : DimensionalBreakdown :=
  let results := finishedChecks tables workspaceId flowId executionId
  let checkTypeData := results.foldl (fun data result => addToCheckType result data) []
  let dimensionData :=
    results.foldl (fun data result => addToDimension result data) emptyDimensions
  { byDimension := dimensionData.map (·.metrics round2)
    byCheckType := checkTypeData.map (·.metrics round2) }

end Service

end CogniDQ.Reporting
