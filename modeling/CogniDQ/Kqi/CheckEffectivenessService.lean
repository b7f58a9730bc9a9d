import CogniDQ.Database.Paging
import CogniDQ.Execution.ResultNormalizer
import CogniDQ.Python.Binary64
import CogniDQ.Python.Grouping
import CogniDQ.Rules.RuleExecutor

/-!
# Check effectiveness

The service that puts every check of a workspace into one class, by the results of its runs in the
last ninety days. The results come newest first; results of the same moment may come in any order.
-/

set_option autoImplicit false

namespace CogniDQ.Kqi

open CogniDQ.Python CogniDQ.Execution CogniDQ.Database

namespace CheckEffectiveness

/-- The hexadecimal digits and hyphens of a flow's id. -/
structure FlowId where
  text : String
  plain : ':' ∉ text.toList
  deriving DecidableEq

/-- A result of a node, with its execution and its flow. Times are in seconds. -/
structure CheckRun where
  workspaceId : String
  flowId : FlowId
  flowName : String
  nodeId : String
  nodeType : String
  status : String
  resultData : Option Dict
  createdAt : Int

def alwaysPassingMinRuns : Nat := 10
def alwaysFailingMinRuns : Nat := 5
def maxRunsPerCheck : Nat := 30

def float (value : Rat) : Rat := Binary64.nearest Rules.roundHalfEven value

def alwaysFailingRateThreshold : Rat := float (9 / 10)
def noisyFlipRateThreshold : Rat := float (3 / 10)

def cutoff (now : Int) (days : Nat) : Int := now - days * 86400

abbrev NewestFirst : Type := OrderBy CheckRun fun run => -run.createdAt

def selected (workspaceId : String) (cutoff90d : Int) (run : CheckRun) : Bool :=
  run.workspaceId = workspaceId && run.nodeType = "check" &&
    decide (run.status ∈ ["completed", "failed"]) && decide (cutoff90d ≤ run.createdAt)

def checkRuns (order : NewestFirst) (workspaceId : String) (cutoff90d : Int)
    (runs : List CheckRun) : List CheckRun :=
  order.arrange (runs.filter (selected workspaceId cutoff90d))

namespace CheckRun

variable (runtime : Runtime) (run : CheckRun)

def key : String := run.flowId.text ++ ":" ++ run.nodeId

def data : Dict := run.resultData.getD []

end CheckRun

/-! ### One result -/

def atLeast : Double → Double → Bool
  | .nan, _ => false
  | _, .nan => false
  | .infinity false, _ => true
  | _, .infinity true => true
  | .finite value, .finite bound => bound ≤ value
  | _, _ => false

def rstripPercent (text : String) : String :=
  String.ofList (text.toList.reverse.dropWhile (· = '%')).reverse

/-- `float(rd.get("pass_rate", 0))`, or zero if that is no number. -/
def passRate (runtime : Runtime) (data : Dict) : Except Exn Double := do
  let read ← suppress (toFloat runtime (data.getD "pass_rate" (.int 0)))
  return read.getD (.finite 0)

/-- The number that a threshold stands for, a text perhaps with a percent sign. -/
def thresholdNumber (runtime : Runtime) (value : Value) : Double :=
  match toFloat runtime (.str (rstripPercent (runtime.str value))) with
  | .ok number => number
  | .error _ => .finite 80

def threshold (runtime : Runtime) (data : Dict) : Double :=
  let raw := (data.get "threshold_pass").or (data.get "threshold")
  if raw.truthy then thresholdNumber runtime raw else .finite 80

structure Entry where
  passed : Bool
  passRate : Double
  createdAt : Int

def readEntry (runtime : Runtime) (run : CheckRun) : Except Exn Entry := do
  let rate ← passRate runtime run.data
  return {
    passed := run.status = "completed" && atLeast rate (threshold runtime run.data)
    passRate := rate
    createdAt := run.createdAt }

/-! ### The check of a result -/

structure CheckMeta where
  flowId : FlowId
  flowName : String
  nodeId : String
  checkName : Value
  checkType : Value
  column : Value

def CheckRun.toMeta (run : CheckRun) : CheckMeta where
  flowId := run.flowId
  flowName := run.flowName
  nodeId := run.nodeId
  checkName := ((run.data.get "check_name").or (run.data.get "rule_name")).or (.str run.nodeId)
  checkType := run.data.getD "check_type" (.str "")
  column := (run.data.get "column_name").or (run.data.getD "column" (.str ""))

/-- What a check checks, if both its type and its column are given. -/
def CheckMeta.target (runtime : Runtime) (check : CheckMeta) : Option (String × String) :=
  if check.checkType.truthy && check.column.truthy then
    some (runtime.str check.checkType, runtime.str check.column)
  else none

def CheckMeta.label (runtime : Runtime) (check : CheckMeta) : Option String :=
  (check.target runtime).map fun target => target.1 ++ ":" ++ target.2

def duplicateKeys (runtime : Runtime) (metas : List (String × CheckMeta)) : List String :=
  (Grouping.gather (fun _ => true) (metas.filterMap fun item =>
    (item.2.label runtime).map fun label => (label, item.1))).flatMap fun group => group.2.drop 1

/-! ### The class of a check -/

inductive Classification where
  | noisy
  | alwaysPass
  | alwaysFail
  | duplicate
  | effective
  deriving DecidableEq

structure CheckInfo extends CheckMeta where
  flipRate : Option Rat
  passRate30d : Option Double

def plainInfo (check : CheckMeta) : CheckInfo :=
  { check with flipRate := none, passRate30d := none }

def plus (runtime : Runtime) : Double → Double → Double
  | .finite left, .finite right => Double.round runtime (left + right)
  | .nan, _ => .nan
  | _, .nan => .nan
  | .infinity left, .infinity right => if left = right then .infinity left else .nan
  | .infinity left, .finite _ => .infinity left
  | .finite _, .infinity right => .infinity right

def averageRate (runtime : Runtime) (entries : List Entry) : Double :=
  match entries.foldl (fun total entry => plus runtime total entry.passRate) (.finite 0) with
  | .finite total =>
    .finite (runtime.nearest
      (Rules.roundHalfEven (runtime.nearest (total / entries.length) * 10) / 10))
  | other => other

def failRate (passes runs : Nat) : Rat := float (1 - float (passes / runs))

def recentEntries (cutoff30d : Int) (history : List Entry) : List Entry :=
  history.filter fun entry => cutoff30d ≤ entry.createdAt

def alwaysPassing (history : List Entry) : Bool :=
  decide (alwaysPassingMinRuns ≤ history.length) &&
    decide ((history.map Entry.passed).count true = history.length)

def alwaysFailing (recent : List Entry) : Bool :=
  decide (alwaysFailingMinRuns ≤ recent.length) &&
    decide (alwaysFailingRateThreshold ≤
      failRate ((recent.map Entry.passed).count true) recent.length)

def flips : List Bool → Nat
  | [] => 0
  | [_] => 0
  | first :: second :: rest => (if second ≠ first then 1 else 0) + flips (second :: rest)

def flipRate (history : List Entry) : Rat :=
  float (flips (history.map Entry.passed) / (history.length - 1 : Nat))

def classifyCheck (runtime : Runtime) (cutoff30d : Int) (duplicates : List String) (key : String)
    (check : CheckMeta) (history : List Entry) : Option (Classification × CheckInfo) :=
  let recent := recentEntries cutoff30d history
  if key ∈ duplicates then some (.duplicate, plainInfo check)
  else if history.length = 0 then none
  else if alwaysPassing history then some (.alwaysPass, plainInfo check)
  else if alwaysFailing recent then
    some (.alwaysFail, { plainInfo check with passRate30d := some (averageRate runtime recent) })
  else if 2 ≤ history.length ∧ noisyFlipRateThreshold < flipRate history then
    some (.noisy, { plainInfo check with
      flipRate := some (float (Rules.roundHalfEven (flipRate history * 100) / 100))
      passRate30d := some (averageRate runtime history) })
  else some (.effective, plainInfo check)

/-- The lists of the classes. Every key of the history is one of the metadata. -/
def classifyRuns (runtime : Runtime) (cutoff30d : Int) (runs : List CheckRun) :
    Except Exn (Classification → List CheckInfo) := do
  let entries ← runs.mapM (readEntry runtime)
  let history := Grouping.gather (fun count => count < maxRunsPerCheck)
    ((runs.map CheckRun.key).zip entries)
  let metas := Grouping.firsts (runs.map fun run => (run.key, run.toMeta))
  let classified := history.filterMap fun item =>
    (metas.lookup item.1).bind fun check =>
      classifyCheck runtime cutoff30d (duplicateKeys runtime metas) item.1 check item.2
  return fun class_ => classified.filterMap fun item =>
    if item.1 = class_ then some item.2 else none

def classifyAllChecks (runtime : Runtime) (order : NewestFirst) (now : Int) (workspaceId : String)
    (runs : List CheckRun) : Except Exn (Classification → List CheckInfo) :=
  classifyRuns runtime (cutoff now 30) (checkRuns order workspaceId (cutoff now 90) runs)

end CheckEffectiveness

end CogniDQ.Kqi
