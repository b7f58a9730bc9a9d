import CogniDQ.Flow.Validator

/-!
# The flow executor

`execute_flow` against `cancel_execution`: the committed state of one execution
record, and a step for each commit or read that either request makes. Requests
meet only in the database, so a run is any order of these steps.
-/

set_option autoImplicit false

namespace CogniDQ.Flow.FlowExecutor

open CogniDQ.Python

/-- A committed `FlowNodeResult` row. -/
structure NodeResult where
  nodeId : String
  status : NodeStatus
  executionOrder : Nat
deriving DecidableEq, Repr

/-- What the handler of a node did: the statuses the handlers return, or an exception. -/
inductive Outcome where
  | completed
  | warning
  | failed
  | raised
deriving DecidableEq, Repr

/-- The status that `_execute_node` commits for an outcome. -/
def Outcome.status : Outcome → NodeStatus
  | .completed => .completed
  | .warning => .warning
  | .failed | .raised => .failed

def nodeHandlers : NodeType → Bool
  | .source | .check => true
  | _ => false

inductive Progress where
  | waiting
  | started
  | finished (status : NodeStatus)
  | crashed
deriving DecidableEq, Repr

structure Task where
  nodeId : String
  executionOrder : Nat
  progress : Progress
deriving DecidableEq, Repr

def Task.isOver (task : Task) : Bool :=
  match task.progress with
  | .finished _ | .crashed => true
  | .waiting | .started => false

/-- Where `execute_flow` stands between two commits. -/
inductive Phase where
  | starting
  | boundary (levels : List (List String))
  | running (tasks : List Task) (levels : List (List String))
  | processing (tasks : List Task) (hasFailure : Bool) (levels : List (List String))
  | skipping (nodeIds : List String)
  | aggregating
  | returning
  | raising
  | done
deriving DecidableEq, Repr

/-- The counts of `_aggregate_results`. -/
structure Summary where
  nodesExecuted : Nat
  nodesPassed : Nat
  nodesFailed : Nat
  nodesSkipped : Nat
  allPassed : Bool
deriving DecidableEq, Repr

def aggregateResults (nodeResults : List (String × NodeStatus)) : Summary :=
  let count := fun status => nodeResults.countP fun result => result.2 = status
  { nodesExecuted := nodeResults.length
    nodesPassed := count .completed
    nodesFailed := count .failed
    nodesSkipped := count .skipped
    allPassed := count .failed = 0 }

/-- The record, its committed rows, the locals of the run, and the cancel
requests: how many have read "running" and not committed yet, and whether one
has returned `True`. -/
structure Execution where
  status : ExecutionStatus
  rows : List NodeResult
  nodeResults : List (String × NodeStatus)
  orderIdx : Nat
  summary : Option Summary
  phase : Phase
  cancelling : Nat
  cancelReturned : Bool
deriving DecidableEq, Repr

/-- A record before its run: the caller hands it over in some status. -/
def Execution.initial (status : ExecutionStatus) : Execution where
  status
  rows := []
  nodeResults := []
  orderIdx := 0
  summary := none
  phase := .starting
  cancelling := 0
  cancelReturned := false

def setResult (nodeResults : List (String × NodeStatus)) (id : String) (status : NodeStatus) :
    List (String × NodeStatus) :=
  if id ∈ nodeResults.map Prod.fst then
    nodeResults.map fun result => if result.1 = id then (id, status) else result
  else nodeResults ++ [(id, status)]

def levelTasks (orderIdx : Nat) : List String → List Task
  | [] => []
  | id :: rest =>
      { nodeId := id, executionOrder := orderIdx, progress := .waiting } ::
        levelTasks (orderIdx + 1) rest

def setProgress (id : String) (progress : Progress) (tasks : List Task) : List Task :=
  tasks.map fun task => if task.nodeId = id then { task with progress } else task

/-- The update of a row that `_execute_node` created and left "running". -/
def settleRow (task : Task) (status : NodeStatus) (rows : List NodeResult) : List NodeResult :=
  rows.map fun row =>
    if row.nodeId = task.nodeId ∧ row.executionOrder = task.executionOrder ∧
        row.status = .running then { row with status } else row

inductive Action where
  | start
  | enterLevel
  | startNode (id : String)
  | finishNode (id : String) (outcome : Outcome)
  | crashNode (id : String)
  | gather
  | processResult
  | endLevel
  | skipNode
  | finish
  | returnResult
  | raise
  | fail
  | readStatus
  | commitCancel
deriving DecidableEq, Repr

/-- What a run is given: the flow, its configuration, and the order of sets. -/
structure Request where
  flow : FlowDefinition
  continueOnError : Bool
  order : SetOrder String

/-- Validation and the first commit. The levels are computed inside the `try`. -/
def start (request : Request) (execution : Execution) : Option Execution :=
  match FlowValidator.validateFlow request.order request.flow true with
  | .error _ => none
  | .ok response =>
      if response.isValid then
        let phase :=
          match FlowValidator.getExecutionLevels request.order request.flow.nodes
            request.flow.connections with
          | .ok levels => Phase.boundary levels
          | .error _ => .raising
        some { execution with status := .running, phase }
      else some { execution with status := .failed, phase := .done }

/-- The start of the loop body: refresh the record and look for a cancel. -/
def enterLevel (execution : Execution) : List (List String) → Execution
  | [] => { execution with phase := .aggregating }
  | level :: rest =>
      if execution.status = .cancelled then
        { execution with phase := .skipping (level :: rest).flatten }
      else
        { execution with
          phase := .running (levelTasks execution.orderIdx level) rest
          orderIdx := execution.orderIdx + level.length }

def startNode (request : Request) (execution : Execution) (tasks : List Task)
    (levels : List (List String)) (task : Task) : Option Execution := do
  let node ← nodeDict request.flow.nodes task.nodeId
  let handled := nodeHandlers node.type
  let row : NodeResult :=
    { nodeId := task.nodeId
      status := if handled then .running else .failed
      executionOrder := task.executionOrder }
  let progress := if handled then Progress.started else .finished .failed
  return { execution with
    rows := execution.rows ++ [row]
    phase := .running (setProgress task.nodeId progress tasks) levels }

def finishNode (execution : Execution) (tasks : List Task) (levels : List (List String))
    (task : Task) (outcome : Outcome) : Execution :=
  { execution with
    rows := settleRow task outcome.status execution.rows
    phase := .running (setProgress task.nodeId (.finished outcome.status) tasks) levels }

/-- One result of `asyncio.gather`: an exception becomes a failed row of its own. -/
def processResult (execution : Execution) (task : Task) (tasks : List Task) (hasFailure : Bool)
    (levels : List (List String)) : Option Execution :=
  match task.progress with
  | .crashed =>
      some { execution with
        rows := execution.rows ++
          [{ nodeId := task.nodeId, status := .failed, executionOrder := task.executionOrder }]
        nodeResults := setResult execution.nodeResults task.nodeId .failed
        phase := .processing tasks true levels }
  | .finished status =>
      some { execution with
        nodeResults := setResult execution.nodeResults task.nodeId status
        phase := .processing tasks (hasFailure || status = .failed) levels }
  | .waiting | .started => none

def finish (execution : Execution) : Execution :=
  let summary := aggregateResults execution.nodeResults
  { execution with
    status := if summary.allPassed then .completed else .failed
    summary := some summary
    phase := .returning }

/-- An exception can interrupt the `try` block anywhere, up to the refresh after
the last commit. -/
def Phase.inTry : Phase → Bool
  | .starting | .raising | .done => false
  | _ => true

def step (request : Request) (execution : Execution) : Action → Option Execution
  | .start =>
      match execution.phase with
      | .starting => start request execution
      | _ => none
  | .enterLevel =>
      match execution.phase with
      | .boundary levels => some (enterLevel execution levels)
      | _ => none
  | .startNode id =>
      match execution.phase with
      | .running tasks levels => do
          let task ← tasks.find? fun task => task.nodeId = id ∧ task.progress = .waiting
          startNode request execution tasks levels task
      | _ => none
  | .finishNode id outcome =>
      match execution.phase with
      | .running tasks levels => do
          let task ← tasks.find? fun task => task.nodeId = id ∧ task.progress = .started
          return finishNode execution tasks levels task outcome
      | _ => none
  | .crashNode id =>
      match execution.phase with
      | .running tasks levels => do
          let task ← tasks.find? fun task => task.nodeId = id ∧ !task.isOver
          return { execution with
            phase := .running (setProgress task.nodeId .crashed tasks) levels }
      | _ => none
  | .gather =>
      match execution.phase with
      | .running tasks levels =>
          if tasks.all Task.isOver then
            some { execution with phase := .processing tasks false levels }
          else none
      | _ => none
  | .processResult =>
      match execution.phase with
      | .processing (task :: tasks) hasFailure levels =>
          processResult execution task tasks hasFailure levels
      | _ => none
  | .endLevel =>
      match execution.phase with
      | .processing [] hasFailure levels =>
          if hasFailure && !request.continueOnError then
            some { execution with phase := .skipping levels.flatten }
          else some { execution with phase := .boundary levels }
      | _ => none
  | .skipNode =>
      match execution.phase with
      | .skipping [] => some { execution with phase := .aggregating }
      | .skipping (id :: rest) =>
          some { execution with
            rows := execution.rows ++
              [{ nodeId := id, status := .skipped, executionOrder := execution.orderIdx }]
            orderIdx := execution.orderIdx + 1
            phase := .skipping rest }
      | _ => none
  | .finish =>
      match execution.phase with
      | .aggregating => some (finish execution)
      | _ => none
  | .returnResult =>
      match execution.phase with
      | .returning => some { execution with phase := .done }
      | _ => none
  | .raise =>
      if execution.phase.inTry then some { execution with phase := .raising } else none
  | .fail =>
      match execution.phase with
      | .raising => some { execution with status := .failed, phase := .done }
      | _ => none
  | .readStatus =>
      -- A request that reads another status returns `False` and is over.
      if execution.status = .running then
        some { execution with cancelling := execution.cancelling + 1 }
      else some execution
  | .commitCancel =>
      if execution.cancelling = 0 then none
      else
        some { execution with
          status := .cancelled
          cancelling := execution.cancelling - 1
          cancelReturned := true }

/-- A run: the record after a sequence of steps, if each was possible. -/
def run (request : Request) (execution : Execution) (actions : List Action) : Option Execution :=
  actions.foldlM (step request) execution

/-- The states of the runs that only take admitted steps. -/
inductive Reachable (request : Request) (admits : Execution → Action → Prop) :
    Execution → Prop where
  | initial (status : ExecutionStatus) : Reachable request admits (.initial status)
  | step {before after : Execution} {action : Action} :
      Reachable request admits before → admits before action →
      FlowExecutor.step request before action = some after →
      Reachable request admits after

end CogniDQ.Flow.FlowExecutor
