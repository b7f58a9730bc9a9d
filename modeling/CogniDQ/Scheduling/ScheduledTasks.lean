import Mathlib.Order.Bounds.Basic
import CogniDQ.Python.Value
import CogniDQ.Python.Dynamic
import CogniDQ.Python.Equality

/-!
# Cron iterators

A cron expression is known by the times of its ticks, in microseconds. The iterator searches from
its current time and moves to what it finds.
-/

set_option autoImplicit false

namespace CogniDQ.Scheduling

open CogniDQ.Python

/-- A parsed expression, with the searches for the first tick after a time and the last before it. -/
structure Cron where
  IsTick : Int → Prop
  next : Int → Option Int
  prev : Int → Option Int
  next_iff : ∀ {time found : Int},
    next time = some found ↔ IsLeast {tick | IsTick tick ∧ time < tick} found
  prev_iff : ∀ {time found : Int},
    prev time = some found ↔ IsGreatest {tick | IsTick tick ∧ tick < time} found

namespace Cron

variable {cron : Cron} {time found : Int}

private theorem lt_of_next (next : cron.next time = some found) : time < found :=
  (cron.next_iff.mp next).1.2

end Cron

/-- `croniter(expression, start)`. -/
structure Croniter where
  cron : Cron
  current : Int

namespace Croniter

def getNext (iterator : Croniter) : Except Exn (Int × Croniter) :=
  match iterator.cron.next iterator.current with
  | some found => .ok (found, { iterator with current := found })
  | none => .error (.valueError "failed to find next date")

def getPrev (iterator : Croniter) : Except Exn (Int × Croniter) :=
  match iterator.cron.prev iterator.current with
  | some found => .ok (found, { iterator with current := found })
  | none => .error (.valueError "failed to find prev date")

theorem lt_of_getNext {iterator moved : Croniter} {found : Int}
    (searched : iterator.getNext = .ok (found, moved)) : iterator.current < found := by
  unfold getNext at searched
  split at searched
  · next next =>
    cases searched
    exact Cron.lt_of_next next
  · cases searched

end Croniter

end CogniDQ.Scheduling

/-!
## The scheduled tasks

`scheduled_flow_execution_task` and `scheduled_rule_execution_task`, which a timer calls every
minute. A flow and a rule have the same columns here; what the tasks log is left out. A delayed
task creates its execution record at the time of the poll.
-/

namespace CogniDQ.Scheduling

open CogniDQ.Python

def seconds (count : Int) : Int := count * 1000000

def minutes (count : Int) : Int := seconds (60 * count)

/-- What the tasks take from elsewhere: the text of an identity, and the parser of croniter. -/
structure Platform (Uuid : Type) where
  uuidText : Uuid → String
  parseCron : String → Option Cron

/-- A row of `dq_flows` or of `dq_rules`. -/
structure Scheduled (Uuid : Type) where
  id : Uuid
  workspaceId : Uuid
  createdBy : Option Uuid
  isActive : Option Bool
  schedule : Option Value

/-- A row of `flow_executions` or of `rule_executions`. -/
structure Execution (Uuid : Type) where
  subject : Uuid
  createdAt : Int

structure Tables (Uuid : Type) where
  rows : List (Scheduled Uuid)
  executions : List (Execution Uuid)

structure Call where
  subjectId : String
  workspaceId : String
  executedBy : String
  executionType : String

structure Triggered (Uuid : Type) where
  execution : Execution Uuid
  call : Call

/-- `croniter(expression, start)`, which lowers the expression before it parses it. -/
def Platform.croniter {Uuid : Type} (platform : Platform Uuid) (expression : Value) (start : Int) :
    Except Exn Croniter := do
  let text ← expression.asText
  match platform.parseCron text with
  | some cron => .ok ⟨cron, start⟩
  | none => .error (.valueError "bad cron expression")

def item (key : String) : Value → Except Exn Value
  | .dict entries =>
      match List.lookup key entries with
      | some value => .ok value
      | none => .error (.keyError key)
  | _ => .error .typeError

/-- The dictionary whose `get` is called. -/
def asDict : Value → Except Exn Dict
  | .dict entries => .ok entries
  | _ => .error .attributeError

section Tasks

variable {Uuid : Type} [DecidableEq Uuid] (platform : Platform Uuid)

def Platform.ownerText (row : Scheduled Uuid) : String :=
  match row.createdBy with
  | some user => platform.uuidText user
  | none => "None"

def Platform.call (row : Scheduled Uuid) : Call where
  subjectId := platform.uuidText row.id
  workspaceId := platform.uuidText row.workspaceId
  executedBy := platform.ownerText row
  executionType := "scheduled"

/-- One turn of the loop over the flows: whether the flow is triggered. -/
def checkFlow (executions : List (Execution Uuid)) (currentTime : Int) (flow : Scheduled Uuid) :
    Except Exn Bool :=
  let schedule := flow.schedule.getD .none
  if schedule.truthy then do
    let schedule ← asDict schedule
    if (schedule.get "enabled").truthy && (schedule.get "cron").truthy then
      let cron ← platform.croniter (schedule.get "cron") currentTime
      let (nextRun, _) ← cron.getNext
      let timeSinceNextRun := currentTime - nextRun
      if 0 ≤ timeSinceNextRun ∧ timeSinceNextRun ≤ minutes 1 then
        let recent := executions.any fun execution =>
          execution.subject = flow.id && currentTime - minutes 2 ≤ execution.createdAt
        return !recent
      else return false
    else return false
  else return false

def created (executions : List (Execution Uuid)) (id : Uuid) : List Int :=
  (executions.filter (·.subject = id)).map (·.createdAt)

def checkRule (executions : List (Execution Uuid)) (now : Int) (rule : Scheduled Uuid) :
    Except Exn Bool :=
  let schedule := rule.schedule.getD .none
  if schedule.truthy then do
    if ← Value.isIn (.str "cron") schedule then
      let expression ← item "cron" schedule
      let cron ← platform.croniter expression now
      let (_, cron) ← cron.getNext
      let (prevRun, _) ← cron.getPrev
      let timeDiff := now - prevRun
      if 0 ≤ timeDiff ∧ timeDiff ≤ seconds 60 then
        match (created executions rule.id).max? with
        | none => return true
        | some lastExec => return !decide (now - lastExec < seconds 60)
      else return false
    else return false
  else return false

/-- The loop of a task. A row whose check raises is passed over, as one that is not due. -/
def triggerDue (check : List (Execution Uuid) → Int → Scheduled Uuid → Except Exn Bool)
    (now : Int) (executions : List (Execution Uuid)) :
    List (Scheduled Uuid) → List (Execution Uuid) × List (Triggered Uuid)
  | [] => (executions, [])
  | row :: rest =>
    match check executions now row with
    | .ok true =>
      let execution : Execution Uuid := ⟨row.id, now⟩
      let (after, triggered) := triggerDue check now (execution :: executions) rest
      (after, ⟨execution, platform.call row⟩ :: triggered)
    | _ => triggerDue check now executions rest

def Tables.scheduled (tables : Tables Uuid) : List (Scheduled Uuid) :=
  tables.rows.filter fun row => row.isActive = some true && row.schedule.isSome

def pollAll (check : List (Execution Uuid) → Int → Scheduled Uuid → Except Exn Bool)
    (tables : Tables Uuid) (now : Int) : Tables Uuid × List (Triggered Uuid) :=
  let (executions, triggered) :=
    triggerDue platform check now tables.executions tables.scheduled
  ({ tables with executions }, triggered)

def scheduledFlowExecutionTask (tables : Tables Uuid) (now : Int) :
    Except Exn (Tables Uuid × List (Triggered Uuid)) :=
  .ok (pollAll platform (checkFlow platform) tables now)

/-- A function that yields a session, and what its decorator makes of it. -/
inductive SessionSource where
  | generator
  | contextManager

/-- `next(source())`: what `contextmanager` returns is no iterator. -/
def SessionSource.next : SessionSource → Except Exn Unit
  | .generator => .ok ()
  | .contextManager => .error .typeError

def getDbContext : SessionSource := .contextManager

def executeScheduledRules (source : SessionSource) (tables : Tables Uuid) (now : Int) :
    Except Exn (Tables Uuid × List (Triggered Uuid)) := do
  source.next
  return pollAll platform (checkRule platform) tables now

def scheduledRuleExecutionTask (tables : Tables Uuid) (now : Int) :
    Except Exn (Tables Uuid × List (Triggered Uuid)) :=
  executeScheduledRules platform getDbContext tables now

/-- What a task triggers over a sequence of polls. A poll that raises leaves the tables. -/
def runPolls (task : Tables Uuid → Int → Except Exn (Tables Uuid × List (Triggered Uuid)))
    (tables : Tables Uuid) : List Int → List (Triggered Uuid)
  | [] => []
  | now :: later =>
    match task tables now with
    | .ok (after, triggered) => triggered ++ runPolls task after later
    | .error _ => runPolls task tables later

end Tasks

end CogniDQ.Scheduling
