import CogniDQ.Python.Equality
import CogniDQ.Python.Dynamic

/-!
# Alert triggers

`AlertTriggerService`: the rules of a workspace that a payload matches, their channels and their
recipients, and one notification event for each. The audit entry of a caller with an audit context
is left out.
-/

set_option autoImplicit false

namespace CogniDQ.Triggers

open CogniDQ.Python

/-- A JSONB column that is NULL reads as `None`. -/
structure AlertRule (Uuid : Type) where
  id : Uuid
  workspaceId : Uuid
  triggerType : String
  conditions : Value
  enabled : Bool
  channelIds : Value
  recipientUserIds : Value
  recipientRoles : Value

structure AlertChannel (Uuid : Type) where
  id : Uuid
  workspaceId : Uuid
  enabled : Bool

structure User (Uuid : Type) where
  id : Uuid
  email : String

structure NotificationEvent (Uuid : Type) where
  tenantId : Uuid
  workspaceId : Uuid
  alertRuleId : Uuid
  alertChannelId : Uuid
  recipient : String
  status : String
  payload : Dict
  retryCount : Nat
  maxRetries : Nat

/-- The tables that a trigger reads. `workspaces` gives each workspace its tenant. -/
structure Tables (Uuid : Type) where
  workspaces : List (Uuid × Uuid)
  rules : List (AlertRule Uuid)
  channels : List (AlertChannel Uuid)
  users : List (User Uuid)

structure Platform (Uuid : Type) where
  runtime : Runtime
  uuidText : Uuid → String
  parseUuid : String → Option Uuid

def coerceStrList (runtime : Runtime) : Value → List String
  | .none => []
  | .list values =>
      values.filterMap fun value => if value.isNone then none else some (runtime.str value)
  | value => [runtime.str value]

/-! ### Conditions -/

def conditionMatches (actual : Value) : Value → Except Exn Bool
  | .dict entries =>
      let expected : Dict := entries
      if expected.has "in" then actual.isIn ((expected.get "in").or (.list []))
      else if expected.has "eq" then .ok (actual.eq (expected.get "eq"))
      else if expected.has "ne" then .ok (!actual.eq (expected.get "ne"))
      else .ok false
  | .list values => actual.isIn (.list values)
  | expected => .ok (actual.eq expected)

def entriesMatch (payload : Dict) : List (String × Value) → Except Exn Bool
  | [] => .ok true
  | (key, expected) :: rest => do
      if ← conditionMatches (payload.get key) expected then entriesMatch payload rest
      else return false

def conditionsMatch (conditions : Value) (payload : Dict) : Except Exn Bool :=
  if conditions.truthy then
    match conditions with
    | .dict entries => entriesMatch payload entries
    | _ => .error .attributeError
  else .ok true

/-! ### Rendering -/

def stripMarks (text : String) : String :=
  let isMark := fun c : Char => c == ' ' || c == '—'
  String.ofList (((text.toList.dropWhile isMark).reverse.dropWhile isMark).reverse)

/-- The subject of `_render`. -/
def subjectOf (runtime : Runtime) (triggerType : String) (payload : Dict) : String :=
  let title := (payload.get "title").or ((payload.get "name").or (.str ""))
  let named := fun (label : String) (value : Value) =>
    stripMarks s!"DQ Hub: {label} — {runtime.str value}"
  let either := fun first second => (payload.get first).or ((payload.get second).or (.str ""))
  match triggerType with
  | "execution_failed" => named "Execution failed" (title.or (either "flow_name" "flow_id"))
  | "execution_completed" => named "Execution completed" (title.or (either "flow_name" "flow_id"))
  | "rule_failed" => named "Rule failed" (title.or (either "rule_name" "rule_id"))
  | "check_failed" => named "Check failed" (title.or ((payload.get "node_id").or (.str "")))
  | "issue_created" => named "New issue" title
  | "issue_overdue" => named "Issue overdue" title
  | "incident_created" => named "New incident" title
  | "incident_status_changed" => named "Incident status changed" title
  | "incident_assigned" => named "Incident assigned to you" title
  | _ => s!"DQ Hub: {triggerType}"

/-- The body of `_render`. -/
def bodyOf (runtime : Runtime) (triggerType : String) (payload : Dict) : String :=
  let shown := List.filter (fun entry => entry.1 != "subject" && entry.1 != "body") payload
  "\n".intercalate (s!"Trigger: {triggerType}" ::
    shown.map fun entry => s!"{entry.1}: {runtime.str entry.2}")

def merged (base other : Dict) : Dict :=
  List.foldl (fun dictionary entry => Dict.set dictionary entry.1 entry.2) base other

/-! ### The service -/

section Service

variable {Uuid : Type} [DecidableEq Uuid] (platform : Platform Uuid) (tables : Tables Uuid)

def Platform.parseAll (ids : List String) : Option (List Uuid) := ids.mapM platform.parseUuid

def resolveTenantId (workspaceId : Uuid) : Option Uuid := tables.workspaces.lookup workspaceId

def resolveChannelIds (rule : AlertRule Uuid) (workspaceId : Uuid) : List Uuid :=
  match platform.parseAll (coerceStrList platform.runtime rule.channelIds) with
  | none => []
  | some ids =>
    (tables.channels.filter fun channel =>
      decide (channel.id ∈ ids) && decide (channel.workspaceId = workspaceId) &&
        channel.enabled).map (·.id)

/-- `_resolve_role_emails`: the module `app.models.role` that it imports does not exist. -/
def resolveRoleEmails (_workspaceId : Uuid) (_roles : List String) : List String := []

/-- The addresses that are not blank and not seen before, in order. -/
def keepNew (seen : List String) : List String → List String
  | [] => []
  | email :: rest =>
      if email != "" && !seen.contains email then email :: keepNew (email :: seen) rest
      else keepNew seen rest

def resolveRecipients (rule : AlertRule Uuid) (workspaceId : Uuid) : List String :=
  let direct :=
    match platform.parseAll (coerceStrList platform.runtime rule.recipientUserIds) with
    | none => []
    | some ids =>
      ((tables.users.filter fun user => decide (user.id ∈ ids)).map (·.email)).filter (· != "")
  let roles := coerceStrList platform.runtime rule.recipientRoles
  keepNew [] (direct ++ resolveRoleEmails workspaceId roles)

def logEvent (workspaceId tenantId ruleId channelId : Uuid) (recipient : String) (payload : Dict) :
    Except Exn (NotificationEvent Uuid) :=
  let recipient := platform.runtime.stripStr recipient
  if recipient = "" then .error (.valueError "recipient must not be blank")
  else .ok {
    tenantId
    workspaceId
    alertRuleId := ruleId
    alertChannelId := channelId
    recipient
    status := "pending"
    payload
    retryCount := 0
    maxRetries := 3 }

/-- The events of one rule. A recipient that `log_event` refuses is passed over. -/
def ruleEvents (workspaceId tenantId : Uuid) (triggerType : String) (payload : Dict)
    (rule : AlertRule Uuid) : Except Exn (List (NotificationEvent Uuid)) := do
  if ← conditionsMatch rule.conditions payload then
    let channelIds := resolveChannelIds platform tables rule workspaceId
    let recipients := resolveRecipients platform tables rule workspaceId
    let rendered : Dict := [("subject", .str (subjectOf platform.runtime triggerType payload)),
      ("body", .str (bodyOf platform.runtime triggerType payload)),
      ("trigger_type", .str triggerType)]
    return channelIds.flatMap fun channelId =>
      recipients.filterMap fun recipient =>
        (logEvent platform workspaceId tenantId rule.id channelId recipient
          (merged rendered payload)).toOption
  else return []

def triggeredRules (workspaceId : Uuid) (triggerType : String) : List (AlertRule Uuid) :=
  tables.rules.filter fun rule =>
    decide (rule.workspaceId = workspaceId) && decide (rule.triggerType = triggerType) &&
      rule.enabled

/-- The events that `trigger` flushes. A rule that raises is passed over. -/
def trigger (workspaceId tenantId : Uuid) (triggerType : String) (payload : Dict) :
    List (NotificationEvent Uuid) :=
  (triggeredRules tables workspaceId triggerType).flatMap fun rule =>
    (ruleEvents platform tables workspaceId tenantId triggerType payload rule).toOption.getD []

def triggerForWorkspace (workspaceId : Uuid) (triggerType : String) (payload : Dict) :
    List (NotificationEvent Uuid) :=
  match resolveTenantId tables workspaceId with
  | none => []
  | some tenantId => trigger platform tables workspaceId tenantId triggerType payload

end Service

end CogniDQ.Triggers

/-!
## The completion notification of a flow

`send_flow_completion_notification` and the alerts that it queues for an execution.
-/

namespace CogniDQ.Triggers

open CogniDQ.Python

inductive ExecutionStatus where
  | pending
  | running
  | completed
  | failed
  | cancelled
deriving DecidableEq

def ExecutionStatus.text : ExecutionStatus → String
  | .pending => "pending"
  | .running => "running"
  | .completed => "completed"
  | .failed => "failed"
  | .cancelled => "cancelled"

def ExecutionStatus.capitalize : ExecutionStatus → String
  | .pending => "Pending"
  | .running => "Running"
  | .completed => "Completed"
  | .failed => "Failed"
  | .cancelled => "Cancelled"

structure FlowExecution (Uuid : Type) where
  id : Uuid
  flowId : Uuid
  status : ExecutionStatus
  durationSeconds : Option Int
  nodesExecuted : Option Int
  nodesPassed : Option Int
  nodesFailed : Option Int
  errorMessage : Option String

structure DQFlow (Uuid : Type) where
  id : Uuid
  workspaceId : Uuid
  name : String

structure Database (Uuid : Type) where
  tables : Tables Uuid
  executions : List (FlowExecution Uuid)
  flows : List (DQFlow Uuid)
  events : List (NotificationEvent Uuid)

/-- An optional column as `str` prints it. -/
def textOf {α : Type} [ToString α] : Option α → String
  | some value => toString value
  | none => "None"

def numberOf : Option Int → Value
  | some value => .int value
  | none => .none

section Task

variable {Uuid : Type} [DecidableEq Uuid] (platform : Platform Uuid) (database : Database Uuid)

/-- `execution.workspace_id`: the model has no such column, and its class no such attribute. -/
def FlowExecution.workspaceId (_execution : FlowExecution Uuid) : Except Exn Uuid :=
  .error .attributeError

def messageOf (execution : FlowExecution Uuid) (flow : DQFlow Uuid) : String :=
  let emoji := if execution.status = .completed then "✅" else "❌"
  let message := s!"{emoji} Flow '{flow.name}' execution {execution.status.text}"
  match execution.status with
  | .completed =>
      message ++ "\n\nResults:" ++ s!"\n- Nodes executed: {textOf execution.nodesExecuted}" ++
        s!"\n- Nodes passed: {textOf execution.nodesPassed}" ++
        s!"\n- Nodes failed: {textOf execution.nodesFailed}" ++
        s!"\n- Duration: {textOf execution.durationSeconds}s"
  | .failed => message ++ s!"\n\nError: {textOf execution.errorMessage}"
  | _ => message

def ExecutionStatus.triggerType : ExecutionStatus → Option String
  | .completed => some "execution_completed"
  | .failed => some "execution_failed"
  | _ => none

def completionPayload (execution : FlowExecution Uuid) (flow : DQFlow Uuid) : Dict :=
  [("subject", .str s!"DQ Flow {execution.status.capitalize}: {flow.name}"),
    ("body", .str (messageOf execution flow)),
    ("flow_id", .str (platform.uuidText flow.id)),
    ("flow_name", .str flow.name),
    ("execution_id", .str (platform.uuidText execution.id)),
    ("status", .str execution.status.text),
    ("nodes_executed", .int (execution.nodesExecuted.getD 0)),
    ("nodes_passed", .int (execution.nodesPassed.getD 0)),
    ("nodes_failed", .int (execution.nodesFailed.getD 0)),
    ("duration_seconds", numberOf execution.durationSeconds),
    ("severity", .str (if execution.status = .failed then "critical" else "info"))]

def checkPayload (execution : FlowExecution Uuid) (flow : DQFlow Uuid) : Dict :=
  ((completionPayload platform execution flow).set "title" (.str flow.name)).set "severity"
    (.str "major")

/-- The events that the task queues, where the workspace is read for each trigger. -/
def queueAlerts (workspaceId : Except Exn Uuid) (execution : FlowExecution Uuid)
    (flow : DQFlow Uuid) (triggerType : String) : Except Exn (List (NotificationEvent Uuid)) := do
  let fired := triggerForWorkspace platform database.tables (← workspaceId) triggerType
    (completionPayload platform execution flow)
  if 0 < execution.nodesFailed.getD 0 then
    return fired ++ triggerForWorkspace platform database.tables (← workspaceId) "check_failed"
      (checkPayload platform execution flow)
  else return fired

def findExecution (executionId : String) : Option (FlowExecution Uuid × DQFlow Uuid) := do
  let id ← platform.parseUuid executionId
  let execution ← database.executions.find? (·.id = id)
  let flow ← database.flows.find? (·.id = execution.flowId)
  return (execution, flow)

/-- `send_flow_completion_notification`: what raises before the commit leaves no event. -/
def sendFlowCompletionNotification (executionId : String) : Database Uuid :=
  match findExecution platform database executionId with
  | none => database
  | some (execution, flow) =>
    match execution.status.triggerType with
    | none => database
    | some triggerType =>
      match queueAlerts platform database execution.workspaceId execution flow triggerType with
      | .error _ => database
      | .ok events => { database with events := database.events ++ events }

end Task

end CogniDQ.Triggers
