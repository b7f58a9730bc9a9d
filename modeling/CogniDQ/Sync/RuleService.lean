import CogniDQ.Rules.Compiler
import CogniDQ.Sync.FlowService

/-!
# The rule service

The operations that store rules, each of which compiles the canonical rule with targets it reads
from the entity in its own way. A request that raises an error is rolled back.
-/

set_option autoImplicit false

namespace CogniDQ.Sync

open CogniDQ.Python CogniDQ.Rules CogniDQ.Flow

inductive RuleCategory where
  | completeness
  | validity
  | conformity
  | uniqueness
  | consistency
  | accuracy
  | timeliness
  | statistical
  | reconciliation
deriving DecidableEq, Repr

def RuleCategory.value : RuleCategory → String
  | .completeness => "completeness"
  | .validity => "validity"
  | .conformity => "conformity"
  | .uniqueness => "uniqueness"
  | .consistency => "consistency"
  | .accuracy => "accuracy"
  | .timeliness => "timeliness"
  | .statistical => "statistical"
  | .reconciliation => "reconciliation"

inductive ViolationSeverity where
  | blocker
  | critical
  | major
  | minor
  | info
deriving DecidableEq, Repr

def ViolationSeverity.value : ViolationSeverity → String
  | .blocker => "blocker"
  | .critical => "critical"
  | .major => "major"
  | .minor => "minor"
  | .info => "info"

structure CanonicalRuleDefinition where
  dimension : RuleCategory
  entity : String
  condition : String
  expectation : String
  severity : ViolationSeverity
  parameters : Option Dict

def CanonicalRuleDefinition.dict (rule : CanonicalRuleDefinition) : Dict :=
  [("dimension", .str rule.dimension.value), ("entity", .str rule.entity),
    ("condition", .str rule.condition), ("expectation", .str rule.expectation),
    ("severity", .str rule.severity.value),
    ("parameters", rule.parameters.elim .none fun parameters => .dict parameters)]

structure CreateRuleRequest where
  name : String
  description : Option String
  canonicalRule : CanonicalRuleDefinition
  dataSourceId : Option String
  targetSchema : Option String
  targetTable : Option String
  targetColumns : Option (List String)
  schedule : Option Dict
  thresholdConfig : Option Dict
  notificationConfig : Option Dict
  tags : Option (List String)

structure UpdateRuleRequest where
  name : Option String
  description : Option String
  category : Option RuleCategory
  ruleType : Option String
  canonicalRule : Option CanonicalRuleDefinition
  dataSourceId : Option String
  targetTable : Option String
  targetColumns : Option (List String)
  status : Option RuleStatus
  isActive : Option Bool
  schedule : Option Dict
  thresholdConfig : Option Dict
  notificationConfig : Option Dict
  tags : Option (List String)
  metadata : Option Dict

/-- The target columns of a rule: what its SQL is compiled for besides the canonical rule. -/
structure Targets where
  schema : Option String
  table : Option String
  columns : List Value

def splitDots (entity : String) : List String :=
  (entity.toList.splitOn '.').map String.ofList

/-- `compile_rule` on a canonical rule as a dictionary. Parameters that are no dictionary are read
by all dimensions but the statistical one and the unknown ones. -/
def compileCanonical (runtime : Runtime) (canonical : Dict) (targets : Targets) :
    Except Exn (Outcome Compiled) :=
  match canonical.get "entity" with
  | .str entity =>
    let compileWith (parameters : Dict) :=
      compileRule runtime
        { dimension := canonical.get "dimension"
          entity
          condition := canonical.get "condition"
          parameters }
        (targets.schema.getD "") (targets.table.getD "") (targets.columns.map runtime.str)
    match canonical.getD "parameters" (.dict []) with
    | .dict parameters => compileWith parameters
    | _ =>
      if ["completeness", "validity", "uniqueness", "conformity", "consistency", "timeliness",
          "accuracy", "reconciliation"].any (canonical.get "dimension").is then
        .error .attributeError
      else compileWith []
  | _ => .error .typeError

def compiledSql : Outcome Compiled → CompiledSql
  | .failed .flagged _ => { sql := "", postgres := some "", mysql := some "", snowflake := some "" }
  | .failed _ message =>
    { sql := "-- ERROR: " ++ message, postgres := some ("-- ERROR: " ++ message), mysql := none,
      snowflake := none }
  | .compiled compiled =>
    { sql := compiled.query.phrase.text, postgres := some compiled.query.phrase.text,
      mysql := compiled.mysql, snowflake := compiled.mysql.map fun _ => compiled.query.phrase.text }

namespace RuleService

def textOr (value : Option String) (other : Option String) : Option String :=
  if value.getD "" = "" then other else value

/-- The schema, table and column that a new rule's entity names. -/
def entityTargets (entity : String) : Option String × String × Option String :=
  match splitDots entity with
  | schema :: table :: column :: _ => (some schema, table, some column)
  | [table, column] => (none, table, some column)
  | _ => (none, entity, none)

/-- The column of a new rule: the first that the request gives, or the entity's. -/
def createColumn (request : CreateRuleRequest) : String :=
  match request.targetColumns with
  | some (column :: _) => column
  | _ => (entityTargets request.canonicalRule.entity).2.2.getD ""

def createTargets (request : CreateRuleRequest) : Targets where
  schema := textOr request.targetSchema (entityTargets request.canonicalRule.entity).1
  table := textOr request.targetTable (some (entityTargets request.canonicalRule.entity).2.1)
  columns := if createColumn request = "" then [] else [.str (createColumn request)]

def createColumns (request : CreateRuleRequest) : List Value :=
  if createColumn request = "" then (request.targetColumns.getD []).map .str
  else [.str (createColumn request)]

variable {Uuid : Type} (linking : Linking Uuid)

/-- `create_rule`. `accepted` is whether the database takes the row. -/
def createRule (id createdBy workspaceId : Uuid) (accepted : Bool) (request : CreateRuleRequest)
    (store : Store Uuid) : Except Exn (Store Uuid) := do
  let canonical := request.canonicalRule.dict
  let targets := createTargets request
  let compilation ← compileCanonical linking.runtime canonical targets
  if (compiledSql compilation).sql = "" then
    .error (.valueError "Rule compilation failed - no SQL generated")
  else if !accepted then
    .error (.valueError ("Rule with name '" ++ request.name ++
      "' already exists for this organization"))
  else
    return { store with
      rules := store.rules ++ [
        { id, workspaceId
          name := .str request.name
          description := request.description.elim .none .str
          category := .str request.canonicalRule.dimension.value
          -- The schema of a canonical rule has no `type`.
          ruleType := .none
          canonicalRule := canonical
          compiled := compiledSql compilation
          dataSourceId := request.dataSourceId
          targetSchema := targets.schema
          targetTable := targets.table
          targetColumns := some (createColumns request)
          status := .draft
          isActive := true
          schedule := request.schedule
          thresholdConfig := request.thresholdConfig
          notificationConfig := request.notificationConfig
          tags := request.tags
          metaData := none
          createdBy := some createdBy
          ownerUserId := some createdBy }] }

def updateTargets (entity : String) : Targets :=
  let parts := splitDots entity
  { schema := if 1 < parts.length then some (parts.headD "") else none
    table := some (if parts.length = 3 then parts.getD 1 "" else parts.headD "")
    columns := [.str (parts.getLastD "")] }

/-- The part of an update that compiles a canonical rule which differs from the stored one. -/
def recompile (request : UpdateRuleRequest) (rule : DQRule Uuid) : Except Exn (DQRule Uuid) :=
  match request.canonicalRule with
  | none => .ok rule
  | some definition =>
    if Value.eqEntries [] definition.dict rule.canonicalRule then .ok rule
    else do
      let compilation ← compileCanonical linking.runtime definition.dict
        { schema := none, table := none, columns := [] }
      if (compiledSql compilation).sql = "" then
        .error (.valueError "Rule recompilation failed - no SQL generated")
      else
        let targets := updateTargets definition.entity
        return { rule with
          canonicalRule := definition.dict
          category := .str definition.dimension.value
          compiled := compiledSql compilation
          targetSchema := targets.schema
          targetTable := targets.table
          targetColumns := some targets.columns }

def overwrite (request : UpdateRuleRequest) (rule : DQRule Uuid) : DQRule Uuid :=
  { rule with
    name := (request.name.map .str).getD rule.name
    description := (request.description.map .str).getD rule.description
    category := (request.category.map fun category => .str category.value).getD rule.category
    ruleType := (request.ruleType.map .str).getD rule.ruleType
    dataSourceId := request.dataSourceId.or rule.dataSourceId
    targetTable := request.targetTable.or rule.targetTable
    targetColumns := (request.targetColumns.map fun columns => columns.map .str).or
      rule.targetColumns
    status := request.status.getD rule.status
    isActive := request.isActive.getD rule.isActive
    schedule := request.schedule.or rule.schedule
    thresholdConfig := request.thresholdConfig.or rule.thresholdConfig
    notificationConfig := request.notificationConfig.or rule.notificationConfig
    tags := request.tags.or rule.tags
    metaData := request.metadata.or rule.metaData }

variable [DecidableEq Uuid]

/-- `update_rule`: nothing is done where the rule is not found. `accepted` is whether the database
takes the row; if not, its error is raised again. -/
def updateRule (ruleId workspaceId : Uuid) (accepted : Bool) (request : UpdateRuleRequest)
    (store : Store Uuid) : Except Exn (Store Uuid) :=
  match store.rules.find? (ofId workspaceId ruleId) with
  | none => .ok store
  | some rule => do
    let recompiled ← recompile linking request rule
    if !accepted then .error .databaseError
    else
      return { store with
        rules := writeRule workspaceId ruleId (overwrite request recompiled) store.rules }

def deleteRule (ruleId workspaceId : Uuid) (softDelete : Bool) (store : Store Uuid) :
    Store Uuid × Bool :=
  match store.rules.find? (ofId workspaceId ruleId) with
  | none => (store, false)
  | some rule =>
    if softDelete then
      ({ store with
        rules := writeRule workspaceId ruleId { rule with isActive := false, status := .archived }
          store.rules }, true)
    else ({ store with rules := store.rules.filter fun other => !ofId workspaceId ruleId other }, true)

def propagate (workspaceId : Uuid) (commits : Bool)
    (oldDefinition newDefinition : Option StoredDefinition) (store : Store Uuid) :
    Except Exn (Store Uuid) := do
  let (rules, _) ← propagateFlowToRules linking false commits workspaceId oldDefinition
    newDefinition store.rules
  return { store with rules }

/-- The requests that store, change or remove rules. -/
inductive Call (Uuid : Type) where
  | createRule (id createdBy workspaceId : Uuid) (accepted : Bool) (request : CreateRuleRequest)
  | updateRule (ruleId workspaceId : Uuid) (accepted : Bool) (request : UpdateRuleRequest)
  | deleteRule (ruleId workspaceId : Uuid) (softDelete : Bool)
  | propagateFlowToRules (workspaceId : Uuid) (commits : Bool)
      (oldDefinition newDefinition : Option StoredDefinition)

def Call.run (store : Store Uuid) : Call Uuid → Except Exn (Store Uuid)
  | .createRule id createdBy workspaceId accepted request =>
    RuleService.createRule linking id createdBy workspaceId accepted request store
  | .updateRule ruleId workspaceId accepted request =>
    RuleService.updateRule linking ruleId workspaceId accepted request store
  | .deleteRule ruleId workspaceId softDelete =>
    .ok (RuleService.deleteRule ruleId workspaceId softDelete store).1
  | .propagateFlowToRules workspaceId commits oldDefinition newDefinition =>
    propagate linking workspaceId commits oldDefinition newDefinition store

def Call.step (store : Store Uuid) (call : Call Uuid) : Store Uuid :=
  match call.run linking store with
  | .ok next => next
  | .error _ => store

def reached (store : Store Uuid) : List (Call Uuid) → List (Store Uuid)
  | [] => [store]
  | call :: rest => store :: reached (call.step linking store) rest

end RuleService

end CogniDQ.Sync
