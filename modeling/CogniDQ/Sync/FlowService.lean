import CogniDQ.Flow.Validator
import CogniDQ.Sync.RuleFlowSync

/-!
# The flow service

The operations that store flows, with the rules that an update is mirrored into. A request that
raises an error leaves the store as it was, since its session is not committed.
-/

set_option autoImplicit false

namespace CogniDQ.Sync

open CogniDQ.Python CogniDQ.Flow

/-- The rows of `dq_flows` and `dq_rules`. -/
structure Store (Uuid : Type) where
  flows : List (DQFlow Uuid)
  rules : List (DQRule Uuid)

structure CreateFlowRequest where
  name : String
  description : Option String
  flowDefinition : StoredDefinition
  status : FlowStatus
  schedule : Option Dict
  tags : Option (List String)

structure UpdateFlowRequest where
  name : Option String
  description : Option String
  flowDefinition : Option StoredDefinition
  status : Option FlowStatus
  isActive : Option Bool
  schedule : Option Dict
  tags : Option (List String)

/-- What a file to import holds, once read and checked against the schemas; a file without tags has
none to give. -/
structure ImportedFlow where
  name : String
  description : Option String
  flowDefinition : StoredDefinition
  tags : Option (List String)

/-- What a request of the service depends on besides the store: how identifiers are linked, the
order of sets, how a list of errors is shown, and the readers of the two import formats. -/
structure Environment (Uuid : Type) where
  linking : Linking Uuid
  order : SetOrder String
  describe : List ValidationError → String
  importFromJson : String → Except Exn ImportedFlow
  importFromYaml : String → Except Exn ImportedFlow

namespace FlowService

variable {Uuid : Type} (env : Environment Uuid)

/-- `validate_flow`, of which only a valid outcome is let through. -/
def checkDefinition (definition : StoredDefinition) (strict : Bool) : Except Exn Unit := do
  let validation ←
    FlowValidator.validateFlow env.order definition.toFlowDefinition strict
  if !validation.isValid then
    .error (.valueError ("Invalid flow definition: " ++ env.describe validation.errors))
  else .ok ()

def createFlow (id workspaceId userId : Uuid) (request : CreateFlowRequest) (store : Store Uuid) :
    Except Exn (Store Uuid) := do
  checkDefinition env request.flowDefinition (request.status ≠ .draft)
  return { store with
    flows := store.flows ++ [
      { id, workspaceId
        name := request.name
        description := request.description
        flowDefinition := request.flowDefinition
        status := request.status
        isActive := true
        schedule := request.schedule
        tags := request.tags
        version := 1
        createdBy := some userId
        ownerUserId := some userId }] }

def cleanupOrphanedConnections (definition : StoredDefinition) : StoredDefinition :=
  let validNodeIds := definition.nodes.map (·.id)
  { definition with
    connections := definition.connections.filter fun connection =>
      connection.source ∈ validNodeIds && connection.target ∈ validNodeIds }

def redefine (request : UpdateFlowRequest) (flow : DQFlow Uuid) : Except Exn (DQFlow Uuid) :=
  match request.flowDefinition with
  | none => .ok flow
  | some definition => do
    let currentStatus := request.status.getD flow.status
    let definition :=
      if currentStatus = .draft then cleanupOrphanedConnections definition else definition
    checkDefinition env definition (currentStatus ≠ .draft)
    return { flow with flowDefinition := definition, version := flow.version + 1 }

def overwrite (request : UpdateFlowRequest) (flow : DQFlow Uuid) : DQFlow Uuid :=
  { flow with
    name := request.name.getD flow.name
    description := request.description.or flow.description
    status := request.status.getD flow.status
    isActive := request.isActive.getD flow.isActive
    schedule := request.schedule.or flow.schedule
    tags := request.tags.or flow.tags }

def notFound (flowId : Uuid) : Exn :=
  .valueError ("Flow " ++ env.linking.str flowId ++ " not found")

variable [DecidableEq Uuid]

def ofId (workspaceId flowId : Uuid) (flow : DQFlow Uuid) : Bool :=
  flow.id == flowId && flow.workspaceId == workspaceId

def writeFlow (workspaceId flowId : Uuid) (next : DQFlow Uuid) (flows : List (DQFlow Uuid)) :
    List (DQFlow Uuid) :=
  flows.map fun flow => if ofId workspaceId flowId flow then next else flow

/-- `update_flow`. `commits` is whether the database takes the rules that the flow is mirrored
into; errors of the sync are not the update's. -/
def updateFlow (flowId workspaceId : Uuid) (commits : Bool) (request : UpdateFlowRequest)
    (store : Store Uuid) : Except Exn (Store Uuid) :=
  match store.flows.find? (ofId workspaceId flowId) with
  | none => .error (notFound env flowId)
  | some flow => do
    let redefined ← redefine env request flow
    let updated := overwrite request redefined
    let flows := writeFlow workspaceId flowId updated store.flows
    match request.flowDefinition with
    | none => return { store with flows }
    | some _ =>
      match propagateFlowToRules env.linking false commits workspaceId (some flow.flowDefinition)
          (some updated.flowDefinition) store.rules with
      | .ok (rules, _) => return { flows, rules }
      | .error _ => return { store with flows }

def deleteFlow (flowId workspaceId : Uuid) (hardDelete : Bool) (store : Store Uuid) :
    Store Uuid × Bool :=
  match store.flows.find? (ofId workspaceId flowId) with
  | none => (store, false)
  | some flow =>
    if hardDelete then
      ({ store with flows := store.flows.filter fun other => !ofId workspaceId flowId other }, true)
    else
      ({ store with
        flows := writeFlow workspaceId flowId { flow with status := .archived, isActive := false }
          store.flows }, true)

def duplicateFlow (id flowId workspaceId userId : Uuid) (newName : Option String)
    (store : Store Uuid) : Except Exn (Store Uuid) :=
  match store.flows.find? (ofId workspaceId flowId) with
  | none => .error (notFound env flowId)
  | some original =>
    .ok { store with
      flows := store.flows ++ [
        { id, workspaceId
          name := if newName.getD "" = "" then "Copy of " ++ original.name else newName.getD ""
          description := original.description
          flowDefinition := original.flowDefinition
          status := .draft
          isActive := true
          schedule := none
          tags := original.tags
          version := 1
          createdBy := some userId
          ownerUserId := some userId }] }

omit [DecidableEq Uuid] in
def readImport (flowData format : String) : Except Exn ImportedFlow :=
  if format = "json" then env.importFromJson flowData
  else if format = "yaml" then env.importFromYaml flowData
  else .error (.valueError ("Unsupported import format: " ++ format))

omit [DecidableEq Uuid] in
def importFlow (id workspaceId userId : Uuid) (flowData format : String) (store : Store Uuid) :
    Except Exn (Store Uuid) := do
  let data ← readImport env flowData format
  createFlow env id workspaceId userId
    { name := data.name
      description := data.description
      flowDefinition := data.flowDefinition
      status := .draft
      schedule := none
      tags := data.tags } store

/-- `propagate_rule_to_flows`, of which the database takes the flows or none. -/
def propagate (workspaceId : Uuid) (rule : DQRule Uuid) (commits : Bool) (store : Store Uuid) :
    Except Exn (Store Uuid) := do
  let (flows, affected) ←
    propagateRuleToFlows env.linking false workspaceId rule store.flows
  return if 0 < affected && commits then { store with flows } else store

/-- The requests that store, change or remove flows. -/
inductive Call (Uuid : Type) where
  | createFlow (id workspaceId userId : Uuid) (request : CreateFlowRequest)
  | updateFlow (flowId workspaceId : Uuid) (commits : Bool) (request : UpdateFlowRequest)
  | duplicateFlow (id flowId workspaceId userId : Uuid) (newName : Option String)
  | importFlow (id workspaceId userId : Uuid) (flowData format : String)
  | deleteFlow (flowId workspaceId : Uuid) (hardDelete : Bool)
  | propagateRuleToFlows (workspaceId : Uuid) (rule : DQRule Uuid) (commits : Bool)

def Call.run (store : Store Uuid) : Call Uuid → Except Exn (Store Uuid)
  | .createFlow id workspaceId userId request =>
    FlowService.createFlow env id workspaceId userId request store
  | .updateFlow flowId workspaceId commits request =>
    FlowService.updateFlow env flowId workspaceId commits request store
  | .duplicateFlow id flowId workspaceId userId newName =>
    FlowService.duplicateFlow env id flowId workspaceId userId newName store
  | .importFlow id workspaceId userId flowData format =>
    FlowService.importFlow env id workspaceId userId flowData format store
  | .deleteFlow flowId workspaceId hardDelete =>
    .ok (FlowService.deleteFlow flowId workspaceId hardDelete store).1
  | .propagateRuleToFlows workspaceId rule commits => propagate env workspaceId rule commits store

def Call.step (store : Store Uuid) (call : Call Uuid) : Store Uuid :=
  match call.run env store with
  | .ok next => next
  | .error _ => store

omit env in
def reached (store : Store Uuid) : List (Environment Uuid × Call Uuid) → List (Store Uuid)
  | [] => [store]
  | (env, call) :: rest => store :: reached (call.step env store) rest

end FlowService

end CogniDQ.Sync
