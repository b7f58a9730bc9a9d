import CogniDQ.Flow.Schema
import CogniDQ.Python.Dynamic
import CogniDQ.Python.Equality

/-!
# Stored rules and flows

The rows of `dq_rules` and `dq_flows`, with the columns that the services and the sync read or
write. A column that a node's config can be mirrored into holds any value.
-/

set_option autoImplicit false

namespace CogniDQ.Sync

open CogniDQ.Python CogniDQ.Flow

/-- `compiled_sql`, `compiled_postgres`, `compiled_mysql` and `compiled_snowflake`. -/
structure CompiledSql where
  sql : String
  postgres : Option String
  mysql : Option String
  snowflake : Option String
deriving DecidableEq

inductive RuleStatus where
  | draft
  | active
  | inactive
  | archived
deriving DecidableEq, Repr

structure DQRule (Uuid : Type) where
  id : Uuid
  workspaceId : Uuid
  name : Value
  description : Value
  category : Value
  ruleType : Value
  canonicalRule : Dict
  compiled : CompiledSql
  dataSourceId : Option String
  targetSchema : Option String
  targetTable : Option String
  targetColumns : Option (List Value)
  status : RuleStatus
  isActive : Bool
  schedule : Option Dict
  thresholdConfig : Option Dict
  notificationConfig : Option Dict
  tags : Option (List String)
  metaData : Option Dict
  createdBy : Option Uuid
  ownerUserId : Option Uuid

section Rows

variable {Uuid : Type} [DecidableEq Uuid]

def ofId (workspaceId ruleId : Uuid) (rule : DQRule Uuid) : Bool :=
  rule.id == ruleId && rule.workspaceId == workspaceId

def writeRule (workspaceId ruleId : Uuid) (next : DQRule Uuid) (rules : List (DQRule Uuid)) :
    List (DQRule Uuid) :=
  rules.map fun other => if ofId workspaceId ruleId other then next else other

end Rows

structure StoredNode extends FlowNode where
  label : Value

structure StoredDefinition where
  nodes : List StoredNode
  connections : List FlowConnection

def StoredDefinition.toFlowDefinition (definition : StoredDefinition) : FlowDefinition :=
  { nodes := definition.nodes.map (·.toFlowNode), connections := definition.connections }

inductive FlowStatus where
  | draft
  | active
  | inactive
  | archived
deriving DecidableEq, Repr

structure DQFlow (Uuid : Type) where
  id : Uuid
  workspaceId : Uuid
  name : String
  description : Option String
  flowDefinition : StoredDefinition
  status : FlowStatus
  isActive : Bool
  schedule : Option Dict
  tags : Option (List String)
  version : Nat
  createdBy : Option Uuid
  ownerUserId : Option Uuid

/-- What links a node to a rule: the text of an identifier, `UUID(text)`, and the database's search
for an identifier in the text of a definition's nodes. -/
structure Linking (Uuid : Type) where
  runtime : Runtime
  str : Uuid → String
  parse : String → Option Uuid
  mentions : StoredDefinition → String → Bool
  /-- The text of a number, a truth value or a container is no identifier's. -/
  str_of_text : ∀ (value : Value) (id : Uuid), runtime.str value = str id → value = .str (str id)
  str_ne_empty : ∀ id, str id ≠ ""
  parse_str : ∀ id, parse (str id) = some id
  mentions_of_mem : ∀ (definition : StoredDefinition) (node : StoredNode) (text : String),
    node ∈ definition.nodes → node.config.get "rule_id" = .str text →
      mentions definition text = true

/-- `(value or {})`, of which a key is read next. -/
def dictOr (value : Value) : Except Exn Dict :=
  if value.truthy then
    match value with
    | .dict entries => .ok entries
    | _ => .error .attributeError
  else .ok []

def orGet (value source : Value) (key : String) : Except Exn Value :=
  if value.truthy then .ok value else (dictOr source).map (·.get key)

def notNoneOr (value default : Value) : Value := if value.isNone then default else value

end CogniDQ.Sync

/-!
## Rule and flow sync

A changed rule is pushed into the check nodes that carry its id; a changed check node is mirrored
back into its rule. The flag that keeps one direction from starting the other is `syncing`.
-/

namespace CogniDQ.Sync

open CogniDQ.Python CogniDQ.Flow

variable {Uuid : Type}

/-! ### Rule to flow -/

def overrideEntries (rule : DQRule Uuid) : Except Exn Dict := do
  let checkCfg ← dictOr ((rule.metaData.getD []).get "check_config")
  let canonical := rule.canonicalRule
  let params := canonical.get "parameters"
  let thresh := rule.thresholdConfig.getD []
  let subtype ← orGet ((checkCfg.get "subtype").or rule.ruleType) params "subtype"
  let columns ←
    orGet ((checkCfg.get "columns").or (.list (rule.targetColumns.getD []))) params "columns"
  let nullHandling ← orGet (checkCfg.get "null_handling") params "null_handling"
  let filterExpression ← orGet (checkCfg.get "filter_expression") params "filter_expression"
  return [
    ("ruleName", rule.name),
    ("rule_name", rule.name),
    ("description", rule.description.or (.str "")),
    ("severity", ((canonical.get "severity").or (checkCfg.get "severity")).or (.str "major")),
    ("subtype", subtype),
    ("columns", columns.or (.list [])),
    ("threshold_pass", notNoneOr (checkCfg.get "threshold_pass") (thresh.get "pass_threshold")),
    ("threshold_warn", notNoneOr (checkCfg.get "threshold_warn") (thresh.get "warning_threshold")),
    ("null_handling", nullHandling),
    ("filter_expression", filterExpression)]

def ruleToNodeConfigOverrides (rule : DQRule Uuid) : Except Exn Dict :=
  (overrideEntries rule).map fun entries => List.filter (fun entry => !entry.2.isNone) entries

/-- One override: `if cfg.get(k) != v: cfg[k] = v; changed = True`. -/
def pushEntry (state : Dict × Bool) (entry : String × Value) : Dict × Bool :=
  if (state.1.get entry.1).eq entry.2 then state else (state.1.set entry.1 entry.2, true)

def pushConfig (overrides config : Dict) : Dict × Bool :=
  List.foldl pushEntry (config, false) overrides

def StoredNode.linked (linking : Linking Uuid) (ruleId : Uuid) (node : StoredNode) : Bool :=
  node.type = .check &&
    linking.runtime.str ((node.config.get "rule_id").or (.str "")) == linking.str ruleId

def pushNode (linking : Linking Uuid) (rule : DQRule Uuid) (overrides : Dict) (node : StoredNode) :
    StoredNode × Bool :=
  if node.linked linking rule.id then
    let (config, changed) := pushConfig overrides node.config
    if rule.name.truthy && !node.label.eq rule.name then
      ({ node with config, label := rule.name }, true)
    else ({ node with config }, changed)
  else (node, false)

def pushFlow (linking : Linking Uuid) (rule : DQRule Uuid) (overrides : Dict) (flow : DQFlow Uuid) :
    DQFlow Uuid × Bool :=
  let pushed := flow.flowDefinition.nodes.map (pushNode linking rule overrides)
  if pushed.any (·.2) then
    ({ flow with
      flowDefinition := { flow.flowDefinition with nodes := pushed.map (·.1) }
      version := (if flow.version = 0 then 1 else flow.version) + 1 }, true)
  else (flow, false)

variable [DecidableEq Uuid]

/-- The flows of the workspace in whose nodes the database finds the rule's id. -/
def selected (linking : Linking Uuid) (workspaceId : Uuid) (rule : DQRule Uuid)
    (flow : DQFlow Uuid) : Bool :=
  flow.workspaceId == workspaceId && linking.mentions flow.flowDefinition (linking.str rule.id)

/-- The flows that the push hands to its commit, and how many it changed. `FlowService.propagate` has
the outcome of the commit. -/
def propagateRuleToFlows (linking : Linking Uuid) (syncing : Bool) (workspaceId : Uuid)
    (rule : DQRule Uuid) (flows : List (DQFlow Uuid)) : Except Exn (List (DQFlow Uuid) × Nat) := do
  if syncing then return (flows, 0)
  let overrides ← ruleToNodeConfigOverrides rule
  let pushed := flows.map fun flow =>
    if selected linking workspaceId rule flow then pushFlow linking rule overrides flow
    else (flow, false)
  return (pushed.map (·.1), pushed.countP (·.2))

/-! ### Flow to rule -/

def severityToBackend : List (String × String) :=
  [("blocker", "blocker"), ("critical", "critical"), ("high", "major"), ("medium", "major"),
    ("major", "major"), ("low", "minor"), ("minor", "minor"), ("info", "info")]

def backendSeverity (runtime : Runtime) (severity : Value) : String :=
  (severityToBackend.lookup (runtime.lowerStr (runtime.str severity))).getD "major"

structure Patch where
  name : Option Value
  description : Option Value
  ruleType : Option Value
  targetColumns : Option (List Value)
  canonicalRule : Option Dict
  thresholdConfig : Option Dict

def Patch.isEmpty (patch : Patch) : Bool :=
  patch.name.isNone && patch.description.isNone && patch.ruleType.isNone &&
    patch.targetColumns.isNone && patch.canonicalRule.isNone && patch.thresholdConfig.isNone

/-- A threshold of the config, where it is given and differs from the rule's. -/
def pullThreshold (current : Dict) (key : String) (value : Value) (thresholds : Dict) : Dict :=
  if !value.isNone && !(current.get key).eq value then thresholds.set key value else thresholds

/-- `list(columns)`, where the config gives columns that differ from the rule's. -/
def pullColumns (columns : Value) (current : List Value) : Except Exn (Option (List Value)) :=
  if columns.isNone then .ok none
  else columns.elements.map fun listed => if Value.eqList listed current then none else some listed

def newThresholds (cfg current : Dict) : Dict :=
  pullThreshold current "warning_threshold" (cfg.get "threshold_warn")
    (pullThreshold current "pass_threshold" (cfg.get "threshold_pass") current)

/-- The fields of the patch beside the columns, which `list` may reject. -/
def patchWith (runtime : Runtime) (cfg : Dict) (rule : DQRule Uuid)
    (targetColumns : Option (List Value)) : Patch :=
  let name := (cfg.get "ruleName").or (cfg.get "rule_name")
  let description := cfg.get "description"
  let subtype := cfg.get "subtype"
  let severity := cfg.get "severity"
  let backend := backendSeverity runtime severity
  let thresholds := rule.thresholdConfig.getD []
  { name := if name.truthy && !name.eq rule.name then some name else none
    description :=
      if !description.isNone && !description.eq (rule.description.or (.str "")) then
        some description
      else none
    ruleType := if subtype.truthy && !subtype.eq rule.ruleType then some subtype else none
    targetColumns
    canonicalRule :=
      if severity.truthy && !(Value.str backend).eq (rule.canonicalRule.get "severity") then
        some (rule.canonicalRule.set "severity" (.str backend))
      else none
    thresholdConfig :=
      if Value.eqEntries [] (newThresholds cfg thresholds) thresholds then none
      else some (newThresholds cfg thresholds) }

def nodeToRulePatch (runtime : Runtime) (cfg : Dict) (rule : DQRule Uuid) : Except Exn Patch :=
  (pullColumns (cfg.get "columns") (rule.targetColumns.getD [])).map
    (patchWith runtime cfg rule)

def applyPatchToRule (rule : DQRule Uuid) (patch : Patch) : DQRule Uuid :=
  { rule with
    name := patch.name.getD rule.name
    description := patch.description.getD rule.description
    ruleType := patch.ruleType.getD rule.ruleType
    targetColumns := patch.targetColumns.or rule.targetColumns
    canonicalRule := patch.canonicalRule.getD rule.canonicalRule
    thresholdConfig := patch.thresholdConfig.or rule.thresholdConfig }

/-- The keys of a check node's config that the rule's metadata mirrors. -/
def mirroredKeys : List String :=
  ["ruleName", "description", "severity", "subtype", "columns", "threshold_pass",
    "threshold_warn", "null_handling", "filter_expression"]

def mirrorKey (cfg : Dict) (saved : Dict) (key : String) : Dict :=
  if cfg.has key then saved.set key (cfg.get key) else saved

def mergeCheckConfigIntoMeta (metaData : Option Dict) (cfg : Dict) : Except Exn Dict := do
  let base := metaData.getD []
  let saved ← dictOr (base.get "check_config")
  let merged := mirroredKeys.foldl (mirrorKey cfg) saved
  let withConfig := base.set "check_config" (.dict merged)
  return withConfig.set "dq_check_subtype"
    (cfg.getD "subtype" (withConfig.get "dq_check_subtype"))

/-- The key of a node among the check nodes: its id, or the rule's where that is empty. -/
def nodeKey (linking : Linking Uuid) (node : StoredNode) : String :=
  if node.id = "" then linking.runtime.str (node.config.get "rule_id") else node.id

def extractCheckNodes (linking : Linking Uuid) (definition : Option StoredDefinition) : Dict :=
  match definition with
  | none => []
  | some definition =>
    definition.nodes.foldl
      (fun out node =>
        if node.type = .check && (node.config.get "rule_id").truthy then
          out.set (nodeKey linking node) (.dict node.config)
        else out) []

def ruleIdOf (linking : Linking Uuid) (value : Value) : Option Uuid :=
  linking.parse (linking.runtime.str value)

/-- The body of the loop over the new check nodes; the count is of the rules that took both the
patch and the metadata. -/
def pullNode (linking : Linking Uuid) (workspaceId : Uuid) (oldNodes : Dict)
    (state : List (DQRule Uuid) × Nat) (entry : String × Value) :
    Except Exn (List (DQRule Uuid) × Nat) := do
  let cfg ← dictOr entry.2
  match ruleIdOf linking (cfg.get "rule_id") with
  | none => return state
  | some ruleId =>
    match state.1.find? fun rule => rule.id == ruleId && rule.workspaceId == workspaceId with
    | none => return state
    | some rule =>
      if (oldNodes.get entry.1).eq (.dict cfg) then return state
      let patch ← nodeToRulePatch linking.runtime cfg rule
      if patch.isEmpty then return state
      let patched := applyPatchToRule rule patch
      let write (next : DQRule Uuid) :=
        state.1.map fun other =>
          if other.id == ruleId && other.workspaceId == workspaceId then next else other
      match mergeCheckConfigIntoMeta patched.metaData cfg with
      | .ok merged => return (write { patched with metaData := some merged }, state.2 + 1)
      | .error _ => return (write patched, state.2)

/-- `propagate_flow_to_rules`. `commits` is whether the database takes the changed rules. -/
def propagateFlowToRules (linking : Linking Uuid) (syncing commits : Bool) (workspaceId : Uuid)
    (oldDefinition newDefinition : Option StoredDefinition) (rules : List (DQRule Uuid)) :
    Except Exn (List (DQRule Uuid) × Nat) := do
  if syncing then return (rules, 0)
  let oldNodes := extractCheckNodes linking oldDefinition
  let newNodes := extractCheckNodes linking newDefinition
  let (changed, affected) ← List.foldlM (pullNode linking workspaceId oldNodes) (rules, 0) newNodes
  if 0 < affected && commits then return (changed, affected) else return (rules, 0)

end CogniDQ.Sync
