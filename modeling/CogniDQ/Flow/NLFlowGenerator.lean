import CogniDQ.Database.ReadCommitted
import CogniDQ.Flow.Acceptance
import CogniDQ.Python.Dynamic
import CogniDQ.Python.Equality

/-!
# Flows from natural language

`NLFlowGenerator` adds the checks of compiled configs to a stored flow. It extends the definition that
the session has loaded in place, and such an object counts as unchanged when the session commits.
-/

set_option autoImplicit false

namespace CogniDQ.Flow

open CogniDQ.Database CogniDQ.Python

/-- A node as a flow's definition stores it, with what the generator reads or writes of it. -/
structure CanvasNode extends FlowNode where
  label : Value
  /-- The empty dictionary when the node has no such key. -/
  position : Value

structure CanvasDefinition where
  nodes : List CanvasNode
  connections : List FlowConnection

def CanvasDefinition.toFlowDefinition (definition : CanvasDefinition) : FlowDefinition :=
  { nodes := definition.nodes.map (·.toFlowNode), connections := definition.connections }

structure CompiledCheckConfig where
  checkType : String
  subtype : String
  datasetId : Option String
  ruleName : String
  severity : String
  description : Option String
  config : Dict
  ruleId : Option String

structure GenerateFlowRequest (Uuid : Type) where
  compiledConfigs : List CompiledCheckConfig
  targetFlowId : Uuid
  nlRuleText : Option String
  parseRequestId : Option String

structure GeneratedNode where
  nodeId : String
  nodeType : String
  label : String

structure GeneratedConnection where
  connectionId : String
  sourceNode : String
  targetNode : String

structure GenerateFlowResponse (Uuid : Type) where
  flowId : Uuid
  flowName : String
  status : String
  nodes : List GeneratedNode
  connections : List GeneratedConnection
  isNewFlow : Bool

structure FlowRow where
  name : String
  status : String
  version : Option Int
  /-- None for an empty definition. -/
  flowDefinition : Option CanvasDefinition

structure DatasetRow where
  dataSourceId : Option String
  schemaName : Option String
  physicalIdentifier : Option String
  datasetName : Option String
  fields : List (String × String)

/-- What the generator depends on besides the flows. -/
structure Generator where
  runtime : Runtime
  /-- What the queries for a dataset find. They fail for an identifier that is no UUID. -/
  datasets : String → Except Exn (Option DatasetRow)
  /-- The time and the random part of the identifier that is drawn next. -/
  drawn : Nat → String

section Building

def yStart : Int := 100

def ySpacing : Int := 150

def sourceX : Int := 100

def checkX : Int := 400

def ofText : Option String → Value
  | some text => .str text
  | none => .none

def below : Value → Value
  | .float y => .float (y + ySpacing)
  | .bool y => .int ((if y then 1 else 0) + ySpacing)
  | .int y => .int (y + ySpacing)
  | other => other

def CanvasNode.ordinate (node : CanvasNode) : Except Exn Value :=
  match node.position with
  | .dict entries => .ok (Dict.getD entries "y" (.int 0))
  | _ => .error .attributeError

def lower (maxY : Value) (node : CanvasNode) : Except Exn Value := do
  let ny ← node.ordinate
  match ny.number, maxY.number with
  | some y, some lowest => return if lowest ≤ y then below ny else maxY
  | _, _ => .error .typeError

/-- One turn of the search for source nodes. A key that is no text finds no dataset later. -/
def recordSource (sourceMap : List (String × String)) (node : CanvasNode) :
    Except Exn (List (String × String)) :=
  if node.type = .source ∧ (node.config.get "dataset_id").truthy then
    match node.config.get "dataset_id" with
    | .str datasetId => .ok ((datasetId, node.id) :: sourceMap)
    | .list _ => .error .typeError
    | .dict _ => .error .typeError
    | _ => .ok sourceMap
  else .ok sourceMap

variable (generator : Generator)

def Generator.uid (pre : String) (next : Nat) : String := pre ++ "_" ++ generator.drawn next

def Generator.loadDatasetMetadata (datasetId : String) : Dict :=
  if datasetId = "" ∨ datasetId = "default" then []
  else
    match generator.datasets datasetId with
    | .error _ => []
    | .ok none => []
    | .ok (some row) =>
      let columns := (row.fields.filter fun field => field.1 != "").map fun field =>
        Value.dict [("name", .str field.1), ("type", .str field.2)]
      [("data_source_id", ofText (row.dataSourceId.filter (· != ""))),
        ("schema_name", ofText row.schemaName), ("table_name", ofText row.physicalIdentifier),
        ("dataset_name", ofText row.datasetName), ("columns", .list columns)]

/-- A query that fails is caught, and leaves the transaction aborted. -/
def Generator.aborts (datasetId : String) : Bool :=
  datasetId ≠ "" && datasetId ≠ "default" && !(generator.datasets datasetId).isOk

def shorten : Value → Except Exn Value
  | .str text => .ok (.str (String.ofList (text.toList.take 30)))
  | .list values => .ok (.list (values.take 30))
  | _ => .error .typeError

def entryOf (key : String) (value : Value) : List (String × Value) :=
  if value.truthy then [(key, value)] else []

def Generator.buildSourceNode (nodeId datasetId : String) (y datasetName : Value)
    (metadata : Dict) : Except Exn CanvasNode := do
  let display := (datasetName.or (metadata.get "dataset_name")).or (.str datasetId)
  let shown ← shorten display
  let columns := metadata.get "columns"
  let config : List (String × Value) :=
    [("name", display)] ++
      (if datasetId ≠ "" ∧ datasetId ≠ "default" then [("dataset_id", .str datasetId)] else []) ++
      entryOf "dataset_name" (datasetName.or (metadata.get "dataset_name")) ++
      entryOf "data_source_id" (metadata.get "data_source_id") ++
      (if (metadata.get "data_source_id").truthy then [("source_type", .str "table")] else []) ++
      entryOf "schema_name" (metadata.get "schema_name") ++
      entryOf "table_name" (metadata.get "table_name") ++
      entryOf "columns" columns ++
      (if columns.truthy then
        [("metadata", .dict [("columns", columns), ("schema_name", metadata.get "schema_name"),
          ("table_name", metadata.get "table_name")])]
      else [])
  return {
    id := nodeId
    type := .source
    config
    checkType := none
    label := .str ("Source: " ++ generator.runtime.str shown)
    position := .dict [("x", .int sourceX), ("y", y)] }

def camelToSnake : List (String × String) :=
  [("allowedValues", "allowed_values"), ("caseSensitive", "case_sensitive"),
    ("minValue", "min_value"), ("maxValue", "max_value"), ("inclusiveMin", "inclusive_min"),
    ("inclusiveMax", "inclusive_max"), ("scopeColumns", "scope_columns"),
    ("fuzzyAlgorithm", "fuzzy_algorithm"), ("fuzzyThreshold", "fuzzy_threshold"),
    ("temporalColumn", "temporal_column"), ("temporalWindowValue", "temporal_window_value"),
    ("temporalWindowUnit", "temporal_window_unit"), ("minLength", "min_length"),
    ("maxLength", "max_length"), ("expectedCase", "expected_case"),
    ("allowedCharset", "allowed_charset"), ("standardName", "standard_name"),
    ("structuralPattern", "structural_pattern"), ("comparisonColumn", "comparison_column"),
    ("dateOperator", "date_operator"), ("referenceDataset", "reference_dataset"),
    ("referenceColumn", "reference_column"),
    ("businessRuleExpression", "business_rule_expression"),
    ("ruleExpression", "rule_expression"), ("groupByColumns", "group_by_columns"),
    ("startColumn", "start_column"), ("endColumn", "end_column"),
    ("aggregateFunction", "aggregate_function"), ("expectedColumn", "expected_column"),
    ("conditionColumn", "condition_column"), ("conditionOperator", "condition_operator"),
    ("conditionValue", "condition_value"), ("placeholderValues", "placeholder_values"),
    ("multiFieldMode", "multi_field_mode"), ("checkMode", "check_mode"),
    ("uniquenessMode", "uniqueness_mode"), ("validationType", "validation_type"),
    ("conformityType", "conformity_type"), ("consistencyType", "consistency_type")]

def mirror (config : Dict) (keys : String × String) : Dict :=
  if config.has keys.1 && !config.has keys.2 then config.set keys.2 (config.get keys.1) else config

def setGiven (config : Dict) (key : String) (text : Option String) : Dict :=
  match text.filter (· != "") with
  | some text => config.set key (.str text)
  | none => config

variable {Uuid : Type}

def GenerateFlowRequest.buildCheckNode (request : GenerateFlowRequest Uuid) (nodeId : String)
    (cfg : CompiledCheckConfig) (y : Value) : CanvasNode :=
  let named : Dict :=
    (((cfg.config.set "subtype" (.str cfg.subtype)).set "severity" (.str cfg.severity)).set
      "ruleName" (.str cfg.ruleName)).set "rule_name" (.str cfg.ruleName)
  let linked := setGiven (setGiven named "rule_id" cfg.ruleId) "description" cfg.description
  let traced :=
    setGiven (setGiven linked "nl_rule_text" request.nlRuleText) "parse_request_id"
      request.parseRequestId
  { id := nodeId
    type := .check
    config := camelToSnake.foldl mirror traced
    checkType := some cfg.checkType
    label := .str cfg.ruleName
    position := .dict [("x", .int checkX), ("y", y)] }

end Building

/-- What the loop over the configs reads and writes. -/
structure Generation where
  nodes : List CanvasNode
  connections : List FlowConnection
  sourceMap : List (String × String)
  generatedNodes : List GeneratedNode
  generatedConnections : List GeneratedConnection
  checkY : Value
  /-- The number of identifiers drawn. -/
  next : Nat
  aborted : Bool

section Generating

variable {Uuid : Type} (generator : Generator) (request : GenerateFlowRequest Uuid)

def CompiledCheckConfig.dataset (cfg : CompiledCheckConfig) : String :=
  (cfg.datasetId.filter (· != "")).getD "default"

def Generator.addSource (cfg : CompiledCheckConfig) (generation : Generation) :
    Except Exn Generation :=
  if (generation.sourceMap.lookup cfg.dataset).isSome then .ok generation
  else do
    let sourceNodeId := generator.uid "source" generation.next
    -- in an aborted transaction the queries fail as well
    let metadata := if generation.aborted then [] else generator.loadDatasetMetadata cfg.dataset
    let node ← generator.buildSourceNode sourceNodeId cfg.dataset generation.checkY
      (cfg.config.get "dataset_name") metadata
    return { generation with
      nodes := generation.nodes ++ [node]
      sourceMap := (cfg.dataset, sourceNodeId) :: generation.sourceMap
      generatedNodes := generation.generatedNodes ++
        [⟨sourceNodeId, "source", generator.runtime.str node.label⟩]
      next := generation.next + 1
      aborted := generation.aborted || generator.aborts cfg.dataset }

def Generator.addCheck (cfg : CompiledCheckConfig) (generation : Generation) : Generation :=
  let sourceNodeId := (generation.sourceMap.lookup cfg.dataset).getD ""
  let checkNodeId := generator.uid "check" generation.next
  let connectionId := generator.uid "conn" (generation.next + 1)
  { generation with
    nodes := generation.nodes ++ [request.buildCheckNode checkNodeId cfg generation.checkY]
    connections := generation.connections ++
      [{ id := connectionId
         source := sourceNodeId
         target := checkNodeId
         sourcePort := some "output"
         targetPort := some "input"
         label := none }]
    generatedNodes := generation.generatedNodes ++ [⟨checkNodeId, "check", cfg.ruleName⟩]
    generatedConnections := generation.generatedConnections ++
      [⟨connectionId, sourceNodeId, checkNodeId⟩]
    checkY := below generation.checkY
    next := generation.next + 2 }

def Generator.addConfig (generation : Generation) (cfg : CompiledCheckConfig) :
    Except Exn Generation :=
  (generator.addSource cfg generation).map (generator.addCheck request cfg)

def Generator.extend (definition : CanvasDefinition) : Except Exn Generation := do
  let maxY ← definition.nodes.foldlM lower (.int yStart)
  let sourceMap ← definition.nodes.foldlM recordSource []
  request.compiledConfigs.foldlM (generator.addConfig request)
    { nodes := definition.nodes
      connections := definition.connections
      sourceMap
      generatedNodes := []
      generatedConnections := []
      checkY := maxY
      next := 0
      aborted := false }

/-- The `UPDATE` of the commit is refused in an aborted transaction. -/
def Generation.committed (generation : Generation) : Except Exn Generation :=
  if generation.aborted then .error .databaseError else .ok generation

/-- What the column holds after the commit. A definition that is not empty is the object that the
session has loaded: it was extended in place, so that the attribute equals what was assigned to it,
and the column is not among those that the `UPDATE` sets. -/
def writeBack (loaded : Option CanvasDefinition) (assigned : CanvasDefinition) :
    Option CanvasDefinition :=
  match loaded with
  | some definition => some definition
  | none => some assigned

variable [DecidableEq Uuid]

/-- `generate` for a request with a target flow, of which the query has found the workspace's own. -/
def Generator.addToFlow (flows : Rows Uuid FlowRow) (notFound : Exn) :
    Except Exn (Rows Uuid FlowRow × GenerateFlowResponse Uuid) :=
  match flows.lookup request.targetFlowId with
  | none => .error notFound
  | some flow => do
    let extended ← generator.extend request (flow.flowDefinition.getD ⟨[], []⟩)
    let generation ← extended.committed
    let definition : CanvasDefinition := ⟨generation.nodes, generation.connections⟩
    let version := if flow.version.getD 0 = 0 then 1 else flow.version.getD 0
    let updated := { flow with
      flowDefinition := writeBack flow.flowDefinition definition
      version := some (version + 1) }
    return (AList.insert request.targetFlowId updated flows,
      { flowId := request.targetFlowId
        flowName := flow.name
        status := flow.status
        nodes := generation.generatedNodes
        connections := generation.generatedConnections
        isNewFlow := false })

end Generating

section Extension

variable {Uuid : Type} [DecidableEq Uuid]

def CanvasNode.Sources (node : CanvasNode) (cfg : CompiledCheckConfig) : Prop :=
  node.type = .source ∧ node.config.get "dataset_id" = ofText (cfg.datasetId.filter (· != ""))

/-- The definition contains what was there before and what the response lists, in which every check
is fed by one source of its own dataset, and it is valid. -/
structure Extended (order : SetOrder String) (request : GenerateFlowRequest Uuid)
    (response : GenerateFlowResponse Uuid) (before after : CanvasDefinition) : Prop where
  nodes : ∀ node ∈ before.nodes, node ∈ after.nodes
  connections : ∀ connection ∈ before.connections, connection ∈ after.connections
  generated : ∀ listed ∈ response.nodes, ∃ node ∈ after.nodes, node.id = listed.nodeId ∧
    node.type.value = listed.nodeType ∧ node.label = .str listed.label
  connected : ∀ listed ∈ response.connections, ∃ connection ∈ after.connections,
    connection.id = listed.connectionId ∧ connection.source = listed.sourceNode ∧
      connection.target = listed.targetNode
  fed : List.Forall₂ (fun (listed : GeneratedNode) cfg =>
      ∃ connection, after.connections.filter (·.target = listed.nodeId) = [connection] ∧
        ∃ node ∈ after.nodes, node.id = connection.source ∧ node.Sources cfg)
    (response.nodes.filter (·.nodeType = "check")) request.compiledConfigs
  sources : ∀ cfg ∈ request.compiledConfigs, (∀ node ∈ before.nodes, ¬node.Sources cfg) →
    ∃! node, node ∈ after.nodes ∧ node.Sources cfg
  valid : FlowValidator.passes order after.toFlowDefinition

variable {generator : Generator} {request : GenerateFlowRequest Uuid}
  {generation result : Generation} {configs : List CompiledCheckConfig}
  {cfg : CompiledCheckConfig} {listed : GeneratedNode}

omit [DecidableEq Uuid] in
theorem addConfig_lists (added : generator.addConfig request generation cfg = .ok result) :
    (∃ next, ⟨generator.uid "check" next, "check", cfg.ruleName⟩ ∈ result.generatedNodes) ∧
      ∀ listed ∈ generation.generatedNodes, listed ∈ result.generatedNodes := by
  unfold Generator.addConfig at added
  cases sourced : generator.addSource cfg generation with
  | error error =>
    rw [sourced] at added
    cases added
  | ok middle =>
    rw [sourced] at added
    obtain rfl := Except.ok.inj added
    refine ⟨⟨middle.next, List.mem_append_right _ (List.mem_singleton.mpr rfl)⟩,
      fun listed here => List.mem_append_left _ ?_⟩
    unfold Generator.addSource at sourced
    split at sourced
    · obtain rfl := Except.ok.inj sourced
      exact here
    · dsimp only at sourced
      obtain ⟨node, _, sourced⟩ := bind_eq_ok sourced
      obtain rfl := Except.ok.inj sourced
      exact List.mem_append_left _ here

omit [DecidableEq Uuid] in
private theorem mem_of_foldlM
    (folded : configs.foldlM (generator.addConfig request) generation = .ok result)
    (here : listed ∈ generation.generatedNodes) : listed ∈ result.generatedNodes := by
  induction configs generalizing generation with
  | nil =>
    obtain rfl := Except.ok.inj folded
    exact here
  | cons cfg rest ih =>
    rw [List.foldlM_cons] at folded
    obtain ⟨middle, added, folded⟩ := bind_eq_ok folded
    exact ih folded ((addConfig_lists added).2 listed here)

omit [DecidableEq Uuid] in
private theorem lists_check
    (folded : (cfg :: configs).foldlM (generator.addConfig request) generation = .ok result) :
    ∃ next, ⟨generator.uid "check" next, "check", cfg.ruleName⟩ ∈ result.generatedNodes := by
  rw [List.foldlM_cons] at folded
  obtain ⟨middle, added, folded⟩ := bind_eq_ok folded
  obtain ⟨next, listed⟩ := (addConfig_lists added).1
  exact ⟨next, mem_of_foldlM folded listed⟩

theorem committed_eq (committed : generation.committed = .ok result) : generation = result := by
  unfold Generation.committed at committed
  split at committed
  · cases committed
  · exact Except.ok.inj committed

/-- A valid stored flow is never extended: the definition that is read back is what the response says
only for a request without configs. -/
theorem flow_extended_iff {order : SetOrder String} {flows after : Rows Uuid FlowRow}
    {flow : FlowRow} {before : CanvasDefinition} {notFound : Exn}
    {response : GenerateFlowResponse Uuid} (stored : flows.lookup request.targetFlowId = some flow)
    (defined : flow.flowDefinition = some before)
    (valid : FlowValidator.passes order before.toFlowDefinition)
    (fresh : ∀ next, generator.uid "check" next ∉ before.toFlowDefinition.nodeIds)
    (generated : generator.addToFlow request flows notFound = .ok (after, response)) :
    (∃ row definition, after.lookup request.targetFlowId = some row ∧
        row.flowDefinition = some definition ∧
        Extended order request response before definition) ↔
      request.compiledConfigs = [] := by
  unfold Generator.addToFlow at generated
  rw [stored] at generated
  obtain ⟨generation, extended, committed⟩ := bind_eq_ok generated
  obtain ⟨same, committed, returned⟩ := bind_eq_ok committed
  obtain rfl : generation = same := committed_eq committed
  obtain ⟨rfl, rfl⟩ := Prod.mk.inj (Except.ok.inj returned)
  rw [defined] at extended
  unfold Generator.extend at extended
  obtain ⟨maxY, _, extended⟩ := bind_eq_ok extended
  obtain ⟨sourceMap, _, folded⟩ := bind_eq_ok extended
  constructor
  · intro reread
    obtain ⟨row, definition, found, same, extension⟩ := reread
    rw [AList.lookup_insert] at found
    obtain rfl := Option.some.inj found
    dsimp only at same
    rw [defined] at same
    obtain rfl : before = definition := Option.some.inj same
    cases configs : request.compiledConfigs with
    | nil => rfl
    | cons cfg rest =>
      rw [configs] at folded
      obtain ⟨next, listed⟩ := lists_check folded
      obtain ⟨node, member, id, _⟩ := extension.generated _ listed
      refine absurd ?_ (fresh next)
      exact List.mem_map.mpr ⟨node.toFlowNode, List.mem_map.mpr ⟨node, member, rfl⟩, id⟩
  · intro none_
    rw [none_] at folded
    obtain rfl := Except.ok.inj folded
    refine ⟨_, before, AList.lookup_insert _, ?_, ?_⟩
    · dsimp only
      rw [defined]
      rfl
    · exact {
        nodes := fun _ member => member
        connections := fun _ member => member
        generated := fun _ listed => nomatch listed
        connected := fun _ listed => nomatch listed
        fed := by
          rw [none_]
          exact .nil
        sources := fun cfg listed => by
          rw [none_] at listed
          cases listed
        valid }

end Extension

/-! A flow that reads a file and checks a column of it. -/

private def storedNode (id : String) (type : NodeType) (config : Dict) (checkType : Option String) :
    CanvasNode where
  id := id
  type := type
  config := config
  checkType := checkType
  label := .str id
  position := .dict [("x", .int 100), ("y", .int 100)]

private def storedFlow : CanvasDefinition where
  nodes :=
    [storedNode "src" .source [("file_path", .str "a.csv")] none,
      storedNode "chk" .check [("column", .str "age")] (some "completeness")]
  connections :=
    [{ id := "c", source := "src", target := "chk", sourcePort := some "output",
       targetPort := some "input", label := none }]

private def storedFlows : Rows Nat FlowRow :=
  AList.insert 1 ⟨"ages", "active", some 1, some storedFlow⟩ ∅

private def plainGenerator : Generator where
  runtime := .ascii
  datasets := fun _ => .ok none
  drawn := toString

private def requestFor (compiledConfigs : List CompiledCheckConfig) : GenerateFlowRequest Nat where
  compiledConfigs := compiledConfigs
  targetFlowId := 1
  nlRuleText := none
  parseRequestId := none

private theorem storedFlow_passes : FlowValidator.passes .insertion storedFlow.toFlowDefinition :=
  ⟨_, rfl, by decide⟩

private theorem storedFlow_fresh (next : Nat) :
    plainGenerator.uid "check" next ∉ storedFlow.toFlowDefinition.nodeIds := by
  intro listed
  have long : 6 ≤ (plainGenerator.uid "check" next).length := by
    unfold Generator.uid
    rw [String.length_append, String.length_append]
    exact Nat.le_add_right ..
  obtain same | same : plainGenerator.uid "check" next = "src" ∨
      plainGenerator.uid "check" next = "chk" := by
    simpa [FlowDefinition.nodeIds, CanvasDefinition.toFlowDefinition, storedFlow, storedNode]
      using listed
  · rw [same] at long
    exact absurd long (by decide)
  · rw [same] at long
    exact absurd long (by decide)

theorem nothing_to_extend :
    ∃ after response, plainGenerator.addToFlow (requestFor []) storedFlows .attributeError =
        .ok (after, response) ∧
      ∃ row definition, after.lookup 1 = some row ∧ row.flowDefinition = some definition ∧
        Extended .insertion (requestFor []) response storedFlow definition := by
  have ran : ∃ after response, plainGenerator.addToFlow (requestFor []) storedFlows
      .attributeError = .ok (after, response) := ⟨_, _, rfl⟩
  obtain ⟨after, response, ran⟩ := ran
  have stored : storedFlows.lookup (requestFor []).targetFlowId =
      some ⟨"ages", "active", some 1, some storedFlow⟩ := rfl
  exact ⟨after, response, ran,
    (flow_extended_iff stored rfl storedFlow_passes storedFlow_fresh ran).mpr rfl⟩

/-- A check of a dataset that was archived. -/
private def rangeCheck : CompiledCheckConfig where
  checkType := "validity"
  subtype := "range"
  datasetId := some "6b1f0c1e-8a4d-4c55-9d0e-2f7a3b9c5d10"
  ruleName := "age_range"
  severity := "major"
  description := none
  config := []
  ruleId := none

/-- The response lists a source and a check that the stored flow does not get. -/
theorem generated_check_lost :
    ∃ after response, plainGenerator.addToFlow (requestFor [rangeCheck]) storedFlows
        .attributeError = .ok (after, response) ∧
      response.nodes.length = 2 ∧
      ¬∃ row definition, after.lookup 1 = some row ∧ row.flowDefinition = some definition ∧
        Extended .insertion (requestFor [rangeCheck]) response storedFlow definition := by
  refine ⟨_, _, rfl, rfl, fun reread => ?_⟩
  obtain ⟨row, definition, found, same, extension⟩ := reread
  obtain rfl := Option.some.inj found
  obtain rfl := Option.some.inj same
  obtain ⟨node, member, id, _⟩ := extension.generated ⟨"check_1", "check", "age_range"⟩
    (List.mem_cons_of_mem _ (List.mem_cons_self ..))
  obtain rfl | rfl : node = storedNode "src" .source [("file_path", .str "a.csv")] none ∨
      node = storedNode "chk" .check [("column", .str "age")] (some "completeness") := by
    simpa [storedFlow] using member
  · exact absurd id (by decide)
  · exact absurd id (by decide)

end CogniDQ.Flow
