import CogniDQ.Flow.Schema
import CogniDQ.Python.Text
import Mathlib.Algebra.GroupWithZero.Nat

/-!
# The flow validator

`validateFlow` reports the errors and warnings of a definition;
`getExecutionLevels` groups the nodes of a flow into levels whose members can
run side by side.
-/

set_option autoImplicit false

namespace CogniDQ.Flow

open CogniDQ.Python

/-- `{node.id: node for node in nodes}`: the last node of a repeated id wins. -/
def nodeDict (nodes : List FlowNode) (id : String) : Option FlowNode :=
  nodes.reverse.find? fun node => node.id = id

namespace FlowValidator

def validConnections : NodeType → List NodeType
  | .source => [.check, .filter, .join, .transform]
  | .check => [.aggregate]
  | .filter => [.check, .filter, .transform]
  | .join => [.check, .filter, .transform]
  | .transform => [.check, .filter, .transform]
  | .aggregate => []

private def incompleteConfig (node : FlowNode) (message : String) : ValidationError :=
  { type := "incomplete_config", message, nodeId := some node.id, connectionId := none }

def validateNodeConfig (node : FlowNode) : List ValidationError :=
  match node.type with
  | .source =>
      if !node.config.truthy then
        [incompleteConfig node s!"Source node '{node.id}' has no configuration"]
      else if !node.config.has "data_source_id" && !node.config.has "dataset_id" &&
          !node.config.has "file_path" && !node.config.has "file_id" then
        [incompleteConfig node
          s!"Source node '{node.id}' must specify data_source_id, dataset_id, file_path, or file_id"]
      else []
  | .check =>
      (if node.checkType.getD "" = "" then
        [incompleteConfig node s!"Check node '{node.id}' must specify checkType"] else []) ++
      (if !node.config.truthy then
        [incompleteConfig node s!"Check node '{node.id}' has no configuration"] else [])
  | .join =>
      if !node.config.truthy then
        [incompleteConfig node s!"Join node '{node.id}' has no configuration"]
      else if !node.config.has "join_type" || !node.config.has "left_key" ||
          !node.config.has "right_key" then
        [incompleteConfig node
          s!"Join node '{node.id}' must specify join_type, left_key, and right_key"]
      else []
  | .filter =>
      if !node.config.truthy || !node.config.has "expression" then
        [incompleteConfig node s!"Filter node '{node.id}' must specify filter expression"]
      else []
  | .aggregate | .transform => []

def findOrphanedNodes (nodes : List FlowNode) (connections : List FlowConnection) :
    List String :=
  let connected := connections.flatMap fun connection => [connection.source, connection.target]
  (nodes.map (·.id)).eraseDups.filter (· ∉ connected)

/-- The states of the depth-first search: 0, 1 and 2 in the code. -/
inductive Visit where
  | unvisited
  | visiting
  | visited
deriving DecidableEq, Repr

/-- What the closure `dfs` reads and writes. -/
structure Search where
  visitState : String → Option Visit
  path : List String
  cycleNodes : List String

def Search.mark (search : Search) (id : String) (visit : Visit) : Search :=
  { search with visitState := fun other =>
      if other = id then some visit else search.visitState other }

/-- `graph[node_id]`: the targets of the connections out of a node, in order. -/
def graph (connections : List FlowConnection) (id : String) : List String :=
  (connections.filter fun connection => connection.source = id).map (·.target)

/-- `for neighbor in graph[node_id]: if dfs(neighbor, path): return True`. -/
def dfsNeighbors (dfs : String → Search → Except Exn (Bool × Search)) :
    List String → Search → Except Exn (Bool × Search)
  | [], search => .ok (false, search)
  | neighbor :: rest, search => do
      let (found, search) ← dfs neighbor search
      if found then .ok (true, search) else dfsNeighbors dfs rest search

/-- `frames` more calls fit on the stack of the interpreter. -/
def dfs (connections : List FlowConnection) :
    Nat → String → Search → Except Exn (Bool × Search)
  | 0, _, _ => .error .recursionError
  | frames + 1, id, search =>
      match search.visitState id with
      | none => .error (.keyError id)
      | some .visiting =>
          let cycle := search.path.drop (search.path.idxOf id)
          .ok (true, { search with cycleNodes := search.cycleNodes ++ cycle })
      | some .visited => .ok (false, search)
      | some .unvisited => do
          let entered := { search.mark id .visiting with path := search.path ++ [id] }
          let (found, search) ←
            dfsNeighbors (dfs connections frames) (graph connections id) entered
          if found then .ok (true, search)
          else .ok (false, { search.mark id .visited with path := search.path.dropLast })

def searchAll (connections : List FlowConnection) (frames : Nat) :
    List FlowNode → Search → Except Exn (Bool × List String)
  | [], _ => .ok (false, [])
  | node :: rest, search =>
      if search.visitState node.id = some .unvisited then do
        let (found, search) ← dfs connections frames node.id { search with path := [] }
        if found then .ok (true, search.cycleNodes) else searchAll connections frames rest search
      else searchAll connections frames rest search

def Search.initial (nodes : List FlowNode) : Search where
  visitState id := if id ∈ nodes.map (·.id) then some Visit.unvisited else none
  path := []
  cycleNodes := []

/-- `_detect_circular_dependencies` where the recursion limit leaves `frames` calls of `dfs`. -/
def detectCircularDependenciesWithin (frames : Nat) (nodes : List FlowNode)
    (connections : List FlowConnection) : Except Exn (Bool × List String) :=
  searchAll connections frames nodes (.initial nodes)

/-- It leaves enough for a path through all nodes. -/
def detectCircularDependencies (nodes : List FlowNode) (connections : List FlowConnection) :
    Except Exn (Bool × List String) :=
  detectCircularDependenciesWithin (nodes.length + 1) nodes connections

def validateConnectionCompatibility (nodes : List FlowNode)
    (connections : List FlowConnection) : List ValidationError :=
  connections.flatMap fun connection =>
    match nodeDict nodes connection.source, nodeDict nodes connection.target with
    | some sourceNode, some targetNode =>
        if targetNode.type ∈ validConnections sourceNode.type then []
        else
          [{ type := "invalid_connection_type"
             message := "Cannot connect " ++ sourceNode.type.value ++ " node to " ++
               targetNode.type.value ++ " node"
             nodeId := none
             connectionId := some connection.id }]
    | _, _ => []

/-- The error of a connection whose source, or else whose target, is not a node. -/
def invalidConnection? (nodes : List FlowNode) (connection : FlowConnection) :
    Option ValidationError :=
  if (nodeDict nodes connection.source).isNone then
    some
      { type := "invalid_connection"
        message := s!"Connection references non-existent source node: {connection.source}"
        nodeId := none
        connectionId := some connection.id }
  else if (nodeDict nodes connection.target).isNone then
    some
      { type := "invalid_connection"
        message := s!"Connection references non-existent target node: {connection.target}"
        nodeId := none
        connectionId := some connection.id }
  else none

def keptConnections (nodes : List FlowNode) (connections : List FlowConnection) :
    List FlowConnection :=
  let invalid := connections.filter fun connection => (invalidConnection? nodes connection).isSome
  connections.filter (· ∉ invalid)

def asWarning (suffix : String) (error : ValidationError) : ValidationError :=
  { error with message := error.message ++ suffix }

def checkWithoutSource (connections : List FlowConnection) (strict : Bool) (node : FlowNode) :
    List ValidationError :=
  if connections.any fun connection => connection.target = node.id then []
  else
    [{ type := "check_without_source"
       message := s!"Check node '{node.id}' has no input connection" ++
         (if strict then "" else " (connect before executing)")
       nodeId := some node.id
       connectionId := none }]

/-- Validate a complete flow definition. `order` is the order in which the set
of orphaned ids is walked. -/
def validateFlow (order : SetOrder String) (flow : FlowDefinition) (strict : Bool) :
    Except Exn FlowValidationResponse := do
  let nodes := flow.nodes
  if nodes.length = 0 then
    return {
      isValid := true
      errors := []
      warnings := [{
        type := "empty_flow"
        message := "Flow is empty - add nodes to make it functional"
        nodeId := none
        connectionId := none }]
      nodeCount := 0
      connectionCount := 0
      hasSource := false
      hasChecks := false
      hasCircularDependencies := false }
  let sourceNodes := nodes.filter fun node => node.type = .source
  let checkNodes := nodes.filter fun node => node.type = .check
  let missingSource : List ValidationError :=
    if sourceNodes.isEmpty then
      [{ type := "missing_source"
         message := "Flow has no source nodes - add a data source to make it executable"
         nodeId := none
         connectionId := none }]
    else []
  let noChecks : List ValidationError :=
    if checkNodes.isEmpty then
      [{ type := "no_checks"
         message := "Flow has no check nodes - no data quality validation will be performed"
         nodeId := none
         connectionId := none }]
    else []
  let invalid := flow.connections.filterMap (invalidConnection? nodes)
  let connections := keptConnections nodes flow.connections
  let configErrors := nodes.flatMap validateNodeConfig
  let orphaned : List ValidationError :=
    (order.toList (findOrphanedNodes nodes connections)).map fun id =>
      { type := "orphaned_node"
        message := s!"Node '{id}' is not connected to any other nodes"
        nodeId := some id
        connectionId := none }
  let (hasCircular, cycleNodes) ← detectCircularDependencies nodes connections
  let circular : List ValidationError :=
    if hasCircular then
      [{ type := "circular_dependency"
         message := "Circular dependency detected involving nodes: " ++ join ", " cycleNodes
         nodeId := none
         connectionId := none }]
    else []
  let compatibility := validateConnectionCompatibility nodes connections
  let withoutSource := checkNodes.flatMap (checkWithoutSource connections strict)
  let errors :=
    if strict then invalid ++ configErrors ++ circular ++ compatibility ++ withoutSource
    else circular
  let warnings :=
    if strict then missingSource ++ noChecks ++ orphaned
    else
      missingSource ++ noChecks ++ invalid ++
        configErrors.map (asWarning " (configure before executing)") ++ orphaned ++
        compatibility.map (asWarning " (fix before executing)") ++ withoutSource
  return {
    isValid := errors.length = 0
    errors
    warnings
    nodeCount := nodes.length
    connectionCount := connections.length
    hasSource := sourceNodes.length > 0
    hasChecks := checkNodes.length > 0
    hasCircularDependencies := hasCircular }

/-- The counts of the scheduler and the nodes that became ready. -/
structure Relaxation where
  inDegree : String → Int
  nextLevel : List String

def relax (state : Relaxation) (neighbor : String) : Relaxation :=
  let degree := state.inDegree neighbor - 1
  { inDegree := fun id => if id = neighbor then degree else state.inDegree id
    nextLevel := if degree = 0 then state.nextLevel.insert neighbor else state.nextLevel }

def relaxLevel (connections : List FlowConnection) (inDegree : String → Int)
    (currentLevel : List String) : Relaxation :=
  currentLevel.foldl (fun state id => (graph connections id).foldl relax state)
    { inDegree, nextLevel := [] }

/-- `while current_level: …`, bounded by `fuel` levels. `order` is the order of
`list(next_level)`. -/
def levelsLoop (order : SetOrder String) (connections : List FlowConnection) :
    Nat → (String → Int) → List String → Except Exn (List (List String))
  | _, _, [] => .ok []
  | 0, _, _ => .error .outOfFuel
  | fuel + 1, inDegree, currentLevel => do
      let relaxed := relaxLevel connections inDegree currentLevel
      let rest ← levelsLoop order connections fuel relaxed.inDegree
        (order.toList relaxed.nextLevel)
      .ok (currentLevel :: rest)

/-- `in_degree[conn.target] += 1` for each connection, from zero for each node. -/
def inDegrees (nodes : List FlowNode) :
    List FlowConnection → (String → Int) → Except Exn (String → Int)
  | [], inDegree => .ok inDegree
  | connection :: rest, inDegree =>
      if connection.target ∈ nodes.map (·.id) then
        inDegrees nodes rest fun id =>
          if id = connection.target then inDegree id + 1 else inDegree id
      else .error (.keyError connection.target)

/-- Execution levels: the nodes of a level have no dependencies on each other. -/
def getExecutionLevels (order : SetOrder String) (nodes : List FlowNode)
    (connections : List FlowConnection) : Except Exn (List (List String)) := do
  let inDegree ← inDegrees nodes connections fun _ => 0
  let currentLevel := (nodes.map (·.id)).eraseDups.filter fun id => inDegree id = 0
  let executionLevels ← levelsLoop order connections (nodes.length + 1) inDegree currentLevel
  if (executionLevels.map List.length).sum ≠ nodes.length then
    .error (.valueError "Cannot create execution levels: circular dependency detected")
  else .ok executionLevels

end FlowValidator

end CogniDQ.Flow
