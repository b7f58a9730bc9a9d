import CogniDQ.Execution.ResultNormalizer
import CogniDQ.Flow.Acceptance

/-!
# Exporting and importing flows

A flow is exported with its definition as the database stores it. An import reads the
definition through the schemas, whose names for the ends of a connection have aliases, and
creates a flow from what they read.
-/

set_option autoImplicit false

namespace CogniDQ.Flow

open CogniDQ.Python
open CogniDQ.Execution (toFloat)

structure SchemaNode extends FlowNode where
  label : Option String
  position : Option (Rat × Rat)
  style : Option Dict

structure SchemaDefinition where
  nodes : List SchemaNode
  connections : List FlowConnection
  metadata : Option Dict

def SchemaDefinition.toFlowDefinition (definition : SchemaDefinition) : FlowDefinition :=
  { nodes := definition.nodes.map (·.toFlowNode), connections := definition.connections }

section Reading

def invalid {α : Type} : Except Exn α := .error (.valueError "validation error")

/-- How the schemas read numbers: integers as floats, and texts of finite numbers. -/
structure NumberReader where
  runtime : Runtime
  ofText : String → Option Rat

def readText : Value → Except Exn String
  | .str text => .ok text
  | _ => invalid

def readOptionalText : Value → Except Exn (Option String)
  | .none => .ok none
  | value => (readText value).map some

def readDict : Value → Except Exn Dict
  | .dict entries => .ok entries
  | _ => invalid

def readOptionalDict : Value → Except Exn (Option Dict)
  | .none => .ok none
  | value => (readDict value).map some

def required (entries : Dict) (key : String) : Except Exn Value :=
  match List.lookup key entries with
  | some value => .ok value
  | none => invalid

/-- A field without a default, which is read by its alias before its name. -/
def requiredAlias (entries : Dict) (other name : String) : Except Exn Value :=
  match List.lookup other entries with
  | some value => .ok value
  | none => required entries name

def NodeType.all : List NodeType := [.source, .check, .join, .filter, .aggregate, .transform]

def readNodeType (value : Value) : Except Exn NodeType := do
  let text ← readText value
  match NodeType.all.find? fun type => type.value = text with
  | some type => .ok type
  | none => invalid

variable (reader : NumberReader)

def readCoordinate (value : Value) : Except Exn Rat :=
  match value with
  | .str text =>
      match reader.ofText text with
      | some number => .ok number
      | none => invalid
  | other =>
      match toFloat reader.runtime other with
      | .ok (.finite number) => .ok number
      | _ => invalid

def readPosition : Value → Except Exn (Option (Rat × Rat))
  | .none => .ok none
  | .dict entries => do
      let x ← readCoordinate reader (← required entries "x")
      let y ← readCoordinate reader (← required entries "y")
      .ok (some (x, y))
  | _ => invalid

def readNode (value : Value) : Except Exn SchemaNode := do
  let entries ← readDict value
  let id ← readText (← required entries "id")
  let type ← readNodeType (← required entries "type")
  let label ← readOptionalText (entries.getD "label" .none)
  let config ← readDict (entries.getD "config" (.dict []))
  let position ← readPosition reader (entries.getD "position" .none)
  let checkType ← readOptionalText (entries.getD "checkType" .none)
  let style ← readOptionalDict (entries.getD "style" .none)
  .ok { id, type, config, checkType, label, position, style }

def readConnection (value : Value) : Except Exn FlowConnection := do
  let entries ← readDict value
  let id ← readText (← required entries "id")
  let source ← readText (← requiredAlias entries "from" "source")
  let target ← readText (← requiredAlias entries "to" "target")
  let sourcePort ← readOptionalText (entries.getD "sourcePort" (.str "output"))
  let targetPort ← readOptionalText (entries.getD "targetPort" (.str "input"))
  let label ← readOptionalText (entries.getD "label" .none)
  .ok { id, source, target, sourcePort, targetPort, label }

def readList {α : Type} (read : Value → Except Exn α) : Value → Except Exn (List α)
  | .list values => values.mapM read
  | _ => invalid

def readDefinition (value : Value) : Except Exn SchemaDefinition :=
  match value with
  | .dict entries => do
      let entries : Dict := entries
      let nodes ← readList (readNode reader) (← required entries "nodes")
      let connections ← readList readConnection (← required entries "connections")
      let metadata ← readOptionalDict (entries.getD "metadata" (.dict []))
      .ok { nodes, connections, metadata }
  | _ => .error .typeError

end Reading

section Dumping

def ofOption {α : Type} (dump : α → Value) : Option α → Value
  | some value => dump value
  | none => .none

def dumpNode (node : SchemaNode) : Value :=
  .dict [("id", .str node.id), ("type", .str node.type.value), ("label", ofOption .str node.label),
    ("config", .dict node.config),
    ("position", ofOption (fun (x, y) => .dict [("x", .float x), ("y", .float y)]) node.position),
    ("checkType", ofOption .str node.checkType), ("style", ofOption .dict node.style)]

def dumpConnection (connection : FlowConnection) : Value :=
  .dict [("id", .str connection.id), ("source", .str connection.source),
    ("target", .str connection.target), ("sourcePort", ofOption .str connection.sourcePort),
    ("targetPort", ofOption .str connection.targetPort), ("label", ofOption .str connection.label)]

/-- `flow_definition.dict()`: the fields under their names, not their aliases. -/
def dumpDefinition (definition : SchemaDefinition) : Value :=
  .dict [("nodes", .list (definition.nodes.map dumpNode)),
    ("connections", .list (definition.connections.map dumpConnection)),
    ("metadata", ofOption .dict definition.metadata)]

end Dumping

/-- A row of `dq_flows`, with the definition as it is stored. -/
structure SavedFlow (Uuid : Type) where
  id : Uuid
  workspaceId : Uuid
  name : String
  description : Option String
  flowDefinition : Value
  tags : Option (List String)

/-- `CreateFlowRequest`. `strict` is whether the status is another than draft. -/
structure CreationRequest where
  name : String
  description : Option String
  flowDefinition : SchemaDefinition
  strict : Bool
  tags : Option (List String)

structure Codec where
  dump : Value → String
  load : String → Except Exn Value

/-- What the exchange depends on: the formats, how numbers are read, the order in which the
validator walks sets, and how identifiers and lists of errors are shown. -/
structure Exchange (Uuid : Type) where
  json : Codec
  yaml : Codec
  reader : NumberReader
  order : SetOrder String
  str : Uuid → String
  describe : List ValidationError → String

namespace Exchange

variable {Uuid : Type} (exchange : Exchange Uuid)

def exportData (exportedAt : String) (flow : SavedFlow Uuid) : Value :=
  .dict [("name", .str flow.name), ("description", ofOption .str flow.description),
    ("flow_definition", flow.flowDefinition),
    ("metadata", .dict [("flow_id", .str (exchange.str flow.id)), ("exported_at", .str exportedAt),
      ("format_version", .str "1.0")])]

def codec (kind format : String) : Except Exn Codec :=
  if format = "json" then .ok exchange.json
  else if format = "yaml" then .ok exchange.yaml
  else .error (.valueError ("Unsupported " ++ kind ++ " format: " ++ format))

def exportFlow [DecidableEq Uuid] (flowId workspaceId : Uuid) (format exportedAt : String)
    (flows : List (SavedFlow Uuid)) : Except Exn String :=
  match flows.find? fun flow => flow.id = flowId ∧ flow.workspaceId = workspaceId with
  | none => .error (.valueError ("Flow " ++ exchange.str flowId ++ " not found"))
  | some flow => do
      let codec ← exchange.codec "export" format
      .ok (codec.dump (exchange.exportData exportedAt flow))

def holds (data : Value) (key : String) : Except Exn Bool :=
  match data with
  | .dict entries => .ok (Dict.has entries key)
  | .list values => .ok (values.any (·.is key))
  | .str text => .ok (decide (key.toList <:+: text.toList))
  | _ => .error .typeError

/-- `import_from_json` and `import_from_yaml`, of which only a dictionary is of use later. -/
def importData (codec : Codec) (format text : String) : Except Exn Dict := do
  let data ← codec.load text
  if !(← holds data "name") || !(← holds data "flow_definition") then
    .error (.valueError ("Invalid flow " ++ format ++ ": missing 'name' or 'flow_definition'"))
  else
    match data with
    | .dict entries => .ok entries
    | _ => .error .typeError

def readTags : Value → Except Exn (Option (List String))
  | .none => .ok none
  | value => (readList readText value).map some

def readName (value : Value) : Except Exn String := do
  let name ← readText value
  if 1 ≤ name.length ∧ name.length ≤ 255 then .ok name else invalid

def importRequest (data : Dict) : Except Exn CreationRequest := do
  let flowDefinition ← readDefinition exchange.reader (data.get "flow_definition")
  let name ← readName (data.get "name")
  let description ← readOptionalText (data.get "description")
  let tags ← readTags (data.getD "tags" (.list []))
  .ok { name, description, flowDefinition, strict := false, tags }

def createFlow (id workspaceId : Uuid) (request : CreationRequest) :
    Except Exn (SavedFlow Uuid) := do
  let validation ← FlowValidator.validateFlow exchange.order
    request.flowDefinition.toFlowDefinition request.strict
  if !validation.isValid then
    .error (.valueError ("Invalid flow definition: " ++ exchange.describe validation.errors))
  else
    .ok { id, workspaceId
          name := request.name
          description := request.description
          flowDefinition := dumpDefinition request.flowDefinition
          tags := request.tags }

def importFlow (id workspaceId : Uuid) (text format : String) : Except Exn (SavedFlow Uuid) := do
  let codec ← exchange.codec "import" format
  let data ← importData codec (if format = "json" then "JSON" else "YAML") text
  let request ← exchange.importRequest data
  exchange.createFlow id workspaceId request

end Exchange

end CogniDQ.Flow
