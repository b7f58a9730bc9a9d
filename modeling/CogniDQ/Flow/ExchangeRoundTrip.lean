import CogniDQ.Flow.Exchange
import CogniDQ.Flow.Acceptance

/-!
# What an export and an import preserve

The definition of a flow survives, since the schemas read back what they have written; the tags do
not, since no exporter writes them.
-/

set_option autoImplicit false

namespace CogniDQ.Flow

open CogniDQ.Python

section Reread

variable (reader : NumberReader)

theorem readOptionalText_ofOption (text : Option String) :
    readOptionalText (ofOption .str text) = .ok text := by
  cases text <;> rfl

theorem readOptionalDict_ofOption (entries : Option Dict) :
    readOptionalDict (ofOption .dict entries) = .ok entries := by
  cases entries <;> rfl

theorem readNodeType_value (type : NodeType) : readNodeType (.str type.value) = .ok type := by
  cases type <;> rfl

private theorem readPosition_ofOption (position : Option (Rat × Rat)) :
    readPosition reader
      (ofOption (fun (x, y) => .dict [("x", .float x), ("y", .float y)]) position) = .ok position := by
  cases position <;> rfl

theorem readNode_dumpNode (node : SchemaNode) : readNode reader (dumpNode node) = .ok node := by
  unfold readNode dumpNode
  simp only [readDict, required, Dict.getD, List.lookup_cons, String.reduceBEq, Option.getD_some,
    readText, readNodeType_value, readOptionalText_ofOption, readOptionalDict_ofOption, readPosition_ofOption,
    bind, Except.bind]

private theorem readConnection_dumpConnection (connection : FlowConnection) :
    readConnection (dumpConnection connection) = .ok connection := by
  unfold readConnection dumpConnection
  simp only [readDict, required, requiredAlias, Dict.getD, List.lookup_cons, List.lookup_nil,
    String.reduceBEq, Option.getD_some, readText, readOptionalText_ofOption, bind, Except.bind]

private theorem readList_map {α : Type} {read : Value → Except Exn α} {dump : α → Value}
    (inverse : ∀ item, read (dump item) = .ok item) (items : List α) :
    readList read (.list (items.map dump)) = .ok items := by
  unfold readList
  induction items with
  | nil => rfl
  | cons item rest ih =>
      dsimp only at ih ⊢
      rw [List.map_cons, List.mapM_cons, inverse, ih]
      rfl

theorem readDefinition_dumpDefinition (definition : SchemaDefinition) :
    readDefinition reader (dumpDefinition definition) = .ok definition := by
  unfold readDefinition dumpDefinition
  simp only [required, Dict.getD, List.lookup_cons, String.reduceBEq, Option.getD_some,
    readList_map (readNode_dumpNode reader), readList_map readConnection_dumpConnection,
    readOptionalDict_ofOption, bind, Except.bind]

end Reread

section Accepting

def AcceptedAsDraft (order : SetOrder String) (definition : SchemaDefinition) : Prop :=
  ∃ response, FlowValidator.validateFlow order definition.toFlowDefinition false = .ok response ∧
    response.isValid = true

private theorem acceptedAsDraft_of_strict {order : SetOrder String} {definition : SchemaDefinition}
    {response : FlowValidationResponse} {strict : Bool}
    (validated : FlowValidator.validateFlow order definition.toFlowDefinition strict = .ok response)
    (valid : response.isValid = true) : AcceptedAsDraft order definition := by
  cases strict with
  | false => exact ⟨response, validated, valid⟩
  | true =>
      have passes := FlowValidator.passes_iff.mp ⟨response, validated, valid⟩
      unfold AcceptedAsDraft FlowValidator.validateFlow
      rcases passes with empty | strict
      · have none : definition.toFlowDefinition.nodes.length = 0 := by rw [empty]; rfl
        simp only [none, if_true]
        exact ⟨_, rfl, rfl⟩
      · obtain ⟨cycle, acyclic⟩ := strict.acyclic
        by_cases empty : definition.toFlowDefinition.nodes.length = 0
        · simp only [empty, if_true]
          exact ⟨_, rfl, rfl⟩
        · simp only [empty, if_false, acyclic, bind, Except.bind]
          exact ⟨_, rfl, rfl⟩

end Accepting

namespace Exchange

variable {Uuid : Type} [DecidableEq Uuid] (exchange : Exchange Uuid)

def roundTrip (flowId workspaceId id target : Uuid) (format exportedAt : String)
    (flows : List (SavedFlow Uuid)) : Except Exn (SavedFlow Uuid) := do
  let text ← exchange.exportFlow flowId workspaceId format exportedAt flows
  exchange.importFlow id target text format

/-- The created flow says the same as the original, its definition as the schemas read it. -/
structure SameFlow (created original : SavedFlow Uuid) : Prop where
  name : created.name = original.name
  description : created.description = original.description
  definition : ∃ definition, readDefinition exchange.reader created.flowDefinition = .ok definition ∧
    readDefinition exchange.reader original.flowDefinition = .ok definition
  tags : created.tags = original.tags

structure Creatable (flow : SavedFlow Uuid) : Prop where
  name : 1 ≤ flow.name.length ∧ flow.name.length ≤ 255
  definition : ∃ definition, readDefinition exchange.reader flow.flowDefinition = .ok definition ∧
    AcceptedAsDraft exchange.order definition

def exported (exportedAt : String) (flow : SavedFlow Uuid) : Dict :=
  [("name", .str flow.name), ("description", ofOption .str flow.description),
    ("flow_definition", flow.flowDefinition),
    ("metadata", .dict [("flow_id", .str (exchange.str flow.id)), ("exported_at", .str exportedAt),
      ("format_version", .str "1.0")])]

variable {exchange}

omit [DecidableEq Uuid] in
theorem createFlow_ok_iff {id workspaceId : Uuid} {request : CreationRequest}
    {created : SavedFlow Uuid} :
    exchange.createFlow id workspaceId request = .ok created ↔
      (∃ response, FlowValidator.validateFlow exchange.order
          request.flowDefinition.toFlowDefinition request.strict = .ok response ∧
        response.isValid = true) ∧
      created = { id, workspaceId
                  name := request.name
                  description := request.description
                  flowDefinition := dumpDefinition request.flowDefinition
                  tags := request.tags } := by
  obtain ⟨response, validated⟩ := FlowValidator.validateFlow_total exchange.order
    request.flowDefinition.toFlowDefinition request.strict
  unfold createFlow
  rw [validated]
  dsimp only [bind, Except.bind]
  cases valid : response.isValid with
  | false => simp [valid]
  | true =>
      constructor
      · intro made
        exact ⟨⟨response, rfl, valid⟩, (Except.ok.inj made).symm⟩
      · rintro ⟨_, rfl⟩
        rfl

omit [DecidableEq Uuid] in
private theorem creatable_of_created {id workspaceId : Uuid} {request : CreationRequest}
    {flow : SavedFlow Uuid} (named : 1 ≤ request.name.length ∧ request.name.length ≤ 255)
    (created : exchange.createFlow id workspaceId request = .ok flow) : exchange.Creatable flow := by
  obtain ⟨⟨response, validated, valid⟩, rfl⟩ := createFlow_ok_iff.mp created
  exact ⟨named, _, readDefinition_dumpDefinition exchange.reader request.flowDefinition,
    acceptedAsDraft_of_strict validated valid⟩

omit [DecidableEq Uuid] in
private theorem readName_ok_iff {name read : String} :
    readName (.str name) = .ok read ↔ (1 ≤ name.length ∧ name.length ≤ 255) ∧ read = name := by
  unfold readName
  dsimp only [readText, bind, Except.bind]
  split
  · rename_i short
    exact ⟨fun same => ⟨short, (Except.ok.inj same).symm⟩, fun both => congrArg _ both.2.symm⟩
  · rename_i long
    exact ⟨fun same => (nomatch same), fun both => absurd both.1 long⟩

omit [DecidableEq Uuid] in
theorem importData_exported {codec : Codec} {exportedAt format : String} {flow : SavedFlow Uuid}
    (faithful : codec.load (codec.dump (exchange.exportData exportedAt flow)) =
      .ok (exchange.exportData exportedAt flow)) :
    importData codec format (codec.dump (exchange.exportData exportedAt flow)) =
      .ok (exchange.exported exportedAt flow) := by
  unfold importData
  rw [faithful]
  rfl

omit [DecidableEq Uuid] in
private theorem importRequest_exported_iff {exportedAt : String} {flow : SavedFlow Uuid}
    {request : CreationRequest} :
    exchange.importRequest (exchange.exported exportedAt flow) = .ok request ↔
      (1 ≤ flow.name.length ∧ flow.name.length ≤ 255) ∧
      ∃ definition, readDefinition exchange.reader flow.flowDefinition = .ok definition ∧
        request = { name := flow.name, description := flow.description,
                    flowDefinition := definition, strict := false, tags := some [] } := by
  have definition : (exchange.exported exportedAt flow).get "flow_definition" =
      flow.flowDefinition := rfl
  have name : (exchange.exported exportedAt flow).get "name" = .str flow.name := rfl
  have description : readOptionalText ((exchange.exported exportedAt flow).get "description") =
      .ok flow.description := readOptionalText_ofOption flow.description
  have tags : readTags ((exchange.exported exportedAt flow).getD "tags" (.list [])) =
      .ok (some []) := rfl
  unfold importRequest
  rw [definition, name, description, tags]
  constructor
  · intro made
    obtain ⟨read, defined, made⟩ := bind_eq_ok made
    obtain ⟨text, named, made⟩ := bind_eq_ok made
    obtain ⟨short, rfl⟩ := readName_ok_iff.mp named
    exact ⟨short, read, defined, (Except.ok.inj made).symm⟩
  · rintro ⟨short, read, defined, rfl⟩
    rw [defined, readName_ok_iff.mpr ⟨short, rfl⟩]
    rfl

theorem roundTrip_eq {flowId workspaceId id target : Uuid} {format exportedAt : String}
    {flows : List (SavedFlow Uuid)} {flow : SavedFlow Uuid}
    (found : flows.find? (fun flow => flow.id = flowId ∧ flow.workspaceId = workspaceId) = some flow)
    (offered : format = "json" ∨ format = "yaml")
    (faithful : ∀ codec ∈ [exchange.json, exchange.yaml],
      codec.load (codec.dump (exchange.exportData exportedAt flow)) =
        .ok (exchange.exportData exportedAt flow)) :
    exchange.roundTrip flowId workspaceId id target format exportedAt flows = (do
      let request ← exchange.importRequest (exchange.exported exportedAt flow)
      exchange.createFlow id target request) := by
  unfold roundTrip exportFlow importFlow
  rw [found]
  rcases offered with rfl | rfl
  · have read := @importData_exported _ exchange exchange.json exportedAt "JSON" flow
      (faithful _ (by simp))
    dsimp only [codec, bind, Except.bind] at read ⊢
    simp only [if_true, read]
  · have read := @importData_exported _ exchange exchange.yaml exportedAt "YAML" flow
      (faithful _ (by simp))
    dsimp only [codec, bind, Except.bind] at read ⊢
    simp only [String.reduceEq, if_true, if_false, read]

/-- An export and an import give back the flow exactly where it is one that a request can create
and its tags are the empty list; of a flow that a request has created, exactly where its tags are
the empty list. -/
theorem roundTrip_same_iff {flowId workspaceId id target : Uuid} {format exportedAt : String}
    {flows : List (SavedFlow Uuid)} {flow : SavedFlow Uuid}
    (found : flows.find? (fun flow => flow.id = flowId ∧ flow.workspaceId = workspaceId) = some flow)
    (offered : format = "json" ∨ format = "yaml")
    (faithful : ∀ codec ∈ [exchange.json, exchange.yaml],
      codec.load (codec.dump (exchange.exportData exportedAt flow)) =
        .ok (exchange.exportData exportedAt flow)) :
    ((∃ created, exchange.roundTrip flowId workspaceId id target format exportedAt flows =
          .ok created ∧ exchange.SameFlow created flow) ↔
      exchange.Creatable flow ∧ flow.tags = some []) ∧
    ∀ (maker : Uuid) (workspace : Uuid) (request : CreationRequest),
      1 ≤ request.name.length ∧ request.name.length ≤ 255 →
      exchange.createFlow maker workspace request = .ok flow →
      ((∃ created, exchange.roundTrip flowId workspaceId id target format exportedAt flows =
          .ok created ∧ exchange.SameFlow created flow) ↔ flow.tags = some []) := by
  have trip := @roundTrip_eq _ _ exchange flowId workspaceId id target format exportedAt flows flow
    found offered faithful
  have same : (∃ created, exchange.roundTrip flowId workspaceId id target format exportedAt flows =
      .ok created ∧ exchange.SameFlow created flow) ↔
        exchange.Creatable flow ∧ flow.tags = some [] := by
    rw [trip]
    constructor
    · rintro ⟨created, made, same⟩
      obtain ⟨request, read, made⟩ := bind_eq_ok made
      obtain ⟨named, definition, defined, rfl⟩ := importRequest_exported_iff.mp read
      obtain ⟨accepted, rfl⟩ := createFlow_ok_iff.mp made
      exact ⟨⟨named, definition, defined, accepted⟩, same.tags.symm⟩
    · rintro ⟨⟨named, definition, defined, accepted⟩, untagged⟩
      have read := (@importRequest_exported_iff _ exchange exportedAt flow _).mpr
        ⟨named, definition, defined, rfl⟩
      rw [read]
      refine ⟨_, createFlow_ok_iff.mpr ⟨accepted, rfl⟩, rfl, rfl, ⟨definition, ?_, defined⟩,
        untagged.symm⟩
      exact readDefinition_dumpDefinition exchange.reader definition
  refine ⟨same, fun maker workspace request named created => same.trans (and_iff_right ?_)⟩
  exact creatable_of_created named created

section Example

private def ordersFlow (tags : List String) : SavedFlow Nat where
  id := 7
  workspaceId := 1
  name := "Orders"
  description := none
  flowDefinition := .dict
    [("nodes", .list [.dict [("id", .str "source-1"), ("type", .str "source")]]),
      ("connections", .list [])]
  tags := some tags

private def ordersJson : String :=
  "\x7b\n  \"name\": \"Orders\",\n  \"description\": null,\n  \"flow_definition\": \x7b\n" ++
    "    \"nodes\": [\n      \x7b\n        \"id\": \"source-1\",\n        \"type\": \"source\"\n" ++
    "      \x7d\n    ],\n    \"connections\": []\n  \x7d,\n  \"metadata\": \x7b\n" ++
    "    \"flow_id\": \"7\",\n    \"exported_at\": \"2024-01-01T00:00:00\",\n" ++
    "    \"format_version\": \"1.0\"\n  \x7d\n\x7d"

private def ordersYaml : String :=
  "name: Orders\ndescription: null\nflow_definition:\n  nodes:\n  - id: source-1\n    type: source\n" ++
    "  connections: []\nmetadata:\n  flow_id: '7'\n  exported_at: '2024-01-01T00:00:00'\n" ++
    "  format_version: '1.0'\n"

private def ordersData : Value :=
  .dict [("name", .str "Orders"), ("description", .none),
    ("flow_definition", (ordersFlow []).flowDefinition),
    ("metadata", .dict [("flow_id", .str "7"), ("exported_at", .str "2024-01-01T00:00:00"),
      ("format_version", .str "1.0")])]

private def ordersExchange : Exchange Nat where
  json := ⟨fun _ => ordersJson, fun text => if text = ordersJson then .ok ordersData else invalid⟩
  yaml := ⟨fun _ => ordersYaml, fun text => if text = ordersYaml then .ok ordersData else invalid⟩
  reader := ⟨Runtime.ascii, fun _ => none⟩
  order := ⟨id, fun _ => List.Perm.refl _⟩
  str := toString
  describe _ := ""

private theorem ordersExchange_faithful (tags : List String) :
    ∀ codec ∈ [ordersExchange.json, ordersExchange.yaml],
      codec.load (codec.dump
          (ordersExchange.exportData "2024-01-01T00:00:00" (ordersFlow tags))) =
        .ok (ordersExchange.exportData "2024-01-01T00:00:00" (ordersFlow tags)) := by
  have seven : toString 7 = "7" := by decide
  have same : ordersExchange.exportData "2024-01-01T00:00:00" (ordersFlow tags) = ordersData := by
    unfold exportData ordersData
    dsimp only [ordersExchange, ordersFlow, ofOption]
    rw [seven]
  intro codec member
  simp only [List.mem_cons, List.not_mem_nil, or_false] at member
  rw [same]
  rcases member with rfl | rfl
  · dsimp only [ordersExchange]
    exact if_pos rfl
  · dsimp only [ordersExchange]
    exact if_pos rfl

theorem untagged_arrives :
    ∃ created, ordersExchange.roundTrip 7 1 8 2 "json" "2024-01-01T00:00:00" [ordersFlow []] =
      .ok created ∧ ordersExchange.SameFlow created (ordersFlow []) :=
  (roundTrip_same_iff rfl (.inl rfl) (ordersExchange_faithful [])).1.mpr
    ⟨⟨by decide, _, rfl, _, rfl, rfl⟩, rfl⟩

theorem tag_lost :
    ¬ ∃ created, ordersExchange.roundTrip 7 1 8 2 "json" "2024-01-01T00:00:00"
        [ordersFlow ["finance"]] = .ok created ∧
      ordersExchange.SameFlow created (ordersFlow ["finance"]) := by
  rintro ⟨created, made, same⟩
  rw [roundTrip_eq rfl (.inl rfl) (ordersExchange_faithful ["finance"])] at made
  obtain rfl := Except.ok.inj made
  cases same.tags

end Example

end Exchange

end CogniDQ.Flow
