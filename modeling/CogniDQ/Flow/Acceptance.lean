import CogniDQ.Flow.LevelProperties

/-!
# Accepted flows and the scheduler

A flow accepted in strict mode is acyclic and its connections run between its
nodes. What acceptance leaves open is whether ids repeat, and whether a flow
without nodes has connections; the scheduler runs exactly the flows that are
sound on both counts.
-/

set_option autoImplicit false

namespace CogniDQ.Flow.FlowValidator

open CogniDQ.Python CogniDQ.Graph

variable {order : SetOrder String} {flow : FlowDefinition} {response : FlowValidationResponse}

theorem invalidConnection?_eq_none {nodes : List FlowNode} {connection : FlowConnection} :
    invalidConnection? nodes connection = none ↔
      connection.source ∈ nodes.map (·.id) ∧ connection.target ∈ nodes.map (·.id) := by
  rw [← nodeDict_isSome, ← nodeDict_isSome]
  unfold invalidConnection?
  cases nodeDict nodes connection.source <;> cases nodeDict nodes connection.target <;> simp

private theorem mem_keptConnections {nodes : List FlowNode} {connections : List FlowConnection}
    {connection : FlowConnection} :
    connection ∈ keptConnections nodes connections ↔
      connection ∈ connections ∧
        connection.source ∈ nodes.map (·.id) ∧ connection.target ∈ nodes.map (·.id) := by
  rw [← invalidConnection?_eq_none]
  simp only [keptConnections, List.mem_filter, decide_eq_true_eq, not_and, Bool.not_eq_true,
    Option.isSome_eq_false_iff, Option.isNone_iff_eq_none]
  exact ⟨fun ⟨member, kept⟩ => ⟨member, kept member⟩, fun ⟨member, valid⟩ => ⟨member, fun _ => valid⟩⟩

theorem keptConnections_edge {nodes : List FlowNode} {connections : List FlowConnection}
    {source target : String}
    (edge : Edge (edgesOf (keptConnections nodes connections)) source target) :
    source ∈ nodes.map (·.id) ∧ target ∈ nodes.map (·.id) := by
  obtain ⟨connection, member, equal⟩ := List.mem_map.mp edge
  obtain ⟨rfl, rfl⟩ := Prod.mk.inj equal
  exact (mem_keptConnections.mp member).2

theorem validateFlow_total (order : SetOrder String) (flow : FlowDefinition) (strict : Bool) :
    ∃ response, validateFlow order flow strict = .ok response := by
  obtain ⟨⟨hasCircular, cycleNodes⟩, answer⟩ := @detectCircularDependencies_total
    (keptConnections flow.nodes flow.connections) flow.nodes
    fun _ _ edge => (keptConnections_edge edge).2
  unfold validateFlow
  by_cases empty : flow.nodes.length = 0
  · simp only [empty, if_true]
    exact ⟨_, rfl⟩
  · simp only [empty, if_false, answer, bind, Except.bind]
    exact ⟨_, rfl⟩

private theorem validateFlow_strict (nonempty : flow.nodes ≠ [])
    (validated : validateFlow order flow true = .ok response) :
    ∃ hasCircular cycleNodes,
      detectCircularDependencies flow.nodes (keptConnections flow.nodes flow.connections) =
        .ok (hasCircular, cycleNodes) ∧
      (response.isValid = true →
        flow.connections.filterMap (invalidConnection? flow.nodes) = [] ∧ hasCircular = false) := by
  unfold validateFlow at validated
  have length : ¬ flow.nodes.length = 0 := by simpa using nonempty
  simp only [length, if_false] at validated
  obtain ⟨⟨hasCircular, cycleNodes⟩, answer, built⟩ := bind_eq_ok validated
  refine ⟨hasCircular, cycleNodes, answer, ?_⟩
  simp only [pure, Except.pure, Except.ok.injEq] at built
  subst built
  simp only [if_true, decide_eq_true_eq, List.length_eq_zero_iff, List.append_eq_nil_iff]
  rintro ⟨⟨⟨⟨invalid, _⟩, circular⟩, _⟩, _⟩
  refine ⟨invalid, ?_⟩
  cases hasCircular with
  | true => simp at circular
  | false => rfl

theorem accepted_sound (nonempty : flow.nodes ≠ [])
    (validated : validateFlow order flow true = .ok response) (accepted : response.isValid = true) :
    (∀ connection ∈ flow.connections,
      connection.source ∈ flow.nodeIds ∧ connection.target ∈ flow.nodeIds) ∧
      Acyclic (edgesOf flow.connections) := by
  obtain ⟨hasCircular, cycleNodes, answer, sound⟩ := validateFlow_strict nonempty validated
  obtain ⟨invalid, rfl⟩ := sound accepted
  have endpoints : ∀ connection ∈ flow.connections,
      connection.source ∈ flow.nodeIds ∧ connection.target ∈ flow.nodeIds := by
    intro connection member
    exact invalidConnection?_eq_none.mp (List.filterMap_eq_nil_iff.mp invalid connection member)
  have kept : keptConnections flow.nodes flow.connections = flow.connections := by
    refine List.filter_eq_self.mpr fun connection member => ?_
    have valid := invalidConnection?_eq_none.mpr (endpoints connection member)
    simp [valid]
  rw [kept] at answer
  refine ⟨endpoints, detectCircularDependenciesWithin_acyclic ?_ answer⟩
  intro source target edge
  rw [← kept] at edge
  exact (keptConnections_edge edge).1

theorem accepted_levels (order' : SetOrder String) (nonempty : flow.nodes ≠ [])
    (validated : validateFlow order flow true = .ok response) (accepted : response.isValid = true) :
    ∃ levels : List (List String), levels.flatten.Perm flow.nodeIds.eraseDups ∧
      getExecutionLevels order' flow.nodes flow.connections =
        if levels.flatten.length = flow.nodes.length then .ok levels
        else .error
          (.valueError "Cannot create execution levels: circular dependency detected") := by
  obtain ⟨endpoints, acyclic⟩ := accepted_sound nonempty validated accepted
  exact getExecutionLevels_of_acyclic order' endpoints acyclic

private theorem eraseDups_length_eq_iff (ids : List String) :
    ids.eraseDups.length = ids.length ↔ ids.Nodup := by
  have subperm : ids.eraseDups.Subperm ids :=
    List.subperm_of_subset (Grouping.nodup_eraseDups ids) fun id => List.mem_eraseDups.mp
  constructor
  · intro same
    exact (subperm.perm_of_length_le same.ge).nodup_iff.mp (Grouping.nodup_eraseDups ids)
  · intro unique
    refine (List.perm_ext_iff_of_nodup (Grouping.nodup_eraseDups ids) unique |>.mpr ?_).length_eq
    exact fun id => List.mem_eraseDups

/-- An accepted flow is scheduled, each of its nodes exactly once, if and only if
its ids are distinct and a flow without nodes has no connections. -/
theorem accepted_schedule_iff (validationOrder levelOrder : SetOrder String)
    (flow : FlowDefinition) (response : FlowValidationResponse)
    (validated : validateFlow validationOrder flow true = .ok response)
    (accepted : response.isValid = true) :
    (∃ levels, getExecutionLevels levelOrder flow.nodes flow.connections = .ok levels ∧
        levels.flatten.Perm flow.nodeIds) ↔
      flow.nodeIds.Nodup ∧ (flow.nodes = [] → flow.connections = []) := by
  by_cases nonempty : flow.nodes = []
  · have ids : flow.nodeIds = [] := by simp [FlowDefinition.nodeIds, nonempty]
    rw [ids, nonempty]
    cases connections : flow.connections with
    | nil => simp [getExecutionLevels, inDegrees, levelsLoop, bind, Except.bind]
    | cons connection rest => simp [getExecutionLevels, inDegrees, bind, Except.bind]
  · obtain ⟨levels, scheduled, outcome⟩ := accepted_levels levelOrder nonempty validated accepted
    have length : levels.flatten.length = flow.nodes.length ↔ flow.nodeIds.Nodup := by
      rw [scheduled.length_eq, ← eraseDups_length_eq_iff]
      simp [FlowDefinition.nodeIds]
    simp only [nonempty, false_imp_iff, and_true, outcome, ← length]
    constructor
    · rintro ⟨_, succeeded, _⟩
      by_contra short
      rw [if_neg short] at succeeded
      cases succeeded
    · intro full
      have unique := length.mp full
      refine ⟨levels, if_pos full, scheduled.trans ?_⟩
      exact (List.perm_ext_iff_of_nodup (Grouping.nodup_eraseDups _) unique).mpr
        fun id => List.mem_eraseDups

def sourceThenCheck : FlowDefinition where
  nodes :=
    [{ id := "src", type := .source, config := [("file_path", .str "a.csv")], checkType := none },
     { id := "chk", type := .check, config := [("column", .str "age")],
       checkType := some "completeness" }]
  connections :=
    [{ id := "c", source := "src", target := "chk", sourcePort := some "output",
       targetPort := some "input", label := none }]

theorem sourceThenCheck_scheduled :
    ∃ levels, getExecutionLevels .insertion sourceThenCheck.nodes sourceThenCheck.connections =
        .ok levels ∧ levels.flatten.Perm sourceThenCheck.nodeIds :=
  (accepted_schedule_iff .insertion .insertion sourceThenCheck _ rfl (by decide)).mpr
    ⟨by decide, by decide⟩

private def repeatedSource : FlowDefinition where
  nodes :=
    [{ id := "n1", type := .source, config := [("file_path", .str "a.csv")], checkType := none },
     { id := "n1", type := .source, config := [("file_path", .str "b.csv")], checkType := none }]
  connections := []

/-- The validator accepts a repeated id, and the scheduler then raises. -/
theorem repeatedSource_accepted_not_scheduled :
    (∃ response, validateFlow .insertion repeatedSource true = .ok response ∧
      response.isValid = true) ∧
    getExecutionLevels .insertion repeatedSource.nodes repeatedSource.connections =
      .error (.valueError "Cannot create execution levels: circular dependency detected") := by
  refine ⟨⟨_, rfl, by decide⟩, by rfl⟩

end CogniDQ.Flow.FlowValidator

/-!
## Strict validity

What strict validation demands of a definition, apart from the order in which it reports, and what
may change in a node without validation noticing.
-/

namespace CogniDQ.Flow.FlowValidator

open CogniDQ.Python

def passes (order : SetOrder String) (flow : FlowDefinition) : Prop :=
  ∃ response, validateFlow order flow true = .ok response ∧ response.isValid = true

/-- The demands of strict validation on a definition with nodes. -/
structure Strict (flow : FlowDefinition) : Prop where
  connected : flow.connections.filterMap (invalidConnection? flow.nodes) = []
  configured : flow.nodes.flatMap validateNodeConfig = []
  acyclic : ∃ cycle, detectCircularDependencies flow.nodes
    (keptConnections flow.nodes flow.connections) = .ok (false, cycle)
  compatible : validateConnectionCompatibility flow.nodes
    (keptConnections flow.nodes flow.connections) = []
  sourced : (flow.nodes.filter fun node => node.type = .check).flatMap
    (checkWithoutSource (keptConnections flow.nodes flow.connections) true) = []

theorem passes_iff {order : SetOrder String} {flow : FlowDefinition} :
    passes order flow ↔ flow.nodes = [] ∨ Strict flow := by
  by_cases empty : flow.nodes = []
  · have none : flow.nodes.length = 0 := by rw [empty]; rfl
    refine iff_of_true ?_ (.inl empty)
    unfold passes validateFlow
    simp only [none, if_true]
    exact ⟨_, rfl, rfl⟩
  · have some : ¬flow.nodes.length = 0 := by simpa using empty
    obtain ⟨⟨hasCircular, cycle⟩, answer⟩ := @detectCircularDependencies_total
      (keptConnections flow.nodes flow.connections) flow.nodes
      fun _ _ edge => (keptConnections_edge edge).2
    have circular : (∃ cycle, detectCircularDependencies flow.nodes
        (keptConnections flow.nodes flow.connections) = .ok (false, cycle)) ↔ hasCircular = false := by
      rw [answer]
      simp
    have demands : Strict flow ↔ _ :=
      ⟨fun strict => And.intro strict.connected (And.intro strict.configured (And.intro
        (circular.mp strict.acyclic) (And.intro strict.compatible strict.sourced))),
        fun all => ⟨all.1, all.2.1, circular.mpr all.2.2.1, all.2.2.2.1, all.2.2.2.2⟩⟩
    rw [or_iff_right empty, demands]
    unfold passes validateFlow
    simp only [some, if_false, answer, bind, Except.bind, pure, Except.pure, Except.ok.injEq,
      exists_eq_left', if_true, decide_eq_true_eq, List.length_eq_zero_iff, List.append_eq_nil_iff]
    cases hasCircular <;> simp [and_assoc]

theorem passes_order (order other : SetOrder String) (flow : FlowDefinition) :
    passes order flow ↔ passes other flow := passes_iff.trans passes_iff.symm

theorem validateNodeConfig_check {left right : FlowNode} (id : left.id = right.id)
    (leftType : left.type = .check) (rightType : right.type = .check)
    (checkType : left.checkType = right.checkType) (leftConfig : left.config.truthy = true)
    (rightConfig : right.config.truthy = true) :
    validateNodeConfig left = validateNodeConfig right := by
  cases left
  cases right
  dsimp only at id leftType rightType checkType leftConfig rightConfig
  subst id leftType rightType checkType
  unfold validateNodeConfig
  dsimp only
  rw [leftConfig, rightConfig]
  rfl

section Renewed

/-- Nodes whose configs changed in nothing that validation reads. -/
structure Renews (renew : FlowNode → FlowNode) : Prop where
  id : ∀ node, (renew node).id = node.id
  type : ∀ node, (renew node).type = node.type
  config : ∀ node, validateNodeConfig (renew node) = validateNodeConfig node

variable {renew : FlowNode → FlowNode} {nodes : List FlowNode} {connections : List FlowConnection}

theorem Renews.ids (renews : Renews renew) : (nodes.map renew).map (·.id) = nodes.map (·.id) := by
  rw [List.map_map]
  exact List.map_congr_left fun node _ => renews.id node

theorem Renews.nodeDict (renews : Renews renew) (id : String) :
    nodeDict (nodes.map renew) id = (Flow.nodeDict nodes id).map renew := by
  unfold Flow.nodeDict
  rw [← List.map_reverse, List.find?_map]
  congr 2
  funext node
  simp [renews.id node]

theorem Renews.invalidConnection (renews : Renews renew) :
    invalidConnection? (nodes.map renew) = invalidConnection? nodes := by
  funext connection
  unfold invalidConnection?
  rw [renews.nodeDict, renews.nodeDict, Option.isNone_map, Option.isNone_map]

private theorem Renews.keptConnections (renews : Renews renew) :
    keptConnections (nodes.map renew) connections =
      FlowValidator.keptConnections nodes connections := by
  unfold FlowValidator.keptConnections
  rw [renews.invalidConnection]

private theorem Renews.configErrors (renews : Renews renew) :
    (nodes.map renew).flatMap validateNodeConfig = nodes.flatMap validateNodeConfig := by
  rw [List.flatMap_map]
  exact List.flatMap_congr fun node _ => renews.config node

private theorem Renews.searchAll (renews : Renews renew) (fuel : Nat) (search : Search) :
    searchAll connections fuel (nodes.map renew) search =
      FlowValidator.searchAll connections fuel nodes search := by
  induction nodes generalizing search with
  | nil => rfl
  | cons node rest ih =>
    rw [List.map_cons]
    unfold FlowValidator.searchAll
    rw [renews.id node]
    simp only [ih]

private theorem Renews.detectCircularDependencies (renews : Renews renew) :
    detectCircularDependencies (nodes.map renew) connections =
      FlowValidator.detectCircularDependencies nodes connections := by
  unfold FlowValidator.detectCircularDependencies detectCircularDependenciesWithin Search.initial
  rw [renews.ids, List.length_map]
  exact renews.searchAll _ _

private theorem Renews.compatibility (renews : Renews renew) :
    validateConnectionCompatibility (nodes.map renew) connections =
      validateConnectionCompatibility nodes connections := by
  unfold validateConnectionCompatibility
  refine List.flatMap_congr fun connection _ => ?_
  rw [renews.nodeDict, renews.nodeDict]
  cases Flow.nodeDict nodes connection.source <;> cases Flow.nodeDict nodes connection.target <;>
    simp [renews.type]

private theorem Renews.checkWithoutSource (renews : Renews renew) (strict : Bool) :
    ((nodes.map renew).filter fun node => node.type = .check).flatMap
        (checkWithoutSource connections strict) =
      (nodes.filter fun node => node.type = .check).flatMap
        (FlowValidator.checkWithoutSource connections strict) := by
  have types : ((fun node : FlowNode => decide (node.type = .check)) ∘ renew) =
      fun node => decide (node.type = .check) := by
    funext node
    simp [renews.type node]
  rw [List.filter_map, types, List.flatMap_map]
  refine List.flatMap_congr fun node _ => ?_
  unfold FlowValidator.checkWithoutSource
  rw [renews.id node]

theorem Renews.passes_iff (renews : Renews renew) (order : SetOrder String) :
    passes order ⟨nodes.map renew, connections⟩ ↔ passes order ⟨nodes, connections⟩ := by
  rw [FlowValidator.passes_iff, FlowValidator.passes_iff]
  refine or_congr List.map_eq_nil_iff ?_
  constructor
  · intro strict
    obtain ⟨connected, configured, acyclic, compatible, sourced⟩ := strict
    dsimp only at connected configured acyclic compatible sourced
    rw [renews.keptConnections] at acyclic compatible sourced
    exact ⟨renews.invalidConnection ▸ connected, renews.configErrors ▸ configured,
      renews.detectCircularDependencies ▸ acyclic, renews.compatibility ▸ compatible,
      renews.checkWithoutSource true ▸ sourced⟩
  · intro strict
    obtain ⟨connected, configured, acyclic, compatible, sourced⟩ := strict
    dsimp only at connected configured acyclic compatible sourced
    rw [← renews.invalidConnection] at connected
    rw [← renews.configErrors] at configured
    rw [← renews.keptConnections] at acyclic compatible sourced
    rw [← renews.detectCircularDependencies] at acyclic
    rw [← renews.compatibility] at compatible
    rw [← renews.checkWithoutSource] at sourced
    exact ⟨connected, configured, acyclic, compatible, sourced⟩

end Renewed

end CogniDQ.Flow.FlowValidator
