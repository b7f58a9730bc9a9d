import CogniDQ.Flow.Acceptance
import CogniDQ.Sync.FlowService
import CogniDQ.Sync.PushStability

/-!
# Active flows

A definition is validated strictly when it is stored with, or under, a status other than draft. A
status that is changed on its own is not followed by a validation of the definition it applies to.
-/

set_option autoImplicit false

namespace CogniDQ.Sync.FlowService

open CogniDQ.Python CogniDQ.Flow CogniDQ.Flow.FlowValidator

section Definitions

/-- The definition passes strict validation, in whatever order sets are walked. -/
def Executable (definition : StoredDefinition) : Prop :=
  ∀ order, passes order definition.toFlowDefinition

private theorem executable_of_passes {order : SetOrder String} {definition : StoredDefinition}
    (passed : passes order definition.toFlowDefinition) : Executable definition :=
  fun other => (passes_order order other _).mp passed

variable {Uuid : Type} {env : Environment Uuid}

theorem executable_of_checked {definition : StoredDefinition}
    (checked : checkDefinition env definition true = .ok ()) : Executable definition := by
  simp only [checkDefinition] at checked
  obtain ⟨response, validated, checked⟩ := bind_eq_ok checked
  refine executable_of_passes ⟨response, validated, ?_⟩
  by_contra invalid
  simp [invalid] at checked

variable {linking : Linking Uuid} {rule : DQRule Uuid} {overrides : Dict}

theorem truthy_of_get {config : Dict} {key : String} (held : (config.get key).isNone = false) :
    config.truthy = true := by
  cases config with
  | nil => cases held
  | cons entry rest => rfl

theorem id_pushNode (node : StoredNode) : (pushNode linking rule overrides node).1.id = node.id := by
  unfold pushNode
  split
  · dsimp only
    split <;> rfl
  · rfl

theorem type_pushNode (node : StoredNode) :
    (pushNode linking rule overrides node).1.type = node.type := by
  unfold pushNode
  split
  · dsimp only
    split <;> rfl
  · rfl

private theorem checkType_pushNode (node : StoredNode) :
    (pushNode linking rule overrides node).1.checkType = node.checkType := by
  unfold pushNode
  split
  · dsimp only
    split <;> rfl
  · rfl

theorem validateNodeConfig_pushNode (computed : ruleToNodeConfigOverrides rule = .ok overrides)
    (node : StoredNode) :
    validateNodeConfig (pushNode linking rule overrides node).1.toFlowNode =
      validateNodeConfig node.toFlowNode := by
  by_cases linked : node.linked linking rule.id = true
  · have named := rule_id_of_linked linked
    have still := rule_id_of_linked ((pushNode_linked computed node).trans linked)
    have check : node.type = .check := by
      unfold StoredNode.linked at linked
      simp only [Bool.and_eq_true, decide_eq_true_eq] at linked
      exact linked.1
    have before : node.config.truthy = true := truthy_of_get (by rw [named]; rfl)
    have after : (pushNode linking rule overrides node).1.config.truthy = true :=
      truthy_of_get (by rw [still]; rfl)
    exact validateNodeConfig_check (id_pushNode node) ((type_pushNode node).trans check) check
      (checkType_pushNode node) after before
  · have same : pushNode linking rule overrides node = (node, false) := if_neg linked
    rw [same]

private theorem toFlowNode_pushNode (node : StoredNode) :
    (pushNode linking rule overrides node).1.toFlowNode =
      (pushNode linking rule overrides ⟨node.toFlowNode, .none⟩).1.toFlowNode := by
  have alike : node.linked linking rule.id =
      StoredNode.linked linking rule.id ⟨node.toFlowNode, .none⟩ := rfl
  unfold pushNode
  rw [← alike]
  split
  · dsimp only
    split_ifs <;> rfl
  · rfl

private theorem executable_pushFlow (computed : ruleToNodeConfigOverrides rule = .ok overrides)
    (flow : DQFlow Uuid) :
    Executable (pushFlow linking rule overrides flow).1.flowDefinition ↔
      Executable flow.flowDefinition := by
  have renews : Renews fun node =>
      (pushNode linking rule overrides ⟨node, .none⟩).1.toFlowNode :=
    { id := fun node => id_pushNode ⟨node, .none⟩
      type := fun node => type_pushNode ⟨node, .none⟩
      config := fun node => validateNodeConfig_pushNode computed ⟨node, .none⟩ }
  have connections : (pushFlow linking rule overrides flow).1.flowDefinition.connections =
      flow.flowDefinition.connections := by
    unfold pushFlow
    dsimp only
    split <;> rfl
  have definition : (pushFlow linking rule overrides flow).1.flowDefinition.toFlowDefinition =
      ⟨flow.flowDefinition.toFlowDefinition.nodes.map fun node =>
        (pushNode linking rule overrides ⟨node, .none⟩).1.toFlowNode,
        flow.flowDefinition.connections⟩ := by
    unfold StoredDefinition.toFlowDefinition
    rw [pushFlow_nodes, connections, List.map_map, List.map_map]
    congr 1
    exact List.map_congr_left fun node _ => toFlowNode_pushNode node
  refine forall_congr' fun order => ?_
  rw [definition]
  exact renews.passes_iff order

private theorem status_pushFlow (flow : DQFlow Uuid) :
    (pushFlow linking rule overrides flow).1.status = flow.status := by
  unfold pushFlow
  dsimp only
  split <;> rfl

end Definitions

section Steps

variable {Uuid : Type} {env : Environment Uuid} {store next : Store Uuid}

/-- Every active flow passes strict validation. -/
def ActivePass (store : Store Uuid) : Prop :=
  ∀ flow ∈ store.flows, flow.status = .active → Executable flow.flowDefinition

theorem createFlow_passes {id workspaceId userId : Uuid} {request : CreateFlowRequest}
    (sound : ActivePass store)
    (success : createFlow env id workspaceId userId request store = .ok next) : ActivePass next := by
  simp only [createFlow] at success
  obtain ⟨⟨⟩, checked, success⟩ := bind_eq_ok success
  cases success
  intro flow member active
  rcases List.mem_append.mp member with older | created
  · exact sound flow older active
  · cases List.mem_singleton.mp created
    have started : request.status = .active := active
    rw [started] at checked
    exact executable_of_checked checked

private theorem importFlow_passes {id workspaceId userId : Uuid} {flowData format : String}
    (sound : ActivePass store)
    (success : importFlow env id workspaceId userId flowData format store = .ok next) :
    ActivePass next := by
  simp only [importFlow] at success
  obtain ⟨data, -, success⟩ := bind_eq_ok success
  exact createFlow_passes sound success

private theorem redefined_passes {request : UpdateFlowRequest} {flow redefined : DQFlow Uuid}
    {definition : StoredDefinition} (given : request.flowDefinition = some definition)
    (made : redefine env request flow = .ok redefined)
    (active : (overwrite request redefined).status = .active) :
    Executable (overwrite request redefined).flowDefinition := by
  unfold redefine at made
  rw [given] at made
  obtain ⟨⟨⟩, checked, made⟩ := bind_eq_ok made
  cases made
  have status : request.status.getD flow.status = .active := active
  rw [status] at checked
  have kept : (overwrite request { flow with
      flowDefinition := if request.status.getD flow.status = .draft then
        cleanupOrphanedConnections definition else definition
      version := flow.version + 1 }).flowDefinition = definition := by
    unfold overwrite
    rw [status]
    rfl
  rw [kept]
  exact executable_of_checked checked

variable [DecidableEq Uuid]

theorem writeFlow_passes {workspaceId flowId : Uuid} {updated : DQFlow Uuid} {rules : List (DQRule Uuid)}
    (sound : ActivePass store)
    (valid : updated.status = .active → Executable updated.flowDefinition) :
    ActivePass ⟨writeFlow workspaceId flowId updated store.flows, rules⟩ := by
  intro flow member active
  obtain ⟨source, listed, rfl⟩ := List.mem_map.mp member
  split at active
  · next chosen =>
    rw [if_pos chosen]
    exact valid active
  · next other =>
    rw [if_neg other]
    exact sound source listed active

theorem deleteFlow_passes {flowId workspaceId : Uuid} {hardDelete : Bool} (sound : ActivePass store) :
    ActivePass (deleteFlow flowId workspaceId hardDelete store).1 := by
  unfold deleteFlow
  split
  · exact sound
  · split
    · exact fun flow member active => sound flow (List.mem_filter.mp member).1 active
    · exact writeFlow_passes sound nofun

private theorem duplicateFlow_passes {id flowId workspaceId userId : Uuid} {newName : Option String}
    (sound : ActivePass store)
    (success : duplicateFlow env id flowId workspaceId userId newName store = .ok next) :
    ActivePass next := by
  unfold duplicateFlow at success
  split at success
  · cases success
  · cases success
    intro flow member active
    rcases List.mem_append.mp member with older | copied
    · exact sound flow older active
    · cases List.mem_singleton.mp copied
      cases active

private theorem propagate_passes {workspaceId : Uuid} {rule : DQRule Uuid} {commits : Bool}
    (sound : ActivePass store) (success : propagate env workspaceId rule commits store = .ok next) :
    ActivePass next := by
  simp only [propagate] at success
  obtain ⟨⟨flows, affected⟩, pushed, success⟩ := bind_eq_ok success
  obtain ⟨overrides, computed, rfl, -⟩ := propagateRuleToFlows_eq_ok_iff.mp pushed
  dsimp only at success
  split at success
  · cases success
    intro flow member active
    obtain ⟨source, listed, rfl⟩ := List.mem_map.mp member
    split at active
    · next chosen =>
      rw [if_pos chosen]
      rw [status_pushFlow] at active
      exact (executable_pushFlow computed source).mpr (sound source listed active)
    · next other =>
      rw [if_neg other]
      exact sound source listed active
  · cases success
    exact sound

theorem updateFlow_flows {flowId workspaceId : Uuid} {commits : Bool} {request : UpdateFlowRequest}
    (success : updateFlow env flowId workspaceId commits request store = .ok next) :
    ∃ flow redefined, store.flows.find? (ofId workspaceId flowId) = some flow ∧
      redefine env request flow = .ok redefined ∧
      next.flows = writeFlow workspaceId flowId (overwrite request redefined) store.flows := by
  unfold updateFlow at success
  split at success
  · cases success
  · next flow found =>
    obtain ⟨redefined, made, success⟩ := bind_eq_ok success
    refine ⟨flow, redefined, found, made, ?_⟩
    dsimp only at success
    split at success
    · cases success
      rfl
    · split at success <;> (cases success; rfl)

private theorem overwritten_mem {flowId workspaceId : Uuid} {updated flow : DQFlow Uuid}
    (found : store.flows.find? (ofId workspaceId flowId) = some flow) :
    updated ∈ writeFlow workspaceId flowId updated store.flows :=
  List.mem_map.mpr ⟨flow, List.mem_of_find?_eq_some found, if_pos (List.find?_some found)⟩

/-- A status that is made active on its own finds an executable definition. -/
def Call.checked (store : Store Uuid) : Call Uuid → Prop
  | .updateFlow flowId workspaceId _ request =>
    request.flowDefinition = none → request.status = some .active →
      ∀ flow, store.flows.find? (ofId workspaceId flowId) = some flow →
        Executable flow.flowDefinition
  | _ => True

theorem updateFlow_passes {flowId workspaceId : Uuid} {commits : Bool} {request : UpdateFlowRequest}
    (sound : ActivePass store)
    (checked : (Call.updateFlow flowId workspaceId commits request).checked store)
    (success : updateFlow env flowId workspaceId commits request store = .ok next) :
    ActivePass next := by
  obtain ⟨flow, redefined, found, made, written⟩ := updateFlow_flows success
  have passes : ActivePass ⟨writeFlow workspaceId flowId (overwrite request redefined) store.flows,
      store.rules⟩ := by
    refine writeFlow_passes sound fun active => ?_
    cases given : request.flowDefinition with
    | some definition => exact redefined_passes given made active
    | none =>
      have same : redefined = flow := by
        unfold redefine at made
        rw [given] at made
        exact (Except.ok.inj made).symm
      subst same
      have status : request.status.getD redefined.status = .active := active
      cases requested : request.status with
      | some status' =>
        rw [requested] at status
        exact checked given (requested.trans (congrArg some status)) redefined found
      | none =>
        rw [requested] at status
        exact sound redefined (List.mem_of_find?_eq_some found) status
  intro flow member active
  exact passes flow (written ▸ member) active

private theorem Call.step_of_ok {call : Call Uuid} (success : call.run env store = .ok next) :
    call.step env store = next := by
  unfold Call.step
  rw [success]

private theorem Call.step_passes_iff (sound : ActivePass store) (call : Call Uuid) :
    ActivePass (call.step env store) ↔ call.checked store := by
  constructor
  · intro passes
    cases call with
    | updateFlow flowId workspaceId commits request =>
      intro absent activated flow found
      have success : FlowService.updateFlow env flowId workspaceId commits request store =
          .ok { store with
            flows := writeFlow workspaceId flowId (overwrite request flow) store.flows } := by
        unfold FlowService.updateFlow redefine
        rw [found]
        simp only [absent]
        rfl
      rw [Call.step_of_ok (show (Call.updateFlow flowId workspaceId commits request).run env store =
        _ from success)] at passes
      refine passes (overwrite request flow) (overwritten_mem found) ?_
      unfold overwrite
      rw [activated]
      rfl
    | _ => trivial
  · intro checked
    unfold Call.step
    split
    · next next success =>
      cases call with
      | createFlow id workspaceId userId request => exact createFlow_passes sound success
      | updateFlow flowId workspaceId commits request =>
        exact updateFlow_passes sound checked success
      | duplicateFlow id flowId workspaceId userId newName =>
        exact duplicateFlow_passes sound success
      | importFlow id workspaceId userId flowData format => exact importFlow_passes sound success
      | deleteFlow flowId workspaceId hardDelete =>
        cases success
        exact deleteFlow_passes sound
      | propagateRuleToFlows workspaceId rule commits => exact propagate_passes sound success
    · exact sound

end Steps

section Runs

variable {Uuid : Type} [DecidableEq Uuid]

/-- Every request of a run is checked in the store it finds. -/
def Checked (store : Store Uuid) : List (Environment Uuid × Call Uuid) → Prop
  | [] => True
  | (env, call) :: rest => call.checked store ∧ Checked (call.step env store) rest

private theorem reached_passes_iff (store : Store Uuid) (sound : ActivePass store)
    (requests : List (Environment Uuid × Call Uuid)) :
    (∀ state ∈ reached store requests, ActivePass state) ↔ Checked store requests := by
  induction requests generalizing store with
  | nil => simpa [reached, Checked] using sound
  | cons request rest ih =>
    obtain ⟨env, call⟩ := request
    have step := @Call.step_passes_iff _ env store _ sound call
    have first : call.step env store ∈ reached (call.step env store) rest := by
      cases rest <;> exact List.mem_cons_self
    unfold reached Checked
    rw [List.forall_mem_cons, and_iff_right sound]
    constructor
    · intro passes
      have next := passes _ first
      exact ⟨step.mp next, (ih _ next).mp passes⟩
    · rintro ⟨checked, later⟩
      exact (ih _ (step.mpr checked)).mpr later

/-- The active flows are executable in every store that requests lead to from no flows, exactly
when every status that is made active on its own finds an executable definition. -/
theorem active_flows_executable_iff (rules : List (DQRule Uuid))
    (requests : List (Environment Uuid × Call Uuid)) :
    (∀ store ∈ reached ⟨[], rules⟩ requests, ∀ flow ∈ store.flows, flow.status = .active →
      ∀ order, passes order flow.flowDefinition.toFlowDefinition) ↔
    Checked ⟨[], rules⟩ requests :=
  reached_passes_iff ⟨[], rules⟩ nofun requests

private def unsourced : StoredDefinition where
  nodes := [{ id := "n1", type := .check, config := [], checkType := none, label := .none }]
  connections := []

private def service : Environment Unit where
  linking := oneRule
  order := .insertion
  describe errors := toString errors.length
  importFromJson _ := .error (.valueError "Invalid JSON")
  importFromYaml _ := .error (.valueError "Invalid YAML")

private def draftThenActive : List (Environment Unit × Call Unit) :=
  [(service, .createFlow () () ()
      { name := "nightly", description := none, flowDefinition := unsourced, status := .draft,
        schedule := none, tags := none }),
    (service, .updateFlow () () true
      { name := none, description := none, flowDefinition := none, status := some .active,
        isActive := none, schedule := none, tags := none })]

/-- A draft is stored without strict validation, and may then be made active. -/
theorem draft_made_active :
    ¬∀ store ∈ reached ⟨[], []⟩ draftThenActive, ∀ flow ∈ store.flows, flow.status = .active →
      ∀ order, passes order flow.flowDefinition.toFlowDefinition := by
  intro executable
  obtain ⟨response, validated, valid⟩ := executable _
    (List.mem_cons_of_mem _ (List.mem_cons_of_mem _ List.mem_cons_self)) _ List.mem_cons_self rfl
    .insertion
  have rejected : ∃ response, validateFlow .insertion unsourced.toFlowDefinition true =
      .ok response ∧ response.isValid = false := ⟨_, rfl, rfl⟩
  obtain ⟨other, same, invalid⟩ := rejected
  cases validated.symm.trans same
  cases valid.symm.trans invalid

end Runs

end CogniDQ.Sync.FlowService
