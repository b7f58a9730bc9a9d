import Mathlib.Data.List.Nodup
import CogniDQ.Triggers.AlertTriggerService

/-!
# The alerts of an execution

The service logs one event for each rule, channel and address that a payload is for. The task never
gets to it: it reads the workspace from the execution, which has none.
-/

set_option autoImplicit false

namespace CogniDQ.Triggers

open CogniDQ.Python

section Alerts

variable {Uuid : Type} [DecidableEq Uuid] {platform : Platform Uuid} {tables : Tables Uuid}
  {database : Database Uuid} {execution : FlowExecution Uuid} {flow : DQFlow Uuid}

/-! ### What is to be sent -/

/-- The trigger types that an execution gives rise to, each with its payload. -/
def occasions (platform : Platform Uuid) (execution : FlowExecution Uuid) (flow : DQFlow Uuid) :
    List (String × Dict) :=
  match execution.status.triggerType with
  | none => []
  | some triggerType =>
    (triggerType, completionPayload platform execution flow) ::
      if 0 < execution.nodesFailed.getD 0 then [("check_failed", checkPayload platform execution flow)]
      else []

/-- An identity that a JSONB column lists, where all that it lists are identities. -/
def Listed (platform : Platform Uuid) (column : Value) (id : Uuid) : Prop :=
  ∃ ids, platform.parseAll (coerceStrList platform.runtime column) = some ids ∧ id ∈ ids

def Addressed (platform : Platform Uuid) (tables : Tables Uuid) (rule : AlertRule Uuid)
    (address : String) : Prop :=
  address ≠ "" ∧ ∃ user ∈ tables.users, Listed platform rule.recipientUserIds user.id ∧
    platform.runtime.stripStr user.email = address

structure Applies (tables : Tables Uuid) (workspaceId : Uuid) (triggerType : String)
    (payload : Dict) (rule : AlertRule Uuid) : Prop where
  stored : rule ∈ tables.rules
  workspace : rule.workspaceId = workspaceId
  enabled : rule.enabled = true
  triggerType : rule.triggerType = triggerType
  conditions : conditionsMatch rule.conditions payload = .ok true

structure Reaches (platform : Platform Uuid) (tables : Tables Uuid) (workspaceId : Uuid)
    (rule : AlertRule Uuid) (channel : AlertChannel Uuid) : Prop where
  stored : channel ∈ tables.channels
  workspace : channel.workspaceId = workspaceId
  enabled : channel.enabled = true
  listed : Listed platform rule.channelIds channel.id

/-- The triples of a rule, a channel and an address that a payload is for. -/
def Wanted (platform : Platform Uuid) (tables : Tables Uuid) (workspaceId : Uuid)
    (occasion : String × Dict) (triple : Uuid × Uuid × String) : Prop :=
  ∃ rule channel, Applies tables workspaceId occasion.1 occasion.2 rule ∧
    Reaches platform tables workspaceId rule channel ∧
    Addressed platform tables rule triple.2.2 ∧
    triple.1 = rule.id ∧ triple.2.1 = channel.id

def NotificationEvent.triple (event : NotificationEvent Uuid) : Uuid × Uuid × String :=
  (event.alertRuleId, event.alertChannelId, event.recipient)

/-- Exactly one event for each triple of the execution, and no other. -/
structure ExactlyWanted (platform : Platform Uuid) (tables : Tables Uuid)
    (execution : FlowExecution Uuid) (flow : DQFlow Uuid)
    (events : List (NotificationEvent Uuid)) : Prop where
  single : (events.map (·.triple)).Nodup
  complete : ∀ triple, triple ∈ events.map (·.triple) ↔
    ∃ occasion ∈ occasions platform execution flow,
      Wanted platform tables flow.workspaceId occasion triple

/-- An execution that a run of the task finds, with its flow, and that has ended. -/
structure Ended (platform : Platform Uuid) (database : Database Uuid) (executionId : String)
    (execution : FlowExecution Uuid) (flow : DQFlow Uuid) : Prop where
  found : findExecution platform database executionId = some (execution, flow)
  status : execution.status = .completed ∨ execution.status = .failed

/-- One run of the task commits them. -/
def AlertsComplete (platform : Platform Uuid) (database : Database Uuid) (executionId : String) :
    Prop :=
  ∀ execution flow, Ended platform database executionId execution flow →
    ∃ events, sendFlowCompletionNotification platform database executionId =
        { database with events := database.events ++ events } ∧
      ExactlyWanted platform database.tables execution flow events

/-! ### The task as it is -/

private theorem queueAlerts_raises (triggerType : String) :
    queueAlerts platform database execution.workspaceId execution flow triggerType =
      .error .attributeError := rfl

theorem sendFlowCompletionNotification_idle (executionId : String) :
    sendFlowCompletionNotification platform database executionId = database := by
  unfold sendFlowCompletionNotification
  split
  · rfl
  · split
    · rfl
    · rw [queueAlerts_raises]

omit [DecidableEq Uuid] in
private theorem exactlyWanted_nil : ExactlyWanted platform tables execution flow [] ↔
    ¬ ∃ occasion ∈ occasions platform execution flow, ∃ triple,
      Wanted platform tables flow.workspaceId occasion triple := by
  constructor
  · intro exactly wanted
    obtain ⟨occasion, member, triple, wanted⟩ := wanted
    exact absurd ((exactly.complete triple).mpr ⟨occasion, member, wanted⟩) List.not_mem_nil
  · intro none
    refine ⟨List.nodup_nil, fun triple => iff_of_false List.not_mem_nil fun wanted => ?_⟩
    obtain ⟨occasion, member, wanted⟩ := wanted
    exact none ⟨occasion, member, triple, wanted⟩

theorem alerts_complete_iff (platform : Platform Uuid) (database : Database Uuid)
    (executionId : String) :
    AlertsComplete platform database executionId ↔
      ¬ ∃ execution flow, Ended platform database executionId execution flow ∧
        ∃ occasion ∈ occasions platform execution flow, ∃ triple,
          Wanted platform database.tables flow.workspaceId occasion triple := by
  unfold AlertsComplete
  constructor
  · intro complete sends
    obtain ⟨execution, flow, ended, wanted⟩ := sends
    obtain ⟨events, committed, exactly⟩ := complete execution flow ended
    rw [sendFlowCompletionNotification_idle] at committed
    have none : events = [] :=
      List.append_right_eq_self.mp (congrArg Database.events committed).symm
    rw [none] at exactly
    exact exactlyWanted_nil.mp exactly wanted
  · intro none execution flow ended
    refine ⟨[], ?_, exactlyWanted_nil.mpr fun wanted => none ⟨execution, flow, ended, wanted⟩⟩
    rw [sendFlowCompletionNotification_idle, List.append_nil]

/-! ### The service behind it -/

/-- The stored tables: identities are unique, a workspace has its tenant, and no address is kept
with blanks around it. -/
structure Tables.Sound (tables : Tables Uuid) (platform : Platform Uuid) (workspaceId : Uuid) :
    Prop where
  tenant : (resolveTenantId tables workspaceId).isSome
  rules : (tables.rules.map (·.id)).Nodup
  channels : (tables.channels.map (·.id)).Nodup
  trimmed : ∀ user ∈ tables.users, platform.runtime.stripStr user.email = user.email

theorem mem_keepNew {seen emails : List String} {email : String} :
    email ∈ keepNew seen emails ↔ email ∈ emails ∧ email ≠ "" ∧ email ∉ seen := by
  induction emails generalizing seen with
  | nil => simp [keepNew]
  | cons first rest ih =>
      unfold keepNew
      by_cases new : (first != "" && !seen.contains first) = true
      · rw [if_pos new, List.mem_cons, ih, List.mem_cons, List.mem_cons]
        simp only [Bool.and_eq_true, bne_iff_ne, Bool.not_eq_true', List.contains_eq_mem,
          decide_eq_false_iff_not] at new
        by_cases same : email = first
        · subst same
          simp [new.1, new.2]
        · simp [same]
      · rw [if_neg new, ih, List.mem_cons]
        by_cases same : email = first
        · subst same
          simp only [Bool.and_eq_true, bne_iff_ne, Bool.not_eq_true', List.contains_eq_mem,
            decide_eq_false_iff_not, not_and] at new
          constructor
          · intro member
            exact absurd member.2.2 (new member.2.1)
          · intro member
            exact absurd member.2.2 (new member.2.1)
        · simp [same]

private theorem nodup_keepNew {seen emails : List String} : (keepNew seen emails).Nodup := by
  induction emails generalizing seen with
  | nil => exact List.nodup_nil
  | cons first rest ih =>
      unfold keepNew
      split
      · refine List.nodup_cons.mpr ⟨fun again => ?_, ih⟩
        exact (mem_keepNew.mp again).2.2 List.mem_cons_self
      · exact ih

theorem mem_resolveRecipients {workspaceId : Uuid} (sound : tables.Sound platform workspaceId)
    {rule : AlertRule Uuid} {address : String} :
    address ∈ resolveRecipients platform tables rule workspaceId ↔
      Addressed platform tables rule address := by
  unfold resolveRecipients resolveRoleEmails
  rw [mem_keepNew, List.append_nil]
  cases parsed : platform.parseAll
      (coerceStrList platform.runtime rule.recipientUserIds) with
  | none =>
    refine iff_of_false (fun member => absurd member.1 List.not_mem_nil) fun addressed => ?_
    obtain ⟨-, user, -, ⟨ids, all, -⟩, -⟩ := addressed
    rw [parsed] at all
    cases all
  | some ids =>
    constructor
    · intro member
      obtain ⟨direct, nonblank, -⟩ := member
      obtain ⟨known, -⟩ := List.mem_filter.mp direct
      obtain ⟨user, found, rfl⟩ := List.mem_map.mp known
      obtain ⟨stored, listed⟩ := List.mem_filter.mp found
      exact ⟨nonblank, user, stored, ⟨ids, parsed, of_decide_eq_true listed⟩,
        sound.trimmed user stored⟩
    · intro addressed
      obtain ⟨nonblank, user, stored, ⟨others, all, listed⟩, rfl⟩ := addressed
      rw [parsed] at all
      obtain rfl := Option.some.inj all
      rw [sound.trimmed user stored] at nonblank ⊢
      refine ⟨List.mem_filter.mpr ⟨List.mem_map_of_mem (List.mem_filter.mpr ⟨stored, ?_⟩), ?_⟩,
        nonblank, List.not_mem_nil⟩
      · exact decide_eq_true listed
      · exact bne_iff_ne.mpr nonblank

private theorem mem_resolveChannelIds {workspaceId : Uuid} {rule : AlertRule Uuid} {id : Uuid} :
    id ∈ resolveChannelIds platform tables rule workspaceId ↔
      ∃ channel, Reaches platform tables workspaceId rule channel ∧ id = channel.id := by
  unfold resolveChannelIds
  cases parsed : platform.parseAll (coerceStrList platform.runtime rule.channelIds) with
  | none =>
    refine iff_of_false List.not_mem_nil fun reached => ?_
    obtain ⟨channel, reaches, -⟩ := reached
    obtain ⟨ids, all, -⟩ := reaches.listed
    rw [parsed] at all
    cases all
  | some ids =>
    constructor
    · intro member
      obtain ⟨channel, found, rfl⟩ := List.mem_map.mp member
      obtain ⟨stored, meets⟩ := List.mem_filter.mp found
      simp only [Bool.and_eq_true, decide_eq_true_eq] at meets
      exact ⟨channel, ⟨stored, meets.1.2, meets.2, ids, parsed, meets.1.1⟩, rfl⟩
    · intro reached
      obtain ⟨channel, reaches, rfl⟩ := reached
      obtain ⟨others, all, listed⟩ := reaches.listed
      rw [parsed] at all
      obtain rfl := Option.some.inj all
      refine List.mem_map_of_mem (List.mem_filter.mpr ⟨reaches.stored, ?_⟩)
      simp [listed, reaches.workspace, reaches.enabled]

theorem nodup_resolveChannelIds {workspaceId : Uuid} (sound : tables.Sound platform workspaceId)
    {rule : AlertRule Uuid} : (resolveChannelIds platform tables rule workspaceId).Nodup := by
  unfold resolveChannelIds
  split
  · exact List.nodup_nil
  · exact sound.channels.sublist (List.filter_sublist.map _)

def ruleTriples (platform : Platform Uuid) (tables : Tables Uuid) (workspaceId : Uuid)
    (payload : Dict) (rule : AlertRule Uuid) : List (Uuid × Uuid × String) :=
  if conditionsMatch rule.conditions payload = .ok true then
    (resolveChannelIds platform tables rule workspaceId).flatMap fun channelId =>
      (resolveRecipients platform tables rule workspaceId).map fun address =>
        (rule.id, channelId, address)
  else []

omit [DecidableEq Uuid] in
private theorem logged_addresses {workspaceId tenantId ruleId channelId : Uuid} {payload : Dict}
    {addresses : List String} (trimmed : ∀ address ∈ addresses,
      address ≠ "" ∧ platform.runtime.stripStr address = address) :
    (addresses.filterMap fun address => (logEvent platform workspaceId tenantId ruleId channelId
      address payload).toOption).map (·.triple) =
      addresses.map fun address => (ruleId, channelId, address) := by
  induction addresses with
  | nil => rfl
  | cons address rest ih =>
      obtain ⟨nonblank, same⟩ := trimmed address List.mem_cons_self
      have logged : (logEvent platform workspaceId tenantId ruleId channelId address
          payload).toOption = some ⟨tenantId, workspaceId, ruleId, channelId, address, "pending",
            payload, 0, 3⟩ := by
        unfold logEvent
        rw [same, if_neg nonblank]
        rfl
      simp only [List.filterMap_cons, logged, List.map_cons]
      rw [ih fun other member => trimmed other (.tail _ member)]
      rfl

private theorem triples_of_ruleEvents {workspaceId tenantId : Uuid}
    (sound : tables.Sound platform workspaceId) {triggerType : String} {payload : Dict}
    {rule : AlertRule Uuid} :
    ((ruleEvents platform tables workspaceId tenantId triggerType payload rule).toOption.getD
      []).map (·.triple) = ruleTriples platform tables workspaceId payload rule := by
  unfold ruleEvents ruleTriples
  cases conditionsMatch rule.conditions payload with
  | error raised => rfl
  | ok isMatch =>
    cases isMatch with
    | false => rfl
    | true =>
      rw [if_pos rfl]
      simp only [bind, Except.bind, pure, Except.pure, if_true, Except.toOption, Option.getD_some,
        List.map_flatMap]
      congr 1
      funext channelId
      refine logged_addresses fun address member => ?_
      obtain ⟨nonblank, user, stored, -, same⟩ := (mem_resolveRecipients sound).mp member
      rw [sound.trimmed user stored] at same
      exact ⟨nonblank, same ▸ sound.trimmed user stored⟩

private theorem nodup_ruleTriples {workspaceId : Uuid} (sound : tables.Sound platform workspaceId)
    {payload : Dict} {rule : AlertRule Uuid} :
    (ruleTriples platform tables workspaceId payload rule).Nodup := by
  unfold ruleTriples
  split
  · refine List.nodup_flatMap.mpr ⟨fun channelId _ => ?_, ?_⟩
    · refine nodup_keepNew.map fun first second same => ?_
      cases same
      rfl
    · refine (nodup_resolveChannelIds sound).imp fun {first second} different => ?_
      intro triple inFirst inSecond
      obtain ⟨_, -, rfl⟩ := List.mem_map.mp inFirst
      obtain ⟨_, -, same⟩ := List.mem_map.mp inSecond
      cases same
      exact different rfl
  · exact List.nodup_nil

private theorem fst_of_mem_ruleTriples {workspaceId : Uuid} {payload : Dict} {rule : AlertRule Uuid}
    {triple : Uuid × Uuid × String}
    (member : triple ∈ ruleTriples platform tables workspaceId payload rule) :
    triple.1 = rule.id := by
  unfold ruleTriples at member
  split at member
  · obtain ⟨channelId, -, inside⟩ := List.mem_flatMap.mp member
    obtain ⟨address, -, rfl⟩ := List.mem_map.mp inside
    rfl
  · cases member

theorem Tables.Sound.rule_unique {workspaceId : Uuid} (sound : tables.Sound platform workspaceId)
    {rule other : AlertRule Uuid} (stored : rule ∈ tables.rules) (also : other ∈ tables.rules)
    (same : rule.id = other.id) : rule = other :=
  List.inj_on_of_nodup_map sound.rules stored also same

private theorem triples_of_triggerForWorkspace {workspaceId : Uuid}
    (sound : tables.Sound platform workspaceId) (triggerType : String) (payload : Dict) :
    ((triggerForWorkspace platform tables workspaceId triggerType payload).map (·.triple)).Nodup ∧
      ∀ triple, triple ∈ (triggerForWorkspace platform tables workspaceId triggerType
        payload).map (·.triple) ↔
          Wanted platform tables workspaceId (triggerType, payload) triple := by
  obtain ⟨tenantId, tenant⟩ := Option.isSome_iff_exists.mp sound.tenant
  have triples : (triggerForWorkspace platform tables workspaceId triggerType payload).map
      (·.triple) = (triggeredRules tables workspaceId triggerType).flatMap
        (ruleTriples platform tables workspaceId payload) := by
    unfold triggerForWorkspace trigger
    rw [tenant]
    dsimp only
    rw [List.map_flatMap]
    congr 1
    funext rule
    exact triples_of_ruleEvents sound
  rw [triples]
  constructor
  · refine List.nodup_flatMap.mpr ⟨fun rule _ => nodup_ruleTriples sound, ?_⟩
    have distinct : (triggeredRules tables workspaceId triggerType).Pairwise
        fun first second => first.id ≠ second.id :=
      List.pairwise_map.mp (sound.rules.sublist (List.filter_sublist.map _))
    refine distinct.imp fun different triple inFirst inSecond => ?_
    exact different ((fst_of_mem_ruleTriples inFirst).symm.trans (fst_of_mem_ruleTriples inSecond))
  · intro triple
    constructor
    · intro member
      obtain ⟨rule, loaded, inside⟩ := List.mem_flatMap.mp member
      obtain ⟨stored, meets⟩ := List.mem_filter.mp loaded
      simp only [Bool.and_eq_true, decide_eq_true_eq] at meets
      unfold ruleTriples at inside
      split_ifs at inside with conditions
      · obtain ⟨channelId, channels, addresses⟩ := List.mem_flatMap.mp inside
        obtain ⟨address, recipients, rfl⟩ := List.mem_map.mp addresses
        obtain ⟨channel, reaches, rfl⟩ := mem_resolveChannelIds.mp channels
        exact ⟨rule, channel, ⟨stored, meets.1.1, meets.2, meets.1.2, conditions⟩, reaches,
          (mem_resolveRecipients sound).mp recipients, rfl, rfl⟩
      · cases inside
    · intro wanted
      obtain ⟨ruleId, channelId, address⟩ := triple
      obtain ⟨rule, channel, applies, reaches, addressed, rfl, rfl⟩ := wanted
      refine List.mem_flatMap.mpr ⟨rule, List.mem_filter.mpr ⟨applies.stored, ?_⟩, ?_⟩
      · simp [applies.workspace, applies.triggerType, applies.enabled]
      · unfold ruleTriples
        rw [if_pos applies.conditions]
        exact List.mem_flatMap.mpr ⟨channel.id, mem_resolveChannelIds.mpr ⟨channel, reaches, rfl⟩,
          List.mem_map_of_mem ((mem_resolveRecipients sound).mpr addressed)⟩

/-- With the workspace of the flow the task would queue what is wanted. -/
theorem queueAlerts_exactly (sound : database.tables.Sound platform flow.workspaceId)
    {triggerType : String} (ended : execution.status.triggerType = some triggerType) :
    ∃ events, queueAlerts platform database (.ok flow.workspaceId) execution flow triggerType =
        .ok events ∧
      ExactlyWanted platform database.tables execution flow events := by
  have completion := triples_of_triggerForWorkspace sound triggerType
    (completionPayload platform execution flow)
  have check := triples_of_triggerForWorkspace sound "check_failed"
    (checkPayload platform execution flow)
  have arises : occasions platform execution flow =
      (triggerType, completionPayload platform execution flow) ::
        if 0 < execution.nodesFailed.getD 0 then
          [("check_failed", checkPayload platform execution flow)]
        else [] := by
    unfold occasions
    rw [ended]
  by_cases failed : 0 < execution.nodesFailed.getD 0
  · refine ⟨triggerForWorkspace platform database.tables flow.workspaceId triggerType
      (completionPayload platform execution flow) ++ triggerForWorkspace platform database.tables
        flow.workspaceId "check_failed" (checkPayload platform execution flow), ?_, ?_, ?_⟩
    · unfold queueAlerts
      simp only [bind, Except.bind, if_pos failed]
      rfl
    · rw [List.map_append]
      refine List.nodup_append'.mpr ⟨completion.1, check.1, fun triple first second => ?_⟩
      obtain ⟨rule, -, applies, -, -, sameRule, -⟩ := (completion.2 triple).mp first
      obtain ⟨other, -, alsoApplies, -, -, alsoRule, -⟩ := (check.2 triple).mp second
      have same := sound.rule_unique applies.stored alsoApplies.stored
        (sameRule.symm.trans alsoRule)
      have types : triggerType = "check_failed" :=
        applies.triggerType.symm.trans (same ▸ alsoApplies.triggerType)
      rw [types] at ended
      cases status : execution.status <;> rw [status] at ended <;>
        exact absurd ended (by decide)
    · intro triple
      rw [List.map_append, List.mem_append, completion.2, check.2, arises, if_pos failed]
      simp
  · refine ⟨triggerForWorkspace platform database.tables flow.workspaceId triggerType
      (completionPayload platform execution flow), ?_, completion.1, ?_⟩
    · unfold queueAlerts
      simp only [bind, Except.bind, if_neg failed]
      rfl
    · intro triple
      rw [completion.2, arises, if_neg failed]
      simp

end Alerts

/-! One failed execution, with a rule that asks for nothing but a failure. -/

private def demoPlatform : Platform Nat where
  runtime := .ascii
  uuidText id := toString id
  parseUuid text := if text = "7d444840-9dc0-11d1-b245-5ffdce74fad2" then some 7 else none

private def demoIdentity : Value := .list [.str "7d444840-9dc0-11d1-b245-5ffdce74fad2"]

private def demoRule : AlertRule Nat where
  id := 1
  workspaceId := 2
  triggerType := "execution_failed"
  conditions := .none
  enabled := true
  channelIds := demoIdentity
  recipientUserIds := demoIdentity
  recipientRoles := .none

private def demoExecution : FlowExecution Nat where
  id := 7
  flowId := 3
  status := .failed
  durationSeconds := some 12
  nodesExecuted := some 1
  nodesPassed := some 0
  nodesFailed := some 0
  errorMessage := some "connection refused"

private def demoDatabase : Database Nat where
  tables := {
    workspaces := [(2, 9)]
    rules := [demoRule]
    channels := [⟨7, 2, true⟩]
    users := [⟨7, "owner@example.org"⟩] }
  executions := [demoExecution]
  flows := [⟨3, 2, "Orders"⟩]
  events := []

private def demoFlow : DQFlow Nat := ⟨3, 2, "Orders"⟩

/-- With the workspace of its flow the failed execution would bring one alert. -/
theorem failure_alert_queued :
    ∃ events, queueAlerts demoPlatform demoDatabase (.ok demoFlow.workspaceId) demoExecution demoFlow
        "execution_failed" = .ok events ∧
      ExactlyWanted demoPlatform demoDatabase.tables demoExecution demoFlow events := by
  have sound : demoDatabase.tables.Sound demoPlatform demoFlow.workspaceId := by
    refine ⟨by decide, by decide, by decide, fun user listed => ?_⟩
    cases List.mem_singleton.mp listed
    decide
  have ended : demoExecution.status.triggerType = some "execution_failed" := rfl
  exact queueAlerts_exactly sound ended

theorem failure_alert_not_sent :
    ¬ AlertsComplete demoPlatform demoDatabase "7d444840-9dc0-11d1-b245-5ffdce74fad2" := by
  intro complete
  obtain ⟨events, committed, exactly⟩ := complete demoExecution ⟨3, 2, "Orders"⟩
    ⟨rfl, .inr rfl⟩
  have none : events = [] := by
    rw [sendFlowCompletionNotification_idle] at committed
    exact (congrArg Database.events committed).symm
  have listed : Listed demoPlatform demoIdentity 7 := ⟨[7], by decide, List.mem_singleton_self _⟩
  have wanted : (1, 7, "owner@example.org") ∈ events.map (·.triple) := by
    refine (exactly.complete _).mpr ⟨_, List.mem_singleton_self _, demoRule, ⟨7, 2, true⟩,
      ⟨List.mem_singleton_self _, rfl, rfl, rfl, rfl⟩,
      ⟨List.mem_singleton_self _, rfl, rfl, listed⟩, ⟨by decide, ⟨7, "owner@example.org"⟩,
        List.mem_singleton_self _, listed, ?_⟩, rfl, rfl⟩
    decide
  rw [none] at wanted
  exact absurd wanted List.not_mem_nil

end CogniDQ.Triggers
