import CogniDQ.Incidents.IncidentLifecycle
import CogniDQ.Issues.IssueGrouping

/-!
# Incidents of the workspace policy

`create_from_node_result` with the incident policy of the workspace. Only the exit of the function
that creates an issue evaluates the policy, and the exit that folds a failure into one does not: what
the policy asks of an issue holds as long as an issue that meets it has its incident already.
-/

set_option autoImplicit false

namespace CogniDQ.Incidents

open CogniDQ.Database CogniDQ.Issues CogniDQ.Protocol

def severityRank : List (String × Nat) :=
  [("critical", 0), ("major", 1), ("minor", 2), ("informational", 3)]

def severityPriority : List (String × String) :=
  [("critical", "P1"), ("major", "P2"), ("minor", "P3"), ("informational", "P4")]

structure IncidentPolicy (Uuid : Type) where
  enabled : Bool
  minSeverity : String
  recurrenceThreshold : Int
  autoPriority : Option String
  autoOwnerUserId : Option Uuid

namespace IncidentPolicy

variable {Uuid : Type} (policy : IncidentPolicy Uuid)

def disabled : IncidentPolicy Uuid where
  enabled := false
  minSeverity := "critical"
  recurrenceThreshold := 1
  autoPriority := none
  autoOwnerUserId := none

def severityMet (issueSeverity : String) : Bool :=
  decide ((severityRank.lookup issueSeverity).getD 99 ≤
    (severityRank.lookup policy.minSeverity).getD 0)

def recurrenceMet (failureCount : Int) : Bool := decide (policy.recurrenceThreshold ≤ failureCount)

def derivePriority (issueSeverity : String) : String :=
  (policy.autoPriority.filter (· != "")).getD ((severityPriority.lookup issueSeverity).getD "P3")

/-- An issue of this severity with this many failures meets the policy. -/
def met (severity : String) (failureCount : Option Int) : Bool :=
  policy.severityMet severity && failureCount.any policy.recurrenceMet

end IncidentPolicy

structure IncidentRow (Uuid : Type) extends Incident Uuid Int where
  title : String
  severity : String
  priority : String
  /-- None for the incidents of the policy. -/
  createdByUserId : Option Uuid

structure IncidentIssue (Uuid : Type) where
  incidentId : Uuid
  issueId : Uuid
  linkedByUserId : Option Uuid

def IncidentRow.live {Uuid : Type} (row : IncidentRow Uuid) : Bool :=
  !(["resolved", "closed"].contains row.status)

/-- `title`, of at most 500 characters. -/
def autoTitle (issueTitle : String) : String :=
  let title := "[Auto] " ++ issueTitle
  if title.length > 500 then String.ofList (title.toList.take 497) ++ "..." else title

def IncidentPolicy.incidentFor {Uuid : Type} (policy : IncidentPolicy Uuid)
    (issue : IssueRow Uuid) : IncidentRow Uuid where
  workspaceId := issue.workspaceId
  status := "open"
  ownerId := policy.autoOwnerUserId
  impactSummary := some ("Auto-created by incident policy for issue severity=" ++ issue.severity)
  resolutionSummary := none
  acknowledgedAt := none
  resolvedAt := none
  closedAt := none
  title := autoTitle issue.title
  severity := issue.severity
  priority := policy.derivePriority issue.severity
  createdByUserId := none

structure PolicyWorld (Uuid : Type) where
  issues : Rows Uuid (IssueRow Uuid)
  incidents : Rows Uuid (IncidentRow Uuid)
  links : List (IncidentIssue Uuid)
  /-- The issue that the last call created or folded its failure into. -/
  handled : Option Uuid

inductive PolicyAction (Uuid : Type) where
  /-- A failure, with the issue that the search finds for it, the identifiers that the database
  generates for an issue and for an incident, and its time. -/
  | fail (failure : Issues.Failure Uuid) (found : Option Uuid) (issueId incidentId : Uuid) (now : Int)
  | update (call : IncidentUpdate Uuid Int)
  /-- A change of the status of an issue by a user. -/
  | move (issueId : Uuid) (status : IssueStatus)

section Steps

variable {Uuid : Type} [DecidableEq Uuid]

/-- `find_and_update_candidate`: the issue that a failure is folded into, with its new row; no issue
also when something raises in Python. None at the outside when the search does not find that issue,
or the `UPDATE` raises. -/
def findAndUpdateCandidate (settings : GroupingSettings) (issues : Rows Uuid (IssueRow Uuid))
    (failure : Issues.Failure Uuid) (found : Option Uuid) : Option (Option (Uuid × IssueRow Uuid)) :=
  if failure.groups settings.policy then
    match failure.window settings with
    | none => some none
    | some window =>
      if findsOpen issues failure window found then
        match found.bind fun issueId => (issues.lookup issueId).map fun row => (issueId, row),
            failure.completedAt with
        | some (issueId, row), some completedAt =>
          (row.foldIn settings failure completedAt).map fun updated => some (issueId, updated)
        | _, _ => some none
      else none
  else some none

namespace PolicyWorld

variable (settings : GroupingSettings) (policy : Option (IncidentPolicy Uuid))
  (world : PolicyWorld Uuid)

def linkedTo (issueId : Uuid) (kind : IncidentRow Uuid → Bool) : Bool :=
  world.links.any fun link => decide (link.issueId = issueId) &&
    (world.incidents.lookup link.incidentId).any kind

def issueHasOpenIncident (issueId workspaceId : Uuid) : Bool :=
  world.linkedTo issueId fun incident =>
    decide (incident.workspaceId = workspaceId) && incident.status == "open"

def link (issueId incidentId : Uuid) (incident : IncidentRow Uuid) : PolicyWorld Uuid :=
  { world with
    incidents := AList.insert incidentId incident world.incidents
    links := world.links ++ [⟨incidentId, issueId, none⟩] }

/-- `evaluate_and_create`; none when the identifier of the incident is taken. -/
def evaluateAndCreate (issueId : Uuid) (issue : IssueRow Uuid) (incidentId : Uuid) :
    Option (PolicyWorld Uuid) :=
  let pol := policy.getD .disabled
  if !pol.enabled then some world
  else if !pol.severityMet issue.severity then some world
  -- A count of null would raise here, and the caller goes on without an incident.
  else if !issue.failureCount.any pol.recurrenceMet then some world
  else if world.issueHasOpenIncident issueId issue.workspaceId then some world
  else if (world.incidents.lookup incidentId).isSome then none
  else some (world.link issueId incidentId (pol.incidentFor issue))

def handle (issueId : Uuid) (issue : IssueRow Uuid) : PolicyWorld Uuid :=
  { world with issues := AList.insert issueId issue world.issues, handled := some issueId }

def createFromNodeResult (failure : Issues.Failure Uuid) (found : Option Uuid)
    (issueId incidentId : Uuid) (now : Int) : Option (PolicyWorld Uuid) :=
  match findAndUpdateCandidate settings world.issues failure found with
  | none => none
  -- This exit stands before the evaluation of the policy.
  | some (some (candidate, updated)) => some (world.handle candidate updated)
  | some none =>
    match world.issues.lookup issueId, failure.newIssue now with
    | none, some issue =>
      (world.handle issueId issue).evaluateAndCreate policy issueId issue incidentId
    | _, _ => none

/-- `update_incident`. A call that raises is not a step. -/
def update (call : IncidentUpdate Uuid Int) : Option (PolicyWorld Uuid) :=
  match world.incidents.lookup call.incidentId,
      (updateIncident call fun incidentId =>
        (world.incidents.lookup incidentId).map (·.toIncident)).1 with
  | some row, .ok updated => some { world with
      incidents := AList.insert call.incidentId { row with toIncident := updated } world.incidents
      handled := none }
  | _, _ => none

def step : PolicyAction Uuid → Option (PolicyWorld Uuid)
  | .fail failure found issueId incidentId now =>
    world.createFromNodeResult settings policy failure found issueId incidentId now
  | .update call => world.update call
  | .move issueId status =>
    (world.issues.lookup issueId).map fun row =>
      { world with issues := AList.insert issueId { row with status } world.issues, handled := none }

end PolicyWorld

end Steps

section Law

variable {Uuid : Type} [DecidableEq Uuid]

namespace PolicyWorld

variable (settings : GroupingSettings) (policy : IncidentPolicy Uuid) (world : PolicyWorld Uuid)

/-- When the issue of the last call meets the policy, it has an incident that is not resolved or
closed. -/
def Fires : Prop :=
  ∀ issueId ∈ world.handled, ∀ issue, world.issues.lookup issueId = some issue →
    policy.met issue.severity issue.failureCount = true →
      world.linkedTo issueId IncidentRow.live = true

/-- Two live incidents of the policy that an issue is linked to are one. -/
def Single : Prop :=
  ∀ first ∈ world.links, ∀ second ∈ world.links, first.issueId = second.issueId →
    ∀ left right, world.incidents.lookup first.incidentId = some left →
      world.incidents.lookup second.incidentId = some right →
      left.createdByUserId = none → right.createdByUserId = none →
      left.live = true → right.live = true → first.incidentId = second.incidentId

def Auto (incidentId : Uuid) : Prop :=
  ∃ incident, world.incidents.lookup incidentId = some incident ∧ incident.createdByUserId = none

/-- The links are between issues and incidents that there are, and an issue is linked to one incident
of the policy at most, whatever has become of it. -/
structure Sound : Prop where
  issues : ∀ link ∈ world.links, (world.issues.lookup link.issueId).isSome = true
  incidents : ∀ link ∈ world.links, (world.incidents.lookup link.incidentId).isSome = true
  single : ∀ first ∈ world.links, ∀ second ∈ world.links, first.issueId = second.issueId →
    world.Auto first.incidentId → world.Auto second.incidentId →
      first.incidentId = second.incidentId

def Kept : Prop := world.Sound ∧ world.Fires policy

/-- A failure that is folded into an issue, and makes it meet the policy or finds that it does, finds
a live incident of that issue. -/
def careful : PolicyAction Uuid → Bool
  | .fail failure found _ _ _ =>
    !(failure.groups settings.policy && (failure.window settings).isSome &&
        failure.completedAt.isSome) ||
      found.all fun issueId => (world.issues.lookup issueId).all fun row =>
        !policy.met row.severity (row.failureCount.map (· + failure.rowsFailed)) ||
          world.linkedTo issueId IncidentRow.live
  | .update _ => true
  | .move _ _ => true

variable {settings} {policy} {world} {next : PolicyWorld Uuid} {issueId incidentId : Uuid}
  {issue row updated : IssueRow Uuid} {incident : IncidentRow Uuid} {failure : Issues.Failure Uuid}
  {found : Option Uuid}

private theorem Sound.one (sound : world.Sound) : world.Single :=
  fun first here second there same left right leftFound rightFound leftAuto rightAuto _ _ =>
    sound.single first here second there same ⟨left, leftFound, leftAuto⟩
      ⟨right, rightFound, rightAuto⟩

private theorem isSome_lookup_insert {Key Row : Type} [DecidableEq Key] {rows : Rows Key Row}
    {key written : Key} {value : Row} (present : (rows.lookup key).isSome = true) :
    (AList.lookup key (AList.insert written value rows)).isSome = true := by
  by_cases same : key = written
  · subst same
    rw [AList.lookup_insert]
    rfl
  · rw [AList.lookup_insert_ne same]
    exact present

theorem Sound.handle (sound : world.Sound) (issueId : Uuid) (issue : IssueRow Uuid) :
    (world.handle issueId issue).Sound where
  issues link listed := isSome_lookup_insert (sound.issues link listed)
  incidents := sound.incidents
  single := sound.single

theorem Sound.link (sound : world.Sound) (present : (world.issues.lookup issueId).isSome = true)
    (absent : world.incidents.lookup incidentId = none)
    (unlinked : ∀ link ∈ world.links, link.issueId ≠ issueId) (incident : IncidentRow Uuid) :
    (world.link issueId incidentId incident).Sound := by
  have earlier : ∀ link ∈ world.links, (world.link issueId incidentId incident).Auto
      link.incidentId → world.Auto link.incidentId := by
    intro link listed auto
    obtain ⟨other, stored, byPolicy⟩ := auto
    obtain ⟨taken, _⟩ | ⟨_, before⟩ := Rows.lookup_insert_cases stored
    · have there := sound.incidents link listed
      rw [taken, absent] at there
      cases there
    · exact ⟨other, before, byPolicy⟩
  constructor
  · intro link listed
    obtain before | rfl := List.mem_append.mp listed |>.imp_right List.mem_singleton.mp
    · exact sound.issues link before
    · exact present
  · intro link listed
    obtain before | rfl := List.mem_append.mp listed |>.imp_right List.mem_singleton.mp
    · exact isSome_lookup_insert (sound.incidents link before)
    · change (AList.lookup incidentId (AList.insert incidentId incident world.incidents)).isSome = _
      rw [AList.lookup_insert]
      rfl
  · intro first here second there same firstAuto secondAuto
    obtain before | rfl := List.mem_append.mp here |>.imp_right List.mem_singleton.mp
    · obtain after | rfl := List.mem_append.mp there |>.imp_right List.mem_singleton.mp
      · exact sound.single first before second after same (earlier first before firstAuto)
          (earlier second after secondAuto)
      · exact absurd same (unlinked first before)
    · obtain after | rfl := List.mem_append.mp there |>.imp_right List.mem_singleton.mp
      · exact absurd same.symm (unlinked second after)
      · rfl

theorem evaluateAndCreate_cases
    (evaluated : world.evaluateAndCreate (some policy) issueId issue incidentId = some next) :
    (next = world ∧ (policy.enabled = true → policy.met issue.severity issue.failureCount = true →
        world.issueHasOpenIncident issueId issue.workspaceId = true)) ∨
      (world.incidents.lookup incidentId = none ∧
        next = world.link issueId incidentId (policy.incidentFor issue)) := by
  unfold evaluateAndCreate IncidentPolicy.met at *
  dsimp only [Option.getD_some] at evaluated
  split_ifs at evaluated with disabled milder fewer linked taken
  · obtain rfl := Option.some.inj evaluated
    refine .inl ⟨rfl, fun enabled => ?_⟩
    rw [enabled] at disabled
    cases disabled
  · obtain rfl := Option.some.inj evaluated
    refine .inl ⟨rfl, fun _ met => ?_⟩
    rw [(Bool.and_eq_true_iff.mp met).1] at milder
    cases milder
  · obtain rfl := Option.some.inj evaluated
    refine .inl ⟨rfl, fun _ met => ?_⟩
    rw [(Bool.and_eq_true_iff.mp met).2] at fewer
    cases fewer
  · obtain rfl := Option.some.inj evaluated
    exact .inl ⟨rfl, fun _ _ => linked⟩
  · obtain rfl := Option.some.inj evaluated
    exact .inr ⟨Option.not_isSome_iff_eq_none.mp taken, rfl⟩

theorem linkedTo_iff {kind : IncidentRow Uuid → Bool} :
    world.linkedTo issueId kind = true ↔ ∃ link ∈ world.links, link.issueId = issueId ∧
      ∃ incident, world.incidents.lookup link.incidentId = some incident ∧
        kind incident = true := by
  unfold linkedTo
  rw [List.any_eq_true]
  simp only [Bool.and_eq_true, decide_eq_true_eq, Option.any_eq_true]

private theorem linkedTo_mono {kind other : IncidentRow Uuid → Bool}
    (implies : ∀ incident, kind incident = true → other incident = true)
    (linked : world.linkedTo issueId kind = true) : world.linkedTo issueId other = true := by
  obtain ⟨link, listed, same, incident, stored, here⟩ := linkedTo_iff.mp linked
  exact linkedTo_iff.mpr ⟨link, listed, same, incident, stored, implies incident here⟩

private theorem linkedTo_live_of_open {workspaceId : Uuid}
    (linked : world.issueHasOpenIncident issueId workspaceId = true) :
    world.linkedTo issueId IncidentRow.live = true := by
  refine linkedTo_mono (fun incident isOpen => ?_) linked
  have status := eq_of_beq (Bool.and_eq_true_iff.mp isOpen).2
  unfold IncidentRow.live
  rw [status]
  decide

theorem linkedTo_link : (world.link issueId incidentId (policy.incidentFor issue)).linkedTo issueId
    IncidentRow.live = true := by
  refine linkedTo_iff.mpr ⟨⟨incidentId, issueId, none⟩, ?_, rfl, policy.incidentFor issue, ?_,
    ?_⟩
  · exact List.mem_append_right _ (List.mem_singleton.mpr rfl)
  · exact AList.lookup_insert world.incidents
  · change (!(["resolved", "closed"].contains "open")) = true
    decide

private theorem findAndUpdateCandidate_some
    (grouped : findAndUpdateCandidate settings world.issues failure found =
      some (some (issueId, updated))) :
    found = some issueId ∧ failure.groups settings.policy = true ∧
      (failure.window settings).isSome = true ∧ failure.completedAt.isSome = true ∧
      ∃ row, world.issues.lookup issueId = some row ∧ updated.severity = row.severity ∧
        updated.failureCount = row.failureCount.map (· + failure.rowsFailed) := by
  unfold findAndUpdateCandidate at grouped
  split_ifs at grouped with groups
  · split at grouped
    · cases grouped
    · rename_i window searched
      split_ifs at grouped
      split at grouped
      · rename_i candidate row completedAt chosen completed
        obtain ⟨folded, written, pair⟩ := Option.map_eq_some_iff.mp grouped
        obtain ⟨rfl, rfl⟩ := Prod.mk.inj (Option.some.inj pair)
        obtain ⟨identifier, rfl, chosen⟩ := Option.bind_eq_some_iff.mp chosen
        obtain ⟨before, stored, same⟩ := Option.map_eq_some_iff.mp chosen
        obtain ⟨rfl, rfl⟩ := Prod.mk.inj same
        dsimp only [IssueRow.foldIn] at written
        split_ifs at written
        obtain rfl := Option.some.inj written
        rw [searched, completed]
        exact ⟨rfl, groups, rfl, rfl, before, stored, rfl, rfl⟩
      · cases grouped
  · cases grouped

/-- A failure that is folded into an issue leaves what the policy asks of it to the incident that is
there. -/
theorem handle_fires_iff : (world.handle issueId issue).Fires policy ↔
    (policy.met issue.severity issue.failureCount = true →
      world.linkedTo issueId IncidentRow.live = true) := by
  constructor
  · intro fires met
    exact fires issueId rfl issue (AList.lookup_insert world.issues) met
  · intro linked other handled stored found met
    obtain rfl := Option.some.inj handled
    obtain rfl := Option.some.inj ((AList.lookup_insert world.issues).symm.trans found)
    exact linked met

private theorem fires_evaluated (enabled : policy.enabled = true)
    (evaluated : (world.handle issueId issue).evaluateAndCreate (some policy) issueId issue
      incidentId = some next) : next.Fires policy := by
  obtain ⟨rfl, linked⟩ | ⟨_, rfl⟩ := evaluateAndCreate_cases evaluated
  · exact handle_fires_iff.mpr fun met => linkedTo_live_of_open (linked enabled met)
  · intro other handled _ _ _
    obtain rfl := Option.some.inj handled
    exact linkedTo_link

private theorem Sound.create (sound : world.Sound) (absent : world.issues.lookup issueId = none)
    (evaluated : (world.handle issueId issue).evaluateAndCreate (some policy) issueId issue
      incidentId = some next) : next.Sound := by
  obtain ⟨rfl, _⟩ | ⟨fresh, rfl⟩ := evaluateAndCreate_cases evaluated
  · exact sound.handle issueId issue
  · refine (sound.handle issueId issue).link ?_ fresh (fun link listed same => ?_) _
    · change (AList.lookup issueId (AList.insert issueId issue world.issues)).isSome = true
      rw [AList.lookup_insert]
      rfl
    · have there := sound.issues link listed
      rw [same, absent] at there
      cases there

private theorem Sound.update (sound : world.Sound) {call : IncidentUpdate Uuid Int}
    (updated : world.update call = some next) : next.Sound ∧ next.handled = none := by
  unfold PolicyWorld.update at updated
  split at updated
  · rename_i row written stored accepted
    obtain rfl := Option.some.inj updated
    refine ⟨⟨sound.issues, fun link listed => isSome_lookup_insert (sound.incidents link listed),
      fun first here second there same firstAuto secondAuto => ?_⟩, rfl⟩
    -- Who has created an incident is not among the columns of the update.
    have earlier : ∀ incidentId, (∃ incident, AList.lookup incidentId
        (AList.insert call.incidentId { row with toIncident := written } world.incidents) =
          some incident ∧ incident.createdByUserId = none) → world.Auto incidentId := by
      intro incidentId auto
      obtain ⟨incident, there, byPolicy⟩ := auto
      obtain ⟨rfl, rfl⟩ | ⟨_, before⟩ := Rows.lookup_insert_cases there
      · exact ⟨row, stored, byPolicy⟩
      · exact ⟨incident, before, byPolicy⟩
    exact sound.single first here second there same (earlier _ firstAuto) (earlier _ secondAuto)
  · cases updated

theorem fires_of_unhandled (unhandled : world.handled = none) : world.Fires policy := by
  intro issueId handled
  rw [unhandled] at handled
  cases handled

/-- A call keeps the law when it folds no failure into an issue that would meet the policy without an
incident. -/
theorem step_keeps (enabled : policy.enabled = true) (sound : world.Sound)
    {action : PolicyAction Uuid} (careful : world.careful settings policy action = true)
    (stepped : world.step settings (some policy) action = some next) : next.Kept policy := by
  cases action with
  | fail failure found issueId incidentId now =>
    dsimp only [PolicyWorld.step] at stepped
    unfold createFromNodeResult at stepped
    split at stepped
    · cases stepped
    · rename_i candidate updated grouped
      obtain rfl := Option.some.inj stepped
      obtain ⟨rfl, groups, window, completed, row, stored, severity, count⟩ :=
        findAndUpdateCandidate_some grouped
      refine ⟨sound.handle candidate updated, handle_fires_iff.mpr fun met => ?_⟩
      dsimp only [PolicyWorld.careful] at careful
      rw [severity, count] at met
      rw [groups, window, completed, Option.all_some, stored, Option.all_some, met] at careful
      exact careful
    · split at stepped
      · rename_i absent _
        exact ⟨sound.create absent stepped, fires_evaluated enabled stepped⟩
      · cases stepped
  | update call =>
    obtain ⟨kept, unhandled⟩ := sound.update stepped
    exact ⟨kept, fires_of_unhandled unhandled⟩
  | move issueId status =>
    obtain ⟨row, _, rfl⟩ := Option.map_eq_some_iff.mp stepped
    exact ⟨⟨fun link listed => isSome_lookup_insert (sound.issues link listed), sound.incidents,
      sound.single⟩, fires_of_unhandled rfl⟩

/-- Under a policy that is enabled, and as long as no failure is folded into an issue that meets it
without an incident, every failure leaves an issue that meets the policy with one, and no issue
has two. -/
theorem recurrence_fires_once (enabled : policy.enabled = true) {reached : PolicyWorld Uuid}
    {schedule : List (PolicyAction Uuid)} (begun : world.Sound) (idle : world.handled = none)
    (careful : RunMeets (step settings (some policy))
      (fun state action => state.careful settings policy action = true) world schedule)
    (ran : run (step settings (some policy)) world schedule = some reached) :
    reached.Fires policy ∧ reached.Single := by
  have kept : reached.Kept policy :=
    run_preserves (fun _ _ _ kept careful stepped => step_keeps enabled kept.1 careful stepped)
      ⟨begun, fires_of_unhandled idle⟩ careful ran
  exact ⟨kept.2, kept.1.one⟩

end PolicyWorld

end Law

/-! Failures of rule 2 on dataset 3 in workspace 1, and a user who takes over the incident. -/

private def perRuleGrouping : GroupingSettings where
  policy := .onePerRule
  zone := some ⟨fun _ => 0, fun _ => false, fun wall _ => wall⟩
  isoformat := toString

private def majorPolicy (recurrenceThreshold : Int) : IncidentPolicy Nat where
  enabled := true
  minSeverity := "major"
  recurrenceThreshold
  autoPriority := none
  autoOwnerUserId := none

private def majorFailure (rowsFailed completedAt : Int) : Issues.Failure Nat :=
  ⟨1, some 2, some 3, "major", "[MAJOR] amount", rowsFailed, 10, none, some completedAt⟩

private def acknowledgement : IncidentUpdate Nat Int where
  incidentId := 7
  workspaceId := 1
  fieldsProvided := ["status"]
  status := some "acknowledged"
  resolutionSummary := none
  ownerId := none
  impactSummary := none
  now := 150
  persist := fun _ => .ok ()

private def noIncidents : PolicyWorld Nat := ⟨∅, ∅, [], none⟩

private theorem noIncidents_sound : noIncidents.Sound :=
  ⟨nofun, nofun, nofun⟩

private def recurringSchedule : List (PolicyAction Nat) :=
  [.fail (majorFailure 3 100) none 5 7 110, .update acknowledgement,
    .fail (majorFailure 2 200) (some 5) 0 0 210]

/-- The first failure meets the policy, and its incident is still being worked on when the second one
comes. -/
theorem acknowledged_incident_suffices :
    ∃ reached, run (PolicyWorld.step perRuleGrouping (some (majorPolicy 3))) noIncidents
        recurringSchedule = some reached ∧
      (reached.issues.lookup 5).map (·.failureCount) = some (some 5) ∧
      reached.Fires (majorPolicy 3) ∧ reached.Single := by
  have careful : RunMeets (PolicyWorld.step perRuleGrouping (some (majorPolicy 3)))
      (fun state action => state.careful perRuleGrouping (majorPolicy 3) action = true) noIncidents
      recurringSchedule := by decide +kernel
  exact ⟨_, rfl, by decide +kernel,
    PolicyWorld.recurrence_fires_once rfl noIncidents_sound rfl careful rfl⟩

/-- The second failure makes six, and there is no incident. -/
theorem recurring_failure_without_incident :
    ∃ reached, run (PolicyWorld.step perRuleGrouping (some (majorPolicy 5))) noIncidents
        [.fail (majorFailure 3 100) none 5 7 110, .fail (majorFailure 3 200) (some 5) 0 0 210] =
          some reached ∧
      ¬reached.Fires (majorPolicy 5) := by
  refine ⟨_, rfl, fun fires => ?_⟩
  have linked := fires 5 rfl _ rfl (by decide +kernel)
  revert linked
  decide +kernel

end CogniDQ.Incidents
