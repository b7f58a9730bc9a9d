import CogniDQ.Lifecycle.Resolution
import CogniDQ.Protocol.Runs

/-!
# The lifecycle of an issue

`IssueLifecycleService.update_issue`, and what any sequence of its calls keeps true of an issue.
-/

set_option autoImplicit false

namespace CogniDQ.Issues

open CogniDQ.Lifecycle CogniDQ.Protocol CogniDQ.Python

structure Issue (Uuid Moment : Type) where
  workspaceId : Uuid
  status : String
  assigneeId : Option Uuid
  dueAt : Option Moment
  resolutionSummary : Option String
  resolvedAt : Option Moment
  closedAt : Option Moment

abbrev IssueTable (Uuid Moment : Type) : Type := Records Uuid (Issue Uuid Moment)

def allowedTransitions : List (String × List String) :=
  [("open", ["in_progress", "resolved", "closed"]),
    ("in_progress", ["open", "resolved", "closed"]),
    ("resolved", ["closed", "reopened"]),
    ("closed", ["reopened"]),
    ("reopened", ["in_progress", "resolved", "closed"])]

def resolutionSummaryMaxLength : Nat := 5000

def issuePolicy : Policy where
  allowedTransitions := allowedTransitions
  transitionText current target :=
    "Transition from '" ++ current ++ "' to '" ++ target ++ "' is not allowed."
  summaryRequiredText := "Resolution summary is required when resolving or closing an issue."
  summaryLimit :=
    some (resolutionSummaryMaxLength, "Resolution summary must not exceed 5000 characters.")

def recognizedFields : List String := ["status", "assignee_id", "due_at", "resolution_summary"]

/-- A call of `update_issue`, with what the database answers to it. -/
structure IssueUpdate (Uuid Moment Detail : Type) extends Request where
  issueId : Uuid
  workspaceId : Uuid
  assigneeId : Option Uuid
  dueAt : Option Moment
  now : Moment
  /-- Whether `workspace_role_assignments` has a row for a workspace and a user. -/
  isMember : Uuid → Uuid → Bool
  /-- What the `UPDATE` of the row, the audit entry and the commit raise. -/
  persist : Issue Uuid Moment → Except UpdateError Unit
  /-- The detail that is read back after the commit. -/
  getEnrichedDetail : Issue Uuid Moment → Except UpdateError Detail

/-- The entries of `effects`. -/
structure TimestampEffects (Moment : Type) where
  resolvedAt : Option (Option Moment)
  closedAt : Option (Option Moment)

/-- The entries of `updates`. -/
structure IssueUpdates (Uuid Moment : Type) extends Resolution, TimestampEffects Moment where
  assigneeId : Option (Option Uuid)
  dueAt : Option (Option Moment)

section Update

variable {Uuid Moment Detail : Type}

def computeTimestampEffects (targetStatus : String) (now : Moment) : TimestampEffects Moment :=
  if targetStatus = "resolved" then { resolvedAt := some (some now), closedAt := none }
  else if targetStatus = "closed" then { resolvedAt := none, closedAt := some (some now) }
  else if targetStatus = "reopened" then { resolvedAt := some none, closedAt := some none }
  else { resolvedAt := none, closedAt := none }

/-- The timestamp effects of an update that may leave the status alone. -/
def timestampEffects (status : Option String) (now : Moment) : TimestampEffects Moment :=
  match status with
  | some target => computeTimestampEffects target now
  | none => { resolvedAt := none, closedAt := none }

namespace IssueUpdate

variable (call : IssueUpdate Uuid Moment Detail)

def newAssignee : Except UpdateError (Option (Option Uuid)) :=
  if "assignee_id" ∈ call.fieldsProvided then
    if call.assigneeId.all (call.isMember call.workspaceId ·) then .ok (some call.assigneeId)
    else .error (.invalidAssignee "Assignee must be a member of this workspace.")
  else .ok none

def updates (current : Issue Uuid Moment) : Except UpdateError (IssueUpdates Uuid Moment) := do
  let resolution ← issuePolicy.resolve current.status current.resolutionSummary call.toRequest
  let assigneeId ← call.newAssignee
  return {
    toResolution := resolution
    toTimestampEffects := timestampEffects resolution.status call.now
    assigneeId
    dueAt := if "due_at" ∈ call.fieldsProvided then some call.dueAt else none }

end IssueUpdate

def Issue.apply (issue : Issue Uuid Moment) (updates : IssueUpdates Uuid Moment) :
    Issue Uuid Moment :=
  { issue with
    status := updates.statusAfter issue.status
    resolutionSummary := updates.summaryAfter issue.resolutionSummary
    resolvedAt := updates.resolvedAt.getD issue.resolvedAt
    closedAt := updates.closedAt.getD issue.closedAt
    assigneeId := updates.assigneeId.getD issue.assigneeId
    dueAt := updates.dueAt.getD issue.dueAt }

variable [DecidableEq Uuid]

def getByIdAndWorkspace (issues : IssueTable Uuid Moment) (issueId workspaceId : Uuid) :
    Option (Issue Uuid Moment) :=
  (issues issueId).filter fun issue => decide (issue.workspaceId = workspaceId)

/-- What a call returns or raises, and the committed issues after it. -/
def updateIssue (call : IssueUpdate Uuid Moment Detail) (issues : IssueTable Uuid Moment) :
    Except UpdateError Detail × IssueTable Uuid Moment :=
  if call.fieldsProvided.all (· ∉ recognizedFields) then
    (.error (.emptyUpdate "No fields provided for update."), issues)
  else
    match getByIdAndWorkspace issues call.issueId call.workspaceId with
    | none => (.error (.notFound "Issue not found."), issues)
    | some current =>
      match call.updates current with
      | .error refusal => (.error refusal, issues)
      | .ok updates =>
        let updated := current.apply updates
        match call.persist updated with
        -- The session is closed without a commit.
        | .error failure => (.error failure, issues)
        | .ok () =>
          (call.getEnrichedDetail updated, Function.update issues call.issueId (some updated))

def callStep (issues : IssueTable Uuid Moment) (call : IssueUpdate Uuid Moment Detail) :
    Option (IssueTable Uuid Moment) :=
  some (updateIssue call issues).2

end Update

section Coherence

variable {Uuid Moment Detail : Type}

structure Issue.Coherent (issue : Issue Uuid Moment) : Prop where
  explained : Explained issue.status issue.resolutionSummary
  stamped : Stamped issue.status issue.resolvedAt issue.closedAt

/-- The row `IssueRepository.insert` creates. -/
structure Issue.IsNew (issue : Issue Uuid Moment) : Prop where
  status : issue.status = "open"
  resolutionSummary : issue.resolutionSummary = none
  resolvedAt : issue.resolvedAt = none
  closedAt : issue.closedAt = none

theorem Issue.IsNew.coherent {issue : Issue Uuid Moment} (new : issue.IsNew) : issue.Coherent := by
  obtain ⟨status, -, resolvedAt, closedAt⟩ := new
  constructor
  · intro required
    rw [status] at required
    simp [resolutionRequiredStatuses] at required
  · rw [status, resolvedAt, closedAt]
    exact Stamped.unset "open" (by decide)

private theorem issuePolicy_reopens : issuePolicy.Reopens := by
  apply Policy.reopens_of_lookup
  · intro target allowed
    simpa [Policy.targets, issuePolicy, allowedTransitions, List.lookup_cons] using allowed
  · intro target allowed
    simpa [Policy.targets, issuePolicy, allowedTransitions, List.lookup_cons] using allowed

private theorem stamped_transition {status target : String} {resolvedAt closedAt : Option Moment}
    (stamped : Stamped status resolvedAt closedAt) (allowed : target ∈ issuePolicy.targets status)
    (now : Moment) :
    Stamped target ((computeTimestampEffects target now).resolvedAt.getD resolvedAt)
      ((computeTimestampEffects target now).closedAt.getD closedAt) := by
  unfold computeTimestampEffects
  split_ifs with resolved closed reopened
  · subst resolved
    exact stamped.resolve issuePolicy_reopens allowed now
  · subst closed
    exact Stamped.close now
  · exact Stamped.unset target closed
  · exact stamped.keep issuePolicy_reopens allowed closed reopened

private theorem Issue.Coherent.apply {issue : Issue Uuid Moment} (coherent : issue.Coherent)
    {call : IssueUpdate Uuid Moment Detail} {updates : IssueUpdates Uuid Moment}
    (accepted : call.updates issue = .ok updates)
    (kept : call.clearsSummary → issue.status ∉ resolutionRequiredStatuses) :
    (issue.apply updates).Coherent := by
  simp only [IssueUpdate.updates] at accepted
  obtain ⟨resolution, resolved, accepted⟩ := bind_eq_ok accepted
  obtain ⟨assigneeId, -, accepted⟩ := bind_eq_ok accepted
  obtain rfl := Except.ok.inj accepted
  have explained := coherent.explained.resolve resolved kept
  obtain ⟨transitions, -⟩ := resolve_ok resolved
  refine ⟨explained, ?_⟩
  change Stamped (resolution.statusAfter issue.status)
    ((timestampEffects resolution.status call.now).resolvedAt.getD issue.resolvedAt)
    ((timestampEffects resolution.status call.now).closedAt.getD issue.closedAt)
  unfold Resolution.statusAfter
  cases requested : resolution.status with
  | none => exact coherent.stamped
  | some target => exact stamped_transition coherent.stamped (transitions target requested) call.now

variable [DecidableEq Uuid] {issues : IssueTable Uuid Moment}
  {call : IssueUpdate Uuid Moment Detail}

theorem updateIssue_cases (call : IssueUpdate Uuid Moment Detail)
    (issues : IssueTable Uuid Moment) :
    (updateIssue call issues).2 = issues ∨
      ∃ current updates,
        getByIdAndWorkspace issues call.issueId call.workspaceId = some current ∧
        call.updates current = .ok updates ∧
        updateIssue call issues = (call.getEnrichedDetail (current.apply updates),
          Function.update issues call.issueId (some (current.apply updates))) := by
  unfold updateIssue
  split_ifs
  · exact .inl rfl
  split
  · exact .inl rfl
  next current found =>
  split
  · exact .inl rfl
  next updates accepted =>
  dsimp only
  split
  · exact .inl rfl
  · exact .inr ⟨current, updates, found, accepted, rfl⟩

/-- The call does not empty the summary of a resolved or closed issue without naming a status. -/
def KeepsSummary (issues : IssueTable Uuid Moment) (call : IssueUpdate Uuid Moment Detail) : Prop :=
  call.clearsSummary → ∀ current,
    getByIdAndWorkspace issues call.issueId call.workspaceId = some current →
      current.status ∉ resolutionRequiredStatuses

/-- The detail that is read back after the commit can be built. -/
def ReadsBack (call : IssueUpdate Uuid Moment Detail) : Prop :=
  ∀ issue error, call.getEnrichedDetail issue ≠ .error error

private theorem updateIssue_raises {error : UpdateError} (readsBack : ReadsBack call)
    (raised : (updateIssue call issues).1 = .error error) :
    (updateIssue call issues).2 = issues := by
  obtain unchanged | ⟨current, updates, -, -, written⟩ := updateIssue_cases call issues
  · exact unchanged
  · rw [written] at raised
    exact absurd raised (readsBack _ _)

private theorem hasCoherent_callStep {issueId : Uuid} (issues : IssueTable Uuid Moment)
    (call : IssueUpdate Uuid Moment Detail) (next : IssueTable Uuid Moment)
    (has : Records.HasCoherent Issue.Coherent issueId issues) (kept : KeepsSummary issues call)
    (stepped : callStep issues call = some next) : Records.HasCoherent Issue.Coherent issueId next := by
  obtain rfl := Option.some.inj stepped
  obtain unchanged | ⟨current, updates, found, accepted, written⟩ := updateIssue_cases call issues
  · rw [unchanged]
    exact has
  · rw [written]
    have stored := (Option.filter_eq_some_iff.mp found).1
    exact has.update stored fun coherent =>
      coherent.apply accepted fun clears => kept clears current found

/-- An issue stays coherent under every sequence of calls none of which empties the summary of a
resolved or closed issue without naming a status; and a call that raises, its detail not being
what fails, leaves the issue as it is. -/
theorem issue_stays_coherent {issueId : Uuid} {issues final : IssueTable Uuid Moment}
    {created : Issue Uuid Moment} {calls : List (IssueUpdate Uuid Moment Detail)}
    (present : issues issueId = some created) (new : created.IsNew)
    (kept : RunMeets callStep KeepsSummary issues calls)
    (ran : run callStep issues calls = some final) :
    ∃ issue, final issueId = some issue ∧ issue.Coherent ∧
      ∀ (call : IssueUpdate Uuid Moment Detail) (error : UpdateError), ReadsBack call →
        (updateIssue call final).1 = .error error →
          (updateIssue call final).2 issueId = some issue := by
  obtain ⟨issue, found, coherent⟩ :=
    run_preserves hasCoherent_callStep ⟨created, present, new.coherent⟩ kept ran
  refine ⟨issue, found, coherent, fun call error readsBack raised => ?_⟩
  rw [updateIssue_raises readsBack raised, found]

end Coherence

section Runs

private def openIssue : Issue Nat Nat where
  workspaceId := 1
  status := "open"
  assigneeId := none
  dueAt := none
  resolutionSummary := none
  resolvedAt := none
  closedAt := none

private def issueCall (request : Request) (now : Nat) : IssueUpdate Nat Nat Unit :=
  { request with
    issueId := 0
    workspaceId := 1
    assigneeId := none
    dueAt := none
    now
    isMember := fun _ _ => true
    persist := fun _ => .ok ()
    getEnrichedDetail := fun _ => .ok () }

private def resolveCall : IssueUpdate Nat Nat Unit :=
  issueCall ⟨["status", "resolution_summary"], some "resolved", some "Fixed."⟩ 5

private def closeCall : IssueUpdate Nat Nat Unit := issueCall ⟨["status"], some "closed", none⟩ 6

private def clearCall : IssueUpdate Nat Nat Unit :=
  issueCall ⟨["resolution_summary"], none, none⟩ 7

private theorem openIssue_isNew : openIssue.IsNew := ⟨rfl, rfl, rfl, rfl⟩

private theorem keepsSummary_of_named {issues : IssueTable Nat Nat} {call : IssueUpdate Nat Nat Unit}
    (named : "status" ∈ call.fieldsProvided) : KeepsSummary issues call :=
  fun clears => absurd named clears.1

theorem closed_issue_coherent :
    ∃ final issue, run callStep (fun _ => some openIssue) [resolveCall, closeCall] = some final ∧
      final 0 = some issue ∧ issue.Coherent := by
  have ran : ∃ final, run callStep (fun _ => some openIssue) [resolveCall, closeCall] =
      some final := ⟨_, rfl⟩
  obtain ⟨final, ran⟩ := ran
  have kept : RunMeets callStep KeepsSummary (fun _ => some openIssue) [resolveCall, closeCall] :=
    ⟨keepsSummary_of_named (by decide), fun _ _ => ⟨keepsSummary_of_named (by decide),
      fun _ _ => trivial⟩⟩
  have present : (fun _ => some openIssue : IssueTable Nat Nat) 0 = some openIssue := rfl
  obtain ⟨issue, found, coherent, -⟩ := issue_stays_coherent present openIssue_isNew kept ran
  exact ⟨final, issue, ran, found, coherent⟩

/-- The summary of a resolved issue is set to null by a call that names no status. -/
theorem resolved_issue_without_summary :
    openIssue.IsNew ∧
      ∃ final issue, run callStep (fun _ => some openIssue) [resolveCall, clearCall] = some final ∧
        final 0 = some issue ∧ ¬issue.Coherent := by
  refine ⟨openIssue_isNew, _, _, rfl, rfl, fun coherent => ?_⟩
  have blank := coherent.explained (by decide)
  exact absurd blank (by decide)

end Runs

end CogniDQ.Issues
