import CogniDQ.Lifecycle.Resolution
import CogniDQ.Protocol.Runs

/-!
# The lifecycle of an incident

`IncidentLifecycleService.update_incident`, and which sequences of its calls keep an incident
coherent. Its timestamp effects have no branch for a reopened incident.
-/

set_option autoImplicit false

namespace CogniDQ.Incidents

open CogniDQ.Lifecycle CogniDQ.Protocol CogniDQ.Python

structure Incident (Uuid Moment : Type) where
  workspaceId : Uuid
  status : String
  ownerId : Option Uuid
  impactSummary : Option String
  resolutionSummary : Option String
  acknowledgedAt : Option Moment
  resolvedAt : Option Moment
  closedAt : Option Moment

abbrev IncidentTable (Uuid Moment : Type) : Type := Records Uuid (Incident Uuid Moment)

def allowedTransitions : List (String × List String) :=
  [("open", ["acknowledged"]),
    ("acknowledged", ["mitigated", "resolved", "closed"]),
    ("mitigated", ["resolved", "closed"]),
    ("resolved", ["closed"]),
    ("closed", ["reopened"]),
    ("reopened", ["acknowledged", "mitigated", "resolved", "closed"])]

def incidentPolicy : Policy where
  allowedTransitions := allowedTransitions
  transitionText current target :=
    "Cannot transition from '" ++ current ++ "' to '" ++ target ++ "'."
  summaryRequiredText := "Resolution summary is required when resolving or closing."
  summaryLimit := none

def recognizedFields : List String := ["status", "owner_id", "impact_summary", "resolution_summary"]

/-- A call of `update_incident`, with what the database answers to it. -/
structure IncidentUpdate (Uuid Moment : Type) extends Request where
  incidentId : Uuid
  workspaceId : Uuid
  ownerId : Option Uuid
  impactSummary : Option String
  now : Moment
  /-- What the `UPDATE` of the row under the constraints of the table, the audit entry and the
  refresh of the row raise; the alert triggers raise nothing. -/
  persist : Incident Uuid Moment → Except UpdateError Unit

/-- The entries of `effects`. -/
structure TimestampEffects (Moment : Type) where
  acknowledgedAt : Option (Option Moment)
  resolvedAt : Option (Option Moment)
  closedAt : Option (Option Moment)

/-- The entries of `updates`. -/
structure IncidentUpdates (Uuid Moment : Type) extends Resolution, TimestampEffects Moment where
  ownerId : Option (Option Uuid)
  impactSummary : Option (Option String)

section Update

variable {Uuid Moment : Type}

def computeTimestampEffects (targetStatus : String) (now : Moment) : TimestampEffects Moment :=
  if targetStatus = "acknowledged" then
    { acknowledgedAt := some (some now), resolvedAt := none, closedAt := none }
  else if targetStatus = "resolved" then
    { acknowledgedAt := none, resolvedAt := some (some now), closedAt := none }
  else if targetStatus = "closed" then
    { acknowledgedAt := none, resolvedAt := none, closedAt := some (some now) }
  else { acknowledgedAt := none, resolvedAt := none, closedAt := none }

/-- The timestamp effects of an update that may leave the status alone. -/
def timestampEffects (status : Option String) (now : Moment) : TimestampEffects Moment :=
  match status with
  | some target => computeTimestampEffects target now
  | none => { acknowledgedAt := none, resolvedAt := none, closedAt := none }

def IncidentUpdate.updates (call : IncidentUpdate Uuid Moment) (current : Incident Uuid Moment) :
    Except UpdateError (IncidentUpdates Uuid Moment) := do
  let resolution ← incidentPolicy.resolve current.status current.resolutionSummary call.toRequest
  return {
    toResolution := resolution
    toTimestampEffects := timestampEffects resolution.status call.now
    ownerId := if "owner_id" ∈ call.fieldsProvided then some call.ownerId else none
    impactSummary :=
      if "impact_summary" ∈ call.fieldsProvided then some call.impactSummary else none }

def Incident.apply (incident : Incident Uuid Moment) (updates : IncidentUpdates Uuid Moment) :
    Incident Uuid Moment :=
  { incident with
    status := updates.statusAfter incident.status
    resolutionSummary := updates.summaryAfter incident.resolutionSummary
    acknowledgedAt := updates.acknowledgedAt.getD incident.acknowledgedAt
    resolvedAt := updates.resolvedAt.getD incident.resolvedAt
    closedAt := updates.closedAt.getD incident.closedAt
    ownerId := updates.ownerId.getD incident.ownerId
    impactSummary := updates.impactSummary.getD incident.impactSummary }

variable [DecidableEq Uuid]

def getByIdAndWorkspace (incidents : IncidentTable Uuid Moment) (incidentId workspaceId : Uuid) :
    Option (Incident Uuid Moment) :=
  (incidents incidentId).filter fun incident => decide (incident.workspaceId = workspaceId)

/-- What a call returns or raises, and the committed incidents after it: the caller commits what a
call has written when it returns. -/
def updateIncident (call : IncidentUpdate Uuid Moment) (incidents : IncidentTable Uuid Moment) :
    Except UpdateError (Incident Uuid Moment) × IncidentTable Uuid Moment :=
  if call.fieldsProvided.all (· ∉ recognizedFields) then
    (.error (.emptyUpdate "No fields provided for update."), incidents)
  else
    match getByIdAndWorkspace incidents call.incidentId call.workspaceId with
    | none => (.error (.notFound "Incident not found."), incidents)
    | some current =>
      match call.updates current with
      | .error refusal => (.error refusal, incidents)
      | .ok updates =>
        let updated := current.apply updates
        match call.persist updated with
        -- The caller rolls back.
        | .error failure => (.error failure, incidents)
        | .ok () => (.ok updated, Function.update incidents call.incidentId (some updated))

def callStep (incidents : IncidentTable Uuid Moment) (call : IncidentUpdate Uuid Moment) :
    Option (IncidentTable Uuid Moment) :=
  some (updateIncident call incidents).2

end Update

section Coherence

variable {Uuid Moment : Type}

structure Incident.Coherent (incident : Incident Uuid Moment) : Prop where
  explained : Explained incident.status incident.resolutionSummary
  stamped : Stamped incident.status incident.resolvedAt incident.closedAt

structure Incident.IsNew (incident : Incident Uuid Moment) : Prop where
  status : incident.status = "open"
  resolutionSummary : incident.resolutionSummary = none
  resolvedAt : incident.resolvedAt = none
  closedAt : incident.closedAt = none

private theorem Incident.IsNew.coherent {incident : Incident Uuid Moment} (new : incident.IsNew) :
    incident.Coherent := by
  obtain ⟨status, -, resolvedAt, closedAt⟩ := new
  constructor
  · intro required
    rw [status] at required
    simp [resolutionRequiredStatuses] at required
  · rw [status, resolvedAt, closedAt]
    exact Stamped.unset "open" (by decide)

private theorem incidentPolicy_reopens : incidentPolicy.Reopens := by
  apply Policy.reopens_of_lookup
  · intro target allowed
    left
    simpa [Policy.targets, incidentPolicy, allowedTransitions, List.lookup_cons] using allowed
  · intro target allowed
    simpa [Policy.targets, incidentPolicy, allowedTransitions, List.lookup_cons] using allowed

private theorem stamped_transition {status target : String} {resolvedAt closedAt : Option Moment}
    (stamped : Stamped status resolvedAt closedAt)
    (allowed : target ∈ incidentPolicy.targets status) (reopened : target ≠ "reopened")
    (now : Moment) :
    Stamped target ((computeTimestampEffects target now).resolvedAt.getD resolvedAt)
      ((computeTimestampEffects target now).closedAt.getD closedAt) := by
  unfold computeTimestampEffects
  split_ifs with acknowledged resolved closed
  · subst acknowledged
    exact stamped.keep incidentPolicy_reopens allowed (by decide) reopened
  · subst resolved
    exact stamped.resolve incidentPolicy_reopens allowed now
  · subst closed
    exact Stamped.close now
  · exact stamped.keep incidentPolicy_reopens allowed closed reopened

theorem Incident.Coherent.apply {incident : Incident Uuid Moment} (coherent : incident.Coherent)
    {call : IncidentUpdate Uuid Moment} {updates : IncidentUpdates Uuid Moment}
    (accepted : call.updates incident = .ok updates)
    (kept : call.clearsSummary → incident.status ∉ resolutionRequiredStatuses)
    (notReopened : updates.status ≠ some "reopened") : (incident.apply updates).Coherent := by
  simp only [IncidentUpdate.updates] at accepted
  obtain ⟨resolution, resolved, accepted⟩ := bind_eq_ok accepted
  obtain rfl := Except.ok.inj accepted
  have explained := coherent.explained.resolve resolved kept
  obtain ⟨transitions, -⟩ := resolve_ok resolved
  refine ⟨explained, ?_⟩
  change Stamped (resolution.statusAfter incident.status)
    ((timestampEffects resolution.status call.now).resolvedAt.getD incident.resolvedAt)
    ((timestampEffects resolution.status call.now).closedAt.getD incident.closedAt)
  unfold Resolution.statusAfter
  cases requested : resolution.status with
  | none => exact coherent.stamped
  | some target =>
      have other : target ≠ "reopened" := by
        rintro rfl
        exact notReopened requested
      exact stamped_transition coherent.stamped (transitions target requested) other call.now

variable [DecidableEq Uuid] {incidents : IncidentTable Uuid Moment}
  {call : IncidentUpdate Uuid Moment}

theorem updateIncident_cases (call : IncidentUpdate Uuid Moment)
    (incidents : IncidentTable Uuid Moment) :
    (updateIncident call incidents).2 = incidents ∨
      ∃ current updates,
        getByIdAndWorkspace incidents call.incidentId call.workspaceId = some current ∧
        call.updates current = .ok updates ∧ call.persist (current.apply updates) = .ok () ∧
        updateIncident call incidents = (.ok (current.apply updates),
          Function.update incidents call.incidentId (some (current.apply updates))) := by
  unfold updateIncident
  split_ifs
  · exact .inl rfl
  split
  · exact .inl rfl
  next current found =>
  split
  · exact .inl rfl
  next updates accepted =>
  dsimp only
  split
  · exact .inl rfl
  next persisted => exact .inr ⟨current, updates, found, accepted, persisted, rfl⟩

private theorem updateIncident_raises {error : UpdateError}
    (raised : (updateIncident call incidents).1 = .error error) :
    (updateIncident call incidents).2 = incidents := by
  obtain unchanged | ⟨current, updates, -, -, -, written⟩ := updateIncident_cases call incidents
  · exact unchanged
  · rw [written] at raised
    cases raised

/-- The call does not empty the summary of a resolved or closed incident without naming a status,
and it does not ask for a reopened incident that the table admits. -/
structure KeepsCoherent (incidents : IncidentTable Uuid Moment)
    (call : IncidentUpdate Uuid Moment) : Prop where
  summary : call.clearsSummary → ∀ current,
    getByIdAndWorkspace incidents call.incidentId call.workspaceId = some current →
      current.status ∉ resolutionRequiredStatuses
  reopened : Policy.newStatus call.toRequest = some "reopened" →
    ∀ incident, incident.status = "reopened" → call.persist incident ≠ .ok ()

private theorem hasCoherent_callStep {incidentId : Uuid} (incidents : IncidentTable Uuid Moment)
    (call : IncidentUpdate Uuid Moment) (next : IncidentTable Uuid Moment)
    (has : Records.HasCoherent Incident.Coherent incidentId incidents)
    (kept : KeepsCoherent incidents call) (stepped : callStep incidents call = some next) :
    Records.HasCoherent Incident.Coherent incidentId next := by
  obtain rfl := Option.some.inj stepped
  obtain unchanged | ⟨current, updates, found, accepted, persisted, written⟩ :=
    updateIncident_cases call incidents
  · rw [unchanged]
    exact has
  · rw [written]
    have stored := (Option.filter_eq_some_iff.mp found).1
    refine has.update stored fun coherent => ?_
    refine coherent.apply accepted (fun clears => kept.summary clears current found) ?_
    intro requested
    have named : Policy.newStatus call.toRequest = some "reopened" := by
      simp only [IncidentUpdate.updates] at accepted
      obtain ⟨resolution, resolved, accepted⟩ := bind_eq_ok accepted
      obtain rfl := Except.ok.inj accepted
      exact (resolve_ok resolved).2.1.symm.trans requested
    refine kept.reopened named (current.apply updates) ?_ persisted
    simp [Incident.apply, Resolution.statusAfter, requested]

/-- An incident stays coherent under every sequence of calls none of which empties the summary of a
resolved or closed incident without naming a status, or reopens one; and a call that raises leaves
the incident as it is. -/
theorem incident_stays_coherent {incidentId : Uuid} {incidents final : IncidentTable Uuid Moment}
    {created : Incident Uuid Moment} {calls : List (IncidentUpdate Uuid Moment)}
    (present : incidents incidentId = some created) (new : created.IsNew)
    (kept : RunMeets callStep KeepsCoherent incidents calls)
    (ran : run callStep incidents calls = some final) :
    ∃ incident, final incidentId = some incident ∧ incident.Coherent ∧
      ∀ (call : IncidentUpdate Uuid Moment) (error : UpdateError),
        (updateIncident call final).1 = .error error →
          (updateIncident call final).2 incidentId = some incident := by
  obtain ⟨incident, found, coherent⟩ :=
    run_preserves hasCoherent_callStep ⟨created, present, new.coherent⟩ kept ran
  refine ⟨incident, found, coherent, fun call error raised => ?_⟩
  rw [updateIncident_raises raised, found]

end Coherence

section Runs

private def openIncident : Incident Nat Nat where
  workspaceId := 1
  status := "open"
  ownerId := none
  impactSummary := none
  resolutionSummary := none
  acknowledgedAt := none
  resolvedAt := none
  closedAt := none

/-- A call about the incident 0, in a database that refuses nothing. -/
private def incidentCall (request : Request) (now : Nat) : IncidentUpdate Nat Nat :=
  { request with
    incidentId := 0
    workspaceId := 1
    ownerId := none
    impactSummary := none
    now
    persist := fun _ => .ok () }

private def acknowledgeCall : IncidentUpdate Nat Nat :=
  incidentCall ⟨["status"], some "acknowledged", none⟩ 5

private def closingCall : IncidentUpdate Nat Nat :=
  incidentCall ⟨["status", "resolution_summary"], some "closed", some "Fixed root cause"⟩ 6

private def summaryCall : IncidentUpdate Nat Nat :=
  incidentCall ⟨["resolution_summary"], none, some ""⟩ 7

private def reopenCall : IncidentUpdate Nat Nat :=
  incidentCall ⟨["status"], some "reopened", none⟩ 8

private theorem openIncident_isNew : openIncident.IsNew := ⟨rfl, rfl, rfl, rfl⟩

private theorem keepsCoherent_of_named {incidents : IncidentTable Nat Nat}
    {call : IncidentUpdate Nat Nat} (named : "status" ∈ call.fieldsProvided)
    (other : Policy.newStatus call.toRequest ≠ some "reopened") : KeepsCoherent incidents call :=
  ⟨fun clears => absurd named clears.1, fun reopened => absurd reopened other⟩

/-- An incident that is acknowledged and closed is coherent. -/
theorem closed_incident_coherent :
    ∃ final incident,
      run callStep (fun _ => some openIncident) [acknowledgeCall, closingCall] = some final ∧
        final 0 = some incident ∧ incident.Coherent := by
  have ran : ∃ final,
      run callStep (fun _ => some openIncident) [acknowledgeCall, closingCall] = some final :=
    ⟨_, rfl⟩
  obtain ⟨final, ran⟩ := ran
  have kept : RunMeets callStep KeepsCoherent (fun _ => some openIncident)
      [acknowledgeCall, closingCall] :=
    ⟨keepsCoherent_of_named (by decide) (by decide),
      fun _ _ => ⟨keepsCoherent_of_named (by decide) (by decide), fun _ _ => trivial⟩⟩
  have present : (fun _ => some openIncident : IncidentTable Nat Nat) 0 = some openIncident := rfl
  obtain ⟨incident, found, coherent, -⟩ :=
    incident_stays_coherent present openIncident_isNew kept ran
  exact ⟨final, incident, ran, found, coherent⟩

/-- The summary of a closed incident is emptied by a call that names no status; and a reopened
incident still has the time it was closed at. -/
theorem incident_incoherent :
    openIncident.IsNew ∧
      (∃ final incident,
        run callStep (fun _ => some openIncident) [acknowledgeCall, closingCall, summaryCall] =
            some final ∧
          final 0 = some incident ∧ ¬incident.Coherent) ∧
      ∃ final incident,
        run callStep (fun _ => some openIncident) [acknowledgeCall, closingCall, reopenCall] =
            some final ∧
          final 0 = some incident ∧ incident.status = "reopened" ∧ incident.closedAt = some 6 := by
  refine ⟨openIncident_isNew, ⟨_, _, rfl, rfl, fun coherent => ?_⟩, ⟨_, _, rfl, rfl, rfl, rfl⟩⟩
  have blank := coherent.explained (by decide)
  exact absurd blank (by decide)

end Runs

end CogniDQ.Incidents
