import CogniDQ.Python.Value
import Mathlib.Logic.Function.Basic

/-!
# Statuses and resolution summaries

What the update functions of issues and incidents share: the transition map, the check that a
record which is resolved or closed says how, and the timestamps that go with these statuses.
-/

set_option autoImplicit false

namespace CogniDQ.Lifecycle

open CogniDQ.Python

inductive UpdateError where
  | emptyUpdate (message : String)
  | notFound (message : String)
  | invalidStatusTransition (message : String)
  | resolutionSummaryTooLong (message : String)
  | resolutionSummaryRequired (message : String)
  | invalidAssignee (message : String)
  /-- Whatever the database or a later statement of the call raises. -/
  | other (message : String)

def resolutionRequiredStatuses : List String := ["resolved", "closed"]

def isBlank (text : Option String) : Bool := text.all (· == "")

/-- What the two services make of the shared checks. -/
structure Policy where
  allowedTransitions : List (String × List String)
  transitionText : String → String → String
  summaryRequiredText : String
  /-- The longest summary, and the text of the refusal; none where the length is not checked. -/
  summaryLimit : Option (Nat × String)

/-- The part of an update request that is about the resolution. -/
structure Request where
  fieldsProvided : List String
  status : Option String
  resolutionSummary : Option String

/-- The entries of `updates` for `status` and `resolution_summary`. -/
structure Resolution where
  status : Option String
  summary : Option (Option String)

namespace Policy

variable (policy : Policy)

def targets (status : String) : List String := (policy.allowedTransitions.lookup status).getD []

def validateTransition (current target : String) : Except UpdateError Unit :=
  if target ∈ policy.targets current then .ok ()
  else .error (.invalidStatusTransition (policy.transitionText current target))

def validateRequested (current : String) : Option String → Except UpdateError Unit
  | some target => policy.validateTransition current target
  | none => .ok ()

def newStatus (request : Request) : Option String :=
  if "status" ∈ request.fieldsProvided then request.status else none

def newSummary (request : Request) : Except UpdateError (Option (Option String)) :=
  if "resolution_summary" ∈ request.fieldsProvided then
    match policy.summaryLimit with
    | none => .ok (some request.resolutionSummary)
    | some (longest, message) =>
      if request.resolutionSummary.any fun text => decide (text.length > longest) then
        .error (.resolutionSummaryTooLong message)
      else .ok (some request.resolutionSummary)
  else .ok none

def resolve (status : String) (summary : Option String) (request : Request) :
    Except UpdateError Resolution := do
  let requested := newStatus request
  policy.validateRequested status requested
  let written ← policy.newSummary request
  if "status" ∈ request.fieldsProvided ∧
      requested.getD status ∈ resolutionRequiredStatuses ∧
      isBlank (written.getD summary) = true then
    throw (.resolutionSummaryRequired policy.summaryRequiredText)
  return { status := requested, summary := written }

end Policy

namespace Resolution

def statusAfter (resolution : Resolution) (status : String) : String :=
  resolution.status.getD status

def summaryAfter (resolution : Resolution) (summary : Option String) : Option String :=
  resolution.summary.getD summary

end Resolution

/-- A record that is resolved or closed says how. -/
def Explained (status : String) (summary : Option String) : Prop :=
  status ∈ resolutionRequiredStatuses → isBlank summary = false

/-- The request empties the summary and does not name the status. -/
def Request.clearsSummary (request : Request) : Prop :=
  "status" ∉ request.fieldsProvided ∧ "resolution_summary" ∈ request.fieldsProvided ∧
    isBlank request.resolutionSummary = true

section Validation

variable {policy : Policy} {status : String} {summary : Option String} {request : Request}
  {resolution : Resolution}

private theorem validateTransition_ok {target : String}
    (valid : policy.validateTransition status target = .ok ()) : target ∈ policy.targets status := by
  unfold Policy.validateTransition at valid
  split_ifs at valid with allowed
  exact allowed

private theorem newSummary_ok {written : Option (Option String)}
    (accepted : policy.newSummary request = .ok written) :
    written = if "resolution_summary" ∈ request.fieldsProvided then some request.resolutionSummary
      else none := by
  unfold Policy.newSummary at accepted
  split_ifs at accepted ⊢ with provided
  · split at accepted
    · cases accepted
      rfl
    · split_ifs at accepted
      cases accepted
      rfl
  · cases accepted
    rfl

theorem resolve_ok (accepted : policy.resolve status summary request = .ok resolution) :
    (∀ target, resolution.status = some target → target ∈ policy.targets status) ∧
      resolution.status = Policy.newStatus request ∧
      policy.newSummary request = .ok resolution.summary ∧
      ("status" ∈ request.fieldsProvided →
        Explained (resolution.statusAfter status) (resolution.summaryAfter summary)) := by
  simp only [Policy.resolve] at accepted
  obtain ⟨_, validated, accepted⟩ := bind_eq_ok accepted
  obtain ⟨written, limited, accepted⟩ := bind_eq_ok accepted
  split_ifs at accepted with blank
  · cases accepted
  obtain rfl := Except.ok.inj accepted
  refine ⟨fun target requested => ?_, rfl, limited, fun named required => ?_⟩
  · dsimp only at requested
    rw [requested] at validated
    exact validateTransition_ok validated
  · exact Bool.eq_false_iff.mpr fun empty => blank ⟨named, required, empty⟩

/-- An accepted request that does not clear the summary of a resolved or closed record leaves
the record explained. -/
theorem Explained.resolve (explained : Explained status summary)
    (accepted : policy.resolve status summary request = .ok resolution)
    (kept : request.clearsSummary → status ∉ resolutionRequiredStatuses) :
    Explained (resolution.statusAfter status) (resolution.summaryAfter summary) := by
  obtain ⟨-, requested, limited, checked⟩ := resolve_ok accepted
  by_cases named : "status" ∈ request.fieldsProvided
  · exact checked named
  · have same : resolution.status = none := by rw [requested, Policy.newStatus, if_neg named]
    have summaryAfter := newSummary_ok limited
    intro required
    rw [Resolution.statusAfter, same] at required
    rw [Resolution.summaryAfter, summaryAfter]
    split_ifs with provided
    · exact Bool.eq_false_iff.mpr fun empty => kept ⟨named, provided, empty⟩ required
    · exact explained required

end Validation

/-! ### Timestamps -/

structure Stamped {Moment : Type} (status : String) (resolvedAt closedAt : Option Moment) :
    Prop where
  resolvedAt : resolvedAt.isSome → status ∈ resolutionRequiredStatuses
  closedAt : closedAt.isSome ↔ status = "closed"

/-- A resolved record is closed or reopened next, and a closed one reopened. -/
def Policy.Reopens (policy : Policy) : Prop :=
  ∀ status target, status ∈ resolutionRequiredStatuses → target ∈ policy.targets status →
    status = "resolved" ∧ target = "closed" ∨ target = "reopened"

theorem Policy.reopens_of_lookup {policy : Policy}
    (resolved : ∀ target ∈ policy.targets "resolved", target = "closed" ∨ target = "reopened")
    (closed : ∀ target ∈ policy.targets "closed", target = "reopened") : policy.Reopens := by
  intro status target required allowed
  simp only [resolutionRequiredStatuses, List.mem_cons, List.not_mem_nil, or_false] at required
  rcases required with rfl | rfl
  · exact (resolved target allowed).imp_left fun same => ⟨rfl, same⟩
  · exact .inr (closed target allowed)

namespace Stamped

variable {Moment : Type} {status target : String} {resolvedAt closedAt : Option Moment}
  {policy : Policy}

theorem unset (status : String) (open_ : status ≠ "closed") :
    Stamped status (none : Option Moment) none := by
  constructor
  · intro set
    cases set
  · simp [open_]

theorem close (stamp : Moment) : Stamped "closed" resolvedAt (some stamp) := by
  constructor
  · intro _
    simp [resolutionRequiredStatuses]
  · simp

theorem resolve (stamped : Stamped status resolvedAt closedAt) (reopens : policy.Reopens)
    (allowed : "resolved" ∈ policy.targets status) (stamp : Moment) :
    Stamped "resolved" (some stamp) closedAt := by
  constructor
  · intro _
    simp [resolutionRequiredStatuses]
  · rw [stamped.closedAt]
    refine ⟨fun closed => ?_, fun same => by simp at same⟩
    have required : status ∈ resolutionRequiredStatuses := by
      simp [closed, resolutionRequiredStatuses]
    simpa using reopens status "resolved" required allowed

/-- A transition that neither resolves, closes nor reopens starts from a record without stamps. -/
theorem keep (stamped : Stamped status resolvedAt closedAt) (reopens : policy.Reopens)
    (allowed : target ∈ policy.targets status) (closed : target ≠ "closed")
    (reopened : target ≠ "reopened") : Stamped target resolvedAt closedAt := by
  have notRequired : status ∉ resolutionRequiredStatuses := fun required =>
    (reopens status target required allowed).elim (fun step => closed step.2) reopened
  constructor
  · intro set
    exact absurd (stamped.resolvedAt set) notRequired
  · refine ⟨fun set => absurd ?_ notRequired, fun same => absurd same closed⟩
    simp [stamped.closedAt.mp set, resolutionRequiredStatuses]

end Stamped

/-! ### Records under their identities -/

abbrev Records (Uuid Record : Type) : Type := Uuid → Option Record

namespace Records

variable {Uuid Record : Type} {records : Records Uuid Record} {id written : Uuid}
  {coherent : Record → Prop}

def HasCoherent (coherent : Record → Prop) (id : Uuid) (records : Records Uuid Record) : Prop :=
  ∃ record, records id = some record ∧ coherent record

theorem HasCoherent.update [DecidableEq Uuid] (has : HasCoherent coherent id records)
    {current updated : Record} (found : records written = some current)
    (kept : coherent current → coherent updated) :
    HasCoherent coherent id (Function.update records written (some updated)) := by
  obtain ⟨record, present, before⟩ := has
  by_cases same : id = written
  · subst same
    obtain rfl := Option.some.inj (found.symm.trans present)
    exact ⟨updated, Function.update_self .., kept before⟩
  · exact ⟨record, (Function.update_of_ne same ..).trans present, before⟩

end Records

end CogniDQ.Lifecycle
