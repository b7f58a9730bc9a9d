import CogniDQ.Database.Rows
import CogniDQ.Database.ReadCommitted

/-!
# Grouping of failures

What `IssueCreationService` and `IssueGroupingService` make of the failure of a check: the search for
an issue to fold it into, the update of that issue, and the issue that is created otherwise.
-/

set_option autoImplicit false

namespace CogniDQ.Issues

open CogniDQ.Database

inductive GroupingPolicy where
  | onePerExecution
  | onePerRule
  | onePerDay
deriving DecidableEq

inductive IssueStatus where
  | «open»
  | inProgress
  | resolved
  | closed
  | reopened
deriving DecidableEq

def IssueStatus.groupable (status : IssueStatus) : Bool :=
  [.open, .inProgress, .reopened].contains status

/-- A failed check node: its rule and dataset, as far as they can be resolved, and its result. -/
structure Failure (Uuid : Type) where
  workspaceId : Uuid
  ruleId : Option Uuid
  datasetId : Option Uuid
  severity : String
  title : String
  rowsFailed : Int
  rowsScanned : Int
  passRate : Option String
  completedAt : Option Int
deriving DecidableEq

structure IssueRow (Uuid : Type) where
  workspaceId : Uuid
  ruleId : Option Uuid
  datasetId : Option Uuid
  severity : String
  status : IssueStatus
  title : String
  impactSummary : String
  failureCount : Option Int
  rowsScanned : Int
  openedAt : Int
  lastSeenAt : Option Int
deriving DecidableEq

/-- A time zone of `zoneinfo`: what is added to an instant to get the time on the wall, whether an
instant is the second one with its wall time, and the instant of a wall time. -/
structure Zone where
  offset : Int → Int
  fold : Int → Bool
  toUtc : Int → Bool → Int

def microsecondsPerDay : Int := 86400000000

def Zone.localDay (zone : Zone) (instant : Int) : Int :=
  (instant + zone.offset instant) / microsecondsPerDay

/-- `_compute_day_window`. `replace` keeps the fold, `+` clears it. -/
def Zone.dayWindow (zone : Zone) (completedAt : Int) : Int × Int :=
  let dayStart := zone.localDay completedAt * microsecondsPerDay
  (zone.toUtc dayStart (zone.fold completedAt),
    zone.toUtc (dayStart + microsecondsPerDay) false)

structure GroupingSettings where
  policy : GroupingPolicy
  /-- None when `ZoneInfo` raises. -/
  zone : Option Zone
  isoformat : Int → String

section Grouping

variable {Uuid : Type}

def Failure.groups (policy : GroupingPolicy) (failure : Failure Uuid) : Bool :=
  policy != .onePerExecution && failure.ruleId.isSome && failure.datasetId.isSome

/-- The window of `opened_at` that is searched; none at the outside when that raises. -/
def Failure.window (settings : GroupingSettings) (failure : Failure Uuid) :
    Option (Option (Int × Int)) :=
  if settings.policy = .onePerDay then
    settings.zone.bind fun zone => failure.completedAt.map fun at_ => some (zone.dayWindow at_)
  else some none

variable [DecidableEq Uuid]

/-- The condition of the query for an issue to fold a failure into. -/
def IssueRow.answers (failure : Failure Uuid) (window : Option (Int × Int)) (row : IssueRow Uuid) :
    Bool :=
  row.workspaceId == failure.workspaceId && row.ruleId == failure.ruleId &&
    row.datasetId == failure.datasetId && row.status.groupable &&
    window.all fun day => decide (day.1 ≤ row.openedAt) && decide (row.openedAt < day.2)

/-- `find_open_for_grouping`: any of the issues opened last, or none when there is none. -/
def findsOpen (rows : Rows Uuid (IssueRow Uuid)) (failure : Failure Uuid)
    (window : Option (Int × Int)) : Option Uuid → Bool
  | none => rows.entries.all fun entry => !entry.2.answers failure window
  | some issueId => (rows.lookup issueId).any fun row =>
    row.answers failure window && rows.entries.all fun entry =>
      !entry.2.answers failure window || decide (entry.2.openedAt ≤ row.openedAt)

omit [DecidableEq Uuid] in
def Failure.impactSummary (failure : Failure Uuid) : String :=
  match failure.passRate with
  | some rate => s!"{failure.rowsFailed} of {failure.rowsScanned} rows failed ({rate}% pass rate)"
  | none => s!"{failure.rowsFailed} of {failure.rowsScanned} rows failed"

def groupedImpactSummary (settings : GroupingSettings) (cumulativeFailureCount lastSeenAt : Int) :
    String :=
  s!"{cumulativeFailureCount} failures recorded (last seen: {settings.isoformat lastSeenAt})"

/-- What an `INTEGER` column with the check of `failure_count` takes. -/
def countFits (count : Int) : Bool :=
  decide (0 ≤ count) && decide (count < 2147483648)

omit [DecidableEq Uuid] in
/-- `update_for_grouping`, with the summary that is computed before it; none when it raises. -/
def IssueRow.foldIn (settings : GroupingSettings) (row : IssueRow Uuid) (failure : Failure Uuid)
    (completedAt : Int) : Option (IssueRow Uuid) :=
  let currentFailureCount := row.failureCount.getD 0 + failure.rowsFailed
  let failureCount := row.failureCount.map (· + failure.rowsFailed)
  if failureCount.all countFits then
    some { row with
      failureCount
      impactSummary := groupedImpactSummary settings currentFailureCount completedAt
      lastSeenAt := some completedAt }
  else none

omit [DecidableEq Uuid] in
/-- `insert`, at `now` by the database; none when it raises. -/
def Failure.newIssue (failure : Failure Uuid) (now : Int) : Option (IssueRow Uuid) :=
  if countFits failure.rowsFailed then
    some {
      workspaceId := failure.workspaceId
      ruleId := failure.ruleId
      datasetId := failure.datasetId
      severity := failure.severity
      status := .open
      title := failure.title
      impactSummary := failure.impactSummary
      failureCount := some failure.rowsFailed
      rowsScanned := failure.rowsScanned
      -- The completion of the check is not among the columns of the `INSERT`.
      openedAt := now
      lastSeenAt := none }
  else none

end Grouping

end CogniDQ.Issues

/-!
## Concurrent failures

Transactions of `create_from_node_result`, statement by statement: the locking search for an issue,
the update of the issue found or the insertion of a new one, and the commit.
-/

namespace CogniDQ.Issues

open CogniDQ.Database

inductive GroupingPhase (Uuid : Type) where
  | idle
  | searching (failure : Failure Uuid)
  /-- The issue found is locked. -/
  | folding (failure : Failure Uuid) (issueId : Uuid)
  | creating (failure : Failure Uuid)
  | folded (failure : Failure Uuid) (issueId : Uuid)
  | created (failure : Failure Uuid) (issueId : Uuid)

inductive GroupingAction (Uuid : Type) where
  | begin (failure : Failure Uuid)
  /-- The search, with the issue it finds. -/
  | search (found : Option Uuid)
  /-- The next statement, with the identifier that it generates and the time of the database. -/
  | proceed (generated : Uuid) (now : Int)
  | abort

structure GroupingWorld (Tx Uuid : Type) where
  issues : Table Tx Uuid (IssueRow Uuid)
  phase : Tx → GroupingPhase Uuid
  /-- The failures that each committed issue stands for. -/
  failures : Uuid → List (Failure Uuid)

section Steps

variable {Tx Uuid : Type} [DecidableEq Tx] [DecidableEq Uuid]

namespace GroupingWorld

def start (issues : Rows Uuid (IssueRow Uuid)) (failures : Uuid → List (Failure Uuid)) :
    GroupingWorld Tx Uuid :=
  { issues := Table.quiet issues, phase := fun _ => .idle, failures }

variable (settings : GroupingSettings) (world : GroupingWorld Tx Uuid) (tx : Tx)

def goto (phase : GroupingPhase Uuid) : GroupingWorld Tx Uuid :=
  { world with phase := Function.update world.phase tx phase }

/-- The end of a transaction: its locks and its uncommitted writes are gone. -/
def rollback : GroupingWorld Tx Uuid :=
  ({ world with issues := world.issues.release tx }).goto tx .idle

def commit (issueId : Uuid) (failures : List (Failure Uuid)) : GroupingWorld Tx Uuid :=
  ({ world with
    issues := world.issues.commit tx
    failures := Function.update world.failures issueId failures }).goto tx .idle

/-- `find_open_for_grouping`; none while another transaction has locked the issue. What raises in
Python before the query makes the service create an issue. -/
def search (failure : Failure Uuid) (found : Option Uuid) : Option (GroupingWorld Tx Uuid) :=
  match failure.window settings with
  | none => some (world.goto tx (.creating failure))
  | some window =>
    if findsOpen (world.issues.view tx) failure window found then
      match found with
      | none => some (world.goto tx (.creating failure))
      | some issueId =>
        if world.issues.free tx issueId then
          some (({ world with issues := world.issues.lock tx issueId }).goto tx
            (.folding failure issueId))
        else none
    else none

/-- The issue is read once more, and updated. A failure without a completion time raises in Python,
which makes the service create an issue; what the database raises ends the transaction. -/
def fold (failure : Failure Uuid) (issueId : Uuid) : GroupingWorld Tx Uuid :=
  match (world.issues.view tx).lookup issueId, failure.completedAt with
  | some row, some completedAt =>
    match row.foldIn settings failure completedAt with
    | some updated =>
      ({ world with issues := world.issues.write tx issueId (some updated) }).goto tx
        (.folded failure issueId)
    | none => world.rollback tx
  | _, _ => world.goto tx (.creating failure)

/-- The `INSERT`. -/
def create (failure : Failure Uuid) (issueId : Uuid) (now : Int) : GroupingWorld Tx Uuid :=
  match (world.issues.view tx).lookup issueId, failure.newIssue now with
  | none, some row =>
    ({ world with issues := world.issues.write tx issueId (some row) }).goto tx
      (.created failure issueId)
  | _, _ => world.rollback tx

def proceed (generated : Uuid) (now : Int) : GroupingPhase Uuid → Option (GroupingWorld Tx Uuid)
  | .idle => none
  | .searching _ => none
  | .folding failure issueId => some (world.fold settings tx failure issueId)
  | .creating failure =>
    if world.issues.free tx generated then some (world.create tx failure generated now) else none
  | .folded failure issueId =>
    some (world.commit tx issueId (world.failures issueId ++ [failure]))
  | .created failure issueId => some (world.commit tx issueId [failure])

def step : Tx × GroupingAction Uuid → Option (GroupingWorld Tx Uuid)
  | (tx, .begin failure) =>
    match world.phase tx with
    | .idle =>
      some (world.goto tx
        (if failure.groups settings.policy then .searching failure else .creating failure))
    | _ => none
  | (tx, .search found) =>
    match world.phase tx with
    | .searching failure => world.search settings tx failure found
    | _ => none
  | (tx, .proceed generated now) => world.proceed settings tx generated now (world.phase tx)
  | (tx, .abort) =>
    match world.phase tx with
    | .idle => none
    | _ => some (world.rollback tx)

end GroupingWorld

end Steps

end CogniDQ.Issues
