import CogniDQ.Database.ReadCommitted
import CogniDQ.Issues.IssueGrouping
import CogniDQ.Protocol.Runs
import Mathlib.Algebra.Ring.Int.Defs

/-!
# One issue for a group of failures

A live issue is the only one for its rule and dataset, and counts the failures folded into it, as long
as no two failures of a group look for the issue that neither of them has created yet.
-/

set_option autoImplicit false

namespace CogniDQ.Issues

open CogniDQ.Database CogniDQ.Protocol

section Groups

variable {Uuid : Type} (settings : GroupingSettings)

/-- Two instants of one calendar day of the workspace. -/
def SameDay (left right : Int) : Prop :=
  ∀ zone ∈ settings.zone, zone.localDay left = zone.localDay right

/-- Two issues of one rule and dataset, and of one day where that counts. -/
structure IssueRow.SameSlot (left right : IssueRow Uuid) : Prop where
  workspace : left.workspaceId = right.workspaceId
  rule : left.ruleId = right.ruleId
  dataset : left.datasetId = right.datasetId
  day : settings.policy = .onePerDay → SameDay settings left.openedAt right.openedAt

/-- Two failures of one rule and dataset, and of one day where that counts. -/
structure Failure.SameSlot (left right : Failure Uuid) : Prop where
  workspace : left.workspaceId = right.workspaceId
  rule : left.ruleId = right.ruleId
  dataset : left.datasetId = right.datasetId
  day : settings.policy = .onePerDay → ∀ first ∈ left.completedAt, ∀ second ∈ right.completedAt,
    SameDay settings first second

/-- A live issue of the rule and dataset of a failure, and of its day where that counts. -/
structure IssueRow.Takes (row : IssueRow Uuid) (failure : Failure Uuid) : Prop where
  live : row.status.groupable = true
  workspace : row.workspaceId = failure.workspaceId
  rule : row.ruleId = failure.ruleId
  dataset : row.datasetId = failure.datasetId
  day : settings.policy = .onePerDay → ∀ completedAt ∈ failure.completedAt,
    SameDay settings row.openedAt completedAt

def IssueRow.Grouped (row : IssueRow Uuid) : Prop :=
  row.status.groupable = true ∧ row.ruleId.isSome = true ∧ row.datasetId.isSome = true

def States (summary : String) (count : Int) : Prop :=
  ∃ rest, summary = toString count ++ " of " ++ rest ∨
    summary = toString count ++ " failures recorded (last seen: " ++ rest

/-- The issue stands for the failures. It has been seen last when the latest of them completed; one
that no failure has been folded into has no such time. -/
structure IssueRow.Counts (row : IssueRow Uuid) (failures : List (Failure Uuid)) : Prop where
  failureCount : row.failureCount = some (failures.map (·.rowsFailed)).sum
  impactSummary : States row.impactSummary (failures.map (·.rowsFailed)).sum
  lastSeen : row.lastSeenAt = none ∧ failures.length = 1 ∨
    ∃ seen, row.lastSeenAt = some seen ∧ (∃ failure ∈ failures, failure.completedAt = some seen) ∧
      ∀ failure ∈ failures, ∀ completedAt ∈ failure.completedAt, completedAt ≤ seen

variable {settings} {row other updated : IssueRow Uuid} {failure later : Failure Uuid}
  {failures : List (Failure Uuid)} {completedAt now : Int}

theorem SameDay.symm {left right : Int} (same : SameDay settings left right) :
    SameDay settings right left :=
  fun zone here => (same zone here).symm

theorem SameDay.trans {first second third : Int} (left : SameDay settings first second)
    (right : SameDay settings second third) : SameDay settings first third :=
  fun zone here => (left zone here).trans (right zone here)

theorem sameSlot_of_takes (left : row.Takes settings failure) (right : row.Takes settings later) :
    failure.SameSlot settings later where
  workspace := left.workspace.symm.trans right.workspace
  rule := left.rule.symm.trans right.rule
  dataset := left.dataset.symm.trans right.dataset
  day daily first here second there :=
    (left.day daily first here).symm.trans (right.day daily second there)

theorem IssueRow.SameSlot.symm (same : row.SameSlot settings other) : other.SameSlot settings row :=
  ⟨same.workspace.symm, same.rule.symm, same.dataset.symm, fun daily => (same.day daily).symm⟩

private theorem IssueRow.SameSlot.trans {third : IssueRow Uuid} (left : row.SameSlot settings other)
    (right : other.SameSlot settings third) : row.SameSlot settings third :=
  ⟨left.workspace.trans right.workspace, left.rule.trans right.rule,
    left.dataset.trans right.dataset, fun daily => (left.day daily).trans (right.day daily)⟩

private theorem Failure.SameSlot.symm (same : failure.SameSlot settings later) :
    later.SameSlot settings failure :=
  ⟨same.workspace.symm, same.rule.symm, same.dataset.symm,
    fun daily first here second there => (same.day daily second there first here).symm⟩

private theorem Failure.SameSlot.groups (same : failure.SameSlot settings later) :
    failure.groups settings.policy = later.groups settings.policy := by
  unfold Failure.groups
  rw [same.rule, same.dataset]

theorem IssueRow.SameSlot.takes (same : other.SameSlot settings row) (live : other.status.groupable)
    (takes : row.Takes settings failure) : other.Takes settings failure where
  live := live
  workspace := same.workspace.trans takes.workspace
  rule := same.rule.trans takes.rule
  dataset := same.dataset.trans takes.dataset
  day daily completedAt here := (same.day daily).trans (takes.day daily completedAt here)

/-! ### The update of an issue and a new issue -/

private theorem states_grouped (count lastSeenAt : Int) :
    States (groupedImpactSummary settings count lastSeenAt) count := by
  refine ⟨settings.isoformat lastSeenAt ++ ")", .inr ?_⟩
  unfold groupedImpactSummary
  simp only [String.append_assoc]
  rfl

private theorem states_created (failure : Failure Uuid) :
    States failure.impactSummary failure.rowsFailed := by
  unfold Failure.impactSummary
  split
  · rename_i rate _
    refine ⟨toString failure.rowsScanned ++ (" rows failed (" ++ (rate ++ "% pass rate)")), .inl ?_⟩
    simp only [String.append_assoc]
    rfl
  · refine ⟨toString failure.rowsScanned ++ " rows failed", .inl ?_⟩
    simp only [String.append_assoc]
    rfl

private theorem foldIn_slot (folded : row.foldIn settings failure completedAt = some updated) :
    updated.SameSlot settings row ∧ updated.status = row.status := by
  unfold IssueRow.foldIn at folded
  dsimp only at folded
  split_ifs at folded
  obtain rfl := Option.some.inj folded
  exact ⟨⟨rfl, rfl, rfl, fun _ _ _ => rfl⟩, rfl⟩

private theorem foldIn_counts (counts : row.Counts failures)
    (folded : row.foldIn settings failure completedAt = some updated)
    (completed : failure.completedAt = some completedAt)
    (ordered : ∀ earlier ∈ failures, ∀ before ∈ earlier.completedAt, before ≤ completedAt) :
    updated.Counts (failures ++ [failure]) := by
  unfold IssueRow.foldIn at folded
  dsimp only at folded
  split_ifs at folded
  obtain rfl := Option.some.inj folded
  have total : ((failures ++ [failure]).map (·.rowsFailed)).sum =
      (failures.map (·.rowsFailed)).sum + failure.rowsFailed := by
    rw [List.map_append, List.sum_append, List.map_singleton, List.sum_singleton]
  constructor
  · rw [total, counts.failureCount]
    rfl
  · rw [total, counts.failureCount]
    exact states_grouped _ _
  · refine .inr ⟨completedAt, rfl, ⟨failure, List.mem_append_right _ List.mem_cons_self, completed⟩,
      fun earlier listed before here => ?_⟩
    rcases List.mem_append.mp listed with old | new
    · exact ordered earlier old before here
    · obtain rfl := List.mem_singleton.mp new
      rw [completed] at here
      obtain rfl := Option.some.inj here
      exact Int.le_refl _

theorem newIssue_counts (created : failure.newIssue now = some row) : row.Counts [failure] := by
  unfold Failure.newIssue at created
  split_ifs at created
  obtain rfl := Option.some.inj created
  have total : ([failure].map (·.rowsFailed)).sum = failure.rowsFailed := by
    rw [List.map_singleton, List.sum_singleton]
  constructor
  · rw [total]
  · rw [total]
    exact states_created failure
  · exact .inl ⟨rfl, rfl⟩

private theorem newIssue_takes (created : failure.newIssue now = some row)
    (timely : settings.policy = .onePerDay → ∀ completedAt ∈ failure.completedAt,
      SameDay settings now completedAt) : row.Takes settings failure := by
  unfold Failure.newIssue at created
  split_ifs at created
  obtain rfl := Option.some.inj created
  exact ⟨rfl, rfl, rfl, rfl, timely⟩

end Groups

/-! ### The invariant -/

variable {Tx Uuid : Type} [DecidableEq Uuid]

def GroupingPhase.creates : GroupingPhase Uuid → Option (Failure Uuid)
  | .creating failure => some failure
  | .created failure _ => some failure
  | _ => none

def Failure.WholeDay (settings : GroupingSettings) (failure : Failure Uuid) : Prop :=
  ∃ zone, settings.zone = some zone ∧ ∀ completedAt ∈ failure.completedAt, ∀ instant,
    (zone.dayWindow completedAt).1 ≤ instant ∧ instant < (zone.dayWindow completedAt).2 ↔
      zone.localDay instant = zone.localDay completedAt

namespace GroupingWorld

/-- In the committed state, one live issue for a rule and dataset, and for a day where that counts;
it counts its failures. -/
structure Grouped (settings : GroupingSettings) (world : GroupingWorld Tx Uuid) : Prop where
  single : ∀ left right first second, world.issues.committed.lookup left = some first →
    world.issues.committed.lookup right = some second → first.Grouped → second.Grouped →
      first.SameSlot settings second → left = right
  counted : ∀ issueId row, world.issues.committed.lookup issueId = some row → row.Grouped →
    row.Counts (world.failures issueId)

def Vacant (settings : GroupingSettings) (world : GroupingWorld Tx Uuid)
    (failure : Failure Uuid) : Prop :=
  ∀ issueId row, world.issues.committed.lookup issueId = some row → ¬row.Takes settings failure

/-- What a transaction has locked and written when it comes to a statement. -/
def Follows (settings : GroupingSettings) (world : GroupingWorld Tx Uuid) (tx : Tx) :
    GroupingPhase Uuid → Prop
  | .idle => world.issues.pending tx = ∅
  | .searching failure => world.issues.pending tx = ∅ ∧
    failure.groups settings.policy = true ∧ failure.completedAt.isSome = true
  | .folding failure issueId => world.issues.pending tx = ∅ ∧
    failure.groups settings.policy = true ∧ failure.completedAt.isSome = true ∧
    world.issues.holder issueId = some tx ∧
    (world.issues.committed.lookup issueId).isSome = true
  | .creating failure => world.issues.pending tx = ∅ ∧
    (failure.groups settings.policy = true → failure.completedAt.isSome = true)
  | .folded failure issueId => ∃ row updated completedAt,
    world.issues.holder issueId = some tx ∧ world.issues.committed.lookup issueId = some row ∧
      failure.completedAt = some completedAt ∧
      row.foldIn settings failure completedAt = some updated ∧
      world.issues.Wrote tx issueId updated ∧
      ∀ earlier ∈ world.failures issueId, ∀ before ∈ earlier.completedAt, before ≤ completedAt
  | .created failure issueId => ∃ row now,
    world.issues.holder issueId = some tx ∧ world.issues.committed.lookup issueId = none ∧
      failure.newIssue now = some row ∧ world.issues.Wrote tx issueId row ∧
      (failure.groups settings.policy = true → row.Takes settings failure)

structure Sound (settings : GroupingSettings) (world : GroupingWorld Tx Uuid) : Prop where
  owned : world.issues.Owned
  grouped : world.Grouped settings
  follows : ∀ tx, world.Follows settings tx (world.phase tx)
  /-- Two transactions create issues for different groups. -/
  apart : ∀ tx other failure later, tx ≠ other → (world.phase tx).creates = some failure →
    (world.phase other).creates = some later → failure.groups settings.policy = true →
      ¬failure.SameSlot settings later
  vacant : ∀ tx failure, (world.phase tx).creates = some failure →
    failure.groups settings.policy = true → world.Vacant settings failure

/-- The condition on a step: failures have completed; a search that finds nothing is alone in its
group; an issue is created on the day that its check completed; failures are folded in the order of
their completion. -/
def Careful (settings : GroupingSettings) (world : GroupingWorld Tx Uuid) :
    Tx × GroupingAction Uuid → Prop
  | (_, .begin failure) =>
    failure.groups settings.policy = true → failure.completedAt.isSome = true
  | (tx, .search found) =>
    match world.phase tx with
    | .searching failure =>
      (settings.policy = .onePerDay → failure.WholeDay settings) ∧
        (found = none → ∀ other later, other ≠ tx → (world.phase other).creates = some later →
          ¬failure.SameSlot settings later)
    | _ => True
  | (tx, .proceed _ now) =>
    match world.phase tx with
    | .creating failure => failure.groups settings.policy = true → settings.policy = .onePerDay →
      ∀ completedAt ∈ failure.completedAt, SameDay settings now completedAt
    | .folding failure issueId => ∀ earlier ∈ world.failures issueId,
      ∀ before ∈ earlier.completedAt, ∀ completedAt ∈ failure.completedAt, before ≤ completedAt
    | _ => True
  | (_, .abort) => True

/-! ### The steps of the others -/

/-- What a step of one transaction leaves to another. -/
structure Leaves (world next : GroupingWorld Tx Uuid) (tx : Tx) : Prop where
  issues : world.issues.Frame next.issues tx
  failures : ∀ issueId, world.issues.holder issueId = some tx →
    next.failures issueId = world.failures issueId

variable {settings : GroupingSettings} {world next : GroupingWorld Tx Uuid} {tx : Tx}

theorem Follows.leaves {phase : GroupingPhase Uuid} (follows : world.Follows settings tx phase)
    (leaves : world.Leaves next tx) : next.Follows settings tx phase := by
  have quiet : world.issues.pending tx = ∅ → next.issues.pending tx = ∅ :=
    leaves.issues.pending.trans
  cases phase with
  | idle => exact quiet follows
  | searching => exact ⟨quiet follows.1, follows.2⟩
  | creating => exact ⟨quiet follows.1, follows.2⟩
  | folding failure issueId =>
    obtain ⟨idle, groups, completed, held, present⟩ := follows
    refine ⟨quiet idle, groups, completed, leaves.issues.held _ held, ?_⟩
    rw [leaves.issues.committed _ held]
    exact present
  | folded failure issueId =>
    obtain ⟨row, updated, completedAt, held, present, completed, folded, wrote, ordered⟩ := follows
    refine ⟨row, updated, completedAt, leaves.issues.held _ held,
      (leaves.issues.committed _ held).trans present, completed, folded, wrote.frame leaves.issues, ?_⟩
    rw [leaves.failures issueId held]
    exact ordered
  | created failure issueId =>
    obtain ⟨row, now, held, absent, created, wrote, takes⟩ := follows
    exact ⟨row, now, leaves.issues.held _ held, (leaves.issues.committed _ held).trans absent,
      created, wrote.frame leaves.issues, takes⟩

/-! ### Steps -/

section Steps

variable [DecidableEq Tx]

structure Advances (world next : GroupingWorld Tx Uuid) (tx : Tx) (phase : GroupingPhase Uuid) :
    Prop where
  committed : next.issues.committed = world.issues.committed
  failures : next.failures = world.failures
  owned : next.issues.Owned
  leaves : ∀ other, other ≠ tx → world.Leaves next other
  phase : next.phase = Function.update world.phase tx phase

/-- The group of an issue to be created is the transaction's own. -/
def Claims (settings : GroupingSettings) (world : GroupingWorld Tx Uuid) (tx : Tx)
    (phase : GroupingPhase Uuid) : Prop :=
  ∀ failure, phase.creates = some failure → failure.groups settings.policy = true →
    world.Vacant settings failure ∧ ∀ other later, other ≠ tx →
      (world.phase other).creates = some later → ¬failure.SameSlot settings later

omit [DecidableEq Tx] in
theorem claims_of_none {phase : GroupingPhase Uuid} (creates : phase.creates = none) :
    world.Claims settings tx phase := by
  intro failure created
  rw [creates] at created
  cases created

omit [DecidableEq Tx] in
private theorem Sound.claims (sound : world.Sound settings) {phase : GroupingPhase Uuid}
    (same : phase.creates = (world.phase tx).creates) : world.Claims settings tx phase := by
  intro failure creates groups
  rw [same] at creates
  exact ⟨sound.vacant tx failure creates groups, fun other later apart created =>
    sound.apart tx other failure later apart.symm creates created groups⟩

theorem Sound.apart_update (sound : world.Sound settings) {phase : GroupingPhase Uuid}
    (claims : world.Claims settings tx phase) (left right : Tx) (failure later : Failure Uuid)
    (different : left ≠ right)
    (creates : (Function.update world.phase tx phase left).creates = some failure)
    (created : (Function.update world.phase tx phase right).creates = some later)
    (groups : failure.groups settings.policy = true) : ¬failure.SameSlot settings later := by
  by_cases mine : left = tx
  · subst mine
    rw [Function.update_self] at creates
    rw [Function.update_of_ne different.symm] at created
    exact (claims failure creates groups).2 right later different.symm created
  · rw [Function.update_of_ne mine] at creates
    by_cases own : right = tx
    · subst own
      rw [Function.update_self] at created
      intro same
      exact (claims later created (same.groups ▸ groups)).2 left failure mine creates same.symm
    · rw [Function.update_of_ne own] at created
      exact sound.apart left right failure later different creates created groups

theorem Sound.advance (sound : world.Sound settings) {phase : GroupingPhase Uuid}
    (advances : world.Advances next tx phase) (claims : world.Claims settings tx phase)
    (follows : next.Follows settings tx phase) : next.Sound settings := by
  refine ⟨advances.owned, ⟨?_, ?_⟩, fun other => ?_, ?_, ?_⟩
  · rw [advances.committed]
    exact sound.grouped.single
  · rw [advances.committed, advances.failures]
    exact sound.grouped.counted
  · rw [advances.phase]
    by_cases same : other = tx
    · subst same
      rw [Function.update_self]
      exact follows
    · rw [Function.update_of_ne same]
      exact (sound.follows other).leaves (advances.leaves other same)
  · rw [advances.phase]
    exact sound.apart_update claims
  · intro other failure creates groups
    unfold Vacant
    rw [advances.committed]
    rw [advances.phase] at creates
    by_cases same : other = tx
    · subst same
      rw [Function.update_self] at creates
      exact (claims failure creates groups).1
    · rw [Function.update_of_ne same] at creates
      exact sound.vacant other failure creates groups

theorem Sound.advances_goto (sound : world.Sound settings) (phase : GroupingPhase Uuid) :
    world.Advances (world.goto tx phase) tx phase :=
  ⟨rfl, rfl, sound.owned, fun _ _ => ⟨Table.Frame.refl _ _, fun _ _ => rfl⟩, rfl⟩

private theorem Sound.advances_lock (sound : world.Sound settings) (phase : GroupingPhase Uuid)
    {issueId : Uuid} (free : world.issues.free tx issueId = true) :
    world.Advances (({ world with issues := world.issues.lock tx issueId }).goto tx phase) tx
      phase :=
  ⟨rfl, rfl, sound.owned.lock free,
    fun _ apart => ⟨Table.frame_lock free apart, fun _ _ => rfl⟩, rfl⟩

theorem Sound.advances_write (sound : world.Sound settings) (phase : GroupingPhase Uuid)
    {issueId : Uuid} (value : Option (IssueRow Uuid))
    (free : world.issues.free tx issueId = true) :
    world.Advances (({ world with issues := world.issues.write tx issueId value }).goto tx phase)
      tx phase :=
  ⟨rfl, rfl, sound.owned.write free value,
    fun _ apart => ⟨Table.frame_write free value apart, fun _ _ => rfl⟩, rfl⟩

theorem Sound.rollback (sound : world.Sound settings) (tx : Tx) :
    (world.rollback tx).Sound settings := by
  have advances : world.Advances (world.rollback tx) tx .idle :=
    ⟨rfl, rfl, sound.owned.release tx,
      fun _ apart => ⟨Table.frame_release apart, fun _ _ => rfl⟩, rfl⟩
  exact sound.advance advances (claims_of_none rfl) (Function.update_self ..)

theorem Sound.commit (sound : world.Sound settings) {issueId : Uuid} {failures : List (Failure Uuid)}
    {row : IssueRow Uuid} (wrote : world.issues.Wrote tx issueId row)
    (single : ∀ other first, other ≠ issueId → world.issues.committed.lookup other = some first →
      first.Grouped → row.Grouped → ¬first.SameSlot settings row)
    (counted : row.Grouped → row.Counts failures)
    (vacant : ∀ other failure, other ≠ tx → (world.phase other).creates = some failure →
      failure.groups settings.policy = true → ¬row.Takes settings failure) :
    (world.commit tx issueId failures).Sound settings := by
  have found : ∀ other first, (world.issues.view tx).lookup other = some first →
      other = issueId ∧ first = row ∨
        other ≠ issueId ∧ world.issues.committed.lookup other = some first := by
    intro other first present
    by_cases same : other = issueId
    · subst same
      exact .inl ⟨rfl, (Option.some.inj (wrote.view_self.symm.trans present)).symm⟩
    · exact .inr ⟨same, (wrote.view_other same).symm.trans present⟩
  refine ⟨sound.owned.release tx, ⟨?_, ?_⟩, fun other => ?_, ?_, ?_⟩
  · intro left right first second leftFound rightFound leftGrouped rightGrouped same
    rcases found left first leftFound with ⟨rfl, rfl⟩ | ⟨leftApart, before⟩
    · rcases found right second rightFound with ⟨rfl, rfl⟩ | ⟨rightApart, before⟩
      · rfl
      · exact absurd same.symm (single right second rightApart before rightGrouped leftGrouped)
    · rcases found right second rightFound with ⟨rfl, rfl⟩ | ⟨rightApart, later⟩
      · exact absurd same (single left first leftApart before leftGrouped rightGrouped)
      · exact sound.grouped.single left right first second before later leftGrouped rightGrouped same
  · intro other first present grouped
    change first.Counts (Function.update world.failures issueId failures other)
    rcases found other first present with ⟨rfl, rfl⟩ | ⟨apart, before⟩
    · rw [Function.update_self]
      exact counted grouped
    · rw [Function.update_of_ne apart]
      exact sound.grouped.counted other first before grouped
  · change Follows settings _ other (Function.update world.phase tx .idle other)
    by_cases same : other = tx
    · subst same
      rw [Function.update_self]
      exact Function.update_self ..
    · rw [Function.update_of_ne same]
      refine (sound.follows other).leaves ⟨Table.frame_commit sound.owned same, fun held mine => ?_⟩
      have apart : held ≠ issueId := by
        rintro rfl
        exact same (Option.some.inj (mine.symm.trans (wrote.held sound.owned)))
      exact Function.update_of_ne apart _ _
  · exact sound.apart_update (claims_of_none rfl)
  · intro other failure creates groups held first present takes
    change (Function.update world.phase tx .idle other).creates = some failure at creates
    by_cases same : other = tx
    · subst same
      rw [Function.update_self] at creates
      cases creates
    · rw [Function.update_of_ne same] at creates
      rcases found held first present with ⟨rfl, rfl⟩ | ⟨_, before⟩
      · exact vacant other failure same creates groups takes
      · exact sound.vacant other failure creates groups held first before takes

/-! ### The statements -/

variable {failure : Failure Uuid} {issueId generated : Uuid} {now : Int}

omit [DecidableEq Uuid] [DecidableEq Tx] in
private theorem groups_iff (grouping : settings.policy ≠ .onePerExecution) :
    failure.groups settings.policy = true ↔
      failure.ruleId.isSome = true ∧ failure.datasetId.isSome = true := by
  unfold Failure.groups
  rw [Bool.and_eq_true, Bool.and_eq_true, bne_iff_ne]
  exact ⟨fun groups => ⟨groups.1.2, groups.2⟩, fun both => ⟨⟨grouping, both.1⟩, both.2⟩⟩

omit [DecidableEq Tx] in
private theorem answers_of_takes {row : IssueRow Uuid} {window : Option (Int × Int)}
    (takes : row.Takes settings failure) (found : failure.window settings = some window)
    (whole : settings.policy = .onePerDay → failure.WholeDay settings) :
    row.answers failure window = true := by
  unfold IssueRow.answers
  rw [takes.workspace, takes.rule, takes.dataset, takes.live]
  simp only [beq_self_eq_true, Bool.true_and]
  unfold Failure.window at found
  split_ifs at found with daily
  · obtain ⟨zone, here, found⟩ := Option.bind_eq_some_iff.mp found
    obtain ⟨completedAt, completed, rfl⟩ := Option.map_eq_some_iff.mp found
    obtain ⟨same, here', whole⟩ := whole daily
    obtain rfl := Option.some.inj (here.symm.trans here')
    obtain ⟨after, before⟩ := (whole completedAt completed row.openedAt).mpr
      (takes.day daily completedAt completed zone here)
    rw [Option.all_some, decide_eq_true after, decide_eq_true before]
    rfl
  · obtain rfl := Option.some.inj found
    rfl

private theorem Sound.search (sound : world.Sound settings) {found : Option Uuid}
    (at_ : world.phase tx = .searching failure)
    (whole : settings.policy = .onePerDay → failure.WholeDay settings)
    (alone : found = none → ∀ other later, other ≠ tx → (world.phase other).creates = some later →
      ¬failure.SameSlot settings later)
    (stepped : world.search settings tx failure found = some next) : next.Sound settings := by
  have follows := sound.follows tx
  rw [at_] at follows
  obtain ⟨quiet, groups, completed⟩ := follows
  unfold GroupingWorld.search at stepped
  split at stepped
  · rename_i raises
    exfalso
    unfold Failure.window at raises
    split_ifs at raises with daily
    obtain ⟨zone, here, _⟩ := whole daily
    obtain ⟨completedAt, at_⟩ := Option.isSome_iff_exists.mp completed
    rw [here, at_] at raises
    cases raises
  · rename_i window searched
    split_ifs at stepped with finds
    rw [Table.view_of_quiet quiet] at finds
    cases found with
    | none =>
      obtain rfl := Option.some.inj stepped
      refine sound.advance (sound.advances_goto _) ?_ ⟨quiet, fun _ => completed⟩
      rintro _ ⟨⟩ _
      refine ⟨fun issueId row present takes => ?_, alone rfl⟩
      have listed := List.all_eq_true.mp finds ⟨issueId, row⟩ (AList.mem_lookup_iff.mp present)
      rw [answers_of_takes takes searched whole] at listed
      cases listed
    | some issueId =>
      dsimp only at stepped
      split_ifs at stepped with free
      obtain rfl := Option.some.inj stepped
      refine sound.advance (sound.advances_lock _ free) (claims_of_none rfl)
        ⟨quiet, groups, completed, Function.update_self .., ?_⟩
      obtain ⟨row, present, _⟩ := (Option.any_eq_true _ _).mp finds
      exact Option.isSome_iff_exists.mpr ⟨row, present⟩

theorem Sound.fold (sound : world.Sound settings) (at_ : world.phase tx = .folding failure issueId)
    (ordered : ∀ earlier ∈ world.failures issueId, ∀ before ∈ earlier.completedAt,
      ∀ completedAt ∈ failure.completedAt, before ≤ completedAt) :
    (world.fold settings tx failure issueId).Sound settings := by
  have follows := sound.follows tx
  rw [at_] at follows
  obtain ⟨quiet, groups, completed, held, present⟩ := follows
  obtain ⟨row, present⟩ := Option.isSome_iff_exists.mp present
  obtain ⟨completedAt, completed⟩ := Option.isSome_iff_exists.mp completed
  unfold GroupingWorld.fold
  rw [Table.view_of_quiet quiet, present, completed]
  dsimp only
  split
  · rename_i updated folded
    exact sound.advance (sound.advances_write _ _ (Table.free_of_held held)) (claims_of_none rfl)
      ⟨row, updated, completedAt, Function.update_self .., present, completed, folded,
        Table.wrote_of_quiet quiet rfl, fun earlier listed before here =>
          ordered earlier listed before here completedAt completed⟩
  · exact sound.rollback tx

theorem Sound.create (sound : world.Sound settings) (at_ : world.phase tx = .creating failure)
    (timely : failure.groups settings.policy = true → settings.policy = .onePerDay →
      ∀ completedAt ∈ failure.completedAt, SameDay settings now completedAt)
    (free : world.issues.free tx issueId = true) :
    (world.create tx failure issueId now).Sound settings := by
  have follows := sound.follows tx
  rw [at_] at follows
  obtain ⟨quiet, completed⟩ := follows
  unfold GroupingWorld.create
  rw [Table.view_of_quiet quiet]
  split
  · rename_i row absent created
    refine sound.advance (sound.advances_write _ _ free) (sound.claims ?_)
      ⟨row, now, Function.update_self .., absent, created, Table.wrote_of_quiet quiet rfl,
        fun groups => newIssue_takes created (timely groups)⟩
    rw [at_]
    rfl
  · exact sound.rollback tx

theorem Sound.folded (sound : world.Sound settings) (at_ : world.phase tx = .folded failure issueId) :
    (world.commit tx issueId (world.failures issueId ++ [failure])).Sound settings := by
  have follows := sound.follows tx
  rw [at_] at follows
  obtain ⟨row, updated, completedAt, _, present, completed, folded, wrote, ordered⟩ := follows
  obtain ⟨slot, status⟩ := foldIn_slot folded
  have grouped : updated.Grouped → row.Grouped := by
    rintro ⟨live, rule, dataset⟩
    exact ⟨status ▸ live, slot.rule ▸ rule, slot.dataset ▸ dataset⟩
  refine sound.commit wrote (fun other first apart before firstGrouped newGrouped same => ?_)
    (fun newGrouped => ?_) fun other later apart creates groups takes => ?_
  · exact apart (sound.grouped.single other issueId first row before present firstGrouped
      (grouped newGrouped) (same.trans slot))
  · exact foldIn_counts (sound.grouped.counted issueId row present (grouped newGrouped)) folded
      completed ordered
  · exact sound.vacant other later creates groups issueId row present
      (slot.symm.takes (status ▸ takes.live) takes)

private theorem Sound.created (sound : world.Sound settings)
    (grouping : settings.policy ≠ .onePerExecution)
    (at_ : world.phase tx = .created failure issueId) :
    (world.commit tx issueId [failure]).Sound settings := by
  have follows := sound.follows tx
  rw [at_] at follows
  obtain ⟨row, now, _, absent, created, wrote, takes⟩ := follows
  have creates : (world.phase tx).creates = some failure := by
    rw [at_]
    rfl
  have slot : row.ruleId = failure.ruleId ∧ row.datasetId = failure.datasetId := by
    unfold Failure.newIssue at created
    split_ifs at created
    obtain rfl := Option.some.inj created
    exact ⟨rfl, rfl⟩
  have grouped : row.Grouped → failure.groups settings.policy = true := by
    rintro ⟨_, rule, dataset⟩
    exact (groups_iff grouping).mpr ⟨slot.1 ▸ rule, slot.2 ▸ dataset⟩
  refine sound.commit wrote (fun other first apart before firstGrouped newGrouped same => ?_)
    (fun _ => newIssue_counts created) fun other later apart laterCreates groups laterTakes => ?_
  · have newTakes := takes (grouped newGrouped)
    exact sound.vacant tx failure creates (grouped newGrouped) other first before
      (same.takes firstGrouped.1 newTakes)
  · obtain ⟨rule, dataset⟩ := (groups_iff grouping).mp groups
    have own : failure.groups settings.policy = true := (groups_iff grouping).mpr
      ⟨slot.1 ▸ laterTakes.rule ▸ rule, slot.2 ▸ laterTakes.dataset ▸ dataset⟩
    exact sound.apart tx other failure later apart.symm creates laterCreates own
      (sameSlot_of_takes (takes own) laterTakes)

theorem Sound.step (sound : world.Sound settings) (grouping : settings.policy ≠ .onePerExecution)
    {action : Tx × GroupingAction Uuid} (careful : world.Careful settings action)
    (stepped : world.step settings action = some next) : next.Sound settings := by
  obtain ⟨tx, action⟩ := action
  cases action with
  | begin failure =>
    dsimp only [GroupingWorld.step] at stepped
    split at stepped
    · rename_i idle
      have quiet := sound.follows tx
      rw [idle] at quiet
      obtain rfl := Option.some.inj stepped
      by_cases groups : failure.groups settings.policy = true
      · rw [if_pos groups]
        exact sound.advance (sound.advances_goto _) (claims_of_none rfl)
          ⟨quiet, groups, careful groups⟩
      · rw [if_neg groups]
        refine sound.advance (sound.advances_goto _) ?_ ⟨quiet, careful⟩
        rintro _ ⟨⟩ grouped
        exact absurd grouped groups
    · cases stepped
  | search found =>
    dsimp only [GroupingWorld.step] at stepped
    split at stepped
    · rename_i failure at_
      dsimp only [Careful] at careful
      rw [at_] at careful
      exact sound.search at_ careful.1 careful.2 stepped
    · cases stepped
  | proceed generated now =>
    dsimp only [GroupingWorld.step] at stepped
    dsimp only [Careful] at careful
    generalize at_ : world.phase tx = phase at stepped careful
    cases phase with
    | idle => cases stepped
    | searching => cases stepped
    | folding =>
      obtain rfl := Option.some.inj stepped
      exact sound.fold at_ careful
    | creating =>
      dsimp only [GroupingWorld.proceed] at stepped
      split_ifs at stepped with free
      obtain rfl := Option.some.inj stepped
      exact sound.create at_ careful free
    | folded =>
      obtain rfl := Option.some.inj stepped
      exact sound.folded at_
    | created =>
      obtain rfl := Option.some.inj stepped
      exact sound.created grouping at_
  | abort =>
    dsimp only [GroupingWorld.step] at stepped
    split at stepped
    · cases stepped
    · obtain rfl := Option.some.inj stepped
      exact sound.rollback tx

end Steps

theorem sound_start {issues : Rows Uuid (IssueRow Uuid)} {failures : Uuid → List (Failure Uuid)}
    (grouped : (start issues failures : GroupingWorld Tx Uuid).Grouped settings) :
    (start issues failures : GroupingWorld Tx Uuid).Sound settings :=
  ⟨Table.owned_quiet _, grouped, fun _ => rfl, fun _ _ _ _ _ creates => (nomatch creates),
    fun _ _ creates => (nomatch creates)⟩

/-- Under a grouping policy, careful runs keep one live issue for a group, which counts its
failures. -/
theorem failures_stay_grouped [DecidableEq Tx] (grouping : settings.policy ≠ .onePerExecution)
    {issues : Rows Uuid (IssueRow Uuid)} {failures : Uuid → List (Failure Uuid)}
    {schedule : List (Tx × GroupingAction Uuid)} {reached : GroupingWorld Tx Uuid}
    (begun : (start issues failures : GroupingWorld Tx Uuid).Grouped settings)
    (careful : RunMeets (step settings) (Careful settings)
      (start issues failures : GroupingWorld Tx Uuid) schedule)
    (ran : run (step settings) (start issues failures) schedule = some reached) :
    reached.Grouped settings := by
  have sound : reached.Sound settings :=
    run_preserves (fun _ _ _ sound careful stepped => Sound.step sound grouping careful stepped)
      (sound_start begun) careful ran
  exact sound.grouped

end GroupingWorld

/-! Two failures of rule 2 on dataset 3 in workspace 1, with 3 and 2 rows. -/

private def perRule : GroupingSettings where
  policy := .onePerRule
  zone := some ⟨fun _ => 0, fun _ => false, fun wall _ => wall⟩
  isoformat := toString

private def demoFailure (rowsFailed completedAt : Int) : Failure Nat :=
  ⟨1, some 2, some 3, "major", "[MAJOR] amount", rowsFailed, 10, none, some completedAt⟩

private def noIssues : GroupingWorld Nat Nat := GroupingWorld.start ∅ fun _ => []

private theorem noIssues_grouped (settings : GroupingSettings) : noIssues.Grouped settings :=
  ⟨fun _ _ _ _ found => (nomatch found), fun _ _ found => (nomatch found)⟩

private theorem not_grouped_of_rows {world : GroupingWorld Nat Nat} {left right : Nat}
    (apart : left ≠ right)
    (first : (world.issues.committed.lookup left).map (fun row =>
      (row.workspaceId, row.ruleId, row.datasetId, row.status)) =
        some (1, some 2, some 3, .open))
    (second : (world.issues.committed.lookup right).map (fun row =>
      (row.workspaceId, row.ruleId, row.datasetId, row.status)) =
        some (1, some 2, some 3, .open)) : ¬world.Grouped perRule := by
  obtain ⟨row, found, columns⟩ := Option.map_eq_some_iff.mp first
  obtain ⟨other, otherFound, otherColumns⟩ := Option.map_eq_some_iff.mp second
  simp only [Prod.mk.injEq] at columns otherColumns
  obtain ⟨workspace, rule, dataset, status⟩ := columns
  obtain ⟨otherWorkspace, otherRule, otherDataset, otherStatus⟩ := otherColumns
  intro grouped
  refine apart (grouped.single left right row other found otherFound ⟨?_, ?_, ?_⟩ ⟨?_, ?_, ?_⟩
    ⟨workspace.trans otherWorkspace.symm, rule.trans otherRule.symm,
      dataset.trans otherDataset.symm, fun daily => nomatch daily⟩)
  · rw [status]
    rfl
  · rw [rule]
    rfl
  · rw [dataset]
    rfl
  · rw [otherStatus]
    rfl
  · rw [otherRule]
    rfl
  · rw [otherDataset]
    rfl

private def laterSchedule : List (Nat × GroupingAction Nat) :=
  [(0, .begin (demoFailure 3 100)), (0, .search none), (0, .proceed 5 110), (0, .proceed 0 0),
    (1, .begin (demoFailure 2 200)), (1, .search (some 5)), (1, .proceed 0 0), (1, .proceed 0 0)]

private theorem laterSchedule_careful :
    RunMeets (GroupingWorld.step perRule) (GroupingWorld.Careful perRule) noIssues
      laterSchedule := by
  refine ⟨fun _ => rfl, fun _ begun => ?_⟩
  obtain rfl := Option.some.inj begun
  refine ⟨⟨nofun, fun _ other later apart creates => ?_⟩, fun _ searched => ?_⟩
  · change (Function.update (fun _ => GroupingPhase.idle) 0 _ other).creates = some later at creates
    rw [Function.update_of_ne apart] at creates
    cases creates
  obtain rfl := Option.some.inj searched
  refine ⟨fun _ daily => (nomatch daily), fun _ created => ?_⟩
  obtain rfl := Option.some.inj created
  refine ⟨trivial, fun _ committed => ?_⟩
  obtain rfl := Option.some.inj committed
  refine ⟨fun _ => rfl, fun _ begun => ?_⟩
  obtain rfl := Option.some.inj begun
  refine ⟨⟨nofun, nofun⟩, fun _ found => ?_⟩
  obtain rfl := Option.some.inj found
  refine ⟨fun earlier listed before here completedAt there => ?_, fun _ folded => ?_⟩
  · obtain rfl := List.mem_singleton.mp listed
    obtain rfl := Option.some.inj here
    obtain rfl := Option.some.inj there
    decide
  obtain rfl := Option.some.inj folded
  exact ⟨trivial, fun _ _ => trivial⟩

/-- The second failure is folded into the issue of the first. -/
theorem later_failure_folded :
    ∃ reached, run (GroupingWorld.step perRule) noIssues laterSchedule = some reached ∧
      (reached.issues.committed.lookup 5).map (·.failureCount) = some (some 5) ∧
      reached.Grouped perRule :=
  ⟨_, rfl, by decide +kernel, GroupingWorld.failures_stay_grouped (by decide) (noIssues_grouped _)
    laterSchedule_careful rfl⟩

/-- Two failures at a time each create an issue. -/
theorem first_failures_not_grouped :
    ∃ reached, run (GroupingWorld.step perRule) noIssues
        [(0, .begin (demoFailure 3 100)), (1, .begin (demoFailure 2 200)), (0, .search none),
          (1, .search none), (0, .proceed 5 210), (1, .proceed 6 220), (0, .proceed 0 0),
          (1, .proceed 0 0)] = some reached ∧
      ¬reached.Grouped perRule :=
  ⟨_, rfl, not_grouped_of_rows (by decide : 5 ≠ 6) (by decide +kernel) (by decide +kernel)⟩

end CogniDQ.Issues
