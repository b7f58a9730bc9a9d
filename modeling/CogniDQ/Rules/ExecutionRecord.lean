import CogniDQ.Protocol.Runs
import CogniDQ.Rules.RuleExecutor

/-!
# The record of a rule execution

`RuleExecutor.execute_rule` from its record's first commit to the last, with calls of
`cancel_execution` in other sessions between the commits. The record carries the numbers of the run
and stays cancelled as long as the violation samples are stored and the cancellation comes last.
-/

set_option autoImplicit false

namespace CogniDQ.Rules

open CogniDQ.Protocol CogniDQ.Python

inductive ExecutionStatus where
  | pending
  | running
  | completed
  | failed
  | cancelled
deriving DecidableEq

/-- `result_details`, without the sampled rows and the statistics. -/
structure ResultDetails where
  totalRows : Int
  passed : Int
  failed : Int
  passRate : Rat
  violationCount : Nat
  thresholdMet : Bool
deriving DecidableEq

structure RuleExecution where
  status : ExecutionStatus
  startedAt : Option Int
  completedAt : Option Int
  durationSeconds : Option Int
  rowsScanned : Int
  rowsPassed : Int
  rowsFailed : Int
  passRate : Option Rat
  errorMessage : Option String
  resultDetails : Option ResultDetails
deriving DecidableEq

def RuleExecution.new : RuleExecution where
  status := .pending
  startedAt := none
  completedAt := none
  durationSeconds := none
  rowsScanned := 0
  rowsPassed := 0
  rowsFailed := 0
  passRate := none
  errorMessage := none
  resultDetails := none

/-- What `_execute_sql_rule` returns. -/
structure SqlResult where
  counts : Counts
  violations : List Value

structure ThresholdConfig where
  /-- Whether a rate is less than `Decimal(str(pass_threshold))`, or the text of what that raises. -/
  belowPassThreshold : Option (Rat → Except String Bool)
  maxViolations : Value

def computePassRate (runtime : Runtime) (counts : Counts) : Rat :=
  if 0 < counts.rowsScanned then
    let passed := runtime.nearest (100 * runtime.nearest counts.rowsPassed)
    let rate := runtime.nearest (passed / runtime.nearest counts.rowsScanned)
    roundHalfEven (rate * 100) / 100
  else 0

/-- `rows_failed > max_violations`, where that is not null. -/
def exceeds (rowsFailed : Int) : Value → Except String Bool
  | .none => .ok false
  | .int limit => .ok (decide (limit < rowsFailed))
  | .float limit => .ok (decide (limit < rowsFailed))
  | .bool limit => .ok (decide ((if limit then 1 else 0) < rowsFailed))
  | .str _ => .error "'>' not supported between instances of 'int' and 'str'"
  | .list _ => .error "'>' not supported between instances of 'int' and 'list'"
  | .dict _ => .error "'>' not supported between instances of 'int' and 'dict'"

def checkThresholds (config : Option ThresholdConfig) (passRate : Rat) (rowsFailed : Int) :
    Except String Bool :=
  match config with
  | none => .ok true
  | some config => do
    let below ← match config.belowPassThreshold with
      | some below => below passRate
      | none => .ok false
    let exceeded ← exceeds rowsFailed config.maxViolations
    return !below && !exceeded

/-- How the storing of the violation samples ends. -/
inductive Storing where
  | stored
  /-- It raises before the session has flushed anything. -/
  | unprepared
  /-- An `INSERT` raises. -/
  | insertFailed
deriving DecidableEq

inductive ExecutorPhase where
  | pending
  | running
  /-- The numbers are set on the object, and the samples are next. -/
  | storing (result : SqlResult)
  /-- What the query has come to is next; the numbers may still be set on the object only. -/
  | finishing (outcome : Except String SqlResult) (unflushed : Bool)
  | done
  | raised

structure ExecutionWorld (Canceller : Type) where
  row : RuleExecution
  phase : ExecutorPhase
  /-- The calls of `cancel_execution` that have found a pending or running record, with the start they
  have read. -/
  cancelling : Canceller → Option (Option Int)
  /-- The result that the query has returned. -/
  returned : Option SqlResult
  /-- A call of `cancel_execution` has returned `True`. -/
  cancelled : Bool

inductive ExecutionAction (Canceller : Type) where
  | start (now : Int)
  | query (outcome : Except String SqlResult)
  | store (outcome : Storing)
  | finish (now : Int)
  | cancelRead (canceller : Canceller)
  | cancelCommit (canceller : Canceller) (now : Int)

section Steps

variable (runtime : Runtime) (config : Option ThresholdConfig)

def RuleExecution.count (row : RuleExecution) (counts : Counts) : RuleExecution :=
  { row with
    rowsScanned := counts.rowsScanned
    rowsPassed := counts.rowsPassed
    rowsFailed := counts.rowsFailed
    passRate := some (computePassRate runtime counts) }

def RuleExecution.stop (row : RuleExecution) (status : ExecutionStatus) (now : Int) :
    RuleExecution :=
  { row with
    status
    completedAt := some now
    durationSeconds := row.startedAt.map (now - ·) }

def RuleExecution.fail (row : RuleExecution) (message : String) (now : Int) : RuleExecution :=
  { row.stop .failed now with errorMessage := some message }

/-- The detailed results, from the numbers that the object reads back. -/
def RuleExecution.complete (row : RuleExecution) (result : SqlResult) (now : Int) : RuleExecution :=
  match row.passRate with
  -- `float(None)`
  | none => row.fail "float() argument must be a string or a real number, not 'NoneType'" now
  | some passRate =>
    match checkThresholds config passRate row.rowsFailed with
    | .error message => row.fail message now
    | .ok thresholdMet =>
      { row.stop .completed now with
        resultDetails := some
          { totalRows := row.rowsScanned
            passed := row.rowsPassed
            failed := row.rowsFailed
            passRate
            violationCount := result.violations.length
            thresholdMet } }

variable {Canceller : Type} [DecidableEq Canceller]

namespace ExecutionWorld

def start : ExecutionWorld Canceller where
  row := .new
  phase := .pending
  cancelling := fun _ => none
  returned := none
  cancelled := false

variable (world : ExecutionWorld Canceller)

def query : Except String SqlResult → ExecutionWorld Canceller
  | .error message => { world with phase := .finishing (.error message) false }
  | .ok result =>
    { world with
      phase := if result.violations.isEmpty then .finishing (.ok result) true else .storing result
      returned := some result }

def store (result : SqlResult) : Storing → ExecutionWorld Canceller
  -- The commit of the samples flushes the numbers as well.
  | .stored =>
    { world with
      row := world.row.count runtime result.counts
      phase := .finishing (.ok result) false }
  -- The rollback discards the numbers.
  | .unprepared => { world with phase := .finishing (.ok result) false }
  -- A failed flush has rolled back and expired the object, and the handler reads its identifier
  -- before it rolls back: that raises, there and in the branch for failed executions.
  | .insertFailed => { world with phase := .raised }

/-- The numbers and statuses that the object has, which the last commit writes. Of the columns that
the executor reads or writes here, a cancellation writes only those that this commit overwrites. -/
def finish (outcome : Except String SqlResult) (unflushed : Bool) (now : Int) :
    ExecutionWorld Canceller :=
  { world with
    row :=
      match outcome with
      | .error message => world.row.fail message now
      | .ok result =>
        (if unflushed then world.row.count runtime result.counts else world.row).complete config
          result now
    phase := .done }

def step : ExecutionAction Canceller → Option (ExecutionWorld Canceller)
  | .start now =>
    match world.phase with
    | .pending =>
      some { world with
        row := { world.row with status := .running, startedAt := some now }
        phase := .running }
    | _ => none
  | .query outcome =>
    match world.phase with
    | .running => some (world.query outcome)
    | _ => none
  | .store outcome =>
    match world.phase with
    | .storing result => some (world.store runtime result outcome)
    | _ => none
  | .finish now =>
    match world.phase with
    | .finishing outcome unflushed => some (world.finish runtime config outcome unflushed now)
    | _ => none
  | .cancelRead canceller =>
    if world.row.status = .pending ∨ world.row.status = .running then
      some { world with
        cancelling := Function.update world.cancelling canceller (some world.row.startedAt) }
    else some world
  | .cancelCommit canceller now =>
    (world.cancelling canceller).map fun startedAt =>
      { world with
        row := { world.row with
          status := .cancelled
          completedAt := some now
          durationSeconds := startedAt.map (now - ·) }
        cancelling := Function.update world.cancelling canceller none
        cancelled := true }

end ExecutionWorld

end Steps

section Law

variable {Canceller : Type} [DecidableEq Canceller]

structure RuleExecution.Carries (runtime : Runtime) (row : RuleExecution) (counts : Counts) : Prop where
  rowsScanned : row.rowsScanned = counts.rowsScanned
  rowsPassed : row.rowsPassed = counts.rowsPassed
  rowsFailed : row.rowsFailed = counts.rowsFailed
  passRate : row.passRate = some (computePassRate runtime counts)

namespace ExecutionWorld

variable (runtime : Runtime) (config : Option ThresholdConfig) (world : ExecutionWorld Canceller)

/-- The executor has returned or raised. -/
def Ended : Prop := world.phase = .done ∨ world.phase = .raised

/-- The thresholds can be checked against the numbers of a result. -/
def Checkable (result : SqlResult) : Prop :=
  ∃ met, checkThresholds config (computePassRate runtime result.counts) result.counts.rowsFailed =
    .ok met

/-- A completed record carries the numbers of the query; a run whose query has returned, and whose
thresholds can be checked, is completed at its end, unless it was cancelled; and it stays
cancelled. -/
structure Faithful : Prop where
  counts : world.row.status = .completed →
    ∃ result, world.returned = some result ∧ world.row.Carries runtime result.counts
  completed : ∀ result, world.returned = some result → world.Ended →
    Checkable runtime config result → world.phase = .done ∧ (world.row.status = .completed ∨ world.cancelled = true)
  cancelled : world.cancelled = true → world.row.status = .cancelled

/-- The samples are stored, and the executor writes no status after a cancellation. -/
def careful : ExecutionAction Canceller → Bool
  | .start _ => !world.cancelled
  | .query _ => true
  | .store outcome => decide (outcome = .stored)
  | .finish _ => !world.cancelled
  | .cancelRead _ => true
  | .cancelCommit _ _ => true

end ExecutionWorld

def ExecutorPhase.Knows (runtime : Runtime) (config : Option ThresholdConfig) (row : RuleExecution)
    (returned : Option SqlResult) (cancelled : Bool) : ExecutorPhase → Prop
  | .pending => row.status ≠ .completed ∧ returned = none
  | .running => row.status ≠ .completed ∧ returned = none
  | .storing result => row.status ≠ .completed ∧ returned = some result
  | .finishing (.error _) _ => row.status ≠ .completed ∧ returned = none
  | .finishing (.ok result) unflushed => row.status ≠ .completed ∧ returned = some result ∧
      (unflushed = false → row.Carries runtime result.counts)
  | .done =>
    (row.status = .completed →
      ∃ result, returned = some result ∧ row.Carries runtime result.counts) ∧
    ∀ result, returned = some result → ExecutionWorld.Checkable runtime config result →
      row.status = .completed ∨ cancelled = true
  | .raised => False

namespace ExecutionWorld

structure Sound (runtime : Runtime) (config : Option ThresholdConfig)
    (world : ExecutionWorld Canceller) : Prop where
  knows : world.phase.Knows runtime config world.row world.returned world.cancelled
  cancelled : world.cancelled = true → world.row.status = .cancelled

variable {runtime : Runtime} {config : Option ThresholdConfig}
  {world next : ExecutionWorld Canceller} {row : RuleExecution}
  {result : SqlResult} {now : Int}

theorem carries_count : (row.count runtime result.counts).Carries runtime result.counts :=
  ⟨rfl, rfl, rfl, rfl⟩

omit [DecidableEq Canceller] in
theorem Sound.faithful (sound : world.Sound runtime config) : world.Faithful runtime config := by
  have knows := sound.knows
  have started : world.row.status ≠ .completed → ¬world.Ended → world.Faithful runtime config := by
    intro unfinished running
    exact ⟨fun completed => absurd completed unfinished, fun _ _ ended => absurd ended running,
      sound.cancelled⟩
  cases at_ : world.phase with
  | pending | running | storing =>
    rw [at_] at knows
    refine started knows.1 fun ended => ?_
    rw [Ended, at_] at ended
    rcases ended with ended | ended <;> cases ended
  | finishing outcome unflushed =>
    rw [at_] at knows
    refine started ?_ fun ended => ?_
    · cases outcome with
      | error => exact knows.1
      | ok => exact knows.1
    · rw [Ended, at_] at ended
      rcases ended with ended | ended <;> cases ended
  | done =>
    rw [at_] at knows
    exact ⟨knows.1, fun result returned _ met => ⟨at_, knows.2 result returned met⟩,
      sound.cancelled⟩
  | raised =>
    rw [at_] at knows
    exact knows.elim

private theorem complete_cases (config : Option ThresholdConfig)
    (carries : row.Carries runtime result.counts) (now : Int) :
    (row.complete config result now).Carries runtime result.counts ∧
      ((row.complete config result now).status = .completed ∨
        ¬Checkable runtime config result) := by
  unfold RuleExecution.complete
  rw [carries.passRate, carries.rowsFailed]
  dsimp only
  cases checked : checkThresholds config (computePassRate runtime result.counts)
      result.counts.rowsFailed with
  | error message =>
    refine ⟨⟨carries.rowsScanned, carries.rowsPassed, carries.rowsFailed, carries.passRate⟩,
      .inr fun met => ?_⟩
    obtain ⟨_, met⟩ := met
    exact nomatch checked.symm.trans met
  | ok met =>
    exact ⟨⟨carries.rowsScanned, carries.rowsPassed, carries.rowsFailed, carries.passRate⟩,
      .inl rfl⟩

omit [DecidableEq Canceller] in
theorem Sound.finish (sound : world.Sound runtime config) {outcome : Except String SqlResult}
    {unflushed : Bool} (at_ : world.phase = .finishing outcome unflushed)
    (uncancelled : world.cancelled = false) :
    (world.finish runtime config outcome unflushed now).Sound runtime config := by
  have knows := sound.knows
  rw [at_] at knows
  refine ⟨?_, fun cancelled => (nomatch uncancelled.symm.trans cancelled)⟩
  cases outcome with
  | error message =>
    exact ⟨fun completed => (nomatch completed),
      fun _ returned => (nomatch knows.2.symm.trans returned)⟩
  | ok result =>
    obtain ⟨_, returned, carried⟩ := knows
    have carries : (if unflushed then world.row.count runtime result.counts
        else world.row).Carries runtime result.counts := by
      cases unflushed with
      | true => exact carries_count
      | false => exact carried rfl
    obtain ⟨kept, completed⟩ := complete_cases config carries now
    refine ⟨fun _ => ⟨result, returned, kept⟩, fun other here met => ?_⟩
    obtain rfl := Option.some.inj (returned.symm.trans here)
    exact .inl (completed.resolve_right fun unmet => unmet met)

omit [DecidableEq Canceller] in
private theorem Sound.cancel (sound : world.Sound runtime config) {startedAt : Option Int}
    {cancelling : Canceller → Option (Option Int)} :
    ({ world with
      row := { world.row with
        status := .cancelled
        completedAt := some now
        durationSeconds := startedAt.map (now - ·) }
      cancelling
      cancelled := true } : ExecutionWorld Canceller).Sound runtime config := by
  have knows := sound.knows
  refine ⟨?_, fun _ => rfl⟩
  dsimp only
  generalize world.phase = phase at knows ⊢
  cases phase with
  | pending | running | storing => exact ⟨fun completed => (nomatch completed), knows.2⟩
  | finishing outcome unflushed =>
    cases outcome with
    | error => exact ⟨fun completed => (nomatch completed), knows.2⟩
    | ok result =>
      refine ⟨fun completed => (nomatch completed), knows.2.1, fun flushed => ?_⟩
      have carries := knows.2.2 flushed
      exact ⟨carries.rowsScanned, carries.rowsPassed, carries.rowsFailed, carries.passRate⟩
  | done => exact ⟨fun completed => (nomatch completed), fun _ _ _ => .inr rfl⟩
  | raised => exact knows

private theorem Sound.step (sound : world.Sound runtime config) {action : ExecutionAction Canceller}
    (careful : world.careful action = true)
    (stepped : world.step runtime config action = some next) : next.Sound runtime config := by
  have knows := sound.knows
  cases action with
  | start now =>
    dsimp only [ExecutionWorld.step] at stepped
    split at stepped
    · rename_i at_
      obtain rfl := Option.some.inj stepped
      rw [at_] at knows
      have uncancelled : world.cancelled = false := Bool.not_eq_true' _ |>.mp careful
      exact ⟨⟨fun completed => (nomatch completed), knows.2⟩,
        fun cancelled => (nomatch uncancelled.symm.trans cancelled)⟩
    · cases stepped
  | query outcome =>
    dsimp only [ExecutionWorld.step] at stepped
    split at stepped
    · rename_i at_
      obtain rfl := Option.some.inj stepped
      rw [at_] at knows
      cases outcome with
      | error message => exact ⟨knows, sound.cancelled⟩
      | ok result =>
        refine ⟨?_, sound.cancelled⟩
        dsimp only [ExecutionWorld.query]
        split_ifs
        · exact ⟨knows.1, rfl, fun flushed => (nomatch flushed)⟩
        · exact ⟨knows.1, rfl⟩
    · cases stepped
  | store outcome =>
    dsimp only [ExecutionWorld.step] at stepped
    split at stepped
    · rename_i result at_
      obtain rfl := Option.some.inj stepped
      obtain rfl : outcome = .stored := of_decide_eq_true careful
      rw [at_] at knows
      exact ⟨⟨knows.1, knows.2, fun _ => carries_count⟩, sound.cancelled⟩
    · cases stepped
  | finish now =>
    dsimp only [ExecutionWorld.step] at stepped
    split at stepped
    · rename_i outcome unflushed at_
      obtain rfl := Option.some.inj stepped
      exact sound.finish at_ (Bool.not_eq_true' _ |>.mp careful)
    · cases stepped
  | cancelRead canceller =>
    dsimp only [ExecutionWorld.step] at stepped
    split_ifs at stepped
    · obtain rfl := Option.some.inj stepped
      exact ⟨knows, sound.cancelled⟩
    · obtain rfl := Option.some.inj stepped
      exact sound
  | cancelCommit canceller now =>
    obtain ⟨startedAt, _, rfl⟩ := Option.map_eq_some_iff.mp stepped
    exact sound.cancel

/-- As long as the samples are stored, and no status is written after a cancellation, the record of
a run is faithful to it. -/
theorem record_stays_faithful {schedule : List (ExecutionAction Canceller)}
    {reached : ExecutionWorld Canceller}
    (careful : RunMeets (step runtime config) (fun world action => world.careful action = true)
      start schedule)
    (ran : run (step runtime config) start schedule = some reached) :
    reached.Faithful runtime config := by
  have begun : (start : ExecutionWorld Canceller).Sound runtime config :=
    ⟨⟨fun completed => (nomatch completed), rfl⟩, fun cancelled => (nomatch cancelled)⟩
  have sound : reached.Sound runtime config :=
    run_preserves (fun _ _ _ (sound : Sound ..) careful stepped => sound.step careful stepped)
      begun careful ran
  exact sound.faithful

end ExecutionWorld

end Law

/-! Runs whose query returns one violating row of four. -/

private def oneOfFour : SqlResult := ⟨⟨4, 3, 1⟩, [.int 7]⟩

/-- The cancellation has read the running record, and comes after the last commit. -/
private def cancelledLast : List (ExecutionAction Unit) :=
  [.start 10, .query (.ok oneOfFour), .cancelRead (), .store .stored, .finish 20, .cancelCommit () 21]

theorem cancelled_record_faithful :
    ∃ reached, run (ExecutionWorld.step .ascii none) ExecutionWorld.start cancelledLast =
        some reached ∧
      reached.cancelled = true ∧ reached.row.rowsFailed = 1 ∧
      reached.Faithful .ascii none := by
  have careful : RunMeets (ExecutionWorld.step .ascii none)
      (fun world action => world.careful action = true) ExecutionWorld.start cancelledLast := by
    decide +kernel
  exact ⟨_, rfl, rfl, rfl, ExecutionWorld.record_stays_faithful careful rfl⟩

/-- A sample that cannot be inserted leaves the record running, and a cancelled record is completed
all the same. -/
theorem records_unfaithful :
    (∃ reached, run (ExecutionWorld.step .ascii none) ExecutionWorld.start
        [.start 10, .query (.ok oneOfFour), .store .insertFailed] =
          some (reached : ExecutionWorld Unit) ∧
      reached.row.status = .running ∧ ¬reached.Faithful .ascii none) ∧
    ∃ reached, run (ExecutionWorld.step .ascii none) ExecutionWorld.start
        [.start 10, .query (.ok oneOfFour), .cancelRead (), .cancelCommit () 11, .store .stored,
          .finish 20] = some (reached : ExecutionWorld Unit) ∧
      reached.row.status = .completed ∧ ¬reached.Faithful .ascii none := by
  refine ⟨⟨_, rfl, rfl, fun faithful => ?_⟩, ⟨_, rfl, rfl, fun faithful => ?_⟩⟩
  · exact nomatch (faithful.completed oneOfFour rfl (.inr rfl) ⟨true, rfl⟩).1
  · exact nomatch faithful.cancelled rfl

end CogniDQ.Rules
