import CogniDQ.Scheduling.ScheduledTasks

/-!
# Ticks and the executions that they trigger

The flow task looks at the first tick after the poll, which is never due. The rule task asks a
context manager for its next session, and raises before it has read a schedule.
-/

set_option autoImplicit false

namespace CogniDQ.Scheduling

open CogniDQ.Python

/-- Whether a time belongs to a tick: it is not before the tick and the next one is still ahead. -/
def Cron.serves (cron : Cron) (tick time : Int) : Bool :=
  decide (tick ≤ time) &&
    match cron.next tick with
    | some following => decide (time < following)
    | none => true

structure Polls where
  times : List Int
  close : times.IsChain fun earlier later => earlier ≤ later ∧ later ≤ earlier + seconds 60

/-- A tick within the polls, at least two minutes after the one before. -/
structure MustFire (cron : Cron) (polls : Polls) (tick : Int) : Prop where
  isTick : cron.IsTick tick
  apart : ∀ previous, cron.prev tick = some previous → previous + minutes 2 ≤ tick
  begun : ∃ poll ∈ polls.times, poll ≤ tick
  reached : ∃ poll ∈ polls.times, tick ≤ poll

section Firing

variable {Uuid : Type} [DecidableEq Uuid] {platform : Platform Uuid}

structure Scheduled.Enabled (platform : Platform Uuid) (row : Scheduled Uuid) (cron : Cron) :
    Prop where
  active : row.isActive = some true
  scheduled : ∃ entries expression, row.schedule = some (.dict entries) ∧
    (Dict.get entries "enabled").truthy = true ∧
    List.lookup "cron" entries = some (.str expression) ∧
    platform.parseCron expression = some cron

def firings (triggered : List (Triggered Uuid)) (id : Uuid) (cron : Cron) (tick : Int) : Nat :=
  triggered.countP fun trigger =>
    decide (trigger.execution.subject = id) && cron.serves tick trigger.execution.createdAt

/-- The ticks of the enabled schedules that a sequence of polls has to serve. -/
def Obliged (platform : Platform Uuid) (tables : Tables Uuid) (polls : Polls)
    (row : Scheduled Uuid) (cron : Cron) (tick : Int) : Prop :=
  row ∈ tables.rows ∧ row.Enabled platform cron ∧ MustFire cron polls tick

/-- Every such tick triggers exactly one execution. -/
def FiresOncePerTick (platform : Platform Uuid)
    (task : Tables Uuid → Int → Except Exn (Tables Uuid × List (Triggered Uuid)))
    (tables : Tables Uuid) (polls : Polls) : Prop :=
  ∀ row cron tick, Obliged platform tables polls row cron tick →
    firings (runPolls task tables polls.times) row.id cron tick = 1

/-! ### The tasks as they are -/

private theorem checkFlow_not_due {executions : List (Execution Uuid)} {now : Int}
    {flow : Scheduled Uuid} : checkFlow platform executions now flow ≠ .ok true := by
  intro due
  unfold checkFlow at due
  dsimp only at due
  split at due
  · obtain ⟨schedule, -, checked⟩ := bind_eq_ok due
    split at checked
    · obtain ⟨iterator, parsed, searched⟩ := bind_eq_ok checked
      obtain ⟨⟨nextRun, moved⟩, found, compared⟩ := bind_eq_ok searched
      have start : iterator.current = now := by
        obtain ⟨text, -, started⟩ := bind_eq_ok parsed
        split at started
        · cases started
          rfl
        · cases started
      have later := Croniter.lt_of_getNext found
      rw [start] at later
      dsimp only at compared
      rw [if_neg (by omega)] at compared
      cases compared
    · cases checked
  · cases due

omit [DecidableEq Uuid] in
private theorem triggerDue_of_not_due {check : List (Execution Uuid) → Int → Scheduled Uuid →
      Except Exn Bool} {now : Int} {executions : List (Execution Uuid)}
    (never : ∀ row, check executions now row ≠ .ok true) (rows : List (Scheduled Uuid)) :
    triggerDue platform check now executions rows = (executions, []) := by
  induction rows with
  | nil => rfl
  | cons row rest ih =>
      unfold triggerDue
      split
      · next due => exact absurd due (never row)
      · exact ih

private theorem flowTask_idle (tables : Tables Uuid) (now : Int) :
    scheduledFlowExecutionTask platform tables now = .ok (tables, []) := by
  unfold scheduledFlowExecutionTask pollAll
  rw [triggerDue_of_not_due fun row => checkFlow_not_due]

private theorem ruleTask_raises (tables : Tables Uuid) (now : Int) :
    scheduledRuleExecutionTask platform tables now = .error .typeError := rfl

omit [DecidableEq Uuid] in
theorem runPolls_idle {task : Tables Uuid → Int → Except Exn (Tables Uuid × List (Triggered Uuid))}
    {tables : Tables Uuid}
    (idle : ∀ now after triggered, task tables now = .ok (after, triggered) →
      after = tables ∧ triggered = []) (polls : List Int) :
    runPolls task tables polls = [] := by
  induction polls with
  | nil => rfl
  | cons now later ih =>
      unfold runPolls
      split
      · next after triggered polled =>
        obtain ⟨rfl, rfl⟩ := idle now after triggered polled
        exact ih
      · exact ih

private theorem firesOncePerTick_of_idle {task : Tables Uuid → Int →
      Except Exn (Tables Uuid × List (Triggered Uuid))} {tables : Tables Uuid} {polls : Polls}
    (idle : runPolls task tables polls.times = []) :
    FiresOncePerTick platform task tables polls ↔
      ¬ ∃ row cron tick, Obliged platform tables polls row cron tick := by
  constructor
  · rintro fires ⟨row, cron, tick, obliged⟩
    have once := fires row cron tick obliged
    rw [idle] at once
    cases once
  · intro none row cron tick obliged
    exact absurd ⟨row, cron, tick, obliged⟩ none

theorem schedules_fire_once_iff (platform : Platform Uuid) (flows rules : Tables Uuid)
    (polls : Polls) :
    (FiresOncePerTick platform (scheduledFlowExecutionTask platform) flows polls ↔
      ¬ ∃ flow cron tick, Obliged platform flows polls flow cron tick) ∧
    (FiresOncePerTick platform (scheduledRuleExecutionTask platform) rules polls ↔
      ¬ ∃ rule cron tick, Obliged platform rules polls rule cron tick) := by
  constructor
  · apply firesOncePerTick_of_idle
    apply runPolls_idle
    intro now after triggered polled
    rw [flowTask_idle] at polled
    cases polled
    exact ⟨rfl, rfl⟩
  · apply firesOncePerTick_of_idle
    apply runPolls_idle
    intro now after triggered polled
    rw [ruleTask_raises] at polled
    cases polled

end Firing

/-! A schedule that ticks every ten minutes, polled half a minute before a tick and after it. -/

private def everyTenMinutes : Cron where
  IsTick tick := tick % minutes 10 = 0
  next time := some (time - time % minutes 10 + minutes 10)
  prev time := some (time - 1 - (time - 1) % minutes 10)
  next_iff {time found} := by
    have least : IsLeast {tick | tick % minutes 10 = 0 ∧ time < tick}
        (time - time % minutes 10 + minutes 10) := by
      unfold minutes seconds
      constructor
      · constructor <;> omega
      · intro tick isTick
        obtain ⟨whole, after⟩ := isTick
        omega
    rw [Option.some.injEq]
    constructor
    · intro same
      exact same ▸ least
    · intro other
      exact least.unique other
  prev_iff {time found} := by
    have greatest : IsGreatest {tick | tick % minutes 10 = 0 ∧ tick < time}
        (time - 1 - (time - 1) % minutes 10) := by
      unfold minutes seconds
      constructor
      · constructor <;> omega
      · intro tick isTick
        obtain ⟨whole, before⟩ := isTick
        omega
    rw [Option.some.injEq]
    constructor
    · intro same
      exact same ▸ greatest
    · intro other
      exact greatest.unique other

private def demoPlatform : Platform Unit where
  uuidText _ := "7d444840-9dc0-11d1-b245-5ffdce74fad2"
  parseCron text := if text = "*/10 * * * *" then some everyTenMinutes else none

private def demoScheduled : Scheduled Unit where
  id := ()
  workspaceId := ()
  createdBy := some ()
  isActive := some true
  schedule := some (.dict [("enabled", .bool true), ("cron", .str "*/10 * * * *"),
    ("timezone", .str "UTC")])

private def demoTables : Tables Unit where
  rows := [demoScheduled]
  executions := []

private def demoPolls : Polls where
  times := [seconds 570, seconds 630]
  close := by decide

private theorem demo_obliged :
    Obliged demoPlatform demoTables demoPolls demoScheduled everyTenMinutes (minutes 10) where
  left := List.mem_singleton_self _
  right.left.active := rfl
  right.left.scheduled := ⟨_, _, rfl, rfl, rfl, rfl⟩
  right.right.isTick := show minutes 10 % minutes 10 = 0 by decide
  right.right.apart previous before := by
    obtain rfl := Option.some.inj before
    decide
  right.right.begun := ⟨seconds 570, by decide, by decide⟩
  right.right.reached := ⟨seconds 630, by decide, by decide⟩

/-- Neither task has triggered anything half a minute after the tick. -/
theorem due_schedules_stay_idle :
    ¬ (FiresOncePerTick demoPlatform (scheduledFlowExecutionTask demoPlatform) demoTables
        demoPolls) ∧
      ¬ (FiresOncePerTick demoPlatform (scheduledRuleExecutionTask demoPlatform) demoTables
        demoPolls) := by
  constructor
  · intro fires
    have once := fires demoScheduled everyTenMinutes (minutes 10) demo_obliged
    have never : firings (runPolls (scheduledFlowExecutionTask demoPlatform) demoTables
        demoPolls.times) () everyTenMinutes (minutes 10) = 0 := by decide +kernel
    exact absurd (once.symm.trans never) (by decide)
  · intro fires
    have once := fires demoScheduled everyTenMinutes (minutes 10) demo_obliged
    have never : firings (runPolls (scheduledRuleExecutionTask demoPlatform) demoTables
        demoPolls.times) () everyTenMinutes (minutes 10) = 0 := by decide +kernel
    exact absurd (once.symm.trans never) (by decide)

end CogniDQ.Scheduling
