import CogniDQ.Issues.GroupedFailures
import CogniDQ.Issues.IssueGrouping
import CogniDQ.Python.ZoneInfo
import Mathlib

/-!
# Day windows

The window of a completion time runs from one local midnight to the next. It is the calendar day where
the clocks keep the midnights: they never go back over one, and go forward over one only from it or to
it.
-/

set_option autoImplicit false

namespace CogniDQ.Issues

open CogniDQ.Python (ZoneInfo OffsetChange)

/-- A zone of `zoneinfo`. -/
def zoneOf (info : ZoneInfo) : Zone where
  offset := info.offset
  fold := info.fold
  toUtc := info.toUtc

def Zone.InWindow (zone : Zone) (completedAt instant : Int) : Prop :=
  (zone.dayWindow completedAt).1 ≤ instant ∧ instant < (zone.dayWindow completedAt).2

/-- The day windows of a zone are its calendar days, also for the failures that are folded into one
issue. -/
structure Zone.PartitionsTime (zone : Zone) (Uuid : Type) [DecidableEq Uuid] : Prop where
  contains : ∀ completedAt, zone.InWindow completedAt completedAt
  sameDay : ∀ first second, first ≤ second →
    (zone.InWindow first second ↔ zone.localDay first = zone.localDay second)
  disjoint : ∀ first second, zone.localDay first ≠ zone.localDay second →
    ∀ instant, ¬(zone.InWindow first instant ∧ zone.InWindow second instant)
  meet : ∀ first second, zone.localDay second = zone.localDay first + 1 →
    (zone.dayWindow first).2 = (zone.dayWindow second).1
  grouping : ∀ (settings : GroupingSettings) (failure : Failure Uuid) (row : IssueRow Uuid),
    settings.policy = .onePerDay → settings.zone = some zone →
    ∀ completedAt ∈ failure.completedAt, ∃ window, failure.window settings = some window ∧
      (row.answers failure window = true ↔
        row.answers failure none = true ∧ zone.localDay row.openedAt = zone.localDay completedAt)

structure KeepsMidnights (info : ZoneInfo) : Prop where
  /-- The calendar does not go back. -/
  forward : ∀ instant, (zoneOf info).localDay (instant - 1) ≤ (zoneOf info).localDay instant
  /-- No midnight occurs twice. -/
  once : ∀ first second, info.wall first = info.wall second →
    info.wall first % microsecondsPerDay = 0 → first = second
  /-- A day begins at midnight. One that begins later begins where its midnight is skipped, and
  repeats no time. -/
  begins : ∀ instant, (zoneOf info).localDay (instant - 1) < (zoneOf info).localDay instant →
    info.wall instant = (zoneOf info).localDay instant * microsecondsPerDay ∨
      info.wall (instant - 1) + 1 = (zoneOf info).localDay instant * microsecondsPerDay ∧
        ∀ other, (zoneOf info).localDay other = (zoneOf info).localDay instant →
          info.fold other = false
  /-- A day is skipped from its midnight on. -/
  skips : ∀ instant, (zoneOf info).localDay (instant - 1) + 1 < (zoneOf info).localDay instant →
    info.wall (instant - 1) + 1 =
      ((zoneOf info).localDay (instant - 1) + 1) * microsecondsPerDay

section Days

variable {info : ZoneInfo}

theorem le_day_iff {instant day : Int} :
    day ≤ (zoneOf info).localDay instant ↔ day * microsecondsPerDay ≤ info.wall instant := by
  change day ≤ info.wall instant / 86400000000 ↔ day * 86400000000 ≤ info.wall instant
  omega

theorem day_lt_iff {instant day : Int} :
    (zoneOf info).localDay instant < day ↔ info.wall instant < day * microsecondsPerDay := by
  rw [← not_le, le_day_iff, not_le]

theorem KeepsMidnights.monotone (keeps : KeepsMidnights info) :
    Monotone (zoneOf info).localDay := by
  refine monotone_int_of_le_succ fun instant => ?_
  have step := keeps.forward (instant + 1)
  rwa [add_sub_cancel_right] at step

theorem exists_first_instant (monotone : Monotone (zoneOf info).localDay) (day : Int) :
    ∃ first, ∀ instant, first ≤ instant ↔ day ≤ (zoneOf info).localDay instant := by
  obtain ⟨first, reached, least⟩ : ∃ first, day ≤ (zoneOf info).localDay first ∧
      ∀ instant, day ≤ (zoneOf info).localDay instant → first ≤ instant := by
    refine Int.exists_least_of_bdd ⟨(day - 1) * microsecondsPerDay, fun instant after => ?_⟩
      ⟨(day + 1) * microsecondsPerDay, ?_⟩
    · have shifted : day * 86400000000 ≤ instant + info.offset instant := le_day_iff.mp after
      have short : info.offset instant < 86400000000 := (ZoneInfo.offset_short instant).2
      change (day - 1) * 86400000000 ≤ instant
      omega
    · have short : -86400000000 < info.offset ((day + 1) * 86400000000) :=
        (ZoneInfo.offset_short _).1
      refine le_day_iff.mpr ?_
      change day * 86400000000 ≤
        (day + 1) * 86400000000 + info.offset ((day + 1) * 86400000000)
      omega
  exact ⟨first, fun instant =>
    ⟨fun later => reached.trans (monotone later), least instant⟩⟩

theorem toUtc_of_skipped {wall first : Int}
    (reached : ∀ instant, first ≤ instant → wall ≤ info.wall instant)
    (notReached : ∀ instant, instant < first → info.wall instant < wall)
    (past : wall < info.wall first) :
    info.toUtc wall false = wall - info.offset (first - 1) := by
  refine ZoneInfo.toUtc_of_split fun change member => ?_
  rw [ZoneInfo.wallFrom_eq member, if_neg Bool.false_ne_true]
  rcases lt_trichotomy change.instant first with before | here | after
  · have ended := notReached (change.instant - 1) (by omega)
    have begun := notReached change.instant before
    omega
  · rw [here]
    omega
  · have ended := reached (change.instant - 1) (by omega)
    omega

private theorem KeepsMidnights.midnight_or_skip (keeps : KeepsMidnights info) {day first : Int}
    {fold : Bool} (begins : ∀ instant, first ≤ instant ↔ day ≤ (zoneOf info).localDay instant)
    (folds : fold = true → ∃ other, (zoneOf info).localDay other = day ∧ info.fold other = true) :
    info.wall first = day * microsecondsPerDay ∨
      day * microsecondsPerDay < info.wall first ∧
        info.wall (first - 1) + 1 = day * microsecondsPerDay ∧ fold = false := by
  have reached : day ≤ (zoneOf info).localDay first := (begins first).mp le_rfl
  have before : (zoneOf info).localDay (first - 1) < day := by
    rw [← not_le, ← begins]
    omega
  rcases (le_day_iff.mp reached).eq_or_lt with midnight | past
  · exact .inl midnight.symm
  refine .inr ⟨past, ?_⟩
  have entered := keeps.begins first (before.trans_le reached)
  rcases reached.eq_or_lt with same | skipped
  · rw [← same] at entered
    obtain ⟨edge, unfolded⟩ := entered.resolve_left past.ne'
    refine ⟨edge, Bool.eq_false_iff.mpr fun folded => ?_⟩
    obtain ⟨other, isDay, isFolded⟩ := folds folded
    exact Bool.noConfusion (isFolded.symm.trans (unfolded other isDay))
  · -- Two days are not skipped: the offset changes by less than two days.
    have edge := keeps.skips first (by omega)
    have wallBefore : info.wall (first - 1) < day * 86400000000 := day_lt_iff.mp before
    have short := @ZoneInfo.offset_short info first
    have shortBefore := @ZoneInfo.offset_short info (first - 1)
    simp only [Python.ticksPerDay] at short shortBefore
    simp only [ZoneInfo.wall, microsecondsPerDay] at edge entered wallBefore past ⊢
    refine ⟨by omega, Bool.eq_false_iff.mpr fun folded => ?_⟩
    obtain ⟨other, isDay, -⟩ := folds folded
    have later : (zoneOf info).localDay first ≤ (zoneOf info).localDay other :=
      keeps.monotone ((begins other).mpr isDay.ge)
    omega

theorem KeepsMidnights.toUtc_midnight (keeps : KeepsMidnights info) {day first : Int}
    {fold : Bool} (begins : ∀ instant, first ≤ instant ↔ day ≤ (zoneOf info).localDay instant)
    (folds : fold = true → ∃ other, (zoneOf info).localDay other = day ∧ info.fold other = true) :
    info.toUtc (day * microsecondsPerDay) fold = first := by
  have reached (instant : Int) (later : first ≤ instant) :
      day * microsecondsPerDay ≤ info.wall instant :=
    le_day_iff.mp ((begins instant).mp later)
  have notReached (instant : Int) (earlier : instant < first) :
      info.wall instant < day * microsecondsPerDay := by
    rw [← day_lt_iff, ← not_le, ← begins, not_le]
    exact earlier
  have wallBefore := notReached (first - 1) (by omega)
  -- A change before the first instant comes before the midnight.
  have earlier (change : OffsetChange) (member : change ∈ info.changes)
      (before : change.instant < first) : change.wallFrom fold ≤ day * microsecondsPerDay := by
    have ended := notReached (change.instant - 1) (by omega)
    have begun := notReached change.instant before
    rw [ZoneInfo.wallFrom_eq member]
    split <;> omega
  rcases keeps.midnight_or_skip begins folds with midnight | ⟨past, edge, unfolded⟩
  · have split : ∀ change ∈ info.changes,
        change.wallFrom fold ≤ day * microsecondsPerDay ↔ change.instant ≤ first := by
      intro change member
      rcases lt_trichotomy change.instant first with before | here | after
      · exact iff_of_true (earlier change member before) before.le
      · refine iff_of_true ?_ here.le
        rw [ZoneInfo.wallFrom_eq member, here]
        split <;> omega
      · refine iff_of_false ?_ (not_le.mpr after)
        have ended := reached (change.instant - 1) (by omega)
        have begun := reached change.instant after.le
        have apart : info.wall change.instant ≠ day * microsecondsPerDay := by
          intro again
          refine after.ne (keeps.once first change.instant (midnight.trans again.symm) ?_)
          rw [midnight]
          exact Int.mul_emod_left _ _
        rw [ZoneInfo.wallFrom_eq member]
        split <;> omega
    rw [ZoneInfo.toUtc_of_split split, ← midnight]
    exact add_sub_cancel_right _ _
  · rw [unfolded, toUtc_of_skipped reached notReached past, ← edge]
    change first - 1 + info.offset (first - 1) + 1 - info.offset (first - 1) = first
    omega

theorem KeepsMidnights.inWindow_iff (keeps : KeepsMidnights info) (completedAt instant : Int) :
    (zoneOf info).InWindow completedAt instant ↔
      (zoneOf info).localDay instant = (zoneOf info).localDay completedAt := by
  obtain ⟨first, begins⟩ :=
    exists_first_instant keeps.monotone ((zoneOf info).localDay completedAt)
  obtain ⟨next, ends⟩ :=
    exists_first_instant keeps.monotone ((zoneOf info).localDay completedAt + 1)
  have dayStart : ((zoneOf info).dayWindow completedAt).1 = first :=
    keeps.toUtc_midnight begins fun folded => ⟨completedAt, rfl, folded⟩
  have dayEnd : ((zoneOf info).dayWindow completedAt).2 = next := by
    change info.toUtc (_ * microsecondsPerDay + microsecondsPerDay) false = next
    rw [← add_one_mul]
    exact keeps.toUtc_midnight ends nofun
  rw [Zone.InWindow, dayStart, dayEnd, begins, ← not_le, ends]
  omega

def WholeDays (info : ZoneInfo) : Prop :=
  ∀ completedAt instant, (zoneOf info).InWindow completedAt instant ↔
    (zoneOf info).localDay instant = (zoneOf info).localDay completedAt

theorem WholeDays.window_end (whole : WholeDays info) {instant : Int}
    (changes : (zoneOf info).localDay (instant - 1) ≠ (zoneOf info).localDay instant) :
    info.toUtc (((zoneOf info).localDay (instant - 1) + 1) * microsecondsPerDay) false = instant := by
  have inside := (whole (instant - 1) (instant - 1)).mpr rfl
  have outside : ¬(zoneOf info).InWindow (instant - 1) instant := fun within =>
    changes ((whole (instant - 1) instant).mp within).symm
  have windowEnd : ((zoneOf info).dayWindow (instant - 1)).2 = instant := by
    unfold Zone.InWindow at inside outside
    omega
  rw [add_one_mul]
  exact windowEnd

theorem WholeDays.window_start (whole : WholeDays info) {instant completedAt : Int}
    (changes : (zoneOf info).localDay (instant - 1) ≠ (zoneOf info).localDay instant)
    (sameDay : (zoneOf info).localDay completedAt = (zoneOf info).localDay instant) :
    info.toUtc ((zoneOf info).localDay instant * microsecondsPerDay) (info.fold completedAt) =
      instant := by
  have inside := (whole completedAt instant).mpr sameDay.symm
  have outside : ¬(zoneOf info).InWindow completedAt (instant - 1) := fun within =>
    changes (((whole completedAt (instant - 1)).mp within).trans sameDay)
  have windowStart : ((zoneOf info).dayWindow completedAt).1 = instant := by
    unfold Zone.InWindow at inside outside
    omega
  rw [← sameDay]
  exact windowStart

private theorem WholeDays.forward (whole : WholeDays info) (instant : Int) :
    (zoneOf info).localDay (instant - 1) ≤ (zoneOf info).localDay instant := by
  by_contra back
  have changes := (not_le.mp back).ne'
  have ended := whole.window_end changes
  have started := whole.window_start changes rfl
  have shortEnd := (@ZoneInfo.offsetAfter_short info fun change => decide
    (change.wallFrom false ≤ ((zoneOf info).localDay (instant - 1) + 1) * microsecondsPerDay)).2
  have shortStart := (@ZoneInfo.offsetAfter_short info fun change => decide
    (change.wallFrom (info.fold instant) ≤ (zoneOf info).localDay instant * microsecondsPerDay)).1
  unfold ZoneInfo.toUtc at ended started
  simp only [microsecondsPerDay, Python.ticksPerDay] at *
  omega

/-- A wall time that no instant from `first` on comes before is looked up at a change after `first`
only if the change begins with it. -/
theorem wall_eq_of_reached {first wall : Int} (reached : ∀ instant, first ≤ instant →
    wall ≤ info.wall instant) {change : OffsetChange} (member : change ∈ info.changes)
    (later : first < change.instant) (passed : change.wallFrom true ≤ wall) :
    info.wall change.instant = wall := by
  have ended := reached (change.instant - 1) (by omega)
  have begun := reached change.instant later.le
  rw [ZoneInfo.wallFrom_eq member, if_pos rfl] at passed
  omega

private theorem WholeDays.once_of_lt (whole : WholeDays info)
    (monotone : Monotone (zoneOf info).localDay) {first second : Int} (earlier : first < second)
    (again : info.wall first = info.wall second)
    (midnight : info.wall first % microsecondsPerDay = 0) : False := by
  have day := Int.ediv_mul_cancel (Int.dvd_of_emod_eq_zero midnight)
  change (zoneOf info).localDay first * microsecondsPerDay = info.wall first at day
  have sameDay : (zoneOf info).localDay second = (zoneOf info).localDay first :=
    congrArg (· / microsecondsPerDay) again.symm
  have reached (instant : Int) (later : first ≤ instant) : info.wall first ≤ info.wall instant :=
    day ▸ le_day_iff.mp (monotone later)
  have ended := reached (second - 1) (by omega)
  obtain ⟨change, member, here⟩ : ∃ change ∈ info.changes, change.instant = second := by
    by_contra unchanged
    have steady := ZoneInfo.wall_of_no_change fun change member here =>
      unchanged ⟨change, member, here⟩
    omega
  have folded : info.fold second = true := by
    rw [← here]
    refine ZoneInfo.fold_of_back member ?_
    rw [here]
    omega
  have passed : change.wallFrom true ≤ info.wall first := by
    rw [ZoneInfo.wallFrom_eq member, if_pos rfl, here]
    omega
  obtain ⟨last, lastMember, lastLater, lastPassed, lookedUp⟩ :=
    ZoneInfo.toUtc_of_reached member passed
  have landed := wall_eq_of_reached reached lastMember (by omega) lastPassed
  have windowStart : ((zoneOf info).dayWindow second).1 = last.instant := by
    change info.toUtc ((zoneOf info).localDay second * microsecondsPerDay) (info.fold second) = _
    rw [folded, sameDay, day, lookedUp, ← landed]
    exact add_sub_cancel_right _ _
  have inside := ((whole second first).mpr sameDay.symm).1
  omega

theorem wall_lt_of_enters (monotone : Monotone (zoneOf info).localDay) {instant other day : Int}
    (enters : (zoneOf info).localDay (instant - 1) < day) (earlier : other < instant) :
    info.wall other < day * microsecondsPerDay :=
  day_lt_iff.mp ((monotone (Int.le_sub_one_iff.mpr earlier)).trans_lt enters)

theorem WholeDays.begins (whole : WholeDays info) (monotone : Monotone (zoneOf info).localDay)
    {instant : Int} (enters : (zoneOf info).localDay (instant - 1) < (zoneOf info).localDay instant)
    (late : info.wall instant ≠ (zoneOf info).localDay instant * microsecondsPerDay) :
    info.wall (instant - 1) + 1 = (zoneOf info).localDay instant * microsecondsPerDay ∧
      ∀ other, (zoneOf info).localDay other = (zoneOf info).localDay instant →
        info.fold other = false := by
  have reached (later : Int) (after : instant ≤ later) :
      (zoneOf info).localDay instant * microsecondsPerDay ≤ info.wall later :=
    le_day_iff.mp (monotone after)
  have here := reached instant le_rfl
  have before := day_lt_iff.mp enters
  have changed : ∃ change ∈ info.changes, change.instant = instant := by
    by_contra unchanged
    have steady := ZoneInfo.wall_of_no_change fun change member isHere =>
      unchanged ⟨change, member, isHere⟩
    omega
  have unfolded (other : Int) (isDay : (zoneOf info).localDay other = (zoneOf info).localDay instant) :
      info.fold other = false := by
    refine Bool.eq_false_iff.mpr fun folded => ?_
    have started := whole.window_start enters.ne isDay
    rw [folded] at started
    obtain ⟨change, member, isHere⟩ := changed
    have passed : change.wallFrom true ≤ (zoneOf info).localDay instant * microsecondsPerDay := by
      rw [ZoneInfo.wallFrom_eq member, if_pos rfl, isHere]
      omega
    obtain ⟨last, lastMember, later, lastPassed, lookedUp⟩ :=
      ZoneInfo.toUtc_of_reached member passed
    rw [started] at lookedUp
    rcases later.eq_or_lt with same | after
    · rw [← same, isHere] at lookedUp
      unfold ZoneInfo.wall at late
      omega
    · have landed := wall_eq_of_reached reached lastMember (isHere ▸ after) lastPassed
      unfold ZoneInfo.wall at landed
      omega
  have started := whole.window_start enters.ne rfl
  rw [unfolded instant rfl, toUtc_of_skipped reached
    (fun other earlier => wall_lt_of_enters monotone enters earlier) (here.lt_of_ne late.symm)]
    at started
  refine ⟨?_, unfolded⟩
  unfold ZoneInfo.wall
  omega

theorem WholeDays.skips (whole : WholeDays info) (monotone : Monotone (zoneOf info).localDay)
    {instant : Int}
    (skips : (zoneOf info).localDay (instant - 1) + 1 < (zoneOf info).localDay instant) :
    info.wall (instant - 1) + 1 =
      ((zoneOf info).localDay (instant - 1) + 1) * microsecondsPerDay := by
  have ended := @WholeDays.window_end _ whole instant (by omega)
  have reached (later : Int) (after : instant ≤ later) :
      ((zoneOf info).localDay (instant - 1) + 1) * microsecondsPerDay < info.wall later := by
    have midnight : (zoneOf info).localDay instant * microsecondsPerDay ≤ info.wall later :=
      le_day_iff.mp (monotone after)
    unfold microsecondsPerDay at midnight ⊢
    omega
  rw [toUtc_of_skipped (fun later after => (reached later after).le)
    (fun other earlier => wall_lt_of_enters monotone (Int.lt_succ _) earlier)
    (reached instant le_rfl)] at ended
  unfold ZoneInfo.wall
  omega

theorem wholeDays_iff : WholeDays info ↔ KeepsMidnights info := by
  constructor
  · intro whole
    have monotone : Monotone (zoneOf info).localDay := by
      refine monotone_int_of_le_succ fun instant => ?_
      have step := whole.forward (instant + 1)
      rwa [add_sub_cancel_right] at step
    constructor
    · exact whole.forward
    · intro first second again midnight
      rcases lt_trichotomy first second with earlier | same | later
      · exact (whole.once_of_lt monotone earlier again midnight).elim
      · exact same
      · exact (whole.once_of_lt monotone later again.symm (again ▸ midnight)).elim
    · intro instant enters
      by_cases midnight : info.wall instant = (zoneOf info).localDay instant * microsecondsPerDay
      · exact .inl midnight
      · exact .inr (whole.begins monotone enters midnight)
    · intro instant skips
      exact whole.skips monotone skips
  · intro keeps
    exact keeps.inWindow_iff

theorem IssueRow.answers_window {Uuid : Type} [DecidableEq Uuid] (row : IssueRow Uuid)
    (failure : Failure Uuid) (window : Int × Int) :
    row.answers failure (some window) = true ↔
      row.answers failure none = true ∧ window.1 ≤ row.openedAt ∧ row.openedAt < window.2 := by
  simp only [IssueRow.answers, Option.all_some, Option.all_none, Bool.and_true, Bool.and_eq_true,
    decide_eq_true_eq]

theorem Failure.window_of_daily {Uuid : Type} {settings : GroupingSettings}
    {failure : Failure Uuid} {zone : Zone} {completedAt : Int}
    (daily : settings.policy = .onePerDay) (isZone : settings.zone = some zone)
    (completed : failure.completedAt = some completedAt) :
    failure.window settings = some (some (zone.dayWindow completedAt)) := by
  rw [Failure.window, if_pos daily, isZone, completed]
  rfl

section Grouping

variable {Uuid : Type} [DecidableEq Uuid]

private theorem WholeDays.partitionsTime (whole : WholeDays info) :
    (zoneOf info).PartitionsTime Uuid := by
  constructor
  · exact fun completedAt => (whole completedAt completedAt).mpr rfl
  · exact fun first second _ => (whole first second).trans eq_comm
  · intro first second apart instant within
    exact apart (((whole first instant).mp within.1).symm.trans ((whole second instant).mp within.2))
  · intro first second next
    have keeps := wholeDays_iff.mp whole
    obtain ⟨start, begins⟩ :=
      exists_first_instant keeps.monotone ((zoneOf info).localDay second)
    have windowEnd : ((zoneOf info).dayWindow first).2 = start := by
      change info.toUtc (_ * microsecondsPerDay + microsecondsPerDay) false = start
      rw [← add_one_mul, ← next]
      exact keeps.toUtc_midnight begins nofun
    exact windowEnd.trans
      (keeps.toUtc_midnight begins fun folded => ⟨second, rfl, folded⟩).symm
  · intro settings failure row daily isZone completedAt completed
    refine ⟨_, Failure.window_of_daily daily isZone completed, ?_⟩
    rw [IssueRow.answers_window]
    exact and_congr_right fun _ => whole completedAt row.openedAt

/-- A failure of one rule and dataset, and an open issue of theirs. -/
def someFailure [Inhabited Uuid] (completedAt : Int) : Failure Uuid :=
  ⟨default, some default, some default, "minor", "", 1, 1, none, some completedAt⟩

def someIssue [Inhabited Uuid] (openedAt : Int) : IssueRow Uuid :=
  ⟨default, some default, some default, "minor", .open, "", "", some 1, 1, openedAt, none⟩

theorem Zone.PartitionsTime.wholeDays [Inhabited Uuid]
    (partitions : (zoneOf info).PartitionsTime Uuid) : WholeDays info := by
  intro completedAt instant
  obtain ⟨window, isWindow, answers⟩ := partitions.grouping
    ⟨.onePerDay, some (zoneOf info), toString⟩ (someFailure completedAt) (someIssue instant)
    rfl rfl completedAt rfl
  obtain rfl := Option.some.inj ((Failure.window_of_daily rfl rfl rfl).symm.trans isWindow)
  rw [IssueRow.answers_window] at answers
  have alike : (someIssue instant : IssueRow Uuid).answers (someFailure completedAt) none = true := by
    simp only [IssueRow.answers, someIssue, someFailure, BEq.rfl, Option.all_none, Bool.and_true]
    rfl
  simp only [alike, true_and] at answers
  exact answers

/-- The day windows of a zone partition the time exactly when its clocks keep the midnights. -/
theorem partitionsTime_iff [Inhabited Uuid] (info : ZoneInfo) :
    (zoneOf info).PartitionsTime Uuid ↔ KeepsMidnights info :=
  ⟨fun partitions => wholeDays_iff.mp partitions.wholeDays,
    fun keeps => (wholeDays_iff.mpr keeps).partitionsTime⟩

end Grouping

end Days

/-- The Azores at the end of a summer: at 01:00 the clocks go back to midnight. -/
private def azores : ZoneInfo where
  offsetAtFirst := 0
  transitions := [(3600000000, -3600000000)]
  ascending := List.pairwise_singleton _ _
  short_first := by decide
  short := by decide

/-- An issue from before the change is not found after it. -/
theorem day_split_at_second_midnight : ¬(zoneOf azores).PartitionsTime String := by
  intro partitions
  have within : (zoneOf azores).InWindow 5400000000 1800000000 :=
    (partitions.wholeDays 5400000000 1800000000).mpr (by decide)
  exact absurd within.1 (by decide)

end CogniDQ.Issues
