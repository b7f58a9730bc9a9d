import CogniDQ.Tenants.Outbox
import Mathlib.Data.Fintype.Basic

/-!
# Deliveries of the outbox

What concurrent pollers make of an event, as long as no poll returns an event that another poller
still has in its batch: the commit after a delivery has released the locks of such a batch.
-/

set_option autoImplicit false

namespace CogniDQ.Tenants

open CogniDQ.Database CogniDQ.Protocol CogniDQ.Python

section Phases

variable {Uuid : Type}

def Phase.claimed : Phase Uuid → List Uuid
  | .idle => []
  | .processing _ rows => rows.map (·.1)
  | .recording _ eventId _ rest => eventId :: rest.map (·.1)
  | .committing _ eventId _ rest => eventId :: rest.map (·.1)

variable [DecidableEq Uuid]

/-- Whether a delivery of the event has succeeded or failed that the table does not show yet. -/
def Phase.unrecorded (phase : Phase Uuid) (eventId : Uuid) : Option Bool :=
  match phase with
  | .recording _ delivering outcome _ => if delivering = eventId then some outcome.isOk else none
  | .committing _ delivering outcome _ => if delivering = eventId then some outcome.isOk else none
  | _ => none

theorem mem_claimed_of_unrecorded {phase : Phase Uuid} {eventId : Uuid} {succeeded : Bool}
    (unrecorded : phase.unrecorded eventId = some succeeded) : eventId ∈ phase.claimed := by
  unfold Phase.unrecorded at unrecorded
  split at unrecorded
  · split_ifs at unrecorded with same
    subst same
    exact List.mem_cons_self
  · split_ifs at unrecorded with same
    subst same
    exact List.mem_cons_self
  · cases unrecorded

end Phases

section Query

variable {Uuid : Type} [DecidableEq Uuid] {config : PollerConfig} {arrangement : Arrangement Uuid}
  {free : Uuid → Bool} {rows : OutboxRows Uuid}

theorem mem_pollQuery {row : OutboxRow Uuid}
    (selected : row ∈ config.pollQuery arrangement free rows) :
    rows.lookup row.1 = some row.2 ∧ config.pollable row.2 = true ∧ free row.1 = true := by
  have listed := (arrangement.perm _).mem_iff.mp (List.mem_of_mem_take selected)
  obtain ⟨present, pollable⟩ := List.mem_filter.mp listed
  obtain ⟨⟨key, event⟩, entry, rfl⟩ := List.mem_map.mp present
  exact ⟨List.mem_dlookup rows.nodupKeys entry, Bool.and_eq_true_iff.mp pollable⟩

omit [DecidableEq Uuid] in
theorem pollQuery_distinct :
    ((config.pollQuery arrangement free rows).map (·.1)).Nodup := by
  have keys : (rows.entries.map (·.1)).Nodup := rows.nodupKeys
  have listed : (((rows.entries.map fun entry => (entry.1, entry.2)).filter fun row =>
      config.pollable row.2 && free row.1).map (·.1)).Nodup := by
    refine List.Nodup.sublist (List.filter_sublist.map _) ?_
    rw [List.map_map]
    exact keys
  have arranged := ((arrangement.perm _).map (·.1)).nodup_iff.mpr listed
  exact arranged.sublist ((List.take_sublist _ _).map _)

end Query

section Invariant

variable {Poller Uuid : Type} [DecidableEq Uuid]

def World.deliveries (world : World Poller Uuid) (eventId : Uuid) (succeeded : Bool) : Nat :=
  world.history.count (.delivery eventId succeeded)

/-- The outcome that is still missing from the table, if a poller has one. -/
def InFlight (marks : Poller → Option Bool) : Option Bool → Prop
  | some succeeded => ∃ poller, marks poller = some succeeded
  | none => ∀ poller, marks poller = none

def World.marks (world : World Poller Uuid) (eventId : Uuid) (poller : Poller) : Option Bool :=
  (world.phase poller).unrecorded eventId

/-- The row of an event agrees with the deliveries made for it since the start, up to the outcome
that is in flight. -/
structure Balanced (initial row : OutboxEvent Uuid) (flight : Option Bool)
    (successes failures : Nat) : Prop where
  delivered : initial.delivered = true → row.delivered = true
  successes : successes =
    (row.delivered && !initial.delivered).toNat + (flight == some true).toNat
  failures : initial.retryCount + failures = row.retryCount + (flight == some false).toNat

omit [DecidableEq Uuid] in
theorem notDelivered {config : PollerConfig} {row : OutboxEvent Uuid}
    (pollable : config.pollable row = true) : row.delivered = false := by
  simpa using (Bool.and_eq_true_iff.mp pollable).1

omit [DecidableEq Uuid] in
private theorem Balanced.attempt {initial row : OutboxEvent Uuid} {successes failures : Nat}
    (balanced : Balanced initial row none successes failures) (succeeded : Bool) :
    Balanced initial row (some succeeded) ((if true = succeeded then 1 else 0) + successes)
      ((if false = succeeded then 1 else 0) + failures) := by
  obtain ⟨delivered, successes, failures⟩ := balanced
  simp only [Option.none_beq_some, Bool.toNat_false, Nat.add_zero] at *
  refine ⟨delivered, ?_, ?_⟩
  · rw [successes]
    cases succeeded
    · simp
    · simp [Nat.add_comm]
  · cases succeeded
    · simp only [if_true, BEq.rfl, Bool.toNat_true]
      omega
    · simpa using failures

omit [DecidableEq Uuid] in
theorem Balanced.record {initial row : OutboxEvent Uuid} {successes failures : Nat} {now : Int}
    {outcome : Except String Unit}
    (balanced : Balanced initial row (some outcome.isOk) successes failures)
    (undelivered : row.delivered = false) :
    Balanced initial (row.record now outcome) none successes failures := by
  obtain ⟨delivered, successes, failures⟩ := balanced
  have fresh : initial.delivered = false := by
    refine Bool.eq_false_iff.mpr fun already => ?_
    rw [delivered already] at undelivered
    cases undelivered
  cases outcome with
  | ok =>
      refine ⟨fun _ => rfl, ?_, ?_⟩
      · simpa [undelivered, fresh, OutboxEvent.record, Except.isOk, Except.toBool] using successes
      · simpa [OutboxEvent.record, Except.isOk, Except.toBool] using failures
  | error message =>
      refine ⟨delivered, ?_, ?_⟩
      · simpa [undelivered, OutboxEvent.record, Except.isOk, Except.toBool] using successes
      · simpa [OutboxEvent.record, Except.isOk, Except.toBool] using failures

omit [DecidableEq Uuid] in
theorem notExhausted {config : PollerConfig} {row : OutboxEvent Uuid}
    (pollable : config.pollable row = true) : row.retryCount < config.maxRetries := by
  simpa using (Bool.and_eq_true_iff.mp pollable).2

omit [DecidableEq Uuid] in
private theorem record_bounded {config : PollerConfig} {row : OutboxEvent Uuid} {now : Int}
    {outcome : Except String Unit} (pollable : config.pollable row = true) :
    (row.record now outcome).retryCount ≤ config.maxRetries := by
  cases outcome with
  | ok => exact (notExhausted pollable).le
  | error message => exact notExhausted pollable

/-- The pending write of a poller is the outcome it is about to commit. -/
def PendingSound (table : Table Poller Uuid (OutboxEvent Uuid)) (poller : Poller) :
    Phase Uuid → Prop
  | .committing _ eventId outcome _ => ∃ row now, table.committed.lookup eventId = some row ∧
      table.pending poller = AList.insert eventId (some (row.record now outcome)) ∅
  | _ => table.pending poller = ∅

structure World.Sound (config : PollerConfig) (start : OutboxRows Uuid)
    (world : World Poller Uuid) : Prop where
  apart : ∀ poller other eventId, eventId ∈ (world.phase poller).claimed →
    eventId ∈ (world.phase other).claimed → poller = other
  distinct : ∀ poller, (world.phase poller).claimed.Nodup
  pending : ∀ poller, PendingSound world.table poller (world.phase poller)
  retryable : ∀ poller, ∀ eventId ∈ (world.phase poller).claimed,
    ∃ row, world.table.committed.lookup eventId = some row ∧ config.pollable row = true
  kept : ∀ eventId initial, start.lookup eventId = some initial →
    ∃ row, world.table.committed.lookup eventId = some row
  bounded : ∀ eventId row, world.table.committed.lookup eventId = some row →
    row.retryCount ≤ config.maxRetries
  balanced : ∀ eventId row, world.table.committed.lookup eventId = some row →
    ∃ initial, start.lookup eventId = some initial ∧
      ∀ flight, InFlight (world.marks eventId) flight →
        Balanced initial row flight (world.deliveries eventId true)
          (world.deliveries eventId false)

private theorem World.sound_start {config : PollerConfig} {start : OutboxRows Uuid}
    (bounded : ∀ eventId row, start.lookup eventId = some row →
      row.retryCount ≤ config.maxRetries) :
    (World.start start : World Poller Uuid).Sound config start where
  apart _ _ _ claimed := nomatch claimed
  distinct _ := List.nodup_nil
  pending _ := rfl
  retryable _ _ claimed := nomatch claimed
  kept _ initial present := ⟨initial, present⟩
  bounded := bounded
  balanced eventId row present := by
    refine ⟨row, present, fun flight inFlight => ?_⟩
    cases flight with
    | none => exact ⟨id, by simp [World.deliveries, World.start], by simp [World.deliveries, World.start]⟩
    | some succeeded =>
        obtain ⟨_, marked⟩ := inFlight
        cases marked

variable [DecidableEq Poller] {config : PollerConfig} {start : OutboxRows Uuid}
  {world : World Poller Uuid} {poller : Poller}

omit [DecidableEq Uuid] in
theorem inFlight_update {marks : Poller → Option Bool}
    (others : ∀ other, other ≠ poller → marks other = none) {mark flight : Option Bool} :
    InFlight (Function.update marks poller mark) flight ↔ flight = mark := by
  have atPoller : Function.update marks poller mark poller = mark := Function.update_self ..
  cases flight with
  | none =>
      constructor
      · intro quiet
        rw [← quiet poller, atPoller]
      · intro same other
        by_cases mine : other = poller
        · rw [mine, atPoller, ← same]
        · rw [Function.update_of_ne mine, others other mine]
  | some succeeded =>
      constructor
      · rintro ⟨other, marked⟩
        by_cases mine : other = poller
        · rw [mine, atPoller] at marked
          exact marked.symm
        · rw [Function.update_of_ne mine, others other mine] at marked
          cases marked
      · intro same
        exact ⟨poller, atPoller.trans same.symm⟩

omit [DecidableEq Poller] in
theorem World.Sound.sole (sound : world.Sound config start) {eventId : Uuid}
    (held : eventId ∈ (world.phase poller).claimed) :
    ∀ other, other ≠ poller → world.marks eventId other = none := by
  intro other different
  by_contra marked
  obtain ⟨succeeded, marked⟩ := Option.ne_none_iff_exists'.mp marked
  exact different (sound.apart _ _ _ (mem_claimed_of_unrecorded marked) held)

def World.after (world : World Poller Uuid) (poller : Poller) (phase : Phase Uuid)
    (table : Table Poller Uuid (OutboxEvent Uuid)) (history : List (Occurrence Uuid)) :
    World Poller Uuid :=
  { table, phase := Function.update world.phase poller phase, history }

variable {phase : Phase Uuid} {table : Table Poller Uuid (OutboxEvent Uuid)}
  {history : List (Occurrence Uuid)}

omit [DecidableEq Uuid] in
@[simp] theorem after_phase_self : (world.after poller phase table history).phase poller = phase :=
  Function.update_self ..

omit [DecidableEq Uuid] in
theorem after_phase_of_ne {other : Poller} (apart : other ≠ poller) :
    (world.after poller phase table history).phase other = world.phase other :=
  Function.update_of_ne apart ..

private theorem marks_after (eventId : Uuid) :
    (world.after poller phase table history).marks eventId =
      Function.update (world.marks eventId) poller (phase.unrecorded eventId) := by
  funext other
  by_cases same : other = poller
  · subst same
    simp [World.marks]
  · simp [World.marks, after_phase_of_ne same, same]

/-- A step of one poller: its own part is checked, the rows and the pending writes of the others
are not touched. -/
theorem World.Sound.advance (sound : world.Sound config start)
    (untouched : ∀ eventId, eventId ∉ (world.phase poller).claimed →
      table.committed.lookup eventId = world.table.committed.lookup eventId)
    (others : ∀ other, other ≠ poller → table.pending other = world.table.pending other)
    (claims : ∀ eventId ∈ phase.claimed, eventId ∈ (world.phase poller).claimed ∨
      ∀ other, other ≠ poller → eventId ∉ (world.phase other).claimed)
    (distinct : phase.claimed.Nodup) (pending : PendingSound table poller phase)
    (retryable : ∀ eventId ∈ phase.claimed,
      ∃ row, table.committed.lookup eventId = some row ∧ config.pollable row = true)
    (kept : ∀ eventId row, world.table.committed.lookup eventId = some row →
      ∃ next, table.committed.lookup eventId = some next)
    (bounded : ∀ eventId row, table.committed.lookup eventId = some row →
      row.retryCount ≤ config.maxRetries)
    (balanced : ∀ eventId row, table.committed.lookup eventId = some row →
      ∃ initial, start.lookup eventId = some initial ∧
        ∀ flight, InFlight (Function.update (world.marks eventId) poller (phase.unrecorded eventId))
            flight → Balanced initial row flight (history.count (.delivery eventId true))
          (history.count (.delivery eventId false))) :
    (world.after poller phase table history).Sound config start := by
  have foreign : ∀ other eventId, other ≠ poller → eventId ∈ phase.claimed →
      eventId ∉ (world.phase other).claimed := by
    intro other eventId different claimed held
    rcases claims eventId claimed with mine | free
    · exact different (sound.apart _ _ _ held mine)
    · exact free other different held
  have rowOf : ∀ other eventId, other ≠ poller → eventId ∈ (world.phase other).claimed →
      table.committed.lookup eventId = world.table.committed.lookup eventId :=
    fun other eventId different held =>
      untouched eventId fun mine => different (sound.apart _ _ _ held mine)
  constructor
  · intro first second eventId inFirst inSecond
    by_cases firstSame : first = poller <;> by_cases secondSame : second = poller
    · rw [firstSame, secondSame]
    · subst firstSame
      rw [after_phase_self] at inFirst
      rw [after_phase_of_ne secondSame] at inSecond
      exact absurd inSecond (foreign second eventId secondSame inFirst)
    · subst secondSame
      rw [after_phase_self] at inSecond
      rw [after_phase_of_ne firstSame] at inFirst
      exact absurd inFirst (foreign first eventId firstSame inSecond)
    · rw [after_phase_of_ne firstSame] at inFirst
      rw [after_phase_of_ne secondSame] at inSecond
      exact sound.apart first second eventId inFirst inSecond
  · intro other
    by_cases same : other = poller
    · subst same
      rwa [after_phase_self]
    · rw [after_phase_of_ne same]
      exact sound.distinct other
  · intro other
    by_cases same : other = poller
    · subst same
      rwa [after_phase_self]
    · rw [after_phase_of_ne same]
      have before := sound.pending other
      have own : ∀ eventId ∈ (world.phase other).claimed, table.committed.lookup eventId =
          world.table.committed.lookup eventId := fun eventId held => rowOf other eventId same held
      change PendingSound table other (world.phase other)
      cases at_ : world.phase other with
      | committing now eventId outcome rest =>
          rw [at_] at before own
          obtain ⟨row, time, present, written⟩ := before
          exact ⟨row, time, (own eventId List.mem_cons_self).trans present,
            (others other same).trans written⟩
      | _ =>
          rw [at_] at before
          exact (others other same).trans before
  · intro other eventId claimed
    by_cases same : other = poller
    · subst same
      rw [after_phase_self] at claimed
      exact retryable eventId claimed
    · rw [after_phase_of_ne same] at claimed
      obtain ⟨row, present, pollable⟩ := sound.retryable other eventId claimed
      exact ⟨row, (rowOf other eventId same claimed).trans present, pollable⟩
  · intro eventId initial present
    obtain ⟨row, found⟩ := sound.kept eventId initial present
    exact kept eventId row found
  · exact bounded
  · intro eventId row present
    rw [marks_after]
    exact balanced eventId row present

theorem World.Sound.quietStep (sound : world.Sound config start)
    (committed : table.committed = world.table.committed)
    (others : ∀ other, other ≠ poller → table.pending other = world.table.pending other)
    (claims : ∀ eventId ∈ phase.claimed, eventId ∈ (world.phase poller).claimed ∨
      ∀ other, other ≠ poller → eventId ∉ (world.phase other).claimed)
    (distinct : phase.claimed.Nodup) (pending : PendingSound table poller phase)
    (retryable : ∀ eventId ∈ phase.claimed,
      ∃ row, world.table.committed.lookup eventId = some row ∧ config.pollable row = true)
    (unrecorded : ∀ eventId, phase.unrecorded eventId = (world.phase poller).unrecorded eventId)
    (counts : ∀ eventId succeeded, history.count (Occurrence.delivery eventId succeeded) =
      world.deliveries eventId succeeded) :
    (world.after poller phase table history).Sound config start := by
  refine sound.advance (fun _ _ => by rw [committed]) others claims distinct pending ?_ ?_ ?_ ?_
  · rw [committed]
    exact retryable
  · intro eventId row present
    exact ⟨row, by rw [committed, present]⟩
  · rw [committed]
    exact sound.bounded
  · intro eventId row present
    rw [committed] at present
    obtain ⟨initial, began, balanced⟩ := sound.balanced eventId row present
    refine ⟨initial, began, fun flight inFlight => ?_⟩
    rw [counts, counts]
    apply balanced
    have same : Function.update (world.marks eventId) poller (phase.unrecorded eventId) =
        world.marks eventId := by
      rw [unrecorded]
      exact Function.update_eq_self ..
    rwa [same] at inFlight

/-! ### The statements -/

omit [DecidableEq Poller] in
private theorem lockAll_committed (rows : List (OutboxRow Uuid)) :
    (World.lockAll table poller rows).committed = table.committed := by
  unfold World.lockAll
  induction rows generalizing table with
  | nil => rfl
  | cons row rest ih => exact ih

omit [DecidableEq Poller] in
private theorem lockAll_pending (rows : List (OutboxRow Uuid)) :
    (World.lockAll table poller rows).pending = table.pending := by
  unfold World.lockAll
  induction rows generalizing table with
  | nil => rfl
  | cons row rest ih => exact ih

omit [DecidableEq Poller] in
theorem view_of_idle (idle : table.pending poller = ∅) (eventId : Uuid) :
    (table.view poller).lookup eventId = table.committed.lookup eventId := by
  rw [Table.lookup_view, idle]
  rfl

theorem count_slaBreaches (now : Int) (row : OutboxEvent Uuid) (eventId : Uuid)
    (succeeded : Bool) :
    (config.slaBreaches now row).count (.delivery eventId succeeded) = 0 := by
  unfold PollerConfig.slaBreaches
  split_ifs <;> simp

/-- No event that a poll returns is still in the batch of another poller. -/
def PollsUnclaimed (config : PollerConfig) (world : World Poller Uuid) :
    Poller × Action Uuid → Prop
  | (poller, .poll arrangement _) =>
    ∀ row ∈ config.pollQuery arrangement (world.table.free poller ·) (world.table.view poller),
      ∀ other, other ≠ poller → row.1 ∉ (world.phase other).claimed
  | _ => True

instance decidablePollsUnclaimed [Fintype Poller] (world : World Poller Uuid)
    (action : Poller × Action Uuid) : Decidable (PollsUnclaimed config world action) := by
  obtain ⟨poller, _ | _ | _ | _ | _⟩ := action
  all_goals
    unfold PollsUnclaimed
    infer_instance

private theorem World.Sound.poll (sound : world.Sound config start) {arrangement : Arrangement Uuid}
    {now : Int} (idle : world.phase poller = .idle)
    (unclaimed : PollsUnclaimed config world (poller, .poll arrangement now)) :
    (world.poll config poller arrangement now).Sound config start := by
  have before := sound.pending poller
  rw [idle] at before
  have unfolded : world.poll config poller arrangement now = world ∨ ∃ rows,
      config.pollQuery arrangement (world.table.free poller ·) (world.table.view poller) = rows ∧
        world.poll config poller arrangement now =
          world.after poller (.processing now rows) (World.lockAll world.table poller rows)
            world.history := by
    unfold World.poll
    split
    · exact .inl rfl
    · exact .inr ⟨_, rfl, rfl⟩
  obtain same | ⟨rows, selected, same⟩ := unfolded
  · rw [same]
    exact sound
  rw [same]
  refine sound.quietStep (lockAll_committed rows) (fun _ _ => by rw [lockAll_pending]) ?_ ?_ ?_ ?_ ?_
    fun _ _ => rfl
  · intro eventId claimed
    obtain ⟨row, listed, rfl⟩ := List.mem_map.mp claimed
    exact .inr (unclaimed row (selected ▸ listed))
  · change (rows.map (·.1)).Nodup
    rw [← selected]
    exact pollQuery_distinct
  · change (World.lockAll world.table poller rows).pending poller = ∅
    rw [lockAll_pending]
    exact before
  · intro eventId claimed
    obtain ⟨row, listed, rfl⟩ := List.mem_map.mp claimed
    obtain ⟨present, pollable, -⟩ := mem_pollQuery (selected ▸ listed)
    rw [view_of_idle before] at present
    exact ⟨row.2, present, pollable⟩
  · intro eventId
    rw [idle]
    rfl

theorem World.Sound.skip (sound : world.Sound config start) {now : Int} {row : OutboxRow Uuid}
    {rest : List (OutboxRow Uuid)} (processing : world.phase poller = .processing now (row :: rest))
    (left : phase = .processing now rest ∨ phase = .idle)
    (counts : ∀ eventId succeeded, history.count (Occurrence.delivery eventId succeeded) =
      world.deliveries eventId succeeded) :
    (world.after poller phase (world.table.release poller) history).Sound config start := by
  have claimed := sound.distinct poller
  have owned := sound.retryable poller
  rw [processing] at claimed owned
  have fewer : phase.claimed.Sublist (Phase.processing now (row :: rest)).claimed := by
    rcases left with rfl | rfl
    · exact List.sublist_cons_self ..
    · exact List.nil_sublist _
  refine sound.quietStep rfl (fun other apart => Function.update_of_ne apart ..) ?_
    (claimed.sublist fewer) ?_ (fun eventId held => owned eventId (fewer.subset held)) ?_ counts
  · intro eventId held
    rw [processing]
    exact .inl (fewer.subset held)
  · rcases left with rfl | rfl
    · exact Function.update_self ..
    · exact Function.update_self ..
  · intro eventId
    rw [processing]
    rcases left with rfl | rfl <;> rfl

theorem World.Sound.deliver (sound : world.Sound config start) {now : Int} {row : OutboxRow Uuid}
    {rest : List (OutboxRow Uuid)} (processing : world.phase poller = .processing now (row :: rest))
    (outcome : Except String Unit)
    (sameRows : table.committed = world.table.committed)
    (others : ∀ other, other ≠ poller → table.pending other = world.table.pending other)
    (noWrite : table.pending poller = ∅)
    (counts : ∀ eventId succeeded, history.count (Occurrence.delivery eventId succeeded) =
      (if eventId = row.1 ∧ succeeded = outcome.isOk then 1 else 0) +
        world.deliveries eventId succeeded) :
    (world.after poller (.recording now row.1 outcome rest) table history).Sound config start := by
  have distinct := sound.distinct poller
  have owned := sound.retryable poller
  rw [processing] at distinct owned
  refine sound.advance (fun _ _ => by rw [sameRows]) others ?_ distinct noWrite ?_ ?_ ?_ ?_
  · intro eventId held
    rw [processing]
    exact .inl held
  · rw [sameRows]
    exact owned
  · intro eventId found present
    exact ⟨found, by rw [sameRows, present]⟩
  · rw [sameRows]
    exact sound.bounded
  · intro eventId found present
    rw [sameRows] at present
    obtain ⟨initial, began, balanced⟩ := sound.balanced eventId found present
    refine ⟨initial, began, fun flight inFlight => ?_⟩
    rw [counts, counts]
    by_cases same : eventId = row.1
    · subst same
      have held : row.1 ∈ (world.phase poller).claimed := by
        rw [processing]
        exact List.mem_cons_self
      have others := sound.sole held
      have landed : flight = some outcome.isOk := by
        simpa [Phase.unrecorded] using (inFlight_update others).mp inFlight
      have before : InFlight (world.marks row.1) none := by
        intro other
        by_cases mine : other = poller
        · rw [mine, World.marks, processing]
          rfl
        · exact others other mine
      rw [landed]
      simpa using (balanced none before).attempt outcome.isOk
    · have quiet : (Phase.recording now row.1 outcome rest).unrecorded eventId =
          world.marks eventId poller := by
        rw [World.marks, processing]
        exact if_neg (Ne.symm same)
      rw [quiet, Function.update_eq_self] at inFlight
      simpa [same] using balanced flight inFlight

omit [DecidableEq Poller] in
private theorem count_attempt (now : Int) (row : OutboxRow Uuid) (outcome : Bool) (eventId : Uuid)
    (succeeded : Bool) :
    ((world.note (config.slaBreaches now row.2)).note
        [.delivery row.1 outcome]).history.count (.delivery eventId succeeded) =
      (if eventId = row.1 ∧ succeeded = outcome then 1 else 0) +
        world.deliveries eventId succeeded := by
  have older : (config.slaBreaches now row.2 ++ world.history).count
      (.delivery eventId succeeded) = world.deliveries eventId succeeded := by
    rw [List.count_append, count_slaBreaches, Nat.zero_add]
    rfl
  change (Occurrence.delivery row.1 outcome :: (config.slaBreaches now row.2 ++ world.history)).count
    (.delivery eventId succeeded) = _
  have same : (Occurrence.delivery row.1 outcome == .delivery eventId succeeded) = true ↔
      eventId = row.1 ∧ succeeded = outcome := by
    rw [beq_iff_eq, Occurrence.delivery.injEq, eq_comm, eq_comm (a := outcome)]
  rw [List.count_cons, older, Nat.add_comm]
  simp only [same]

theorem World.Sound.attempt (sound : world.Sound config start) {now : Int} {row : OutboxRow Uuid}
    {rest : List (OutboxRow Uuid)} (processing : world.phase poller = .processing now (row :: rest))
    (outcome : Except String Unit) :
    (world.attempt config poller now row rest outcome).Sound config start := by
  have idle := sound.pending poller
  rw [processing] at idle
  have breaches : ∀ eventId succeeded, (config.slaBreaches now row.2 ++ world.history).count
      (Occurrence.delivery eventId succeeded) = world.deliveries eventId succeeded := by
    intro eventId succeeded
    rw [List.count_append, count_slaBreaches, Nat.zero_add]
    rfl
  unfold World.attempt
  dsimp only
  split_ifs with exhausted unreadable succeeded
  · refine sound.skip processing (.inl rfl) fun eventId succeeded => ?_
    exact (List.count_cons_of_ne (by simp)).trans (breaches eventId succeeded)
  · exact sound.skip processing (.inr rfl) breaches
  · exact sound.deliver processing outcome rfl (fun _ _ => rfl) idle
      fun eventId succeeded => count_attempt now row outcome.isOk eventId succeeded
  · exact sound.deliver processing outcome rfl (fun other apart => Function.update_of_ne apart ..)
      (Function.update_self ..)
      fun eventId succeeded => count_attempt now row outcome.isOk eventId succeeded

theorem World.Sound.update (sound : world.Sound config start) {at_ now : Int} {eventId : Uuid}
    {outcome : Except String Unit} {rest : List (OutboxRow Uuid)} {next : World Poller Uuid}
    (recording : world.phase poller = .recording now eventId outcome rest)
    (updated : world.update poller at_ now eventId outcome rest = some next) :
    next.Sound config start := by
  have idle := sound.pending poller
  have distinct := sound.distinct poller
  have owned := sound.retryable poller
  rw [recording] at idle distinct owned
  obtain ⟨row, present, -⟩ := owned eventId List.mem_cons_self
  unfold World.update at updated
  rw [view_of_idle idle, present] at updated
  dsimp only at updated
  split_ifs at updated
  obtain rfl := Option.some.inj updated
  refine sound.quietStep rfl (fun other apart => Table.pending_write_of_ne _ apart) ?_ distinct
    ⟨row, at_, present, ?_⟩ owned ?_ fun _ _ => rfl
  · intro held claimed
    rw [recording]
    exact .inl claimed
  · change (world.table.write poller eventId _).pending poller = _
    rw [Table.pending_write_self, idle]
  · intro other
    rw [recording]
    rfl

private theorem World.Sound.commit (sound : world.Sound config start) {now : Int} {eventId : Uuid}
    {outcome : Except String Unit} {rest : List (OutboxRow Uuid)}
    (committing : world.phase poller = .committing now eventId outcome rest) :
    (world.after poller (.processing now rest) (world.table.commit poller) world.history).Sound
      config start := by
  have written := sound.pending poller
  have distinct := sound.distinct poller
  have owned := sound.retryable poller
  rw [committing] at written distinct owned
  obtain ⟨row, time, present, written⟩ := written
  obtain ⟨fresh, distinct⟩ := List.nodup_cons.mp distinct
  have pollable : config.pollable row = true := by
    obtain ⟨stored, found, pollable⟩ := owned eventId List.mem_cons_self
    rwa [Option.some.inj (present.symm.trans found)]
  have recorded : (world.table.commit poller).committed.lookup eventId =
      some (row.record time outcome) := by
    change (world.table.view poller).lookup eventId = _
    rw [Table.lookup_view, written, AList.lookup_insert]
    rfl
  have untouched : ∀ other, other ≠ eventId →
      (world.table.commit poller).committed.lookup other = world.table.committed.lookup other := by
    intro other different
    change (world.table.view poller).lookup other = _
    rw [Table.lookup_view, written, AList.lookup_insert_ne different]
    rfl
  have unclaimed : ∀ other ∈ rest.map (·.1), other ≠ eventId := by
    rintro other listed rfl
    exact fresh listed
  refine sound.advance ?_ (fun other apart => Function.update_of_ne apart ..) ?_ distinct
    (Function.update_self ..) ?_ ?_ ?_ ?_
  · intro other free
    refine untouched other ?_
    rintro rfl
    rw [committing] at free
    exact free List.mem_cons_self
  · intro other claimed
    rw [committing]
    exact .inl (List.mem_cons_of_mem _ claimed)
  · intro other claimed
    rw [untouched other (unclaimed other claimed)]
    exact owned other (List.mem_cons_of_mem _ claimed)
  · intro other found stored
    by_cases same : other = eventId
    · exact ⟨_, same ▸ recorded⟩
    · exact ⟨found, (untouched other same).trans stored⟩
  · intro other found stored
    by_cases same : other = eventId
    · subst same
      obtain rfl := Option.some.inj (recorded.symm.trans stored)
      exact record_bounded pollable
    · exact sound.bounded other found ((untouched other same).symm.trans stored)
  · intro other found stored
    by_cases same : other = eventId
    · subst same
      obtain rfl := Option.some.inj (recorded.symm.trans stored)
      obtain ⟨initial, began, balanced⟩ := sound.balanced other row present
      refine ⟨initial, began, fun flight inFlight => ?_⟩
      have held : other ∈ (world.phase poller).claimed := by
        rw [committing]
        exact List.mem_cons_self
      have landed : flight = none := (inFlight_update (sound.sole held)).mp inFlight
      have before : InFlight (world.marks other) (some outcome.isOk) := by
        refine ⟨poller, ?_⟩
        rw [World.marks, committing]
        exact if_pos rfl
      rw [landed]
      exact (balanced _ before).record (notDelivered pollable)
    · obtain ⟨initial, began, balanced⟩ :=
        sound.balanced other found ((untouched other same).symm.trans stored)
      refine ⟨initial, began, fun flight inFlight => balanced flight ?_⟩
      have quiet : (Phase.processing now rest).unrecorded other = world.marks other poller := by
        rw [World.marks, committing]
        exact (if_neg (Ne.symm same)).symm
      rwa [quiet, Function.update_eq_self] at inFlight

private theorem World.Sound.step (sound : world.Sound config start) {action : Action Uuid}
    {next : World Poller Uuid} (unclaimed : PollsUnclaimed config world (poller, action))
    (stepped : world.step config (poller, action) = some next) : next.Sound config start := by
  dsimp only [World.step] at stepped
  split at stepped
  · next idle =>
    cases stepped
    exact sound.poll idle unclaimed
  · next processing =>
    cases stepped
    exact sound.attempt processing _
  · next recording => exact sound.update recording stepped
  · next committing =>
    cases stepped
    exact sound.commit committing
  · next processing =>
    cases stepped
    have idle := sound.pending poller
    rw [processing] at idle
    refine sound.quietStep rfl (fun _ _ => rfl) (fun _ claimed => nomatch claimed) List.nodup_nil idle
      (fun _ claimed => nomatch claimed) ?_ fun _ _ => rfl
    intro eventId
    rw [processing]
    rfl
  · cases stepped

omit [DecidableEq Poller] in
private theorem World.Sound.delivered_le_one (sound : world.Sound config start) {eventId : Uuid}
    {row : OutboxEvent Uuid} (present : world.table.committed.lookup eventId = some row) :
    world.deliveries eventId true ≤ 1 := by
  obtain ⟨initial, -, balanced⟩ := sound.balanced eventId row present
  by_cases delivering : ∃ poller, world.marks eventId poller = some true
  · obtain ⟨poller, marked⟩ := delivering
    obtain ⟨stored, found, pollable⟩ :=
      sound.retryable poller eventId (mem_claimed_of_unrecorded marked)
    obtain rfl := Option.some.inj (present.symm.trans found)
    rw [(balanced (some true) ⟨poller, marked⟩).successes, notDelivered pollable]
    simp
  · by_cases failing : ∃ poller, world.marks eventId poller = some false
    · rw [(balanced (some false) failing).successes]
      simpa using Bool.toNat_le _
    · have quiet : InFlight (world.marks eventId) none := by
        intro poller
        cases marked : world.marks eventId poller with
        | none => rfl
        | some succeeded =>
            cases succeeded
            · exact absurd ⟨poller, marked⟩ failing
            · exact absurd ⟨poller, marked⟩ delivering
      rw [(balanced none quiet).successes]
      simpa using Bool.toNat_le _

omit [DecidableEq Poller] in
private theorem World.Sound.retryCount_eq (sound : world.Sound config start) {eventId : Uuid}
    {row initial : OutboxEvent Uuid} (present : world.table.committed.lookup eventId = some row)
    (began : start.lookup eventId = some initial)
    (recorded : ∀ poller, world.marks eventId poller ≠ some false) :
    row.retryCount = initial.retryCount + world.deliveries eventId false := by
  obtain ⟨first, stored, balanced⟩ := sound.balanced eventId row present
  obtain rfl := Option.some.inj (began.symm.trans stored)
  by_cases delivering : ∃ poller, world.marks eventId poller = some true
  · simpa using (balanced (some true) delivering).failures.symm
  · have quiet : InFlight (world.marks eventId) none := by
      intro poller
      cases marked : world.marks eventId poller with
      | none => rfl
      | some succeeded =>
          cases succeeded
          · exact absurd marked (recorded poller)
          · exact absurd ⟨poller, marked⟩ delivering
    simpa using (balanced none quiet).failures.symm

/-- In every interleaving in which no poll returns an event of another poller's unfinished batch,
an event is delivered at most once, its retries never exceed the maximum, and they are the
failed deliveries made for it, once every failure is written down. -/
theorem delivered_at_most_once {committed : OutboxRows Uuid}
    {schedule : List (Poller × Action Uuid)} {final : World Poller Uuid} {eventId : Uuid}
    {initial : OutboxEvent Uuid}
    (bounded : ∀ other row, committed.lookup other = some row →
      row.retryCount ≤ config.maxRetries)
    (present : committed.lookup eventId = some initial)
    (unclaimed : RunMeets (World.step config) (PollsUnclaimed config) (World.start committed)
      schedule)
    (ran : run (World.step config) (World.start committed) schedule = some final) :
    final.deliveries eventId true ≤ 1 ∧
      ∃ row, final.table.committed.lookup eventId = some row ∧
        row.retryCount ≤ config.maxRetries ∧
        ((∀ poller, final.marks eventId poller ≠ some false) →
          row.retryCount = initial.retryCount + final.deliveries eventId false) := by
  have preserved : ∀ (world : World Poller Uuid) (action : Poller × Action Uuid) next,
      world.Sound config committed → PollsUnclaimed config world action →
        world.step config action = some next → next.Sound config committed :=
    fun _ _ _ sound unclaimed stepped => sound.step unclaimed stepped
  have sound := run_preserves preserved (World.sound_start bounded) unclaimed ran
  obtain ⟨row, found⟩ := sound.kept eventId initial present
  exact ⟨sound.delivered_le_one found, row, found, sound.bounded eventId row found,
    sound.retryCount_eq found present⟩

end Invariant

section Schedules

private def event (occurredAt : Int) : OutboxEvent Nat where
  tenantId := 10
  payload := .dict []
  occurredAt
  delivered := false
  deliveredAt := none
  retryCount := 0
  lastError := none

private def twoEvents : OutboxRows Nat := AList.insert 1 (event 0) (AList.insert 2 (event 1) ∅)

private def pollerConfig (maxRetries : Nat) : PollerConfig where
  batchSize := 50
  maxRetries
  slaBreachDelta := 30
  loads _ := none

private def polling {Poller : Type} (poller : Poller) : List (Poller × Action Nat) :=
  [(poller, .poll (Arrangement.byTime Nat) 2)]

private def delivering {Poller : Type} (poller : Poller) (outcome : Except String Unit) :
    List (Poller × Action Nat) :=
  [(poller, .attempt outcome), (poller, .update 3), (poller, .commit)]

private def timeout : Except String Unit := .error "timeout"

/-- While one poller has both events, a query of the other one finds them locked. It then has the second
event, whose first delivery has failed, when the first poller asks again. -/
private def twoPollers : List (Bool × Action Nat) :=
  polling false ++ polling true ++ delivering false (.ok ()) ++ delivering false timeout ++
    [(false, .close)] ++ polling true ++ polling false ++ delivering true (.ok ())

private theorem twoEvents_bounded {maxRetries : Nat} :
    ∀ other row, twoEvents.lookup other = some row →
      row.retryCount ≤ (pollerConfig maxRetries).maxRetries := by
  intro other row present
  have fresh : ∀ entry ∈ twoEvents.entries, entry.2.retryCount = 0 := by decide
  rw [fresh ⟨other, row⟩ (List.of_mem_dlookup present)]
  exact Nat.zero_le _

/-- An event whose first delivery fails is delivered once, after one retry. -/
theorem second_event_delivered_once :
    ∃ final, run (World.step (pollerConfig 5)) (World.start twoEvents) twoPollers = some final ∧
      final.deliveries 2 true ≤ 1 ∧
      ∃ row, final.table.committed.lookup 2 = some row ∧ row.retryCount ≤ 5 ∧
        ((∀ poller, final.marks 2 poller ≠ some false) →
          row.retryCount = 0 + final.deliveries 2 false) := by
  have ran : ∃ final, run (World.step (pollerConfig 5)) (World.start twoEvents) twoPollers =
      some final := ⟨_, rfl⟩
  obtain ⟨final, ran⟩ := ran
  have present : twoEvents.lookup 2 = some (event 1) := rfl
  exact ⟨final, ran, delivered_at_most_once twoEvents_bounded present
    (by decide +kernel) ran⟩

/-- The commit after the first delivery of a batch has released the second event, and another
poller selects it. -/
private def overlapping (outcome : Except String Unit) : List (Bool × Action Nat) :=
  polling false ++ delivering false (.ok ()) ++ polling true ++ delivering true outcome ++
    delivering false outcome

/-- An event of two overlapping batches is delivered by both pollers; where its last retry fails
for both, its retries exceed the maximum. -/
theorem event_delivered_twice :
    (∃ final, run (World.step (pollerConfig 5)) (World.start twoEvents) (overlapping (.ok ())) =
        some final ∧ final.deliveries 2 true = 2) ∧
      ∃ final row, run (World.step (pollerConfig 1)) (World.start twoEvents)
          (overlapping timeout) = some final ∧
        final.table.committed.lookup 2 = some row ∧ row.retryCount = 2 := by
  refine ⟨⟨_, rfl, ?_⟩, _, _, rfl, rfl, rfl⟩
  decide

end Schedules

end CogniDQ.Tenants
