import CogniDQ.Tenants.OutboxDelivery
import Mathlib.Algebra.Order.BigOperators.Group.Finset

/-!
# Exhausted outbox events

The cycles of one poller, each run to its end, and which events leave the poll query without a
trace. The query leaves out the events whose retries are exhausted, and the branch that escalates
such an event looks at the rows that the query has returned.
-/

set_option autoImplicit false

namespace CogniDQ.Tenants

open CogniDQ.Python

structure Outbox (Uuid : Type) where
  rows : OutboxRows Uuid
  history : List (Occurrence Uuid)

/-- What a cycle takes from outside: the order of its query and the time. -/
structure Cycle (Uuid : Type) where
  arrangement : Arrangement Uuid
  now : Int

section Cycles

variable {Uuid : Type} [DecidableEq Uuid]

/-- The outcome of the delivery of an event, by the failures that it has behind it. -/
abbrev Outcomes (Uuid : Type) : Type := Uuid → Nat → Except String Unit

variable (config : PollerConfig) (outcomes : Outcomes Uuid)

namespace Outbox

def note (outbox : Outbox Uuid) (occurrences : List (Occurrence Uuid)) : Outbox Uuid :=
  { outbox with history := occurrences ++ outbox.history }

/-- The `UPDATE` of an event, on the row as it is then. -/
def record (outbox : Outbox Uuid) (eventId : Uuid) (now : Int) (outcome : Except String Unit) :
    Outbox Uuid :=
  match outbox.rows.lookup eventId with
  | some row => { outbox with rows := outbox.rows.insert eventId (row.record now outcome) }
  | none => outbox

/-- `for row in rows`; a payload that cannot be parsed ends the cycle. -/
def processBatch (now : Int) : List (OutboxRow Uuid) → Outbox Uuid → Outbox Uuid
  | [], outbox => outbox
  | row :: rest, outbox =>
    let outbox := outbox.note (config.slaBreaches now row.2)
    if config.maxRetries ≤ row.2.retryCount then
      processBatch now rest (outbox.note [.exhausted row.1 row.2.tenantId])
    else if (config.readPayload row.2.payload).isNone then outbox
    else
      let outcome := outcomes row.1 row.2.retryCount
      processBatch now rest
        ((outbox.note [.delivery row.1 outcome.isOk]).record row.1 now outcome)

def batch (outbox : Outbox Uuid) (cycle : Cycle Uuid) : List (OutboxRow Uuid) :=
  config.pollQuery cycle.arrangement (fun _ => true) outbox.rows

def pollCycle (outbox : Outbox Uuid) (cycle : Cycle Uuid) : Outbox Uuid :=
  processBatch config outcomes cycle.now (outbox.batch config cycle) outbox

def before (cycles : Nat → Cycle Uuid) (outbox : Outbox Uuid) : Nat → Outbox Uuid
  | 0 => outbox
  | count + 1 => (before cycles outbox count).pollCycle config outcomes (cycles count)

/-- The poll query of a cycle returns the event. -/
def Selects (outbox : Outbox Uuid) (cycle : Cycle Uuid) (eventId : Uuid) : Prop :=
  eventId ∈ (outbox.batch config cycle).map (·.1)

def Delivered (outbox : Outbox Uuid) (eventId : Uuid) : Prop :=
  ∃ row, outbox.rows.lookup eventId = some row ∧ row.delivered = true

/-- The escalation branch has been executed for the event. -/
def Escalated (outbox : Outbox Uuid) (eventId : Uuid) : Prop :=
  ∃ tenantId, Occurrence.exhausted eventId tenantId ∈ outbox.history

/-- An event that the poll query returns no more is delivered or has been escalated. -/
def NeverSilent (cycles : Nat → Cycle Uuid) (outbox : Outbox Uuid) (eventId : Uuid) : Prop :=
  (∃ last, ∀ count, last ≤ count →
      ¬(before config outcomes cycles outbox count).Selects config (cycles count) eventId) →
    ∃ count, (before config outcomes cycles outbox count).Delivered eventId ∨
      (before config outcomes cycles outbox count).Escalated eventId

def Readable (outbox : Outbox Uuid) : Prop :=
  ∀ eventId row, outbox.rows.lookup eventId = some row →
    (config.readPayload row.payload).isSome = true

end Outbox

end Cycles

private theorem record_payload {Uuid : Type} (row : OutboxEvent Uuid) (now : Int)
    (outcome : Except String Unit) : (row.record now outcome).payload = row.payload := by
  cases outcome <;> rfl

section Cycle

variable {Uuid : Type} [DecidableEq Uuid] {config : PollerConfig} {outcomes : Outcomes Uuid}
  {outbox : Outbox Uuid} {cycle : Cycle Uuid} {eventId : Uuid}

namespace Outbox

private theorem lookup_record_self {row : OutboxEvent Uuid}
    (stored : outbox.rows.lookup eventId = some row) (now : Int) (outcome : Except String Unit) :
    (outbox.record eventId now outcome).rows.lookup eventId = some (row.record now outcome) := by
  unfold record
  rw [stored]
  exact AList.lookup_insert _

private theorem lookup_record_of_ne {other : Uuid} (apart : other ≠ eventId) (now : Int)
    (outcome : Except String Unit) :
    (outbox.record eventId now outcome).rows.lookup other = outbox.rows.lookup other := by
  unfold record
  split
  · exact AList.lookup_insert_ne apart
  · rfl

private theorem record_history (now : Int) (outcome : Except String Unit) :
    (outbox.record eventId now outcome).history = outbox.history := by
  unfold record
  split <;> rfl

variable (outcomes) in
private theorem processBatch_spec (now : Int) {batch : List (OutboxRow Uuid)}
    (distinct : (batch.map (·.1)).Nodup)
    (stored : ∀ row ∈ batch, outbox.rows.lookup row.1 = some row.2)
    (retryable : ∀ row ∈ batch, row.2.retryCount < config.maxRetries)
    (readable : ∀ row ∈ batch, (config.readPayload row.2.payload).isSome = true) :
    (∀ other, (processBatch config outcomes now batch outbox).rows.lookup other =
      if other ∈ batch.map (·.1) then
        (outbox.rows.lookup other).map fun row => row.record now (outcomes other row.retryCount)
      else outbox.rows.lookup other) ∧
    ∀ other tenantId, Occurrence.exhausted other tenantId ∈
      (processBatch config outcomes now batch outbox).history →
        Occurrence.exhausted other tenantId ∈ outbox.history := by
  induction batch generalizing outbox with
  | nil => exact ⟨fun other => by simp [processBatch], fun _ _ noted => noted⟩
  | cons row rest ih =>
      obtain ⟨fresh, distinct⟩ := List.nodup_cons.mp distinct
      have inTable := stored row List.mem_cons_self
      have left := retryable row List.mem_cons_self
      have parsed : ¬(config.readPayload row.2.payload).isNone = true := by
        rw [Option.isNone_iff_eq_none]
        exact Option.isSome_iff_ne_none.mp (readable row List.mem_cons_self)
      have apart : ∀ other ∈ rest.map (·.1), other ≠ row.1 := by
        rintro other listed rfl
        exact fresh listed
      unfold processBatch
      dsimp only
      rw [if_neg (Nat.not_le.mpr left), if_neg parsed]
      generalize started : (outbox.note (config.slaBreaches now row.2)).note
        [Occurrence.delivery row.1 (outcomes row.1 row.2.retryCount).isOk] = attempted
      have sameRows : attempted.rows = outbox.rows := by rw [← started]; rfl
      have recorded : ∀ other, other ≠ row.1 →
          (attempted.record row.1 now (outcomes row.1 row.2.retryCount)).rows.lookup other =
            outbox.rows.lookup other := by
        intro other different
        rw [lookup_record_of_ne different, sameRows]
      obtain ⟨rows, history⟩ := ih distinct
        (fun later listed => (recorded later.1 (apart _ (List.mem_map_of_mem listed))).trans
          (stored later (List.mem_cons_of_mem _ listed)))
        (fun later listed => retryable later (List.mem_cons_of_mem _ listed))
        (fun later listed => readable later (List.mem_cons_of_mem _ listed))
      constructor
      · intro other
        rw [rows other]
        by_cases same : other = row.1
        · subst same
          rw [if_neg fresh, List.map_cons, if_pos List.mem_cons_self, inTable,
            lookup_record_self (sameRows ▸ inTable)]
          rfl
        · have members : other ∈ (row :: rest).map (·.1) ↔ other ∈ rest.map (·.1) := by
            rw [List.map_cons, List.mem_cons]
            exact or_iff_right same
          rw [recorded other same]
          simp only [members]
      · intro other tenantId noted
        have earlier := history other tenantId noted
        rw [record_history, ← started] at earlier
        have kept : .exhausted other tenantId ∈ config.slaBreaches now row.2 ++ outbox.history :=
          (List.mem_cons.mp earlier).resolve_left (by simp)
        refine (List.mem_append.mp kept).resolve_left fun breach => ?_
        unfold PollerConfig.slaBreaches at breach
        split_ifs at breach <;> simp at breach

variable (config outcomes) in
theorem pollCycle_spec (readable : outbox.Readable config) (cycle : Cycle Uuid) :
    (∀ other, (outbox.Selects config cycle other ∧
        (outbox.pollCycle config outcomes cycle).rows.lookup other =
          (outbox.rows.lookup other).map fun row =>
            row.record cycle.now (outcomes other row.retryCount)) ∨
      (¬outbox.Selects config cycle other ∧
        (outbox.pollCycle config outcomes cycle).rows.lookup other = outbox.rows.lookup other)) ∧
    ∀ other, (outbox.pollCycle config outcomes cycle).Escalated other → outbox.Escalated other := by
  have stored : ∀ row ∈ outbox.batch config cycle, outbox.rows.lookup row.1 = some row.2 :=
    fun row selected => (mem_pollQuery selected).1
  obtain ⟨rows, history⟩ := processBatch_spec outcomes cycle.now pollQuery_distinct stored
    (fun row selected => notExhausted (mem_pollQuery selected).2.1)
    (fun row selected => readable row.1 row.2 (mem_pollQuery selected).1)
  constructor
  · intro other
    by_cases selected : outbox.Selects config cycle other
    · exact .inl ⟨selected, (rows other).trans (if_pos selected)⟩
    · exact .inr ⟨selected, (rows other).trans (if_neg selected)⟩
  · rintro other ⟨tenantId, noted⟩
    exact ⟨tenantId, history other tenantId noted⟩

theorem Selects.pollable {row : OutboxEvent Uuid} (selected : outbox.Selects config cycle eventId)
    (present : outbox.rows.lookup eventId = some row) : config.pollable row = true := by
  obtain ⟨found, listed, rfl⟩ := List.mem_map.mp selected
  obtain ⟨stored, pollable, -⟩ := mem_pollQuery listed
  rwa [Option.some.inj (present.symm.trans stored)]

theorem exists_selected (cycle : Cycle Uuid) {row : OutboxEvent Uuid} (positive : 0 < config.batchSize)
    (present : outbox.rows.lookup eventId = some row) (pollable : config.pollable row = true) :
    ∃ other, outbox.Selects config cycle other := by
  have listed : (eventId, row) ∈ (outbox.rows.entries.map fun entry => (entry.1, entry.2)).filter
      fun row => config.pollable row.2 && true := by
    refine List.mem_filter.mpr ⟨List.mem_map.mpr ⟨⟨eventId, row⟩, ?_, rfl⟩, by simpa using pollable⟩
    exact List.of_mem_dlookup present
  have arranged := (cycle.arrangement.perm _).mem_iff.mpr listed
  have first : 0 < (outbox.batch config cycle).length := by
    unfold batch PollerConfig.pollQuery
    rw [List.length_take]
    exact Nat.lt_min.mpr ⟨positive, List.length_pos_of_mem arranged⟩
  obtain ⟨found, member⟩ := List.exists_mem_of_length_pos first
  exact ⟨found.1, List.mem_map_of_mem member⟩

private theorem Readable.pollCycle (readable : outbox.Readable config) :
    (outbox.pollCycle config outcomes cycle).Readable config := by
  intro other row present
  obtain ⟨-, evolved⟩ | ⟨-, same⟩ := (pollCycle_spec config outcomes readable cycle).1 other
  · rw [evolved] at present
    obtain ⟨older, stored, rfl⟩ := Option.map_eq_some_iff.mp present
    rw [record_payload]
    exact readable other older stored
  · exact readable other row (same ▸ present)

end Outbox

end Cycle

section Runs

variable {Uuid : Type} [DecidableEq Uuid] {config : PollerConfig} {outcomes : Outcomes Uuid}
  {cycles : Nat → Cycle Uuid} {start : Outbox Uuid} {eventId : Uuid}

namespace Outbox

theorem readable_before (readable : start.Readable config) (count : Nat) :
    (start.before config outcomes cycles count).Readable config := by
  induction count with
  | zero => exact readable
  | succ count ih => exact ih.pollCycle

variable (outcomes cycles) in
theorem row_induction (property : OutboxEvent Uuid → Prop) (readable : start.Readable config)
    (first : Nat) {row : OutboxEvent Uuid}
    (present : (start.before config outcomes cycles first).rows.lookup eventId = some row)
    (begun : property row)
    (attempted : ∀ row now, property row → config.pollable row = true →
      property (row.record now (outcomes eventId row.retryCount)))
    (count : Nat) (later : first ≤ count) :
    ∃ row, (start.before config outcomes cycles count).rows.lookup eventId = some row ∧
      property row := by
  induction count, later using Nat.le_induction with
  | base => exact ⟨row, present, begun⟩
  | succ count _ ih =>
      obtain ⟨row, present, holds⟩ := ih
      obtain ⟨selected, evolved⟩ | ⟨-, same⟩ :=
        (pollCycle_spec config outcomes (readable_before readable count) (cycles count)).1 eventId
      · refine ⟨_, evolved.trans (by rw [present]; rfl), ?_⟩
        exact attempted row _ holds (selected.pollable present)
      · exact ⟨row, same.trans present, holds⟩

def attemptsLeft (config : PollerConfig) (row : OutboxEvent Uuid) : Nat :=
  if config.pollable row then config.maxRetries - row.retryCount else 0

def totalLeft (config : PollerConfig) (events : Finset Uuid) (outbox : Outbox Uuid) : Nat :=
  ∑ eventId ∈ events, ((outbox.rows.lookup eventId).map (attemptsLeft config)).getD 0

omit [DecidableEq Uuid] in
private theorem attemptsLeft_le (config : PollerConfig) (row : OutboxEvent Uuid) :
    attemptsLeft config row ≤ config.maxRetries - row.retryCount := by
  unfold attemptsLeft
  split
  · exact le_rfl
  · exact Nat.zero_le _

omit [DecidableEq Uuid] in
private theorem attemptsLeft_record {row : OutboxEvent Uuid} (pollable : config.pollable row = true)
    (now : Int) (outcome : Except String Unit) :
    attemptsLeft config (row.record now outcome) < attemptsLeft config row := by
  have left := notExhausted pollable
  have before : attemptsLeft config row = config.maxRetries - row.retryCount := if_pos pollable
  rw [before]
  cases outcome with
  | ok =>
      have settled : attemptsLeft config (row.record now (.ok ())) = 0 :=
        if_neg (by simp [PollerConfig.pollable, OutboxEvent.record])
      rw [settled]
      omega
  | error message =>
      have after := attemptsLeft_le config (row.record now (.error message))
      have counted : (row.record now (.error message)).retryCount = row.retryCount + 1 := rfl
      omega

theorem totalLeft_lt {outbox : Outbox Uuid} {cycle : Cycle Uuid} {events : Finset Uuid}
    {row : OutboxEvent Uuid} (positive : 0 < config.batchSize) (readable : outbox.Readable config)
    (covered : ∀ other row, outbox.rows.lookup other = some row → other ∈ events)
    (present : outbox.rows.lookup eventId = some row) (pollable : config.pollable row = true) :
    totalLeft config events (outbox.pollCycle config outcomes cycle) <
      totalLeft config events outbox := by
  have spec := (pollCycle_spec config outcomes readable cycle).1
  obtain ⟨chosen, selected⟩ := exists_selected cycle positive present pollable
  have used : ∀ other, outbox.Selects config cycle other →
      (((outbox.pollCycle config outcomes cycle).rows.lookup other).map
        (attemptsLeft config)).getD 0 <
      ((outbox.rows.lookup other).map (attemptsLeft config)).getD 0 ∧ other ∈ events := by
    intro other picked
    obtain ⟨-, evolved⟩ | ⟨refused, -⟩ := spec other
    · obtain ⟨found, listed, rfl⟩ := List.mem_map.mp picked
      obtain ⟨stored, retryable, -⟩ := mem_pollQuery listed
      rw [evolved, stored]
      exact ⟨attemptsLeft_record retryable _ _, covered _ _ stored⟩
    · exact absurd picked refused
  refine Finset.sum_lt_sum (fun other _ => ?_) ⟨chosen, (used chosen selected).2,
    (used chosen selected).1⟩
  obtain ⟨picked, -⟩ | ⟨-, same⟩ := spec other
  · exact (used other picked).1.le
  · rw [same]

theorem mem_keys_before (readable : start.Readable config) (count : Nat) {other : Uuid}
    {row : OutboxEvent Uuid}
    (stored : (start.before config outcomes cycles count).rows.lookup other = some row) :
    other ∈ start.rows.keys.toFinset := by
  induction count generalizing row with
  | zero =>
      change start.rows.lookup other = some row at stored
      exact List.mem_toFinset.mpr (AList.lookup_isSome.mp (by rw [stored]; rfl))
  | succ count ih =>
      obtain ⟨-, evolved⟩ | ⟨-, same⟩ :=
        (pollCycle_spec config outcomes (readable_before readable count) (cycles count)).1 other
      · obtain ⟨older, found, -⟩ := Option.map_eq_some_iff.mp (evolved.symm.trans stored)
        exact ih found
      · exact ih (same.symm.trans stored)

/-- As long as some event can be polled, every cycle so far has used up an attempt. -/
theorem attempts_used (positive : 0 < config.batchSize) (readable : start.Readable config)
    (count : Nat) {row : OutboxEvent Uuid}
    (stored : (start.before config outcomes cycles count).rows.lookup eventId = some row)
    (pollable : config.pollable row = true) :
    totalLeft config start.rows.keys.toFinset (start.before config outcomes cycles count) + count ≤
      totalLeft config start.rows.keys.toFinset start := by
  induction count generalizing row with
  | zero => exact le_rfl
  | succ count ih =>
      have earlier : ∃ older,
          (start.before config outcomes cycles count).rows.lookup eventId = some older ∧
            config.pollable older = true := by
        obtain ⟨selected, evolved⟩ | ⟨-, same⟩ :=
          (pollCycle_spec config outcomes (readable_before readable count) (cycles count)).1 eventId
        · obtain ⟨older, found, -⟩ := Option.map_eq_some_iff.mp (evolved.symm.trans stored)
          exact ⟨older, found, selected.pollable found⟩
        · exact ⟨row, same.symm.trans stored, pollable⟩
      obtain ⟨older, found, retryable⟩ := earlier
      have used : totalLeft config start.rows.keys.toFinset
            (start.before config outcomes cycles (count + 1)) <
          totalLeft config start.rows.keys.toFinset (start.before config outcomes cycles count) :=
        totalLeft_lt positive (readable_before readable count)
          (fun _ _ listed => mem_keys_before readable count listed) found retryable
      have before := ih found retryable
      omega

variable (outcomes cycles) in
/-- Sooner or later an event is delivered or exhausted: while it is not, every cycle uses up an
attempt of some event. -/
theorem eventually_settled {initial : OutboxEvent Uuid} (positive : 0 < config.batchSize)
    (readable : start.Readable config) (present : start.rows.lookup eventId = some initial) :
    ∃ count row, (start.before config outcomes cycles count).rows.lookup eventId = some row ∧
      config.pollable row = false := by
  by_contra never
  have stays : ∀ count, ∃ row,
      (start.before config outcomes cycles count).rows.lookup eventId = some row ∧
        config.pollable row = true := by
    intro count
    obtain ⟨row, stored, -⟩ := row_induction outcomes cycles (fun _ => True) readable 0 present
      trivial (fun _ _ _ _ => trivial) count (Nat.zero_le _)
    refine ⟨row, stored, ?_⟩
    by_contra settled
    exact never ⟨count, row, stored, Bool.eq_false_iff.mpr settled⟩
  obtain ⟨row, stored, pollable⟩ := stays (totalLeft config start.rows.keys.toFinset start + 1)
  have used := attempts_used positive readable _ stored pollable
  omega

private theorem escalated_before (readable : start.Readable config) (count : Nat)
    (escalated : (start.before config outcomes cycles count).Escalated eventId) :
    start.Escalated eventId := by
  induction count with
  | zero => exact escalated
  | succ count ih =>
      exact ih ((pollCycle_spec config outcomes (readable_before readable count)
        (cycles count)).2 eventId escalated)

theorem silent_of_failures {initial : OutboxEvent Uuid} (positive : 0 < config.batchSize)
    (readable : start.Readable config) (present : start.rows.lookup eventId = some initial)
    (quiet : ¬start.Escalated eventId) (undelivered : initial.delivered = false)
    (fails : ∀ failures, initial.retryCount ≤ failures → failures < config.maxRetries →
      outcomes eventId failures ≠ .ok ()) :
    ¬start.NeverSilent config outcomes cycles eventId := by
  intro neverSilent
  have stuck : ∀ count, ∃ row,
      (start.before config outcomes cycles count).rows.lookup eventId = some row ∧
        row.delivered = false ∧ initial.retryCount ≤ row.retryCount := by
    intro count
    refine row_induction outcomes cycles
      (fun row => row.delivered = false ∧ initial.retryCount ≤ row.retryCount) readable 0 present
      ⟨undelivered, le_rfl⟩ ?_ count (Nat.zero_le _)
    intro row now ⟨still, more⟩ pollable
    cases outcome : outcomes eventId row.retryCount with
    | ok => exact absurd outcome (fails _ more (notExhausted pollable))
    | error message => exact ⟨still, Nat.le_succ_of_le more⟩
  obtain ⟨last, row, stored, settled⟩ :=
    eventually_settled outcomes cycles positive readable present
  have unselected : ∀ count, last ≤ count →
      ¬(start.before config outcomes cycles count).Selects config (cycles count) eventId := by
    intro count later selected
    obtain ⟨final, found, still⟩ := row_induction outcomes cycles
      (fun row => config.pollable row = false) readable last stored settled
      (fun row _ done pollable => absurd pollable (Bool.eq_false_iff.mp done)) count later
    rw [selected.pollable found] at still
    cases still
  obtain ⟨count, ⟨row, found, delivered⟩ | escalated⟩ := neverSilent ⟨last, unselected⟩
  · obtain ⟨other, also, still, -⟩ := stuck count
    obtain rfl := Option.some.inj (found.symm.trans also)
    rw [delivered] at still
    cases still
  · exact quiet (escalated_before readable count escalated)

/-- An event that is delivered, or that some attempt within its retries delivers, never goes
silent; and no other event does: the escalation branch is never reached. -/
theorem neverSilent_iff {initial : OutboxEvent Uuid} (positive : 0 < config.batchSize)
    (readable : start.Readable config) (present : start.rows.lookup eventId = some initial)
    (quiet : ¬start.Escalated eventId) :
    start.NeverSilent config outcomes cycles eventId ↔
      initial.delivered = true ∨ ∃ failures, initial.retryCount ≤ failures ∧
        failures < config.maxRetries ∧ outcomes eventId failures = .ok () := by
  constructor
  · intro neverSilent
    by_contra hopeless
    obtain ⟨undelivered, fails⟩ := not_or.mp hopeless
    refine silent_of_failures positive readable present quiet (Bool.eq_false_iff.mpr undelivered) ?_
      neverSilent
    intro failures enough left succeeded
    exact fails ⟨failures, enough, left, succeeded⟩
  · rintro (delivered | ⟨failures, enough, left, succeeds⟩) -
    · exact ⟨0, .inl ⟨initial, present, delivered⟩⟩
    · obtain ⟨last, row, stored, settled⟩ :=
        eventually_settled outcomes cycles positive readable present
      have attempted : ∀ (row : OutboxEvent Uuid) now, row.delivered = true ∨ row.retryCount ≤ failures →
          config.pollable row = true →
          (row.record now (outcomes eventId row.retryCount)).delivered = true ∨
            (row.record now (outcomes eventId row.retryCount)).retryCount ≤ failures := by
        intro row now holds pollable
        have waiting := holds.resolve_left (by simp [notDelivered pollable])
        cases outcome : outcomes eventId row.retryCount with
        | ok => exact .inl rfl
        | error message =>
            refine .inr (Nat.lt_of_le_of_ne waiting ?_)
            intro same
            rw [same, succeeds] at outcome
            cases outcome
      obtain ⟨found, also, progress⟩ := row_induction outcomes cycles
        (fun row => row.delivered = true ∨ row.retryCount ≤ failures) readable 0 present
        (.inr enough) attempted last (Nat.zero_le _)
      obtain rfl := Option.some.inj (stored.symm.trans also)
      refine ⟨last, .inl ⟨row, stored, ?_⟩⟩
      rcases progress with delivered | within
      · exact delivered
      · have spent : row.retryCount < config.maxRetries := Nat.lt_of_le_of_lt within left
        simpa [PollerConfig.pollable, spent] using settled

/-- A poller drains its outbox: after as many cycles as there are attempts left, every event is
delivered or has used up its retries, and no query returns an event any more. -/
theorem drained_after (positive : 0 < config.batchSize) (readable : start.Readable config)
    {count : Nat} (enough : totalLeft config start.rows.keys.toFinset start ≤ count) :
    (∀ eventId row, (start.before config outcomes cycles count).rows.lookup eventId = some row →
        row.delivered = true ∨ config.maxRetries ≤ row.retryCount) ∧
      ∀ eventId, ¬(start.before config outcomes cycles count).Selects config (cycles count)
        eventId := by
  have settled : ∀ eventId row,
      (start.before config outcomes cycles count).rows.lookup eventId = some row →
        config.pollable row = false := by
    intro eventId row stored
    by_contra pollable
    have retryable := Bool.eq_true_of_not_eq_false pollable
    have used := attempts_used positive readable count stored retryable
    have one : totalLeft config start.rows.keys.toFinset
          (start.before config outcomes cycles (count + 1)) <
        totalLeft config start.rows.keys.toFinset (start.before config outcomes cycles count) :=
      totalLeft_lt positive (readable_before readable count)
        (fun _ _ listed => mem_keys_before readable count listed) stored retryable
    omega
  constructor
  · intro eventId row stored
    have ended := settled eventId row stored
    by_cases delivered : row.delivered = true
    · exact .inl delivered
    · right
      simpa [PollerConfig.pollable, delivered] using ended
  · intro eventId selected
    obtain ⟨found, listed, -⟩ := List.mem_map.mp selected
    obtain ⟨stored, pollable, -⟩ := mem_pollQuery listed
    rw [settled _ _ stored] at pollable
    cases pollable

end Outbox

end Runs

section Events

private def recorded (tenantId : Nat) (occurredAt : Int) (retryCount : Nat) :
    OutboxEvent Nat where
  tenantId := tenantId
  payload := .dict []
  occurredAt := occurredAt
  delivered := false
  deliveredAt := none
  retryCount := retryCount
  lastError := none

private def oneEvent : Outbox Nat where
  rows := AList.insert 1 (recorded 10 0 0) ∅
  history := []

private def everyFiveSeconds (count : Nat) : Cycle Nat :=
  ⟨Arrangement.byTime Nat, 5 * count⟩

private def defaults : PollerConfig where
  batchSize := 50
  maxRetries := 5
  slaBreachDelta := 30
  loads _ := none

private theorem readable_of_objects {config : PollerConfig} {outbox : Outbox Nat}
    (objects : ∀ entry ∈ outbox.rows.entries, entry.2.payload = .dict []) :
    outbox.Readable config := by
  intro eventId row present
  rw [objects ⟨eventId, row⟩ (List.of_mem_dlookup present)]
  rfl

private theorem oneEvent_readable : oneEvent.Readable defaults := by
  refine readable_of_objects fun entry listed => ?_
  change entry ∈ [(⟨1, _⟩ : Sigma fun _ : Nat => OutboxEvent Nat)] at listed
  rw [List.mem_singleton.mp listed]
  rfl

private theorem oneEvent_quiet : ¬oneEvent.Escalated 1 := by
  rintro ⟨_, noted⟩
  cases noted

/-- An event whose third attempt succeeds does not go silent. -/
theorem third_attempt_not_silent :
    oneEvent.NeverSilent defaults (fun _ failures => if failures = 2 then .ok () else .error "")
      everyFiveSeconds 1 := by
  refine (Outbox.neverSilent_iff (by decide) oneEvent_readable rfl oneEvent_quiet).mpr (.inr ?_)
  exact ⟨2, by decide, by decide, rfl⟩

/-- An event whose five attempts fail leaves the poll query undelivered and is never escalated. -/
theorem exhausted_event_silent :
    ¬oneEvent.NeverSilent defaults (fun _ _ => .error "timeout") everyFiveSeconds 1 :=
  Outbox.silent_of_failures (by decide) oneEvent_readable rfl oneEvent_quiet rfl
    fun _ _ _ succeeded => nomatch succeeded

/-- Three events of two tenants, of which one was attempted before. -/
private def severalEvents : Outbox Nat where
  rows := AList.insert 1 (recorded 10 0 0) (AList.insert 2 (recorded 10 1 2)
    (AList.insert 3 (recorded 11 2 0) ∅))
  history := []

private def oneByOne : PollerConfig := { defaults with batchSize := 1 }

private theorem severalEvents_readable : severalEvents.Readable oneByOne := by
  refine readable_of_objects fun entry listed => ?_
  change entry ∈ [(⟨1, _⟩ : Sigma fun _ : Nat => OutboxEvent Nat), ⟨2, _⟩, ⟨3, _⟩] at listed
  simp only [List.mem_cons, List.not_mem_nil, or_false] at listed
  rcases listed with rfl | rfl | rfl <;> rfl

/-- The second event goes through at its second attempt here, the others fail every time. -/
private def onlySecond (eventId failures : Nat) : Except String Unit :=
  if eventId = 2 ∧ failures = 3 then .ok () else .error "timeout"

/-- As many cycles as there are attempts left deliver one event and exhaust the others. -/
theorem failing_event_drained :
    (∀ eventId row, (severalEvents.before oneByOne onlySecond everyFiveSeconds
        13).rows.lookup eventId = some row → row.delivered = true ∨ 5 ≤ row.retryCount) ∧
      ∀ eventId, ¬(severalEvents.before oneByOne onlySecond everyFiveSeconds 13).Selects oneByOne
        (everyFiveSeconds 13) eventId :=
  Outbox.drained_after (by decide) severalEvents_readable (by decide)

end Events

end CogniDQ.Tenants
