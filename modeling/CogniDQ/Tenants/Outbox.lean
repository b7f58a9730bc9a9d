import CogniDQ.Database.ReadCommitted
import CogniDQ.Protocol.Runs
import CogniDQ.Python.Value
import Mathlib.Data.List.Sort

/-!
# The outbox poller

`_poll_cycle` of the outbox poller: the rows of `control.outbox_events`, the query that selects a
batch of them, and the statements of any number of pollers. The query locks its whole batch, and
the commit or rollback that follows each delivery releases every lock of the poller.
-/

set_option autoImplicit false

namespace CogniDQ.Tenants

open CogniDQ.Database CogniDQ.Protocol CogniDQ.Python

structure OutboxEvent (Uuid : Type) where
  tenantId : Uuid
  payload : Value
  occurredAt : Int
  delivered : Bool
  deliveredAt : Option Int
  retryCount : Nat
  lastError : Option String

abbrev OutboxRow (Uuid : Type) : Type := Uuid × OutboxEvent Uuid

abbrev OutboxRows (Uuid : Type) : Type := Rows Uuid (OutboxEvent Uuid)

structure PollerConfig where
  batchSize : Nat
  maxRetries : Nat
  slaBreachDelta : Int
  /-- `json.loads`; none when it raises. -/
  loads : String → Option Value

/-- An execution of `ORDER BY occurred_at ASC`; events of one time may come in any order. -/
structure Arrangement (Uuid : Type) where
  arrange : List (OutboxRow Uuid) → List (OutboxRow Uuid)
  perm : ∀ rows, (arrange rows).Perm rows
  oldestFirst : ∀ rows,
    (arrange rows).Pairwise fun first second => first.2.occurredAt ≤ second.2.occurredAt

private def occursBefore {Uuid : Type} (first second : OutboxRow Uuid) : Prop :=
  first.2.occurredAt ≤ second.2.occurredAt

private instance {Uuid : Type} : DecidableRel (@occursBefore Uuid) :=
  fun first second => inferInstanceAs (Decidable (first.2.occurredAt ≤ second.2.occurredAt))

private instance {Uuid : Type} : Std.Total (@occursBefore Uuid) :=
  ⟨fun first second => Int.le_total first.2.occurredAt second.2.occurredAt⟩

private instance {Uuid : Type} : IsTrans (OutboxRow Uuid) occursBefore :=
  ⟨fun _ _ _ before after => Int.le_trans before after⟩

def Arrangement.byTime (Uuid : Type) : Arrangement Uuid where
  arrange := List.insertionSort occursBefore
  perm rows := List.perm_insertionSort _ rows
  oldestFirst rows := List.pairwise_insertionSort _ rows

/-- What a poller does that is not in the table: alerts and deliveries. -/
inductive Occurrence (Uuid : Type) where
  | slaBreach (tenantId : Uuid)
  /-- The critical log of an event that has exhausted its retries. -/
  | exhausted (eventId tenantId : Uuid)
  | delivery (eventId : Uuid) (succeeded : Bool)
deriving DecidableEq

section Rows

variable {Uuid : Type} [DecidableEq Uuid]

namespace PollerConfig

variable (config : PollerConfig)

def pollable (row : OutboxEvent Uuid) : Bool :=
  !row.delivered && decide (row.retryCount < config.maxRetries)

/-- The rows the query returns, of those that no other transaction has locked. -/
def pollQuery (arrangement : Arrangement Uuid) (free : Uuid → Bool) (rows : OutboxRows Uuid) :
    List (OutboxRow Uuid) :=
  let selected := (rows.entries.map fun entry => (entry.1, entry.2)).filter fun row =>
    config.pollable row.2 && free row.1
  (arrangement.arrange selected).take config.batchSize

/-- The payload that is delivered; none when it cannot be parsed. -/
def readPayload : Value → Option Value
  | .str text => config.loads text
  | payload => some (payload.or (.dict []))

def slaBreaches (now : Int) (row : OutboxEvent Uuid) : List (Occurrence Uuid) :=
  if now - row.occurredAt > config.slaBreachDelta then [.slaBreach row.tenantId] else []

end PollerConfig

/-- The row after `_MARK_DELIVERED_SQL` or `_INCREMENT_RETRY_SQL`. -/
def OutboxEvent.record (row : OutboxEvent Uuid) (now : Int) : Except String Unit → OutboxEvent Uuid
  | .ok () => { row with delivered := true, deliveredAt := some now }
  | .error message =>
    { row with
      retryCount := row.retryCount + 1
      lastError := some (String.ofList (message.toList.take 1000)) }

end Rows

inductive Phase (Uuid : Type) where
  | idle
  /-- The rows of the batch that are still to be processed. -/
  | processing (now : Int) (rows : List (OutboxRow Uuid))
  /-- A delivery has been attempted, and its outcome is not in the table yet. -/
  | recording (now : Int) (eventId : Uuid) (outcome : Except String Unit)
      (rest : List (OutboxRow Uuid))
  | committing (now : Int) (eventId : Uuid) (outcome : Except String Unit)
      (rest : List (OutboxRow Uuid))

structure World (Poller Uuid : Type) where
  table : Table Poller Uuid (OutboxEvent Uuid)
  phase : Poller → Phase Uuid
  history : List (Occurrence Uuid)

inductive Action (Uuid : Type) where
  | poll (arrangement : Arrangement Uuid) (now : Int)
  /-- The loop body up to the delivery, which returns or raises. -/
  | attempt (outcome : Except String Unit)
  | update (now : Int)
  | commit
  | close

section Steps

variable {Poller Uuid : Type} [DecidableEq Poller] [DecidableEq Uuid]

namespace World

def start (committed : OutboxRows Uuid) : World Poller Uuid :=
  { table := Table.quiet committed, phase := fun _ => .idle, history := [] }

def goto (world : World Poller Uuid) (poller : Poller) (phase : Phase Uuid) : World Poller Uuid :=
  { world with phase := Function.update world.phase poller phase }

def withTable (world : World Poller Uuid) (table : Table Poller Uuid (OutboxEvent Uuid)) :
    World Poller Uuid :=
  { world with table }

def note (world : World Poller Uuid) (occurrences : List (Occurrence Uuid)) : World Poller Uuid :=
  { world with history := occurrences ++ world.history }

def lockAll (table : Table Poller Uuid (OutboxEvent Uuid)) (poller : Poller)
    (rows : List (OutboxRow Uuid)) : Table Poller Uuid (OutboxEvent Uuid) :=
  rows.foldl (fun table row => table.lock poller row.1) table

/-- `SELECT … FOR UPDATE SKIP LOCKED`; without rows the poller rolls back and is done. -/
def poll (config : PollerConfig) (world : World Poller Uuid) (poller : Poller)
    (arrangement : Arrangement Uuid) (now : Int) : World Poller Uuid :=
  match config.pollQuery arrangement (world.table.free poller ·) (world.table.view poller) with
  | [] => world
  | rows => (world.withTable (lockAll world.table poller rows)).goto poller (.processing now rows)

/-- A row of the batch up to its delivery: it is escalated and left, its payload cannot be parsed
and the cycle ends, or the delivery is attempted. A failed delivery rolls back. -/
def attempt (config : PollerConfig) (world : World Poller Uuid) (poller : Poller) (now : Int)
    (row : OutboxRow Uuid) (rest : List (OutboxRow Uuid)) (outcome : Except String Unit) :
    World Poller Uuid :=
  let world := world.note (config.slaBreaches now row.2)
  if config.maxRetries ≤ row.2.retryCount then
    ((world.note [.exhausted row.1 row.2.tenantId]).withTable (world.table.release poller)).goto
      poller (.processing now rest)
  else if (config.readPayload row.2.payload).isNone then
    (world.withTable (world.table.release poller)).goto poller .idle
  else
    let table := if outcome.isOk then world.table else world.table.release poller
    ((world.note [.delivery row.1 outcome.isOk]).withTable table).goto poller
      (.recording now row.1 outcome rest)

/-- The `UPDATE` after a delivery, on the row as it is then; none while another transaction has
locked the row. -/
def update (world : World Poller Uuid) (poller : Poller) (at_ : Int) (now : Int) (eventId : Uuid)
    (outcome : Except String Unit) (rest : List (OutboxRow Uuid)) : Option (World Poller Uuid) :=
  let next := Phase.committing now eventId outcome rest
  match (world.table.view poller).lookup eventId with
  | none => some (world.goto poller next)
  | some row =>
    if world.table.free poller eventId then
      some ((world.withTable
        (world.table.write poller eventId (some (row.record at_ outcome)))).goto poller next)
    else none

def step (config : PollerConfig) (world : World Poller Uuid) :
    Poller × Action Uuid → Option (World Poller Uuid)
  | (poller, action) =>
    match action, world.phase poller with
    | .poll arrangement now, .idle => some (world.poll config poller arrangement now)
    | .attempt outcome, .processing now (row :: rest) =>
      some (world.attempt config poller now row rest outcome)
    | .update at_, .recording now eventId outcome rest =>
      world.update poller at_ now eventId outcome rest
    | .commit, .committing now _ _ rest =>
      some ((world.withTable (world.table.commit poller)).goto poller (.processing now rest))
    | .close, .processing _ [] => some (world.goto poller .idle)
    | _, _ => none

end World

end Steps

end CogniDQ.Tenants
