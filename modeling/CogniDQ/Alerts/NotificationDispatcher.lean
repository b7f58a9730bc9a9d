import CogniDQ.Database.Paging
import CogniDQ.Database.ReadCommitted
import CogniDQ.Protocol.Runs

/-!
# The notification dispatcher

`dispatch_pending` and `dispatch_event`, statement by statement, for any number of workers with a
database session each. No statement locks a row: a session keeps what it has loaded of an event
until its next commit, and a commit writes the columns that differ from it.
-/

set_option autoImplicit false

namespace CogniDQ.Alerts

open CogniDQ.Database CogniDQ.Protocol

inductive EventStatus where
  | pending
  | sent
  | failed
  | retrying
deriving DecidableEq

structure NotificationEvent (Uuid : Type) where
  workspaceId : Uuid
  alertChannelId : Uuid
  status : EventStatus
  retryCount : Int
  maxRetries : Int
  lastError : Option String
  sentAt : Option Int
  deliveredAt : Option Int
  createdAt : Int
deriving DecidableEq

structure AlertChannel where
  enabled : Bool
  channelType : String

abbrev EventRow (Uuid : Type) : Type := Uuid × NotificationEvent Uuid

abbrev EventRows (Uuid : Type) : Type := Rows Uuid (NotificationEvent Uuid)

abbrev Arrangement (Uuid : Type) : Type :=
  OrderBy (EventRow Uuid) fun row => row.2.createdAt

namespace NotificationEvent

variable {Uuid : Type} (event : NotificationEvent Uuid)

def isOpen : Bool :=
  event.status == .pending || event.status == .retrying

def markSent (sentAt deliveredAt : Int) : NotificationEvent Uuid :=
  { event with
    status := .sent, sentAt := some sentAt, deliveredAt := some deliveredAt, lastError := none }

def retryLimit : Int :=
  if event.maxRetries = 0 then 3 else event.maxRetries

def markRetry (message : String) : NotificationEvent Uuid :=
  { event with
    retryCount := event.retryCount + 1
    lastError := some (String.ofList (message.toList.take 2000))
    status := if event.retryLimit ≤ event.retryCount + 1 then .failed else .retrying }

def markFailed (error : String) : NotificationEvent Uuid :=
  { event with status := .failed, lastError := some error }

end NotificationEvent

/-- A column of the `UPDATE`, which leaves out what is as it was loaded. -/
def flushColumn {Column : Type} [DecidableEq Column] (loaded changed stored : Column) : Column :=
  if changed = loaded then stored else changed

def NotificationEvent.flush {Uuid : Type} (loaded changed stored : NotificationEvent Uuid) :
    NotificationEvent Uuid :=
  { stored with
    status := flushColumn loaded.status changed.status stored.status
    retryCount := flushColumn loaded.retryCount changed.retryCount stored.retryCount
    lastError := flushColumn loaded.lastError changed.lastError stored.lastError
    sentAt := flushColumn loaded.sentAt changed.sentAt stored.sentAt
    deliveredAt := flushColumn loaded.deliveredAt changed.deliveredAt stored.deliveredAt }

/-- The delivery of a channel, where the outcome is that of the mail server or the web server. -/
def AlertChannel.deliver (channel : AlertChannel) (outcome : Except String Unit) :
    Except String Unit :=
  if channel.channelType ∈ ["email", "webhook", "slack"] then outcome
  else .error ("Unsupported channel type: " ++ channel.channelType)

structure Counts where
  sent : Nat
  failed : Nat
  skipped : Nat

/-- The loop of `dispatch_pending`: the events still to come, and the counts so far. -/
structure Batch (Uuid : Type) where
  remaining : List Uuid
  counts : Counts

inductive Answer where
  | dispatched (delivered : Bool)
  | batch (counts : Counts)

/-- Where a worker is. `batch` is none in a call of `dispatch_event` from outside the loop. -/
inductive Phase (Uuid : Type) where
  /-- Between calls, with the last one's result; none where it raised. -/
  | idle (answer : Option Answer)
  | looping (batch : Batch Uuid)
  /-- The event was found open. -/
  | checked (eventId : Uuid) (event : NotificationEvent Uuid) (batch : Option (Batch Uuid))
  | delivering (eventId : Uuid) (event : NotificationEvent Uuid) (channel : AlertChannel)
      (batch : Option (Batch Uuid))
  /-- The session has changed the event and is about to commit. -/
  | committing (eventId : Uuid) (event changed : NotificationEvent Uuid) (delivered : Bool)
      (batch : Option (Batch Uuid))
  /-- The event was not delivered, and the loop counts it by its status. -/
  | counting (eventId : Uuid) (batch : Batch Uuid)

structure World (Worker Uuid : Type) where
  committed : EventRows Uuid
  /-- The events in a worker's session that have not expired. -/
  loaded : Worker → Uuid → Option (NotificationEvent Uuid)
  phase : Worker → Phase Uuid
  /-- The events of the successful deliveries. -/
  deliveries : List Uuid

inductive Action (Uuid : Type) where
  | newSession
  | dispatchPending (workspaceId : Option Uuid) (batchSize : Nat) (arrangement : Arrangement Uuid)
  | dispatchEvent (eventId : Uuid)
  | nextEvent
  /-- The query for the channel, with the row it finds. -/
  | findChannel (channel : Option AlertChannel)
  | deliver (outcome : Except String Unit) (sentAt deliveredAt : Int)
  | commit
  | count

section Steps

variable {Worker Uuid : Type} [DecidableEq Worker] [DecidableEq Uuid]

namespace World

def start (committed : EventRows Uuid) : World Worker Uuid :=
  { committed, loaded := fun _ _ => none, phase := fun _ => .idle none, deliveries := [] }

variable (world : World Worker Uuid) (worker : Worker)

def goto (phase : Phase Uuid) : World Worker Uuid :=
  { world with phase := Function.update world.phase worker phase }

omit [DecidableEq Worker] in
/-- What the session gives for an event: as it was loaded, else as it is committed. -/
def found (eventId : Uuid) : Option (NotificationEvent Uuid) :=
  (world.loaded worker eventId).or (world.committed.lookup eventId)

def load (eventId : Uuid) : World Worker Uuid :=
  { world with
    loaded := Function.update world.loaded worker
      (Function.update (world.loaded worker) eventId (world.found worker eventId)) }

def expire : World Worker Uuid :=
  { world with loaded := Function.update world.loaded worker fun _ => none }

/-- The query of `dispatch_pending`. -/
def selectPending (committed : EventRows Uuid) (workspaceId : Option Uuid) (batchSize : Nat)
    (arrangement : Arrangement Uuid) : List (EventRow Uuid) :=
  let selected := (committed.entries.map fun entry => (entry.1, entry.2)).filter fun row =>
    row.2.isOpen && workspaceId.all (row.2.workspaceId == ·)
  (arrangement.arrange selected).take batchSize

def dispatchPending (workspaceId : Option Uuid) (batchSize : Nat) (arrangement : Arrangement Uuid) :
    World Worker Uuid :=
  let events := (selectPending world.committed workspaceId batchSize arrangement).map (·.1)
  (events.foldl (fun world eventId => world.load worker eventId) world).goto worker
    (.looping ⟨events, ⟨0, 0, 0⟩⟩)

/-- Where `dispatch_event` goes when it returns false before any change, and what it finds. -/
def skip (eventId : Uuid) : Option (Batch Uuid) → World Worker Uuid
  | none => world.goto worker (.idle (some (.dispatched false)))
  | some batch => world.goto worker (.counting eventId batch)

/-- `dispatch_event` up to the check of the status. -/
def dispatchEvent (eventId : Uuid) (batch : Option (Batch Uuid)) : World Worker Uuid :=
  match world.found worker eventId with
  | none => world.skip worker eventId batch
  | some event =>
    if event.isOpen then (world.load worker eventId).goto worker (.checked eventId event batch)
    else (world.load worker eventId).skip worker eventId batch

def findChannel (eventId : Uuid) (event : NotificationEvent Uuid) (batch : Option (Batch Uuid)) :
    Option AlertChannel → World Worker Uuid
  | none =>
    world.goto worker
      (.committing eventId event (event.markFailed "Alert channel not found") false batch)
  | some channel =>
    if channel.enabled then world.goto worker (.delivering eventId event channel batch)
    else
      world.goto worker
        (.committing eventId event (event.markFailed "Alert channel is disabled") false batch)

def deliver (eventId : Uuid) (event : NotificationEvent Uuid) (channel : AlertChannel)
    (batch : Option (Batch Uuid)) (outcome : Except String Unit) (sentAt deliveredAt : Int) :
    World Worker Uuid :=
  match channel.deliver outcome with
  | .ok () =>
    { world.goto worker (.committing eventId event (event.markSent sentAt deliveredAt) true batch)
      with deliveries := eventId :: world.deliveries }
  | .error message =>
    world.goto worker (.committing eventId event (event.markRetry message) false batch)

/-- The rows after the `UPDATE` of one event. -/
def store (eventId : Uuid) (event changed : NotificationEvent Uuid) (committed : EventRows Uuid) :
    EventRows Uuid :=
  match committed.lookup eventId with
  | none => committed
  | some stored => committed.insert eventId (event.flush changed stored)

def afterCommit (eventId : Uuid) (delivered : Bool) : Option (Batch Uuid) → Phase Uuid
  | none => .idle (some (.dispatched delivered))
  | some batch =>
    if delivered then
      .looping { batch with counts := { batch.counts with sent := batch.counts.sent + 1 } }
    else .counting eventId batch

/-- The `UPDATE` and the commit, after which every event of the session is expired. -/
def commit (eventId : Uuid) (event changed : NotificationEvent Uuid) (delivered : Bool)
    (batch : Option (Batch Uuid)) : World Worker Uuid :=
  ({ world.expire worker with committed := store eventId event changed world.committed }).goto
    worker (afterCommit eventId delivered batch)

def count (eventId : Uuid) (batch : Batch Uuid) : World Worker Uuid :=
  match world.found worker eventId with
  | none => world.goto worker (.idle none)
  | some event =>
    let counts :=
      if event.status = .failed then { batch.counts with failed := batch.counts.failed + 1 }
      else { batch.counts with skipped := batch.counts.skipped + 1 }
    (world.load worker eventId).goto worker (.looping { batch with counts })

def step (world : World Worker Uuid) : Worker × Action Uuid → Option (World Worker Uuid)
  | (worker, action) =>
    match action, world.phase worker with
    | .newSession, .idle _ => some (world.expire worker)
    | .dispatchPending workspaceId batchSize arrangement, .idle _ =>
      some (world.dispatchPending worker workspaceId batchSize arrangement)
    | .dispatchEvent eventId, .idle _ => some (world.dispatchEvent worker eventId none)
    | .nextEvent, .looping ⟨[], counts⟩ => some (world.goto worker (.idle (some (.batch counts))))
    | .nextEvent, .looping ⟨eventId :: rest, counts⟩ =>
      some (world.dispatchEvent worker eventId (some ⟨rest, counts⟩))
    | .findChannel channel, .checked eventId event batch =>
      some (world.findChannel worker eventId event batch channel)
    | .deliver outcome sentAt deliveredAt, .delivering eventId event channel batch =>
      some (world.deliver worker eventId event channel batch outcome sentAt deliveredAt)
    | .commit, .committing eventId event changed delivered batch =>
      some (world.commit worker eventId event changed delivered batch)
    | .count, .counting eventId batch => some (world.count worker eventId batch)
    | _, _ => none

end World

end Steps

end CogniDQ.Alerts
