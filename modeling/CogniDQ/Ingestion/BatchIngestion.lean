import CogniDQ.Protocol.Runs
import Mathlib.Logic.Function.Basic

/-!
# Batch ingestion

`process_job` and `cancel_job` of the batch ingestion service on one job, commit by commit. Each
call works on the object that its session has loaded: an assignment of the value that the object
has is not written, and no `UPDATE` looks at the status that is stored by then.
-/

set_option autoImplicit false

namespace CogniDQ.Ingestion

inductive IngestionJobStatus where
  | pending
  | running
  | completed
  | failed
  | cancelled
  deriving DecidableEq

namespace IngestionJobStatus

def text : IngestionJobStatus → String
  | .pending => "IngestionJobStatus.PENDING"
  | .running => "IngestionJobStatus.RUNNING"
  | .completed => "IngestionJobStatus.COMPLETED"
  | .failed => "IngestionJobStatus.FAILED"
  | .cancelled => "IngestionJobStatus.CANCELLED"

def terminal (status : IngestionJobStatus) : Bool :=
  decide (status ∈ [completed, failed, cancelled])

end IngestionJobStatus

structure IngestionJob (Moment Metadata : Type) where
  id : String
  workspaceId : String
  status : IngestionJobStatus
  totalRows : Option Int
  processedRows : Option Int
  errorMessage : Option String
  metaData : Option Metadata
  startedAt : Option Moment
  completedAt : Option Moment

inductive Call where
  | processJob
  | cancelJob
  deriving DecidableEq

structure Request where
  call : Call
  jobId : String
  workspaceId : String

structure Result (Moment Metadata : Type) where
  id : String
  status : IngestionJobStatus
  totalRows : Option Int
  processedRows : Option Int
  metaData : Option Metadata
  completedAt : Option Moment

/-- Where a call is. What the session knows of the job is none once it has expired. -/
inductive Phase (Moment Metadata : Type) where
  | ready
  | selected (memory : IngestionJob Moment Metadata)
  /-- The job is marked as running. -/
  | running (memory : Option (IngestionJob Moment Metadata))
  | parsing (memory : Option (IngestionJob Moment Metadata))
  | returned (result : Result Moment Metadata)
  | raised (message : String)
  /-- The call has ended without another commit. -/
  | stopped

inductive Action (Moment Metadata : Type) where
  | select
  | markRunning (now : Moment)
  | parse
  | complete (rowCount : Int) (metaData : Metadata) (now : Moment)
  /-- The handler of an exception: whether a commit that failed has expired the object, and the row
  count if it had been assigned. -/
  | fail (expired : Bool) (assigned : Option Int) (message : String) (now : Moment)
  | cancel (now : Moment)
  | stop

structure World (Worker Moment Metadata : Type) where
  /-- Whether a commit expires the objects of a session. -/
  expireOnCommit : Bool
  request : Worker → Request
  job : IngestionJob Moment Metadata
  phase : Worker → Phase Moment Metadata
  /-- How often the file has been parsed. -/
  parses : Nat

section Saving

variable {Moment Metadata : Type} [DecidableEq Moment] [DecidableEq Metadata]

/-- What an assigned column is after the `UPDATE`. -/
def saved {α : Type} [DecidableEq α] (known : Option α) (stored assigned : α) : α :=
  if known = some assigned then stored else assigned

variable (memory : Option (IngestionJob Moment Metadata))

def saveRunning (now : Moment) (stored : IngestionJob Moment Metadata) :
    IngestionJob Moment Metadata :=
  { stored with
    status := saved (memory.map (·.status)) stored.status .running
    startedAt := saved (memory.map (·.startedAt)) stored.startedAt (some now) }

def saveCompleted (rowCount : Int) (metaData : Metadata) (now : Moment)
    (stored : IngestionJob Moment Metadata) : IngestionJob Moment Metadata :=
  { stored with
    totalRows := saved (memory.map (·.totalRows)) stored.totalRows (some rowCount)
    processedRows := saved (memory.map (·.processedRows)) stored.processedRows (some rowCount)
    metaData := saved (memory.map (·.metaData)) stored.metaData (some metaData)
    status := saved (memory.map (·.status)) stored.status .completed
    completedAt := saved (memory.map (·.completedAt)) stored.completedAt (some now) }

def saveAssigned (assigned : Option Int) (stored : IngestionJob Moment Metadata) :
    IngestionJob Moment Metadata :=
  match assigned with
  | none => stored
  | some rowCount =>
    { stored with
      totalRows := saved (memory.map (·.totalRows)) stored.totalRows (some rowCount)
      processedRows := saved (memory.map (·.processedRows)) stored.processedRows (some rowCount) }

def saveFailed (message : String) (now : Moment) (stored : IngestionJob Moment Metadata) :
    IngestionJob Moment Metadata :=
  { stored with
    status := saved (memory.map (·.status)) stored.status .failed
    errorMessage := saved (memory.map (·.errorMessage)) stored.errorMessage (some message)
    completedAt := saved (memory.map (·.completedAt)) stored.completedAt (some now) }

def saveCancelled (now : Moment) (stored : IngestionJob Moment Metadata) :
    IngestionJob Moment Metadata :=
  { stored with
    status := saved (memory.map (·.status)) stored.status .cancelled
    completedAt := saved (memory.map (·.completedAt)) stored.completedAt (some now) }

end Saving

section Calls

variable {Worker Moment Metadata : Type} [DecidableEq Worker] [DecidableEq Moment]
  [DecidableEq Metadata]

def createdJob (id workspaceId : String) : IngestionJob Moment Metadata where
  id := id
  workspaceId := workspaceId
  status := .pending
  totalRows := none
  processedRows := some 0
  errorMessage := none
  metaData := none
  startedAt := none
  completedAt := none

/-- The `SELECT` of a call, and the check of `cancel_job`. -/
def selectJob (request : Request) (job : IngestionJob Moment Metadata) : Phase Moment Metadata :=
  if job.id = request.jobId ∧ job.workspaceId = request.workspaceId then
    match request.call with
    | .processJob => .selected job
    | .cancelJob =>
      if job.status ∈ [.pending, .running] then .selected job
      else .raised ("Cannot cancel job in status: " ++ job.status.text)
  else .raised ("Job " ++ request.jobId ++ " not found")

/-- What the object of the session says of the job, with the values that were assigned to it. -/
def resultOf (job : IngestionJob Moment Metadata) : Result Moment Metadata where
  id := job.id
  status := job.status
  totalRows := job.totalRows
  processedRows := job.processedRows
  metaData := job.metaData
  completedAt := job.completedAt

namespace World

variable (world : World Worker Moment Metadata) (worker : Worker)

omit [DecidableEq Moment] [DecidableEq Metadata] in
def goto (phase : Phase Moment Metadata) : World Worker Moment Metadata :=
  { world with phase := Function.update world.phase worker phase }

def remembered (memory : IngestionJob Moment Metadata) : Option (IngestionJob Moment Metadata) :=
  if world.expireOnCommit then none else some memory

/-- Reading an expired object raises in an asynchronous session. -/
def returning (assigned : IngestionJob Moment Metadata) : Phase Moment Metadata :=
  if world.expireOnCommit then .raised "MissingGreenlet" else .returned (resultOf assigned)

def failJob (memory : Option (IngestionJob Moment Metadata)) (expired : Bool)
    (assigned : Option Int) (message : String) (now : Moment) : World Worker Moment Metadata :=
  let memory := if expired then none else memory
  { world with
    job := saveFailed memory message now (saveAssigned memory assigned world.job) }.goto worker
      (.raised message)

def step : Worker × Action Moment Metadata → Option (World Worker Moment Metadata)
  | (worker, action) =>
    match action, (world.request worker).call, world.phase worker with
    | .select, _, .ready => some (world.goto worker (selectJob (world.request worker) world.job))
    | .markRunning now, .processJob, .selected memory =>
      let assigned := { memory with status := .running, startedAt := some now }
      some ({ world with job := saveRunning (some memory) now world.job }.goto worker
        (.running (world.remembered assigned)))
    | .parse, .processJob, .running (some memory) =>
      some ({ world with parses := world.parses + 1 }.goto worker (.parsing (some memory)))
    | .complete rowCount metaData now, .processJob, .parsing (some memory) =>
      let assigned :=
        { memory with
          totalRows := some rowCount
          processedRows := some rowCount
          metaData := some metaData
          status := .completed
          completedAt := some now }
      some ({ world with
        job := saveCompleted (some memory) rowCount metaData now world.job }.goto worker
          (world.returning assigned))
    | .fail expired assigned message now, .processJob, .selected memory =>
      some (world.failJob worker (some memory) expired assigned message now)
    | .fail expired assigned message now, .processJob, .running memory =>
      some (world.failJob worker memory expired assigned message now)
    | .fail expired assigned message now, .processJob, .parsing memory =>
      some (world.failJob worker memory expired assigned message now)
    | .cancel now, .cancelJob, .selected memory =>
      let assigned := { memory with status := .cancelled, completedAt := some now }
      some ({ world with job := saveCancelled (some memory) now world.job }.goto worker
        (world.returning assigned))
    | .stop, _, .returned _ => none
    | .stop, _, .raised _ => none
    | .stop, _, _ => some (world.goto worker .stopped)
    | _, _, _ => none

/-- A job that has just been created, and calls that have not begun. -/
def start (expireOnCommit : Bool) (request : Worker → Request) (id workspaceId : String) :
    World Worker Moment Metadata where
  expireOnCommit := expireOnCommit
  request := request
  job := createdJob id workspaceId
  phase _ := .ready
  parses := 0

end World

end Calls

end CogniDQ.Ingestion
