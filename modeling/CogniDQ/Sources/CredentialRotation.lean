import CogniDQ.Database.ReadCommitted
import CogniDQ.Sources.DataSources

/-!
# Concurrent credential rotation

`create`, `update` and `test_connection` of the data source service, statement by statement. An update
locks the row it is about; a connection test reads the row and its credentials, waits for the network
and writes the outcome later.
-/

set_option autoImplicit false

namespace CogniDQ.Sources

open CogniDQ.Database CogniDQ.Python

inductive RotationCall (Uuid : Type) where
  | create (request : SourceRequest Uuid) (payload : SourcePayload)
  | update (request : SourceRequest Uuid) (dataSourceId : Uuid) (update : SourceUpdate)
  | testConnection (request : SourceRequest Uuid) (dataSourceId : Uuid)

inductive RotationPhase (Uuid : Type) where
  | idle
  | inserting (request : SourceRequest Uuid) (payload : SourcePayload) (tenantId : Uuid)
  | crediting (request : SourceRequest Uuid) (payload : SourcePayload) (dataSourceId : Uuid)
  | referencing (request : SourceRequest Uuid) (dataSourceId credentialId : Uuid)
  | created (dataSourceId credentialId : Uuid)
  /-- The row is locked. -/
  | updating (request : SourceRequest Uuid) (dataSourceId : Uuid) (update : SourceUpdate)
      (current : DataSource Uuid)
  | described (request : SourceRequest Uuid) (dataSourceId : Uuid) (update : SourceUpdate)
      (current : DataSource Uuid)
  | credited (request : SourceRequest Uuid) (dataSourceId : Uuid) (current : DataSource Uuid)
      (credentialId : Uuid)
  | referred (dataSourceId : Uuid) (current : DataSource Uuid) (credentialId : Uuid)
  | rotated (dataSourceId : Uuid) (current : DataSource Uuid) (credentialId : Uuid)
  /-- The row has been read. -/
  | decrypting (request : SourceRequest Uuid) (dataSourceId : Uuid) (current : DataSource Uuid)
  | connecting (request : SourceRequest Uuid) (dataSourceId : Uuid) (current : DataSource Uuid)
      (credentials : Dict)
  | tested (request : SourceRequest Uuid) (dataSourceId : Uuid) (current : DataSource Uuid)
      (status : TestStatus) (testedAt : Int)
  | recorded (dataSourceId : Uuid) (current : DataSource Uuid)

inductive RotationAction (Uuid : Type) where
  | begin (call : RotationCall Uuid)
  /-- The next statement, with the identifier it generates, the time and what the network says. -/
  | proceed (generated : Uuid) (now : Int) (outcome : TestStatus)
  /-- An exception: the transaction is rolled back. -/
  | abort

structure RotationWorld (Tx Uuid : Type) where
  /-- The tenant of each workspace. -/
  workspaces : Rows Uuid Uuid
  assignments : Rows (Uuid × Uuid) (Assignment Uuid)
  sources : Table Tx Uuid (DataSource Uuid)
  credentials : Table Tx Uuid (Credential Uuid)
  phase : Tx → RotationPhase Uuid
  /-- The credential with which the last committed test of a source was made. -/
  testedWith : Uuid → Option Uuid

section Steps

variable {Tx Uuid : Type} [DecidableEq Tx] [DecidableEq Uuid]

namespace RotationWorld

def start (catalog : Catalog Uuid) (testedWith : Uuid → Option Uuid) : RotationWorld Tx Uuid :=
  { workspaces := catalog.workspaces
    assignments := catalog.assignments
    sources := Table.quiet catalog.dataSources
    credentials := Table.quiet catalog.credentials
    phase := fun _ => .idle
    testedWith }

variable (settings : SourceSettings Uuid) (world : RotationWorld Tx Uuid) (tx : Tx)

def catalog : Catalog Uuid :=
  { Catalog.empty world.workspaces with
    assignments := world.assignments
    dataSources := world.sources.view tx
    credentials := world.credentials.view tx }

def goto (phase : RotationPhase Uuid) : RotationWorld Tx Uuid :=
  { world with phase := Function.update world.phase tx phase }

/-- The end of a transaction: its locks and its uncommitted writes are gone. -/
def rollback : RotationWorld Tx Uuid :=
  ({ world with
    sources := world.sources.release tx
    credentials := world.credentials.release tx }).goto tx .idle

def commit : RotationWorld Tx Uuid :=
  ({ world with
    sources := world.sources.commit tx
    credentials := world.credentials.commit tx }).goto tx .idle

def writeSource (dataSourceId : Uuid) (after : Catalog Uuid) : RotationWorld Tx Uuid :=
  { world with
    sources := world.sources.write tx dataSourceId (after.dataSources.lookup dataSourceId) }

def writeCredential (credentialId : Uuid) (after : Catalog Uuid) : RotationWorld Tx Uuid :=
  { world with
    credentials := world.credentials.write tx credentialId (after.credentials.lookup credentialId) }

def attempt (outcome : Except Failure (Catalog Uuid))
    (next : Catalog Uuid → RotationWorld Tx Uuid) : RotationWorld Tx Uuid :=
  match outcome with
  | .ok after => next after
  | .error _ => world.rollback tx

def insertCredential (actorId dataSourceId : Uuid) (sourceType : String) (credentials : Dict)
    (credentialId : Uuid) (now : Int) : Except Failure (Catalog Uuid) := do
  let encrypted ← encryptCredentials settings credentials
  (world.catalog tx).insertCredential credentialId
    ⟨dataSourceId, sourceType, encrypted, now, actorId, none⟩

/-- The statements up to the first that reads or locks a row; none while it waits for the lock. -/
def begin : RotationCall Uuid → Option (RotationWorld Tx Uuid)
  | .create request payload =>
    match validateCreatePayload settings payload, verifyWorkspace settings (world.catalog tx) request with
    | .ok [], .ok tenantId => some (world.goto tx (.inserting request payload tenantId))
    | _, _ => some (world.rollback tx)
  | .update request dataSourceId update =>
    if update.sourceType.isSome || update.connectionMode.isSome then some (world.rollback tx)
    else
      match verifyWorkspace settings (world.catalog tx) request,
        findSource settings (world.catalog tx) request.workspaceId dataSourceId with
      | .ok _, .ok current =>
        if world.sources.free tx dataSourceId then
          some (({ world with sources := world.sources.lock tx dataSourceId }).goto tx
            (.updating request dataSourceId update current))
        else none
      | _, _ => some (world.rollback tx)
  | .testConnection request dataSourceId =>
    match verifyWorkspace settings (world.catalog tx) request,
      findSource settings (world.catalog tx) request.workspaceId dataSourceId with
    | .ok _, .ok current =>
      if current.status = .archived then some (world.rollback tx)
      else some (world.goto tx (.decrypting request dataSourceId current))
    | _, _ => some (world.rollback tx)

/-- The credentials of a test; none when they are missing or do not decrypt. -/
def testCredentials (reference : Option Uuid) : Option Dict :=
  match reference with
  | none => some []
  | some credentialId =>
    ((world.credentials.view tx).lookup credentialId).bind fun credential =>
      settings.decrypt credential.encryptedPayload

def recordTest (request : SourceRequest Uuid) (dataSourceId : Uuid) (current : DataSource Uuid)
    (status : TestStatus) (testedAt now : Int) : RotationWorld Tx Uuid :=
  match ((world.sources.view tx).lookup dataSourceId).filter
      ((world.catalog tx).visible request.workspaceId dataSourceId) with
  | none => world.commit tx
  | some row =>
    ({ world with
      sources := world.sources.write tx dataSourceId
        (some { row with
          lastTestStatus := status
          lastTestedAt := some testedAt
          updatedAt := now }) }).goto tx (.recorded dataSourceId current)

/-- The next statement of a transaction; none while it waits for a row of another. -/
def proceed (generated : Uuid) (now : Int) (outcome : TestStatus) :
    RotationPhase Uuid → Option (RotationWorld Tx Uuid)
  | .idle => none
  | .inserting request payload tenantId =>
    if world.sources.free tx generated then
      some (world.attempt tx ((world.catalog tx).insertSource settings generated
        (sourceRow request tenantId payload now)) fun after =>
          (world.writeSource tx generated after).goto tx (.crediting request payload generated))
    else none
  | .crediting request payload dataSourceId =>
    if world.credentials.free tx generated then
      some (world.attempt tx (world.insertCredential settings tx request.actorId dataSourceId
        payload.sourceType payload.credentials generated now) fun after =>
          (world.writeCredential tx generated after).goto tx
            (.referencing request dataSourceId generated))
    else none
  | .referencing request dataSourceId credentialId =>
    some ((world.writeSource tx dataSourceId (updateCredentialReference (world.catalog tx)
      request.workspaceId dataSourceId credentialId request.actorId now)).goto tx
        (.created dataSourceId credentialId))
  | .created _ _ => some (world.commit tx)
  | .updating request dataSourceId update current =>
    some (world.attempt tx (writeMetadata settings (world.catalog tx) request dataSourceId update
      now) fun after =>
        (world.writeSource tx dataSourceId after).goto tx
          (.described request dataSourceId update current))
  | .described request dataSourceId update current =>
    match update.credentials with
    | none => some (world.commit tx)
    | some credentials =>
      if world.credentials.free tx generated then
        some (world.attempt tx (world.insertCredential settings tx request.actorId dataSourceId
          current.sourceType credentials generated now) fun after =>
            (world.writeCredential tx generated after).goto tx
              (.credited request dataSourceId current generated))
      else none
  | .credited request dataSourceId current credentialId =>
    some ((world.writeSource tx dataSourceId (updateCredentialReference (world.catalog tx)
      request.workspaceId dataSourceId credentialId request.actorId now)).goto tx
        (.referred dataSourceId current credentialId))
  | .referred dataSourceId current credentialId =>
    match current.credentialReference with
    | none => some (world.goto tx (.rotated dataSourceId current credentialId))
    | some superseded =>
      if world.credentials.free tx superseded then
        some ((world.writeCredential tx superseded
          ((world.catalog tx).supersede superseded now)).goto tx
            (.rotated dataSourceId current credentialId))
      else none
  | .rotated _ _ _ => some (world.commit tx)
  | .decrypting request dataSourceId current =>
    match world.testCredentials settings tx current.credentialReference with
    | none => some (world.rollback tx)
    | some credentials => some (world.goto tx (.connecting request dataSourceId current credentials))
  | .connecting request dataSourceId current _ =>
    -- A test of an agent is not supported; `_perform_connection_test` never says untested.
    let status := if current.connectionMode = "agent" then .testFailed else outcome
    if status = .untested then none
    else some (world.goto tx (.tested request dataSourceId current status now))
  | .tested request dataSourceId current status testedAt =>
    if world.sources.free tx dataSourceId then
      some (world.recordTest tx request dataSourceId current status testedAt now)
    else none
  | .recorded dataSourceId current =>
    some { world.commit tx with
      testedWith := Function.update world.testedWith dataSourceId current.credentialReference }

def step : Tx × RotationAction Uuid → Option (RotationWorld Tx Uuid)
  | (tx, .begin call) =>
    match world.phase tx with
    | .idle => world.begin settings tx call
    | _ => none
  | (tx, .proceed generated now outcome) =>
    world.proceed settings tx generated now outcome (world.phase tx)
  | (tx, .abort) =>
    match world.phase tx with
    | .idle => none
    | _ => some (world.rollback tx)

end RotationWorld

end Steps

end CogniDQ.Sources
