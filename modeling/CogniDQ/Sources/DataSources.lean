import CogniDQ.Sources.Store

/-!
# Tenant connections

`TenantConnectionService` and its repository. An operation that raises is rolled back.
-/

set_option autoImplicit false

namespace CogniDQ.Sources

open CogniDQ.Database CogniDQ.Python CogniDQ.Workspaces

section Connections

variable {Uuid : Type} [DecidableEq Uuid] (settings : SourceSettings Uuid)

structure ConnectionPayload (Uuid : Type) where
  sourceName : String
  sourceType : String
  connectionMode : String
  environment : String
  description : Option String
  credentials : Option Dict
  workspaceIds : List Uuid

structure ConnectionPatch where
  sourceName : Option String
  environment : Option String
  description : Option String
  status : Option String
  sourceType : Option String
  connectionMode : Option String

def getByTenant (catalog : Catalog Uuid) (tenantId connectionId : Uuid) :
    Option (DataSource Uuid) :=
  (catalog.dataSources.lookup connectionId).filter (·.tenantId == tenantId)

def checkWorkspaces (catalog : Catalog Uuid) (tenantId : Uuid) :
    List Uuid → Except Failure Unit
  | [] => .ok ()
  | workspaceId :: rest =>
    if catalog.workspaces.lookup workspaceId = some tenantId then
      checkWorkspaces catalog tenantId rest
    else
      let name := settings.text workspaceId
      .error (.api 400 "INVALID_WORKSPACE"
        s!"Workspace {name} does not belong to tenant {settings.text tenantId}." [⟨name, ""⟩])

def insertAssignments (connectionId : Uuid) (row : Assignment Uuid) (catalog : Catalog Uuid) :
    List Uuid → Except Failure (Catalog Uuid)
  | [] => .ok catalog
  | workspaceId :: rest =>
    if (catalog.assignments.lookup (connectionId, workspaceId)).isSome then
      refuse (.unique "workspace_connection_assignments_pkey")
    else if (catalog.dataSources.lookup connectionId).isNone then
      refuse (.foreignKey "workspace_connection_assignments_connection_id_fkey")
    else
      insertAssignments connectionId row
        { catalog with
          assignments := catalog.assignments.insert (connectionId, workspaceId) row } rest

def replaceAssignments (catalog : Catalog Uuid) (tenantId connectionId : Uuid)
    (workspaceIds : List Uuid) (actorId : Uuid) (now : Int) : Except Failure (Catalog Uuid) := do
  checkWorkspaces settings catalog tenantId workspaceIds
  insertAssignments connectionId ⟨now, actorId⟩
    { catalog with assignments := catalog.assignments.keep fun key _ => key.1 != connectionId }
    workspaceIds

def duplicateName {α : Type} (message : String) : Except Failure α → Except Failure α
  | .error (.violation (.unique _)) => .error (.plain 409 "DUPLICATE_CONNECTION_NAME" message)
  | outcome => outcome

def setCredentialReference (catalog : Catalog Uuid) (connectionId credentialId actorId : Uuid)
    (now : Int) : Catalog Uuid :=
  match catalog.dataSources.lookup connectionId with
  | none => catalog
  | some row =>
    { catalog with
      dataSources := catalog.dataSources.insert connectionId
        { row with
          credentialReference := some credentialId
          updatedAt := now
          updatedBy := some actorId } }

def connectionRow (tenantId : Uuid) (payload : ConnectionPayload Uuid) (actorId : Uuid)
    (now : Int) : DataSource Uuid where
  workspaceId := none
  tenantId := tenantId
  sourceName := payload.sourceName
  sourceType := payload.sourceType
  connectionMode := payload.connectionMode
  environment := payload.environment
  description := payload.description
  credentialReference := none
  status := .active
  lastTestStatus := .untested
  lastTestedAt := none
  createdAt := now
  updatedAt := now
  createdBy := actorId
  updatedBy := some actorId
  archivedAt := none
  archivedBy := none

def encryptCredentials (credentials : Dict) : Except Failure String :=
  match settings.encrypt credentials with
  | some payload => .ok payload
  | none => .error .credentialEncryption

def storeCredentials (catalog : Catalog Uuid) (payload : ConnectionPayload Uuid)
    (actorId connectionId credentialId : Uuid) (now : Int) : Except Failure (Catalog Uuid) :=
  match payload.credentials.filter Dict.truthy with
  | none => .ok catalog
  | some credentials => do
    let encrypted ← encryptCredentials settings credentials
    let catalog ← catalog.insertCredential credentialId
      ⟨connectionId, payload.sourceType, encrypted, now, actorId, none⟩
    return setCredentialReference catalog connectionId credentialId actorId now

def createConnection (catalog : Catalog Uuid) (tenantId : Uuid)
    (payload : ConnectionPayload Uuid) (actorId connectionId credentialId : Uuid) (now : Int) :
    Except Failure (Catalog Uuid) := do
  let errors ← uncaught (validateCreatePayload settings
    { payload with credentials := payload.credentials.getD [] })
  rejectIf (!errors.isEmpty)
    (.api 400 "VALIDATION_ERROR" "Connection payload failed validation." errors)
  checkWorkspaces settings catalog tenantId payload.workspaceIds
  let catalog ← duplicateName
    s!"A connection named '{payload.sourceName}' already exists for this tenant."
    (catalog.insertSource settings connectionId (connectionRow tenantId payload actorId now))
  let catalog ←
    storeCredentials settings catalog payload actorId connectionId credentialId now
  if payload.workspaceIds.isEmpty then .ok catalog
  else replaceAssignments settings catalog tenantId connectionId payload.workspaceIds actorId now

def ConnectionPatch.isEmpty (patch : ConnectionPatch) : Bool :=
  patch.sourceName.isNone && patch.environment.isNone && patch.description.isNone &&
    patch.status.isNone

/-- The row that a patch makes of a connection; none when the status is no status. -/
def ConnectionPatch.apply (patch : ConnectionPatch) (row : DataSource Uuid) (actorId : Uuid)
    (now : Int) : Option (DataSource Uuid) :=
  let status? :=
    match patch.status with
    | none => some row.status
    | some text => SourceStatus.ofText text
  status?.map fun status =>
    { row with
      sourceName := patch.sourceName.getD row.sourceName
      environment := patch.environment.getD row.environment
      description := patch.description.or row.description
      status
      updatedAt := now
      updatedBy := some actorId }

def updateConnection (catalog : Catalog Uuid) (tenantId connectionId : Uuid)
    (patch : ConnectionPatch) (actorId : Uuid) (now : Int) : Except Failure (Catalog Uuid) := do
  let immutable := fun field =>
    Failure.api 400 "IMMUTABLE_FIELD" s!"Field '{field}' cannot be changed after creation."
      [⟨field, ""⟩]
  rejectIf patch.sourceType.isSome (immutable "source_type")
  rejectIf patch.connectionMode.isSome (immutable "connection_mode")
  match getByTenant catalog tenantId connectionId with
  | none => .error (.plain 404 "CONNECTION_NOT_FOUND" "Connection not found.")
  | some existing =>
    if patch.isEmpty then .ok catalog
    else
      match patch.apply existing actorId now with
      | none => refuse (.check "ck_data_sources_status")
      | some row =>
        duplicateName "A connection with that name already exists for this tenant."
          (catalog.writeSource settings connectionId row)

def deleteConnection (catalog : Catalog Uuid) (tenantId connectionId : Uuid) :
    Except Failure (Catalog Uuid) :=
  match getByTenant catalog tenantId connectionId with
  | none => .error (.plain 404 "CONNECTION_NOT_FOUND" "Connection not found.")
  | some _ =>
    if catalog.datasets.entries.any fun entry => entry.2.dataSourceId == some connectionId then
      .error (.plain 409 "CONNECTION_IN_USE"
        "Connection is referenced by one or more datasets and cannot be deleted.")
    else .ok (catalog.deleteSource connectionId)

end Connections

end CogniDQ.Sources

/-!
## Datasets

`DatasetService`: creation, fields and status transitions. An operation that raises is rolled back.
-/

namespace CogniDQ.Sources

open CogniDQ.Database CogniDQ.Python CogniDQ.Workspaces

section Datasets

variable {Uuid : Type} [DecidableEq Uuid] (settings : SourceSettings Uuid)

def verifyDataSourceActive (catalog : Catalog Uuid) (dataSourceId : Uuid) :
    Except Failure Unit :=
  match catalog.dataSources.lookup dataSourceId with
  | none =>
    .error (.plain 404 "DATA_SOURCE_NOT_FOUND"
      s!"Data source {settings.text dataSourceId} not found.")
  | some row => if row.status = .active then .ok () else .error .dataSourceNotActive

def verifyDataSource (catalog : Catalog Uuid) (payload : DatasetPayload Uuid) :
    Except Failure Unit :=
  match payload.dataSourceId with
  | none =>
    rejectIf (payload.datasetType != "file")
      (.plain 400 "VALIDATION_ERROR" "data_source_id is required for non-file datasets.")
  | some dataSourceId => verifyDataSourceActive settings catalog dataSourceId

/-- `INSERT INTO control.datasets`: the unique indexes and the foreign keys. -/
def insertDataset (catalog : Catalog Uuid) (datasetId : Uuid) (row : Dataset Uuid) :
    Except Failure (Catalog Uuid) :=
  if (catalog.datasets.lookup datasetId).isSome then refuse (.unique "pk_datasets")
  else if catalog.datasets.entries.any fun entry =>
      entry.2.workspaceId == row.workspaceId &&
        settings.lower entry.2.datasetName == settings.lower row.datasetName then
    .error (.plain 409 "DUPLICATE_DATASET_NAME"
      s!"A dataset named '{row.datasetName}' already exists in this workspace.")
  else if catalog.datasets.entries.any fun entry =>
      entry.2.dataSourceId.isSome && entry.2.dataSourceId == row.dataSourceId &&
        settings.lower entry.2.physicalIdentifier == settings.lower row.physicalIdentifier &&
        entry.2.status != .archived then
    .error (.plain 409 "DUPLICATE_PHYSICAL_IDENTIFIER"
      s!"Physical identifier '{row.physicalIdentifier}' already exists for this data source.")
  else if (catalog.workspaces.lookup row.workspaceId).isNone then
    refuse (.foreignKey "fk_datasets_workspace")
  else if row.dataSourceId.any fun dataSourceId =>
      (catalog.dataSources.lookup dataSourceId).isNone then
    refuse (.foreignKey "fk_datasets_data_source")
  else .ok { catalog with datasets := catalog.datasets.insert datasetId row }

def datasetRow (workspaceId tenantId : Uuid) (payload : DatasetPayload Uuid) (actorId : Uuid)
    (now : Int) : Dataset Uuid where
  workspaceId := workspaceId
  tenantId := tenantId
  dataSourceId := payload.dataSourceId
  datasetName := settings.runtime.stripStr payload.datasetName
  datasetType := payload.datasetType
  physicalIdentifier := settings.runtime.stripStr payload.physicalIdentifier
  schemaName := (payload.schemaName.filter fun name => !name.isEmpty).map settings.runtime.stripStr
  description := payload.description
  businessDomain := payload.businessDomain
  criticality := payload.criticality
  ownerUserId := payload.ownerUserId
  freshnessExpectation := payload.freshnessExpectation
  status := .draft
  createdAt := now
  updatedAt := now
  createdBy := actorId
  updatedBy := none
  activatedAt := none
  archivedAt := none
  archivedBy := none

def createDataset (catalog : Catalog Uuid) (workspaceId tenantId : Uuid)
    (payload : DatasetPayload Uuid) (actorId datasetId : Uuid) (now : Int) :
    Except Failure (Catalog Uuid) := do
  let errors := validateCreateDatasetPayload settings payload
  rejectIf (!errors.isEmpty)
    (.api 400 "VALIDATION_ERROR" "Request payload failed validation." errors)
  verifyDataSource settings catalog payload
  insertDataset settings catalog datasetId
    (datasetRow settings workspaceId tenantId payload actorId now)

def findDataset (catalog : Catalog Uuid) (workspaceId datasetId : Uuid) :
    Except Failure (Dataset Uuid) :=
  match (catalog.datasets.lookup datasetId).filter (·.workspaceId == workspaceId) with
  | some row => .ok row
  | none => .error .datasetNotFound

/-! ### Fields -/

def requireNonArchivedDataset (catalog : Catalog Uuid) (workspaceId datasetId : Uuid) :
    Except Failure (Dataset Uuid) := do
  let row ← findDataset catalog workspaceId datasetId
  rejectIf (row.status == .archived)
    (.plain 409 "DATASET_ARCHIVED"
      s!"Dataset {settings.text datasetId} is archived. Cannot modify fields.")
  return row

def fieldsOf (catalog : Catalog Uuid) (datasetId : Uuid) : List (DatasetField Uuid) :=
  (catalog.fields.entries.map (·.2)).filter (·.datasetId == datasetId)

def maxOrdinal (catalog : Catalog Uuid) (datasetId : Uuid) : Nat :=
  ((fieldsOf catalog datasetId).map (·.ordinalPosition)).foldl max 0

def fieldRow (datasetId : Uuid) (payload : FieldPayload) (ordinalPosition : Nat) :
    DatasetField Uuid where
  datasetId := datasetId
  fieldName := settings.runtime.stripStr payload.fieldName
  dataType := settings.runtime.stripStr payload.dataType
  nullable := payload.nullable
  businessDefinition := payload.businessDefinition
  sensitivityClassification := payload.sensitivityClassification
  isKeyCandidate := payload.isKeyCandidate
  ordinalPosition := ordinalPosition

def insertField (catalog : Catalog Uuid) (fieldId : Uuid) (row : DatasetField Uuid) :
    Except Failure (Catalog Uuid) :=
  if (catalog.fields.lookup fieldId).isSome then refuse (.unique "pk_dataset_fields")
  else if (fieldsOf catalog row.datasetId).any fun other =>
      settings.lower other.fieldName == settings.lower row.fieldName then
    .error (.plain 409 "DUPLICATE_FIELD_NAME"
      s!"A field named '{row.fieldName}' already exists in this dataset.")
  else .ok { catalog with fields := catalog.fields.insert fieldId row }

def addField (catalog : Catalog Uuid) (workspaceId datasetId : Uuid) (payload : FieldPayload)
    (fieldId : Uuid) : Except Failure (Catalog Uuid) := do
  let errors := validateCreateFieldPayload settings payload
  rejectIf (!errors.isEmpty)
    (.api 400 "VALIDATION_ERROR" "Field payload failed validation." errors)
  let _ ← requireNonArchivedDataset settings catalog workspaceId datasetId
  insertField settings catalog fieldId
    (fieldRow settings datasetId payload (maxOrdinal catalog datasetId + 1))

def removeField (catalog : Catalog Uuid) (workspaceId datasetId fieldId : Uuid) :
    Except Failure (Catalog Uuid) := do
  let _ ← requireNonArchivedDataset settings catalog workspaceId datasetId
  rejectIf ((catalog.fields.lookup fieldId).filter (·.datasetId == datasetId)).isNone .fieldNotFound
  return { catalog with fields := catalog.fields.erase fieldId }

/-- Inserting the fields of a batch from its ordinal on, under the identifiers drawn for them. -/
def insertFields (datasetId : Uuid) (catalog : Catalog Uuid) (ordinal : Nat) :
    List (Uuid × FieldPayload) → Except Failure (Catalog Uuid)
  | [] => .ok catalog
  | (fieldId, payload) :: rest => do
    let catalog ← insertField settings catalog fieldId
      (fieldRow settings datasetId payload (ordinal + 1))
    insertFields datasetId catalog (ordinal + 1) rest

def appendFields (catalog : Catalog Uuid) (datasetId : Uuid) (fields : List (Uuid × FieldPayload)) :
    Except Failure (Catalog Uuid) := do
  let existing := (fieldsOf catalog datasetId).map fun row =>
    settings.runtime.lowerStr row.fieldName
  let collisions := (fields.map (·.2.fieldName)).filter fun name =>
    existing.contains (settings.runtime.lowerStr name)
  rejectIf (!collisions.isEmpty)
    (.plain 409 "FIELD_NAME_COLLISION" ("Field names already exist: " ++ join ", " collisions))
  insertFields settings datasetId catalog (maxOrdinal catalog datasetId) fields

def bulkImportFields (catalog : Catalog Uuid) (workspaceId datasetId : Uuid) (mode : String)
    (fields : List (Uuid × FieldPayload)) : Except Failure (Catalog Uuid) := do
  rejectIf (!(["append", "replace"].contains mode))
    (.plain 400 "INVALID_MODE" s!"Invalid mode '{mode}'. Must be 'append' or 'replace'.")
  let errors := validateBulkImportFields settings (fields.map (·.2))
  rejectIf (!errors.isEmpty)
    (.api 400 "VALIDATION_ERROR" "Bulk import validation failed." errors)
  let _ ← requireNonArchivedDataset settings catalog workspaceId datasetId
  if mode = "replace" then
    insertFields settings datasetId
      { catalog with fields := catalog.fields.keep fun _ row => row.datasetId != datasetId } 0 fields
  else appendFields settings catalog datasetId fields

/-! ### Status transitions -/

/-- `update_status`, and the moments and the actor that go with it. -/
def updateStatus (catalog : Catalog Uuid) (datasetId : Uuid) (row : Dataset Uuid)
    (status : DatasetStatus) (actorId : Uuid) (now : Int) : Catalog Uuid :=
  { catalog with
    datasets := catalog.datasets.insert datasetId
      { row with
        status
        activatedAt :=
          if row.status = .draft ∧ status = .active then some now else row.activatedAt
        archivedAt := if status = .archived then some now else row.archivedAt
        archivedBy := if status = .archived then some actorId else row.archivedBy
        updatedAt := now
        updatedBy := some actorId } }

def DatasetStatus.text : DatasetStatus → String
  | .draft => "DatasetStatus.draft"
  | .active => "DatasetStatus.active"
  | .inactive => "DatasetStatus.inactive"
  | .archived => "DatasetStatus.archived"

def invalidTransition (verb required : String) (row : Dataset Uuid) : Failure :=
  .plain 409 "INVALID_STATUS_TRANSITION"
    s!"Cannot {verb} dataset in '{row.status.text}' status. Must be {required}."

def activateDataset (catalog : Catalog Uuid) (workspaceId datasetId actorId : Uuid) (now : Int) :
    Except Failure (Catalog Uuid) := do
  let row ← findDataset catalog workspaceId datasetId
  rejectIf (row.status != .draft) (invalidTransition "activate" "'draft'" row)
  rejectIf ((fieldsOf catalog datasetId).length < 1)
    (.plain 409 "NO_FIELDS" "Cannot activate a dataset with zero fields.")
  return updateStatus catalog datasetId row .active actorId now

def deactivateDataset (catalog : Catalog Uuid) (workspaceId datasetId actorId : Uuid)
    (now : Int) : Except Failure (Catalog Uuid) := do
  let row ← findDataset catalog workspaceId datasetId
  rejectIf (row.status != .active) (invalidTransition "deactivate" "'active'" row)
  return updateStatus catalog datasetId row .inactive actorId now

def reactivateDataset (catalog : Catalog Uuid) (workspaceId datasetId actorId : Uuid)
    (now : Int) : Except Failure (Catalog Uuid) := do
  let row ← findDataset catalog workspaceId datasetId
  rejectIf (row.status != .inactive) (invalidTransition "reactivate" "'inactive'" row)
  return updateStatus catalog datasetId row .active actorId now

def archiveDataset (catalog : Catalog Uuid) (workspaceId datasetId actorId : Uuid) (now : Int) :
    Except Failure (Catalog Uuid) := do
  let row ← findDataset catalog workspaceId datasetId
  rejectIf (row.status != .active && row.status != .inactive)
    (invalidTransition "archive" "'active' or 'inactive'" row)
  return updateStatus catalog datasetId row .archived actorId now

end Datasets

end CogniDQ.Sources

/-!
## Data sources of a workspace

`DataSourceService`: creation, update with credential rotation, archiving and restoring. An
operation that raises is rolled back.
-/

namespace CogniDQ.Sources

open CogniDQ.Database CogniDQ.Python CogniDQ.Workspaces

section DataSources

variable {Uuid : Type} [DecidableEq Uuid] (settings : SourceSettings Uuid)

structure SourceRequest (Uuid : Type) where
  workspaceId : Uuid
  tenantId : Uuid
  actorId : Uuid
  actorRole : String

def verifyWorkspace (catalog : Catalog Uuid) (request : SourceRequest Uuid) :
    Except Failure Uuid :=
  match (catalog.workspaces.lookup request.workspaceId).filter fun tenantId =>
      request.actorRole == "platform_admin" || tenantId == request.tenantId with
  | some tenantId => .ok tenantId
  | none =>
    .error (.plain 404 "WORKSPACE_NOT_FOUND"
      s!"Workspace {settings.text request.workspaceId} not found or does not belong to the actor's tenant.")

/-- `find_by_id`, for whose rows only two states have a `DataSourceStatus`. -/
def findSource (catalog : Catalog Uuid) (workspaceId dataSourceId : Uuid) :
    Except Failure (DataSource Uuid) :=
  match (catalog.dataSources.lookup dataSourceId).filter
      (catalog.visible workspaceId dataSourceId) with
  | none =>
    .error (.plain 404 "DATA_SOURCE_NOT_FOUND"
      s!"Data source {settings.text dataSourceId} not found in workspace {settings.text workspaceId}.")
  | some row =>
    if row.status = .active ∨ row.status = .archived then .ok row
    else .error (.exn (.valueError s!"'{row.status.text}' is not a valid DataSourceStatus"))

def emitAudit (catalog : Catalog Uuid) (request : SourceRequest Uuid) (tenantId dataSourceId : Uuid)
    (actionType : String) (newData : List (String × String)) (now : Int) : Catalog Uuid :=
  { catalog with
    auditLogs := catalog.auditLogs ++
      [⟨tenantId, request.workspaceId, actionType, request.actorId, request.actorRole,
        dataSourceId, newData, now⟩] }

def sourceRow (request : SourceRequest Uuid) (tenantId : Uuid) (payload : SourcePayload)
    (now : Int) : DataSource Uuid where
  workspaceId := some request.workspaceId
  tenantId := tenantId
  sourceName := payload.sourceName
  sourceType := payload.sourceType
  connectionMode := payload.connectionMode
  environment := payload.environment
  description := payload.description
  credentialReference := none
  status := .active
  lastTestStatus := .untested
  lastTestedAt := none
  createdAt := now
  updatedAt := now
  createdBy := request.actorId
  updatedBy := none
  archivedAt := none
  archivedBy := none

def updateCredentialReference (catalog : Catalog Uuid)
    (workspaceId dataSourceId credentialId actorId : Uuid) (now : Int) : Catalog Uuid :=
  match (catalog.dataSources.lookup dataSourceId).filter
      (catalog.visible workspaceId dataSourceId) with
  | none => catalog
  | some row =>
    { catalog with
      dataSources := catalog.dataSources.insert dataSourceId
        { row with
          credentialReference := some credentialId
          lastTestStatus := .untested
          lastTestedAt := none
          updatedAt := now
          updatedBy := some actorId } }

def createSource (catalog : Catalog Uuid) (request : SourceRequest Uuid) (payload : SourcePayload)
    (dataSourceId credentialId : Uuid) (now : Int) : Except Failure (Catalog Uuid) := do
  let errors ← uncaught (validateCreatePayload settings payload)
  rejectIf (!errors.isEmpty)
    (.api 400 "VALIDATION_ERROR" "Request payload failed validation." errors)
  let tenantId ← verifyWorkspace settings catalog request
  let catalog ← catalog.insertSource settings dataSourceId (sourceRow request tenantId payload now)
  let encrypted ← encryptCredentials settings payload.credentials
  let catalog ← catalog.insertCredential credentialId
    ⟨dataSourceId, payload.sourceType, encrypted, now, request.actorId, none⟩
  let catalog :=
    updateCredentialReference catalog request.workspaceId dataSourceId credentialId request.actorId
      now
  return emitAudit catalog request tenantId dataSourceId "data_source.created"
    [("source_name", payload.sourceName), ("source_type", payload.sourceType)] now

structure SourceUpdate where
  sourceName : Option String
  environment : Option String
  description : Option String
  credentials : Option Dict
  sourceType : Option String
  connectionMode : Option String

def SourceUpdate.metadata (update : SourceUpdate) : Bool :=
  update.sourceName.isSome || update.environment.isSome || update.description.isSome

def SourceUpdate.changedFields (update : SourceUpdate) : List (String × String) :=
  (update.sourceName.toList.map (("source_name", ·))) ++
    (update.environment.toList.map (("environment", ·))) ++
    (update.description.toList.map (("description", ·)))

/-- `update_metadata`, of a row that the workspace owns; no row is no error. -/
def updateMetadata (catalog : Catalog Uuid) (workspaceId dataSourceId actorId : Uuid)
    (update : SourceUpdate) (now : Int) : Except Failure (Catalog Uuid) :=
  match (catalog.dataSources.lookup dataSourceId).filter (·.workspaceId == some workspaceId) with
  | none => .ok catalog
  | some row =>
    catalog.writeSource settings dataSourceId
      { row with
        sourceName := update.sourceName.getD row.sourceName
        environment := update.environment.getD row.environment
        description := update.description.or row.description
        updatedAt := now
        updatedBy := some actorId }

def rotateCredentials (catalog : Catalog Uuid) (request : SourceRequest Uuid)
    (dataSourceId : Uuid) (current : DataSource Uuid) (credentials : Dict) (credentialId : Uuid)
    (now : Int) : Except Failure (Catalog Uuid) := do
  let encrypted ← encryptCredentials settings credentials
  let catalog ← catalog.insertCredential credentialId
    ⟨dataSourceId, current.sourceType, encrypted, now, request.actorId, none⟩
  let catalog :=
    updateCredentialReference catalog request.workspaceId dataSourceId credentialId request.actorId
      now
  return current.credentialReference.elim catalog fun superseded => catalog.supersede superseded now

def writeMetadata (catalog : Catalog Uuid) (request : SourceRequest Uuid) (dataSourceId : Uuid)
    (update : SourceUpdate) (now : Int) : Except Failure (Catalog Uuid) :=
  if update.metadata then
    updateMetadata settings catalog request.workspaceId dataSourceId request.actorId update now
  else .ok catalog

def writeUpdate (catalog : Catalog Uuid) (request : SourceRequest Uuid) (dataSourceId : Uuid)
    (current : DataSource Uuid) (update : SourceUpdate) (credentialId : Uuid) (now : Int) :
    Except Failure (Catalog Uuid) := do
  let catalog ← writeMetadata settings catalog request dataSourceId update now
  match update.credentials with
  | none => .ok catalog
  | some credentials =>
    rotateCredentials settings catalog request dataSourceId current credentials credentialId now

/-- A unique violation of an update names the index that the workspace-wide names had. -/
def duplicateSourceName {α : Type} (update : SourceUpdate) : Except Failure α → Except Failure α
  | .error (.violation (.unique "uq_data_source_name_workspace")) =>
    let name := update.sourceName.getD "None"
    .error (.plain 409 "DUPLICATE_SOURCE_NAME"
      s!"A data source named '{name}' already exists in this workspace.")
  | outcome => outcome

def updateSource (catalog : Catalog Uuid) (request : SourceRequest Uuid) (dataSourceId : Uuid)
    (update : SourceUpdate) (credentialId : Uuid) (now : Int) : Except Failure (Catalog Uuid) := do
  let immutable :=
    (update.connectionMode.toList.map fun _ => "connection_mode") ++
      (update.sourceType.toList.map fun _ => "source_type")
  rejectIf (!immutable.isEmpty)
    (.api 400 "IMMUTABLE_FIELD"
      ("The following fields cannot be changed after creation: " ++ join ", " immutable ++ ".")
      (immutable.map (⟨·, "immutable"⟩)))
  let _ ← verifyWorkspace settings catalog request
  let current ← findSource settings catalog request.workspaceId dataSourceId
  let catalog ← duplicateSourceName update
    (writeUpdate settings catalog request dataSourceId current update credentialId now)
  return emitAudit catalog request request.tenantId dataSourceId "data_source.updated"
    update.changedFields now

/-- The row under another status, as `archive` and `restore` of the repository write it: only in a
row that the workspace owns. -/
def setSourceStatus (catalog : Catalog Uuid) (workspaceId dataSourceId actorId : Uuid)
    (status : SourceStatus) (now : Int) : Except Failure (Catalog Uuid) :=
  match (catalog.dataSources.lookup dataSourceId).filter (·.workspaceId == some workspaceId) with
  | none => .error .dataSourceNotFound
  | some row =>
    .ok { catalog with
      dataSources := catalog.dataSources.insert dataSourceId
        { row with
          status
          archivedAt := if status = .archived then some now else none
          archivedBy := if status = .archived then some actorId else none
          updatedAt := now
          updatedBy := some actorId } }

def archiveSource (catalog : Catalog Uuid) (request : SourceRequest Uuid) (dataSourceId : Uuid)
    (now : Int) : Except Failure (Catalog Uuid) := do
  let _ ← verifyWorkspace settings catalog request
  let current ← findSource settings catalog request.workspaceId dataSourceId
  rejectIf (current.status == .archived)
    (.plain 409 "DATA_SOURCE_ALREADY_ARCHIVED" "This data source is already archived.")
  let activeCount := (catalog.datasets.entries.filter fun entry =>
    entry.2.dataSourceId == some dataSourceId && entry.2.status == .active).length
  rejectIf (0 < activeCount)
    (.plain 409 "ACTIVE_DATASETS_BLOCKING_ARCHIVE"
      s!"Cannot archive this data source: {activeCount} active dataset(s) are still referencing it.")
  let catalog ←
    setSourceStatus catalog request.workspaceId dataSourceId request.actorId .archived now
  return emitAudit catalog request request.tenantId dataSourceId "data_source_archived"
    [("status", "archived")] now

def restoreSource (catalog : Catalog Uuid) (request : SourceRequest Uuid) (dataSourceId : Uuid)
    (now : Int) : Except Failure (Catalog Uuid) := do
  let _ ← verifyWorkspace settings catalog request
  let current ← findSource settings catalog request.workspaceId dataSourceId
  rejectIf (current.status != .archived)
    (.plain 409 "DATA_SOURCE_NOT_ARCHIVED"
      "This data source is not archived and cannot be restored.")
  let catalog ←
    setSourceStatus catalog request.workspaceId dataSourceId request.actorId .active now
  return emitAudit catalog request request.tenantId dataSourceId "data_source_restored"
    [("status", "active")] now

end DataSources

/-! ### Calls -/

/-- A call of one of the three services, with the identifiers it draws and the moment. -/
inductive Call (Uuid : Type) where
  | createConnection (tenantId : Uuid) (payload : ConnectionPayload Uuid)
      (actorId connectionId credentialId : Uuid) (now : Int)
  | updateConnection (tenantId connectionId : Uuid) (patch : ConnectionPatch) (actorId : Uuid)
      (now : Int)
  | replaceAssignments (tenantId connectionId : Uuid) (workspaceIds : List Uuid) (actorId : Uuid)
      (now : Int)
  | deleteConnection (tenantId connectionId : Uuid)
  | createDataset (workspaceId tenantId : Uuid) (payload : DatasetPayload Uuid)
      (actorId datasetId : Uuid) (now : Int)
  | addField (workspaceId datasetId : Uuid) (payload : FieldPayload) (fieldId : Uuid)
  | removeField (workspaceId datasetId fieldId : Uuid)
  | bulkImportFields (workspaceId datasetId : Uuid) (mode : String)
      (fields : List (Uuid × FieldPayload))
  | activateDataset (workspaceId datasetId actorId : Uuid) (now : Int)
  | deactivateDataset (workspaceId datasetId actorId : Uuid) (now : Int)
  | reactivateDataset (workspaceId datasetId actorId : Uuid) (now : Int)
  | archiveDataset (workspaceId datasetId actorId : Uuid) (now : Int)
  | createSource (request : SourceRequest Uuid) (payload : SourcePayload)
      (dataSourceId credentialId : Uuid) (now : Int)
  | updateSource (request : SourceRequest Uuid) (dataSourceId : Uuid) (update : SourceUpdate)
      (credentialId : Uuid) (now : Int)
  | archiveSource (request : SourceRequest Uuid) (dataSourceId : Uuid) (now : Int)
  | restoreSource (request : SourceRequest Uuid) (dataSourceId : Uuid) (now : Int)

section Calls

variable {Uuid : Type} [DecidableEq Uuid] (settings : SourceSettings Uuid)

def perform (catalog : Catalog Uuid) : Call Uuid → Except Failure (Catalog Uuid)
  | .createConnection tenantId payload actorId connectionId credentialId now =>
    createConnection settings catalog tenantId payload actorId connectionId credentialId now
  | .updateConnection tenantId connectionId patch actorId now =>
    updateConnection settings catalog tenantId connectionId patch actorId now
  | .replaceAssignments tenantId connectionId workspaceIds actorId now =>
    replaceAssignments settings catalog tenantId connectionId workspaceIds actorId now
  | .deleteConnection tenantId connectionId => deleteConnection catalog tenantId connectionId
  | .createDataset workspaceId tenantId payload actorId datasetId now =>
    createDataset settings catalog workspaceId tenantId payload actorId datasetId now
  | .addField workspaceId datasetId payload fieldId =>
    addField settings catalog workspaceId datasetId payload fieldId
  | .removeField workspaceId datasetId fieldId =>
    removeField settings catalog workspaceId datasetId fieldId
  | .bulkImportFields workspaceId datasetId mode fields =>
    bulkImportFields settings catalog workspaceId datasetId mode fields
  | .activateDataset workspaceId datasetId actorId now =>
    activateDataset catalog workspaceId datasetId actorId now
  | .deactivateDataset workspaceId datasetId actorId now =>
    deactivateDataset catalog workspaceId datasetId actorId now
  | .reactivateDataset workspaceId datasetId actorId now =>
    reactivateDataset catalog workspaceId datasetId actorId now
  | .archiveDataset workspaceId datasetId actorId now =>
    archiveDataset catalog workspaceId datasetId actorId now
  | .createSource request payload dataSourceId credentialId now =>
    createSource settings catalog request payload dataSourceId credentialId now
  | .updateSource request dataSourceId update credentialId now =>
    updateSource settings catalog request dataSourceId update credentialId now
  | .archiveSource request dataSourceId now =>
    archiveSource settings catalog request dataSourceId now
  | .restoreSource request dataSourceId now =>
    restoreSource settings catalog request dataSourceId now

/-- The catalog after a call; one that raises leaves it as it was. -/
def step (catalog : Catalog Uuid) (call : Call Uuid) : Option (Catalog Uuid) :=
  some ((perform settings catalog call).toOption.getD catalog)

theorem step_cases {catalog next : Catalog Uuid} {call : Call Uuid}
    (stepped : step settings catalog call = some next) :
    perform settings catalog call = .ok next ∨ next = catalog := by
  obtain rfl := Option.some.inj stepped
  cases outcome : perform settings catalog call with
  | ok next => exact .inl rfl
  | error failure => exact .inr rfl

end Calls

/-! Settings of a server that encrypts the empty credentials only; workspace 10 is of tenant 1 and
workspace 20 of tenant 2. -/

def demoSettings : SourceSettings Nat where
  text := toString
  runtime := Runtime.ascii
  loads _ := none
  debug := false
  encrypt credentials := if credentials.isEmpty then some "gAAAAA" else none
  decrypt token := if token = "gAAAAA" then some [] else none
  lower := fun name => String.ofList (name.toList.map Char.toLower)

def demoWorkspaces : Rows Nat Nat := AList.insert 10 1 (AList.insert 20 2 ∅)

end CogniDQ.Sources
