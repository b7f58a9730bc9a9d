import CogniDQ.Sources.Validation
import CogniDQ.Database.Rows
import CogniDQ.Workspaces.Roles

/-!
# Data sources, connections and datasets

The tables of the `control` schema behind data sources: rows, the constraints the database checks
when a row is written, and the predicates that the statements of the repositories share. A tenant
connection is a data source without a workspace.
-/

set_option autoImplicit false

namespace CogniDQ.Sources

open CogniDQ.Database CogniDQ.Python CogniDQ.Workspaces

/-- The states that `ck_data_sources_status` allows. -/
inductive SourceStatus where
  | draft
  | created
  | testFailed
  | testSuccessful
  | discoveryAvailable
  | active
  | disabled
  | archived
deriving DecidableEq

def SourceStatus.ofText : String → Option SourceStatus
  | "draft" => some .draft
  | "created" => some .created
  | "test_failed" => some .testFailed
  | "test_successful" => some .testSuccessful
  | "discovery_available" => some .discoveryAvailable
  | "active" => some .active
  | "disabled" => some .disabled
  | "archived" => some .archived
  | _ => none

def SourceStatus.text : SourceStatus → String
  | .draft => "draft"
  | .created => "created"
  | .testFailed => "test_failed"
  | .testSuccessful => "test_successful"
  | .discoveryAvailable => "discovery_available"
  | .active => "active"
  | .disabled => "disabled"
  | .archived => "archived"

inductive TestStatus where
  | untested
  | reachable
  | unreachable
  | testFailed
deriving DecidableEq

inductive DatasetStatus where
  | draft
  | active
  | inactive
  | archived
deriving DecidableEq

structure DataSource (Uuid : Type) where
  workspaceId : Option Uuid
  tenantId : Uuid
  sourceName : String
  sourceType : String
  connectionMode : String
  environment : String
  description : Option String
  credentialReference : Option Uuid
  status : SourceStatus
  lastTestStatus : TestStatus
  lastTestedAt : Option Int
  createdAt : Int
  updatedAt : Int
  createdBy : Uuid
  updatedBy : Option Uuid
  archivedAt : Option Int
  archivedBy : Option Uuid

structure Credential (Uuid : Type) where
  dataSourceId : Uuid
  sourceType : String
  encryptedPayload : String
  createdAt : Int
  createdBy : Uuid
  supersededAt : Option Int

structure Assignment (Uuid : Type) where
  assignedAt : Int
  assignedBy : Uuid

structure Dataset (Uuid : Type) where
  workspaceId : Uuid
  tenantId : Uuid
  dataSourceId : Option Uuid
  datasetName : String
  datasetType : String
  physicalIdentifier : String
  schemaName : Option String
  description : Option String
  businessDomain : Option String
  criticality : String
  ownerUserId : Option Uuid
  freshnessExpectation : Option String
  status : DatasetStatus
  createdAt : Int
  updatedAt : Int
  createdBy : Uuid
  updatedBy : Option Uuid
  activatedAt : Option Int
  archivedAt : Option Int
  archivedBy : Option Uuid

structure DatasetField (Uuid : Type) where
  datasetId : Uuid
  fieldName : String
  dataType : String
  nullable : Bool
  businessDefinition : Option String
  sensitivityClassification : String
  isKeyCandidate : Bool
  ordinalPosition : Nat

/-- An entry of the audit log about a data source: the fields it says were set. -/
structure AuditEntry (Uuid : Type) where
  tenantId : Uuid
  workspaceId : Uuid
  actionType : String
  actorId : Uuid
  actorRole : String
  dataSourceId : Uuid
  newData : List (String × String)
  occurredAt : Int

structure Catalog (Uuid : Type) where
  /-- The tenant of each workspace. -/
  workspaces : Rows Uuid Uuid
  dataSources : Rows Uuid (DataSource Uuid)
  credentials : Rows Uuid (Credential Uuid)
  /-- Connections assigned to workspaces. -/
  assignments : Rows (Uuid × Uuid) (Assignment Uuid)
  datasets : Rows Uuid (Dataset Uuid)
  fields : Rows Uuid (DatasetField Uuid)
  auditLogs : List (AuditEntry Uuid)

def Catalog.empty {Uuid : Type} (workspaces : Rows Uuid Uuid) : Catalog Uuid :=
  ⟨workspaces, ∅, ∅, ∅, ∅, ∅, []⟩

inductive Failure where
  | api (statusCode : Nat) (code message : String) (fields : List FieldError)
  | dataSourceNotFound
  | dataSourceNotActive
  | datasetNotFound
  | fieldNotFound
  | credentialEncryption
  | violation (violation : Violation)
  | exn (exn : Exn)
deriving DecidableEq

def Failure.plain (statusCode : Nat) (code message : String) : Failure :=
  .api statusCode code message []

def refuse {α : Type} (violation : Violation) : Except Failure α := .error (.violation violation)

def rejectIf (condition : Bool) (failure : Failure) : Except Failure Unit :=
  if condition then .error failure else .ok ()

theorem rejectIf_ok {condition : Bool} {failure : Failure} {done : Unit}
    (passed : rejectIf condition failure = .ok done) : condition = false := by
  cases condition with
  | true => cases passed
  | false => rfl

def uncaught {α : Type} : Except Exn α → Except Failure α
  | .ok value => .ok value
  | .error exn => .error (.exn exn)

def storeVarchar (limit : Nat) (text : String) : Except Failure String :=
  match varchar limit text with
  | .ok text => .ok text
  | .error violation => refuse violation

def storeOptionalVarchar (limit : Nat) : Option String → Except Failure (Option String)
  | none => .ok none
  | some text => (storeVarchar limit text).map some

section Statements

variable {Uuid : Type} [DecidableEq Uuid] (settings : SourceSettings Uuid)

/-- The source is owned by the workspace, or by no workspace and assigned to it. -/
def Catalog.visible (catalog : Catalog Uuid) (workspaceId dataSourceId : Uuid)
    (row : DataSource Uuid) : Bool :=
  row.workspaceId == some workspaceId ||
    row.workspaceId.isNone && (catalog.assignments.lookup (dataSourceId, workspaceId)).isSome

/-- Writing a data source: column types, checks, the unique name and the foreign key. -/
def Catalog.writeSource (catalog : Catalog Uuid) (dataSourceId : Uuid) (row : DataSource Uuid) :
    Except Failure (Catalog Uuid) := do
  let sourceName ← storeVarchar 100 row.sourceName
  let description ← storeOptionalVarchar 500 row.description
  rejectIf (!supportedSourceTypes.contains row.sourceType)
    (.violation (.check "ck_data_sources_source_type"))
  rejectIf (!validConnectionModes.contains row.connectionMode)
    (.violation (.check "ck_data_sources_connection_mode"))
  rejectIf (!validEnvironments.contains row.environment)
    (.violation (.check "ck_data_sources_environment"))
  rejectIf
    (catalog.dataSources.entries.any fun entry =>
      entry.1 != dataSourceId && entry.2.tenantId == row.tenantId &&
        settings.lower entry.2.sourceName == settings.lower sourceName)
    (.violation (.unique "uq_data_source_name_tenant"))
  rejectIf
    (row.workspaceId.any fun workspaceId => (catalog.workspaces.lookup workspaceId).isNone)
    (.violation (.foreignKey "fk_data_sources_workspace"))
  return { catalog with
    dataSources := catalog.dataSources.insert dataSourceId { row with sourceName, description } }

def Catalog.insertSource (catalog : Catalog Uuid) (dataSourceId : Uuid) (row : DataSource Uuid) :
    Except Failure (Catalog Uuid) :=
  if (catalog.dataSources.lookup dataSourceId).isSome then refuse (.unique "pk_data_sources")
  else catalog.writeSource settings dataSourceId row

def Catalog.insertCredential (catalog : Catalog Uuid) (credentialId : Uuid)
    (row : Credential Uuid) : Except Failure (Catalog Uuid) :=
  if (catalog.credentials.lookup credentialId).isSome then
    refuse (.unique "pk_data_source_credentials")
  else if (catalog.dataSources.lookup row.dataSourceId).isNone then
    refuse (.foreignKey "fk_ds_credentials_data_source")
  else .ok { catalog with credentials := catalog.credentials.insert credentialId row }

def Catalog.supersede (catalog : Catalog Uuid) (credentialId : Uuid) (now : Int) : Catalog Uuid :=
  match catalog.credentials.lookup credentialId with
  | some row =>
    if row.supersededAt.isNone then
      { catalog with
        credentials := catalog.credentials.insert credentialId { row with supersededAt := some now } }
    else catalog
  | none => catalog

def Catalog.deleteSource (catalog : Catalog Uuid) (dataSourceId : Uuid) : Catalog Uuid :=
  { catalog with
    dataSources := catalog.dataSources.erase dataSourceId
    credentials := catalog.credentials.keep fun _ row => row.dataSourceId != dataSourceId
    assignments := catalog.assignments.keep fun key _ => key.1 != dataSourceId }

end Statements

end CogniDQ.Sources
