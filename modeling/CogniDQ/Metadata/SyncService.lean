import CogniDQ.Database.Rows
import CogniDQ.Protocol.Runs

/-!
# Metadata synchronisation

The catalogue of datasets, fields and data sources, and `sync_workspace`, which writes it to the
metadata asset index in three upserts and one commit.
-/

set_option autoImplicit false

namespace CogniDQ.Metadata

open CogniDQ.Database

/-- `source_table` of an index entry. -/
inductive SourceTable where
  | datasets
  | datasetFields
  | dataSources
  | other (name : String)
  deriving DecidableEq

structure Dataset (Uuid : Type) where
  workspaceId : Uuid
  datasetName : String
  description : Option String
  businessDomain : Option String
  datasetType : String
  status : String

structure DatasetField (Uuid : Type) where
  datasetId : Uuid
  fieldName : String
  businessDefinition : Option String
  dataType : String

structure DataSource (Uuid : Type) where
  workspaceId : Option Uuid
  name : String
  type : String
  status : String

structure Catalogue (Uuid : Type) where
  datasets : Rows Uuid (Dataset Uuid)
  fields : Rows Uuid (DatasetField Uuid)
  sources : Rows Uuid (DataSource Uuid)

structure AssetKey (Uuid : Type) where
  workspaceId : Uuid
  sourceTable : SourceTable
  sourceId : Uuid
  deriving DecidableEq

/-- A row of `control.metadata_asset_index` under its unique key. -/
structure Asset (Uuid : Type) where
  assetId : Uuid
  assetType : String
  name : String
  displayName : Option String
  description : Option String
  businessDomain : Option String
  dataType : Option String
  parentAssetId : Option Uuid

abbrev Index (Uuid : Type) : Type := Rows (AssetKey Uuid) (Asset Uuid)

structure MetadataSyncResponse (Uuid : Type) where
  assetsCreated : Nat
  assetsUpdated : Nat
  total : Nat
  workspaceId : Uuid

inductive SqlError where
  | undefinedColumn (name : String)

/-- The columns that the migrations give `control.data_sources`. -/
def dataSourceColumns : List String :=
  ["data_source_id", "workspace_id", "tenant_id", "source_name", "source_type", "connection_mode",
    "environment", "description", "credential_reference", "status", "last_test_status",
    "last_tested_at", "created_at", "updated_at", "created_by", "updated_by", "archived_at",
    "archived_by", "seed_source"]

/-- The columns of `control.data_sources` that the third upsert reads. -/
def sourceColumnsRead : List String := ["workspace_id", "name", "type", "id", "status"]

section Statements

variable {Uuid : Type} [DecidableEq Uuid]

namespace Catalogue

variable (catalogue : Catalogue Uuid) (workspaceId : Uuid)

def listsDataset (dataset : Dataset Uuid) : Bool :=
  dataset.workspaceId = workspaceId && dataset.status != "archived"

def selectedDatasets : Rows Uuid (Dataset Uuid) :=
  catalogue.datasets.keep fun _ => listsDataset workspaceId

def selectedFields : Rows Uuid (DatasetField Uuid) :=
  catalogue.fields.keep fun _ field =>
    (catalogue.datasets.lookup field.datasetId).any (listsDataset workspaceId)

def selectedSources : Rows Uuid (DataSource Uuid) :=
  catalogue.sources.keep fun _ source =>
    source.workspaceId = some workspaceId && source.status == "active"

end Catalogue

def datasetAsset (assetId : Uuid) (dataset : Dataset Uuid) : Option (Asset Uuid) → Asset Uuid
  | none =>
    { assetId
      assetType := "dataset"
      name := dataset.datasetName
      displayName := some dataset.datasetName
      description := dataset.description
      businessDomain := dataset.businessDomain
      dataType := some dataset.datasetType
      parentAssetId := none }
  | some asset =>
    { asset with
      name := dataset.datasetName
      displayName := some dataset.datasetName
      description := dataset.description
      businessDomain := dataset.businessDomain
      dataType := some dataset.datasetType }

def fieldAsset (assetId : Uuid) (parentAssetId : Option Uuid) (field : DatasetField Uuid) :
    Option (Asset Uuid) → Asset Uuid
  | none =>
    { assetId
      assetType := "field"
      name := field.fieldName
      displayName := some field.fieldName
      description := field.businessDefinition
      businessDomain := none
      dataType := some field.dataType
      parentAssetId }
  | some asset =>
    { asset with
      name := field.fieldName
      displayName := some field.fieldName
      description := field.businessDefinition
      dataType := some field.dataType
      parentAssetId }

def sourceAsset (assetId : Uuid) (source : DataSource Uuid) : Option (Asset Uuid) → Asset Uuid
  | none =>
    { assetId
      assetType := "datasource"
      name := source.name
      displayName := some source.name
      description := none
      businessDomain := none
      dataType := some source.type
      parentAssetId := none }
  | some asset =>
    { asset with
      name := source.name
      displayName := some source.name
      dataType := some source.type }

def datasetAssetId (index : Index Uuid) (workspaceId datasetId : Uuid) : Option Uuid :=
  (index.lookup ⟨workspaceId, .datasets, datasetId⟩).map (·.assetId)

section Upserts

variable (catalogue : Catalogue Uuid) (workspaceId : Uuid) (generated : AssetKey Uuid → Uuid)
  (index : Index Uuid)

def syncDatasets : Index Uuid :=
  index.upsertFrom (catalogue.selectedDatasets workspaceId) (.mk workspaceId .datasets)
    fun id dataset => datasetAsset (generated ⟨workspaceId, .datasets, id⟩) dataset

def syncFields : Index Uuid :=
  index.upsertFrom (catalogue.selectedFields workspaceId) (.mk workspaceId .datasetFields)
    fun id field => fieldAsset (generated ⟨workspaceId, .datasetFields, id⟩)
      (datasetAssetId index workspaceId field.datasetId) field

def syncSources : Index Uuid :=
  index.upsertFrom (catalogue.selectedSources workspaceId) (.mk workspaceId .dataSources)
    fun id source => sourceAsset (generated ⟨workspaceId, .dataSources, id⟩) source

def syncIndex : Index Uuid :=
  syncSources catalogue workspaceId generated
    (syncFields catalogue workspaceId generated (syncDatasets catalogue workspaceId generated index))

def createdBySync : Nat :=
  let afterDatasets := syncDatasets catalogue workspaceId generated index
  let afterFields := syncFields catalogue workspaceId generated afterDatasets
  index.inserted (catalogue.selectedDatasets workspaceId) (.mk workspaceId .datasets) +
    afterDatasets.inserted (catalogue.selectedFields workspaceId)
      (.mk workspaceId .datasetFields) +
    afterFields.inserted (catalogue.selectedSources workspaceId) (.mk workspaceId .dataSources)

def selectedBySync : Nat :=
  (catalogue.selectedDatasets workspaceId).entries.length +
    (catalogue.selectedFields workspaceId).entries.length +
    (catalogue.selectedSources workspaceId).entries.length

/-- `sync_workspace` on a database whose `control.data_sources` has the columns given, with the
asset ids that it generates. An error ends the transaction before its commit. -/
def syncWorkspace (columns : List String) :
    Except SqlError (Index Uuid × MetadataSyncResponse Uuid) :=
  match sourceColumnsRead.find? (· ∉ columns) with
  | some name => .error (.undefinedColumn name)
  | none =>
    let created := createdBySync catalogue workspaceId generated index
    let updated := selectedBySync catalogue workspaceId - created
    .ok (syncIndex catalogue workspaceId generated index,
      { assetsCreated := created, assetsUpdated := updated, total := created + updated, workspaceId })

end Upserts

structure State (Uuid : Type) where
  catalogue : Catalogue Uuid
  index : Index Uuid

/-- A change of the catalogue, or a synchronisation. -/
inductive Action (Uuid : Type) where
  | putDataset (id : Uuid) (dataset : Dataset Uuid)
  | putField (id : Uuid) (field : DatasetField Uuid)
  | removeField (id : Uuid)
  | putSource (id : Uuid) (source : DataSource Uuid)
  | sync (workspaceId : Uuid) (generated : AssetKey Uuid → Uuid)

def step (columns : List String) (state : State Uuid) : Action Uuid → Option (State Uuid)
  | .putDataset id dataset =>
    let datasets := state.catalogue.datasets.insert id dataset
    some { state with catalogue := { state.catalogue with datasets } }
  | .putField id field =>
    let fields := state.catalogue.fields.insert id field
    some { state with catalogue := { state.catalogue with fields } }
  | .removeField id =>
    let fields := state.catalogue.fields.erase id
    some { state with catalogue := { state.catalogue with fields } }
  | .putSource id source =>
    let sources := state.catalogue.sources.insert id source
    some { state with catalogue := { state.catalogue with sources } }
  | .sync workspaceId generated =>
    match syncWorkspace state.catalogue workspaceId generated state.index columns with
    | .ok (index, _) => some { state with index }
    | .error _ => some state

def State.empty : State Uuid where
  catalogue := { datasets := ∅, fields := ∅, sources := ∅ }
  index := ∅

end Statements

end CogniDQ.Metadata
