import CogniDQ.Metadata.SyncService

/-!
# An index that mirrors the catalogue

What the index of a workspace says after a synchronisation. The upserts bring everything that is
listed up to date and touch nothing else, so the index is a mirror exactly if it had no entry for
something that is no longer listed, on a database whose table has the columns that are read.
-/

set_option autoImplicit false

namespace CogniDQ.Metadata

open CogniDQ.Database CogniDQ.Protocol

section Mirror

variable {Uuid : Type} [DecidableEq Uuid]

/-- What an entry of the index says, and the dataset that it belongs to. -/
structure Item (Uuid : Type) where
  assetType : String
  name : String
  dataType : String
  dataset : Option Uuid

/-- What there is to find in a workspace: its datasets that are not archived, their fields, and its
active data sources. -/
inductive Catalogue.Lists (catalogue : Catalogue Uuid) (workspaceId : Uuid) :
    SourceTable → Uuid → Item Uuid → Prop where
  | dataset {id : Uuid} {dataset : Dataset Uuid}
      (found : catalogue.datasets.lookup id = some dataset)
      (here : dataset.workspaceId = workspaceId) (live : dataset.status ≠ "archived") :
      Lists catalogue workspaceId .datasets id
        ⟨"dataset", dataset.datasetName, dataset.datasetType, none⟩
  | field {id : Uuid} {field : DatasetField Uuid} {dataset : Dataset Uuid}
      (found : catalogue.fields.lookup id = some field)
      (ofDataset : catalogue.datasets.lookup field.datasetId = some dataset)
      (here : dataset.workspaceId = workspaceId) (live : dataset.status ≠ "archived") :
      Lists catalogue workspaceId .datasetFields id
        ⟨"field", field.fieldName, field.dataType, some field.datasetId⟩
  | source {id : Uuid} {source : DataSource Uuid}
      (found : catalogue.sources.lookup id = some source)
      (here : source.workspaceId = some workspaceId) (active : source.status = "active") :
      Lists catalogue workspaceId .dataSources id ⟨"datasource", source.name, source.type, none⟩

/-- The entry says what the item is, under the entry of its dataset. -/
structure Describes (index : Index Uuid) (workspaceId : Uuid) (asset : Asset Uuid)
    (item : Item Uuid) : Prop where
  assetType : asset.assetType = item.assetType
  name : asset.name = item.name
  displayName : asset.displayName = some item.name
  dataType : asset.dataType = some item.dataType
  parent : asset.parentAssetId = item.dataset.bind (datasetAssetId index workspaceId)
  grounded : ∀ datasetId, item.dataset = some datasetId →
    (datasetAssetId index workspaceId datasetId).isSome

def mirroredTables : List SourceTable := [.datasets, .datasetFields, .dataSources]

/-- No entry of the workspace is about something that the catalogue does not list. -/
def Current (catalogue : Catalogue Uuid) (workspaceId : Uuid) (index : Index Uuid) : Prop :=
  ∀ table ∈ mirroredTables, ∀ id asset, index.lookup ⟨workspaceId, table, id⟩ = some asset →
    ∃ item, catalogue.Lists workspaceId table id item

structure Mirrors (catalogue : Catalogue Uuid) (workspaceId : Uuid) (index : Index Uuid) :
    Prop where
  complete : ∀ table id item, catalogue.Lists workspaceId table id item →
    ∃ asset, index.lookup ⟨workspaceId, table, id⟩ = some asset ∧
      Describes index workspaceId asset item
  current : Current catalogue workspaceId index

/-- What no upsert changes about the entries of a table. -/
def Typed (asset : Asset Uuid) : SourceTable → Prop
  | .datasets => asset.assetType = "dataset" ∧ asset.parentAssetId = none
  | .datasetFields => asset.assetType = "field"
  | .dataSources => asset.assetType = "datasource" ∧ asset.parentAssetId = none
  | .other _ => True

def Index.Typed (index : Index Uuid) : Prop :=
  ∀ key asset, index.lookup key = some asset → CogniDQ.Metadata.Typed asset key.sourceTable

end Mirror

section Selections

variable {Uuid : Type} [DecidableEq Uuid] {catalogue : Catalogue Uuid} {workspaceId id : Uuid}

private theorem listsDataset_iff {dataset : Dataset Uuid} :
    Catalogue.listsDataset workspaceId dataset = true ↔
      dataset.workspaceId = workspaceId ∧ dataset.status ≠ "archived" := by
  simp [Catalogue.listsDataset]

theorem lookup_selectedDatasets {dataset : Dataset Uuid} :
    (catalogue.selectedDatasets workspaceId).lookup id = some dataset ↔
      catalogue.datasets.lookup id = some dataset ∧
        dataset.workspaceId = workspaceId ∧ dataset.status ≠ "archived" := by
  unfold Catalogue.selectedDatasets
  rw [Rows.lookup_keep, Option.filter_eq_some_iff, listsDataset_iff]

theorem lookup_selectedFields {field : DatasetField Uuid} :
    (catalogue.selectedFields workspaceId).lookup id = some field ↔
      catalogue.fields.lookup id = some field ∧
        ∃ dataset, catalogue.datasets.lookup field.datasetId = some dataset ∧
          dataset.workspaceId = workspaceId ∧ dataset.status ≠ "archived" := by
  unfold Catalogue.selectedFields
  rw [Rows.lookup_keep, Option.filter_eq_some_iff, Option.any_eq_true]
  simp only [listsDataset_iff]

theorem lookup_selectedSources {source : DataSource Uuid} :
    (catalogue.selectedSources workspaceId).lookup id = some source ↔
      catalogue.sources.lookup id = some source ∧
        source.workspaceId = some workspaceId ∧ source.status = "active" := by
  unfold Catalogue.selectedSources
  rw [Rows.lookup_keep, Option.filter_eq_some_iff]
  simp

theorem lists_iff_selected {table : SourceTable} :
    (∃ item, catalogue.Lists workspaceId table id item) ↔
      match table with
      | .datasets => ((catalogue.selectedDatasets workspaceId).lookup id).isSome
      | .datasetFields => ((catalogue.selectedFields workspaceId).lookup id).isSome
      | .dataSources => ((catalogue.selectedSources workspaceId).lookup id).isSome
      | .other _ => False := by
  constructor
  · intro ⟨item, lists⟩
    cases lists with
    | dataset found here live =>
      exact Option.isSome_iff_exists.mpr ⟨_, lookup_selectedDatasets.mpr ⟨found, here, live⟩⟩
    | field found ofDataset here live =>
      exact Option.isSome_iff_exists.mpr
        ⟨_, lookup_selectedFields.mpr ⟨found, _, ofDataset, here, live⟩⟩
    | source found here active =>
      exact Option.isSome_iff_exists.mpr ⟨_, lookup_selectedSources.mpr ⟨found, here, active⟩⟩
  · intro selected
    cases table with
    | datasets =>
      obtain ⟨dataset, found⟩ := Option.isSome_iff_exists.mp selected
      obtain ⟨stored, here, live⟩ := lookup_selectedDatasets.mp found
      exact ⟨_, .dataset stored here live⟩
    | datasetFields =>
      obtain ⟨field, found⟩ := Option.isSome_iff_exists.mp selected
      obtain ⟨stored, dataset, ofDataset, here, live⟩ := lookup_selectedFields.mp found
      exact ⟨_, .field stored ofDataset here live⟩
    | dataSources =>
      obtain ⟨source, found⟩ := Option.isSome_iff_exists.mp selected
      obtain ⟨stored, here, active⟩ := lookup_selectedSources.mp found
      exact ⟨_, .source stored here active⟩
    | other => exact selected.elim

end Selections

section Lookups

variable {Uuid : Type} [DecidableEq Uuid] {catalogue : Catalogue Uuid} {workspaceId id : Uuid}
  {generated : AssetKey Uuid → Uuid} {index : Index Uuid}

omit [DecidableEq Uuid] in
theorem mk_injective (table : SourceTable) :
    Function.Injective (AssetKey.mk workspaceId table) := by
  intro first second same
  exact congrArg AssetKey.sourceId same

omit [DecidableEq Uuid] in
theorem ne_mk_of_table {key : AssetKey Uuid} {table : SourceTable}
    (apart : key.sourceTable ≠ table) (id : Uuid) : key ≠ ⟨workspaceId, table, id⟩ :=
  fun same => apart (congrArg AssetKey.sourceTable same)

omit [DecidableEq Uuid] in
private theorem ne_mk_of_workspace {key : AssetKey Uuid} {table : SourceTable}
    (apart : key.workspaceId ≠ workspaceId) (id : Uuid) : key ≠ ⟨workspaceId, table, id⟩ :=
  fun same => apart (congrArg AssetKey.workspaceId same)

theorem lookup_syncDatasets (id : Uuid) :
    (syncDatasets catalogue workspaceId generated index).lookup ⟨workspaceId, .datasets, id⟩ =
      ((catalogue.selectedDatasets workspaceId).lookup id).elim
        (index.lookup ⟨workspaceId, .datasets, id⟩) fun dataset => some (datasetAsset (generated ⟨workspaceId, .datasets, id⟩) dataset
          (index.lookup ⟨workspaceId, .datasets, id⟩)) :=
  Rows.lookup_upsertFrom (mk_injective _) id

private theorem lookup_syncFields (id : Uuid) :
    (syncFields catalogue workspaceId generated index).lookup ⟨workspaceId, .datasetFields, id⟩ =
      ((catalogue.selectedFields workspaceId).lookup id).elim
        (index.lookup ⟨workspaceId, .datasetFields, id⟩) fun field => some (fieldAsset (generated ⟨workspaceId, .datasetFields, id⟩)
          (datasetAssetId index workspaceId field.datasetId) field
          (index.lookup ⟨workspaceId, .datasetFields, id⟩)) :=
  Rows.lookup_upsertFrom (mk_injective _) id

private theorem lookup_syncSources (id : Uuid) :
    (syncSources catalogue workspaceId generated index).lookup ⟨workspaceId, .dataSources, id⟩ =
      ((catalogue.selectedSources workspaceId).lookup id).elim
        (index.lookup ⟨workspaceId, .dataSources, id⟩) fun source => some (sourceAsset (generated ⟨workspaceId, .dataSources, id⟩) source
          (index.lookup ⟨workspaceId, .dataSources, id⟩)) :=
  Rows.lookup_upsertFrom (mk_injective _) id

theorem lookup_syncDatasets_of_ne {key : AssetKey Uuid} (apart : key.sourceTable ≠ .datasets) :
    (syncDatasets catalogue workspaceId generated index).lookup key = index.lookup key :=
  Rows.lookup_upsertFrom_of_ne (ne_mk_of_table apart)

theorem lookup_syncFields_of_ne {key : AssetKey Uuid} (apart : key.sourceTable ≠ .datasetFields) :
    (syncFields catalogue workspaceId generated index).lookup key = index.lookup key :=
  Rows.lookup_upsertFrom_of_ne (ne_mk_of_table apart)

theorem lookup_syncSources_of_ne {key : AssetKey Uuid} (apart : key.sourceTable ≠ .dataSources) :
    (syncSources catalogue workspaceId generated index).lookup key = index.lookup key :=
  Rows.lookup_upsertFrom_of_ne (ne_mk_of_table apart)

/-! Each table of the index is written by one of the statements. -/

theorem lookup_syncIndex_datasets (id : Uuid) :
    (syncIndex catalogue workspaceId generated index).lookup ⟨workspaceId, .datasets, id⟩ =
      (syncDatasets catalogue workspaceId generated index).lookup ⟨workspaceId, .datasets, id⟩ := by
  unfold syncIndex
  rw [lookup_syncSources_of_ne SourceTable.noConfusion,
    lookup_syncFields_of_ne SourceTable.noConfusion]

theorem lookup_syncIndex_fields (id : Uuid) :
    (syncIndex catalogue workspaceId generated index).lookup ⟨workspaceId, .datasetFields, id⟩ =
      ((catalogue.selectedFields workspaceId).lookup id).elim
        (index.lookup ⟨workspaceId, .datasetFields, id⟩) fun field => some (fieldAsset (generated ⟨workspaceId, .datasetFields, id⟩)
          (datasetAssetId (syncDatasets catalogue workspaceId generated index) workspaceId
            field.datasetId) field
          (index.lookup ⟨workspaceId, .datasetFields, id⟩)) := by
  unfold syncIndex
  rw [lookup_syncSources_of_ne SourceTable.noConfusion, lookup_syncFields,
    lookup_syncDatasets_of_ne SourceTable.noConfusion]

theorem lookup_syncIndex_sources (id : Uuid) :
    (syncIndex catalogue workspaceId generated index).lookup ⟨workspaceId, .dataSources, id⟩ =
      ((catalogue.selectedSources workspaceId).lookup id).elim
        (index.lookup ⟨workspaceId, .dataSources, id⟩) fun source => some (sourceAsset (generated ⟨workspaceId, .dataSources, id⟩) source
          (index.lookup ⟨workspaceId, .dataSources, id⟩)) := by
  unfold syncIndex
  rw [lookup_syncSources, lookup_syncFields_of_ne SourceTable.noConfusion,
    lookup_syncDatasets_of_ne SourceTable.noConfusion]

theorem lookup_syncIndex_of_workspace {key : AssetKey Uuid}
    (apart : key.workspaceId ≠ workspaceId) :
    (syncIndex catalogue workspaceId generated index).lookup key = index.lookup key := by
  unfold syncIndex syncSources syncFields syncDatasets
  rw [Rows.lookup_upsertFrom_of_ne (ne_mk_of_workspace apart),
    Rows.lookup_upsertFrom_of_ne (ne_mk_of_workspace apart),
    Rows.lookup_upsertFrom_of_ne (ne_mk_of_workspace apart)]

private theorem lookup_syncIndex_other (name : String) :
    (syncIndex catalogue workspaceId generated index).lookup ⟨workspaceId, .other name, id⟩ =
      index.lookup ⟨workspaceId, .other name, id⟩ := by
  unfold syncIndex
  rw [lookup_syncSources_of_ne SourceTable.noConfusion,
    lookup_syncFields_of_ne SourceTable.noConfusion,
    lookup_syncDatasets_of_ne SourceTable.noConfusion]

theorem datasetAssetId_syncIndex (datasetId : Uuid) :
    datasetAssetId (syncIndex catalogue workspaceId generated index) workspaceId datasetId =
      datasetAssetId (syncDatasets catalogue workspaceId generated index) workspaceId datasetId :=
  congrArg (Option.map Asset.assetId) (lookup_syncIndex_datasets datasetId)

theorem stored_syncIndex_iff {table : SourceTable} (mirrored : table ∈ mirroredTables) (id : Uuid) :
    (∃ asset, (syncIndex catalogue workspaceId generated index).lookup ⟨workspaceId, table, id⟩ =
        some asset) ↔
      (∃ item, catalogue.Lists workspaceId table id item) ∨
        ∃ asset, index.lookup ⟨workspaceId, table, id⟩ = some asset := by
  rw [lists_iff_selected]
  cases table with
  | datasets =>
    rw [lookup_syncIndex_datasets, lookup_syncDatasets]
    cases (catalogue.selectedDatasets workspaceId).lookup id <;> simp
  | datasetFields =>
    rw [lookup_syncIndex_fields]
    cases (catalogue.selectedFields workspaceId).lookup id <;> simp
  | dataSources =>
    rw [lookup_syncIndex_sources]
    cases (catalogue.selectedSources workspaceId).lookup id <;> simp
  | other => simp [mirroredTables] at mirrored

private theorem current_syncIndex_iff :
    Current catalogue workspaceId (syncIndex catalogue workspaceId generated index) ↔
      Current catalogue workspaceId index := by
  constructor
  · intro current table mirrored id asset found
    have kept : ∃ after, (syncIndex catalogue workspaceId generated index).lookup
        ⟨workspaceId, table, id⟩ = some after :=
      (stored_syncIndex_iff mirrored id).mpr (.inr ⟨asset, found⟩)
    obtain ⟨after, stored⟩ := kept
    exact current table mirrored id after stored
  · intro current table mirrored id asset found
    rcases (stored_syncIndex_iff mirrored id).mp ⟨asset, found⟩ with listed | ⟨before, stored⟩
    · exact listed
    · exact current table mirrored id before stored

end Lookups

section Entries

variable {Uuid : Type} [DecidableEq Uuid] {catalogue : Catalogue Uuid} {workspaceId id : Uuid}
  {generated : AssetKey Uuid → Uuid} {index : Index Uuid}

theorem Index.Typed.upsertFrom {Source : Type} (typed : index.Typed) {source : Rows Uuid Source}
    {table : SourceTable} {value : Uuid → Source → Option (Asset Uuid) → Asset Uuid}
    (values : ∀ id row old, (∀ asset, old = some asset → CogniDQ.Metadata.Typed asset table) →
      CogniDQ.Metadata.Typed (value id row old) table) :
    Index.Typed (index.upsertFrom source (.mk workspaceId table) value) := by
  intro key asset found
  by_cases written : ∃ id, key = ⟨workspaceId, table, id⟩
  · obtain ⟨id, rfl⟩ := written
    rw [Rows.lookup_upsertFrom (mk_injective table)] at found
    cases selected : source.lookup id with
    | none =>
      rw [selected] at found
      exact typed _ asset found
    | some row =>
      rw [selected] at found
      obtain rfl := Option.some.inj found
      exact values id row _ (typed _)
  · rw [Rows.lookup_upsertFrom_of_ne fun id same => written ⟨id, same⟩] at found
    exact typed key asset found

theorem Index.Typed.syncIndex (typed : index.Typed) :
    Index.Typed (syncIndex catalogue workspaceId generated index) := by
  refine Index.Typed.upsertFrom (Index.Typed.upsertFrom (typed.upsertFrom ?_) ?_) ?_
  · intro id dataset old known
    cases old with
    | none => exact ⟨rfl, rfl⟩
    | some asset => exact known asset rfl
  · intro id field old known
    cases old with
    | none => exact rfl
    | some asset => exact known asset rfl
  · intro id source old known
    cases old with
    | none => exact ⟨rfl, rfl⟩
    | some asset => exact known asset rfl

theorem describes_dataset (typed : index.Typed) {dataset : Dataset Uuid} {asset : Asset Uuid}
    (selected : (catalogue.selectedDatasets workspaceId).lookup id = some dataset)
    (found : (syncIndex catalogue workspaceId generated index).lookup ⟨workspaceId, .datasets, id⟩ =
      some asset) :
    Describes (syncIndex catalogue workspaceId generated index) workspaceId asset
      ⟨"dataset", dataset.datasetName, dataset.datasetType, none⟩ := by
  obtain ⟨isDataset, parentless⟩ := typed.syncIndex _ asset found
  rw [lookup_syncIndex_datasets, lookup_syncDatasets, selected] at found
  have same := Option.some.inj found
  refine ⟨isDataset, ?_, ?_, ?_, parentless, fun _ dataset => nomatch dataset⟩
  all_goals
    rw [← same]
    cases index.lookup ⟨workspaceId, .datasets, id⟩ <;> rfl

theorem describes_source (typed : index.Typed) {source : DataSource Uuid} {asset : Asset Uuid}
    (selected : (catalogue.selectedSources workspaceId).lookup id = some source)
    (found : (syncIndex catalogue workspaceId generated index).lookup
      ⟨workspaceId, .dataSources, id⟩ = some asset) :
    Describes (syncIndex catalogue workspaceId generated index) workspaceId asset
      ⟨"datasource", source.name, source.type, none⟩ := by
  obtain ⟨isSource, parentless⟩ := typed.syncIndex _ asset found
  rw [lookup_syncIndex_sources, selected] at found
  have same := Option.some.inj found
  refine ⟨isSource, ?_, ?_, ?_, parentless, fun _ dataset => nomatch dataset⟩
  all_goals
    rw [← same]
    cases index.lookup ⟨workspaceId, .dataSources, id⟩ <;> rfl

theorem describes_field (typed : index.Typed) {field : DatasetField Uuid} {asset : Asset Uuid}
    (selected : (catalogue.selectedFields workspaceId).lookup id = some field)
    (found : (syncIndex catalogue workspaceId generated index).lookup
      ⟨workspaceId, .datasetFields, id⟩ = some asset) :
    Describes (syncIndex catalogue workspaceId generated index) workspaceId asset
      ⟨"field", field.fieldName, field.dataType, some field.datasetId⟩ := by
  have isField := typed.syncIndex _ asset found
  rw [lookup_syncIndex_fields, selected] at found
  have same := Option.some.inj found
  have parent : asset.parentAssetId =
      datasetAssetId (syncIndex catalogue workspaceId generated index) workspaceId
        field.datasetId := by
    rw [← same, datasetAssetId_syncIndex]
    cases index.lookup ⟨workspaceId, .datasetFields, id⟩ <;> rfl
  refine ⟨isField, ?_, ?_, ?_, parent, ?_⟩
  case refine_4 =>
    intro datasetId ofDataset
    obtain rfl := Option.some.inj ofDataset
    obtain ⟨-, dataset, stored, here, live⟩ := lookup_selectedFields.mp selected
    rw [datasetAssetId_syncIndex, datasetAssetId, lookup_syncDatasets,
      lookup_selectedDatasets.mpr ⟨stored, here, live⟩]
    rfl
  all_goals
    rw [← same]
    cases index.lookup ⟨workspaceId, .datasetFields, id⟩ <;> rfl

private theorem complete_syncIndex (typed : index.Typed) {table : SourceTable} {item : Item Uuid}
    (lists : catalogue.Lists workspaceId table id item) :
    ∃ asset, (syncIndex catalogue workspaceId generated index).lookup ⟨workspaceId, table, id⟩ =
        some asset ∧
      Describes (syncIndex catalogue workspaceId generated index) workspaceId asset item := by
  have mirrored : table ∈ mirroredTables := by
    cases lists <;> decide
  have stored : ∃ asset, (syncIndex catalogue workspaceId generated index).lookup
      ⟨workspaceId, table, id⟩ = some asset :=
    (stored_syncIndex_iff mirrored id).mpr (.inl ⟨item, lists⟩)
  obtain ⟨asset, found⟩ := stored
  refine ⟨asset, found, ?_⟩
  cases lists with
  | dataset stored here live =>
    exact describes_dataset typed (lookup_selectedDatasets.mpr ⟨stored, here, live⟩) found
  | field stored ofDataset here live =>
    exact describes_field typed (lookup_selectedFields.mpr ⟨stored, _, ofDataset, here, live⟩) found
  | source stored here active =>
    exact describes_source typed (lookup_selectedSources.mpr ⟨stored, here, active⟩) found

private theorem mirrors_syncIndex_iff (typed : index.Typed) :
    Mirrors catalogue workspaceId (syncIndex catalogue workspaceId generated index) ↔
      Current catalogue workspaceId index :=
  ⟨fun mirrors => current_syncIndex_iff.mp mirrors.current, fun current =>
    ⟨fun _ _ _ lists => complete_syncIndex typed lists, current_syncIndex_iff.mpr current⟩⟩

end Entries

section Again

variable {Uuid : Type} [DecidableEq Uuid] {catalogue : Catalogue Uuid} {workspaceId : Uuid}
  {generated again : AssetKey Uuid → Uuid} {index : Index Uuid}

omit [DecidableEq Uuid] in
private theorem datasetAsset_again {assetId later : Uuid} {dataset : Dataset Uuid}
    {old : Option (Asset Uuid)} :
    datasetAsset later dataset (some (datasetAsset assetId dataset old)) =
      datasetAsset assetId dataset old := by
  cases old <;> rfl

omit [DecidableEq Uuid] in
theorem fieldAsset_again {assetId later : Uuid} {parent : Option Uuid} {field : DatasetField Uuid}
    {old : Option (Asset Uuid)} :
    fieldAsset later parent field (some (fieldAsset assetId parent field old)) =
      fieldAsset assetId parent field old := by
  cases old <;> rfl

omit [DecidableEq Uuid] in
private theorem sourceAsset_again {assetId later : Uuid} {source : DataSource Uuid}
    {old : Option (Asset Uuid)} :
    sourceAsset later source (some (sourceAsset assetId source old)) =
      sourceAsset assetId source old := by
  cases old <;> rfl

theorem lookup_syncDatasets_again (id : Uuid) :
    (syncDatasets catalogue workspaceId again
        (syncIndex catalogue workspaceId generated index)).lookup ⟨workspaceId, .datasets, id⟩ =
      (syncIndex catalogue workspaceId generated index).lookup ⟨workspaceId, .datasets, id⟩ := by
  rw [lookup_syncDatasets, lookup_syncIndex_datasets, lookup_syncDatasets]
  cases (catalogue.selectedDatasets workspaceId).lookup id with
  | none => rfl
  | some dataset => exact congrArg some datasetAsset_again

private theorem datasetAssetId_again (datasetId : Uuid) :
    datasetAssetId (syncDatasets catalogue workspaceId again
        (syncIndex catalogue workspaceId generated index)) workspaceId datasetId =
      datasetAssetId (syncDatasets catalogue workspaceId generated index) workspaceId datasetId :=
  (congrArg (Option.map Asset.assetId) (lookup_syncDatasets_again datasetId)).trans
    (datasetAssetId_syncIndex datasetId)

private theorem lookup_syncIndex_again (key : AssetKey Uuid) :
    (syncIndex catalogue workspaceId again
        (syncIndex catalogue workspaceId generated index)).lookup key =
      (syncIndex catalogue workspaceId generated index).lookup key := by
  by_cases here : key.workspaceId = workspaceId
  · obtain ⟨named, table, id⟩ := key
    obtain rfl : workspaceId = named := here.symm
    cases table with
    | datasets =>
      rw [lookup_syncIndex_datasets, lookup_syncDatasets_again]
    | datasetFields =>
      rw [lookup_syncIndex_fields, lookup_syncIndex_fields]
      cases (catalogue.selectedFields workspaceId).lookup id with
      | none => rfl
      | some field =>
        simp only [Option.elim_some, datasetAssetId_again]
        exact congrArg some fieldAsset_again
    | dataSources =>
      rw [lookup_syncIndex_sources, lookup_syncIndex_sources]
      cases (catalogue.selectedSources workspaceId).lookup id with
      | none => rfl
      | some source => exact congrArg some sourceAsset_again
    | other name => exact lookup_syncIndex_other name
  · exact lookup_syncIndex_of_workspace here

private theorem createdBySync_again :
    createdBySync catalogue workspaceId again (syncIndex catalogue workspaceId generated index) =
      0 := by
  have present {table : SourceTable} (mirrored : table ∈ mirroredTables) {id : Uuid}
      (lists : ∃ item, catalogue.Lists workspaceId table id item) :
      ((syncIndex catalogue workspaceId generated index).lookup
        ⟨workspaceId, table, id⟩).isSome :=
    Option.isSome_iff_exists.mpr ((stored_syncIndex_iff mirrored id).mpr (.inl lists))
  unfold createdBySync
  dsimp only
  rw [Rows.inserted_eq_zero, Rows.inserted_eq_zero, Rows.inserted_eq_zero]
  · intro id source selected
    rw [lookup_syncFields_of_ne SourceTable.noConfusion,
      lookup_syncDatasets_of_ne SourceTable.noConfusion]
    refine present (by decide) (lists_iff_selected.mpr ?_)
    exact Option.isSome_iff_exists.mpr ⟨source, selected⟩
  · intro id field selected
    rw [lookup_syncDatasets_of_ne SourceTable.noConfusion]
    refine present (by decide) (lists_iff_selected.mpr ?_)
    exact Option.isSome_iff_exists.mpr ⟨field, selected⟩
  · intro id dataset selected
    refine present (by decide) (lists_iff_selected.mpr ?_)
    exact Option.isSome_iff_exists.mpr ⟨dataset, selected⟩

end Again

section Histories

variable {Uuid : Type} [DecidableEq Uuid] {columns : List String} {state next : State Uuid}
  {schedule : List (Action Uuid)}

private theorem syncWorkspace_of_columns (catalogue : Catalogue Uuid) (workspaceId : Uuid)
    (generated : AssetKey Uuid → Uuid) (index : Index Uuid)
    (known : ∀ column ∈ sourceColumnsRead, column ∈ columns) :
    ∃ response, syncWorkspace catalogue workspaceId generated index columns =
        .ok (syncIndex catalogue workspaceId generated index, response) ∧
      response.assetsCreated = createdBySync catalogue workspaceId generated index := by
  have noneMissing : sourceColumnsRead.find? (· ∉ columns) = none := by
    rw [List.find?_eq_none]
    intro column listed missing
    exact of_decide_eq_true missing (known column listed)
  unfold syncWorkspace
  rw [noneMissing]
  exact ⟨_, rfl, rfl⟩

theorem syncWorkspace_ok {catalogue : Catalogue Uuid} {workspaceId : Uuid}
    {generated : AssetKey Uuid → Uuid} {index after : Index Uuid}
    {response : MetadataSyncResponse Uuid}
    (synced : syncWorkspace catalogue workspaceId generated index columns = .ok (after, response)) :
    (∀ column ∈ sourceColumnsRead, column ∈ columns) ∧
      after = syncIndex catalogue workspaceId generated index := by
  unfold syncWorkspace at synced
  split at synced
  · cases synced
  · next noneMissing =>
    cases synced
    refine ⟨fun column listed => ?_, rfl⟩
    simpa using List.find?_eq_none.mp noneMissing column listed

private theorem typed_step (typed : state.index.Typed) {action : Action Uuid}
    (stepped : step columns state action = some next) : next.index.Typed := by
  cases action with
  | sync workspaceId generated =>
    unfold step at stepped
    dsimp only at stepped
    split at stepped
    · next synced =>
      cases stepped
      rw [(syncWorkspace_ok synced).2]
      exact typed.syncIndex
    · cases stepped
      exact typed
  | _ =>
    cases stepped
    exact typed

theorem typed_run (ran : run (step columns) .empty schedule = some state) : state.index.Typed := by
  have begun : (State.empty : State Uuid).index.Typed := fun _ _ found => nomatch found
  have always : RunMeets (step columns) (fun _ _ => True) (State.empty : State Uuid) schedule :=
    runMeets_of_forall fun _ _ => trivial
  have preserved : ∀ (before : State Uuid) action after, before.index.Typed → True →
      step columns before action = some after → after.index.Typed :=
    fun _ _ _ typed _ stepped => typed_step typed stepped
  have typed := run_preserves preserved begun always ran
  exact typed

/-- After any history, a synchronisation leaves the index of the workspace a mirror of the
catalogue, the entries of the others as they were, and nothing to do for a second one, if and only
if the table of the data sources has the columns that are read and the index had no entry for
something that is not listed any more. -/
theorem sync_mirrors_iff (ran : run (step columns) .empty schedule = some state)
    (workspaceId : Uuid) (generated : AssetKey Uuid → Uuid) :
    (∃ index response,
      syncWorkspace state.catalogue workspaceId generated state.index columns =
          .ok (index, response) ∧
        Mirrors state.catalogue workspaceId index ∧
        (∀ key, key.workspaceId ≠ workspaceId → index.lookup key = state.index.lookup key) ∧
        ∀ again, ∃ unchanged second,
          syncWorkspace state.catalogue workspaceId again index columns = .ok (unchanged, second) ∧
            second.assetsCreated = 0 ∧ ∀ key, unchanged.lookup key = index.lookup key) ↔
      (∀ column ∈ sourceColumnsRead, column ∈ columns) ∧
        Current state.catalogue workspaceId state.index := by
  have typed := typed_run ran
  constructor
  · intro ⟨index, response, synced, mirrors, _, _⟩
    obtain ⟨known, rfl⟩ := syncWorkspace_ok synced
    exact ⟨known, (mirrors_syncIndex_iff typed).mp mirrors⟩
  · intro ⟨known, current⟩
    obtain ⟨response, synced, -⟩ :=
      syncWorkspace_of_columns state.catalogue workspaceId generated state.index known
    refine ⟨_, response, synced, (mirrors_syncIndex_iff typed).mpr current,
      fun key apart => lookup_syncIndex_of_workspace apart, fun again => ?_⟩
    obtain ⟨second, syncedAgain, created⟩ :=
      syncWorkspace_of_columns state.catalogue workspaceId again
        (syncIndex state.catalogue workspaceId generated state.index) known
    exact ⟨_, second, syncedAgain, created.trans createdBySync_again, lookup_syncIndex_again⟩

end Histories

section Examples

private def expectedColumns : List String := ["id", "workspace_id", "name", "type", "status"]

private def orders (status : String) : Dataset Nat :=
  ⟨0, "orders", none, some "sales", "table", status⟩

private def amount : DatasetField Nat := ⟨1, "amount", none, "numeric"⟩

private def warehouse : DataSource Nat := ⟨some 0, "warehouse", "postgresql", "active"⟩

private def catalogued : List (Action Nat) :=
  [.putDataset 1 (orders "active"), .putField 2 amount, .putSource 3 warehouse]

private def assetIds (key : AssetKey Nat) : Nat := 10 * key.sourceId

/-- The first synchronisation of a dataset, its field and a data source. -/
theorem sync_mirrors_first :
    ∃ state, run (step expectedColumns) .empty catalogued = some state ∧
      ∃ index response,
        syncWorkspace state.catalogue 0 assetIds state.index expectedColumns =
            .ok (index, response) ∧
          Mirrors state.catalogue 0 index ∧
          (∀ key, key.workspaceId ≠ 0 → index.lookup key = state.index.lookup key) ∧
          ∀ again, ∃ unchanged second,
            syncWorkspace state.catalogue 0 again index expectedColumns = .ok (unchanged, second) ∧
              second.assetsCreated = 0 ∧ ∀ key, unchanged.lookup key = index.lookup key := by
  have ran : ∃ state, run (step expectedColumns) .empty catalogued = some state ∧
      state.index = ∅ := ⟨_, rfl, rfl⟩
  obtain ⟨state, ran, unindexed⟩ := ran
  refine ⟨state, ran, (sync_mirrors_iff ran 0 assetIds).mpr ⟨?_, ?_⟩⟩
  · decide
  · intro _ _ _ _ found
    rw [unindexed] at found
    cases found

/-- On the table that the migrations create, the synchronisation of a catalogue raises; on one with
the columns that are read, a dataset that is archived after a synchronisation stays in the index. -/
theorem archived_dataset_stays_indexed :
    (∃ state, run (step dataSourceColumns) .empty catalogued = some state ∧
      syncWorkspace state.catalogue 0 assetIds state.index dataSourceColumns =
        .error (.undefinedColumn "name")) ∧
      ∃ state, run (step expectedColumns) .empty
          (catalogued ++ [.sync 0 assetIds, .putDataset 1 (orders "archived"), .sync 0 assetIds]) =
            some state ∧
        (state.index.lookup ⟨0, .datasets, 1⟩).isSome ∧
        ¬∃ item, state.catalogue.Lists 0 .datasets 1 item := by
  refine ⟨⟨_, rfl, rfl⟩, _, rfl, by decide, ?_⟩
  intro ⟨item, lists⟩
  cases lists with
  | dataset found here live =>
    cases found
    exact live rfl

end Examples

end CogniDQ.Metadata
