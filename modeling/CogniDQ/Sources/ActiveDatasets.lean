import CogniDQ.Protocol.Runs
import CogniDQ.Sources.Effects

/-!
# Active datasets

An active dataset has a field and stands on an active source, as long as no call activates it over a
source that is not, takes its last field, or takes its source out of service. A file may have no
source.
-/

set_option autoImplicit false

namespace CogniDQ.Sources

open CogniDQ.Database CogniDQ.Protocol CogniDQ.Python CogniDQ.Workspaces

variable {Uuid : Type} [DecidableEq Uuid]

def Catalog.InService (catalog : Catalog Uuid) (dataSourceId : Uuid) : Prop :=
  ∃ source, catalog.dataSources.lookup dataSourceId = some source ∧ source.status = .active

/-- A file without a source, or a dataset on an active one. -/
def Catalog.Backed (catalog : Catalog Uuid) (dataset : Dataset Uuid) : Prop :=
  match dataset.dataSourceId with
  | none => dataset.datasetType = "file"
  | some dataSourceId => catalog.InService dataSourceId

structure Catalog.ActiveBacked (catalog : Catalog Uuid) : Prop where
  backed : ∀ datasetId dataset, catalog.datasets.lookup datasetId = some dataset →
    dataset.status = .active → catalog.Backed dataset
  filled : ∀ datasetId dataset, catalog.datasets.lookup datasetId = some dataset →
    dataset.status = .active → catalog.HasField datasetId
  sourced : ∀ datasetId dataset, catalog.datasets.lookup datasetId = some dataset →
    dataset.dataSourceId = none → dataset.datasetType = "file"

/-- The call checks what the service does not: that a dataset to be activated is backed, and filled
when it was active before, that an active dataset keeps a field, and that a connection whose status
changes from active has no active dataset. -/
def Call.KeepsBacked (catalog : Catalog Uuid) : Call Uuid → Prop
  | .activateDataset workspaceId datasetId _ _ =>
    ∀ dataset, catalog.datasets.lookup datasetId = some dataset →
      dataset.workspaceId = workspaceId → dataset.status = .draft →
        catalog.HasField datasetId → catalog.Backed dataset
  | .reactivateDataset workspaceId datasetId _ _ =>
    ∀ dataset, catalog.datasets.lookup datasetId = some dataset →
      dataset.workspaceId = workspaceId → dataset.status = .inactive →
        catalog.Backed dataset ∧ catalog.HasField datasetId
  | .removeField workspaceId datasetId fieldId =>
    ∀ dataset, catalog.datasets.lookup datasetId = some dataset →
      dataset.workspaceId = workspaceId → dataset.status = .active →
        ∃ other row, other ≠ fieldId ∧ catalog.fields.lookup other = some row ∧
          row.datasetId = datasetId
  | .updateConnection tenantId connectionId patch _ _ =>
    ∀ source text status, getByTenant catalog tenantId connectionId = some source →
      patch.status = some text → SourceStatus.ofText text = some status → status ≠ .active →
        ∀ datasetId dataset, catalog.datasets.lookup datasetId = some dataset →
          dataset.dataSourceId = some connectionId → dataset.status ≠ .active
  | _ => True

section Steps

variable {settings : SourceSettings Uuid} {catalog next : Catalog Uuid} {now : Int}

theorem inService_of_rewrites (rewrites : Rewrites SameState catalog next) {dataSourceId : Uuid}
    (inService : catalog.InService dataSourceId) : next.InService dataSourceId := by
  obtain ⟨source, found, active⟩ := inService
  obtain ⟨written, kept, _, status⟩ := rewrites.sources dataSourceId source found
  exact ⟨written, kept, status.trans active⟩

theorem activeBacked_of_sources (backed : catalog.ActiveBacked)
    (datasets : next.datasets = catalog.datasets) (fields : next.fields = catalog.fields)
    (inService : ∀ datasetId dataset dataSourceId,
      catalog.datasets.lookup datasetId = some dataset → dataset.status = .active →
        dataset.dataSourceId = some dataSourceId → catalog.InService dataSourceId →
          next.InService dataSourceId) : next.ActiveBacked := by
  constructor
  · intro datasetId dataset found active
    rw [datasets] at found
    have before := backed.backed datasetId dataset found active
    unfold Catalog.Backed at before ⊢
    split at before
    · exact before
    · rename_i dataSourceId uses
      exact inService datasetId dataset dataSourceId found active uses before
  · intro datasetId dataset found active
    rw [datasets] at found
    obtain ⟨fieldId, row, held, own⟩ := backed.filled datasetId dataset found active
    exact ⟨fieldId, row, fields ▸ held, own⟩
  · intro datasetId dataset found
    rw [datasets] at found
    exact backed.sourced datasetId dataset found

theorem activeBacked_of_rewrites (backed : catalog.ActiveBacked)
    (rewrites : Rewrites SameState catalog next) : next.ActiveBacked :=
  activeBacked_of_sources backed rewrites.datasets rewrites.fields
    fun _ _ _ _ _ _ => inService_of_rewrites rewrites

theorem activeBacked_fields (backed : catalog.ActiveBacked)
    {fields : Rows Uuid (DatasetField Uuid)}
    (filled : ∀ datasetId dataset, catalog.datasets.lookup datasetId = some dataset →
      dataset.status = .active → catalog.HasField datasetId →
        ({ catalog with fields } : Catalog Uuid).HasField datasetId) :
    ({ catalog with fields } : Catalog Uuid).ActiveBacked where
  backed := backed.backed
  filled datasetId dataset found active :=
    filled datasetId dataset found active (backed.filled datasetId dataset found active)
  sourced := backed.sourced

theorem activeBacked_insertDataset (backed : catalog.ActiveBacked) {datasetId : Uuid}
    {row : Dataset Uuid} (isBacked : row.status = .active → catalog.Backed row)
    (isFilled : row.status = .active → catalog.HasField datasetId)
    (isSourced : row.dataSourceId = none → row.datasetType = "file") :
    ({ catalog with datasets := catalog.datasets.insert datasetId row } :
      Catalog Uuid).ActiveBacked := by
  constructor
  · intro other dataset found active
    rcases Rows.lookup_insert_cases found with ⟨_, rfl⟩ | ⟨_, before⟩
    · exact isBacked active
    · exact backed.backed other dataset before active
  · intro other dataset found active
    rcases Rows.lookup_insert_cases found with ⟨rfl, rfl⟩ | ⟨_, before⟩
    · exact isFilled active
    · exact backed.filled other dataset before active
  · intro other dataset found
    rcases Rows.lookup_insert_cases found with ⟨_, rfl⟩ | ⟨_, before⟩
    · exact isSourced
    · exact backed.sourced other dataset before

private theorem activeBacked_updateStatus (backed : catalog.ActiveBacked) {datasetId actorId : Uuid}
    {row : Dataset Uuid} {status : DatasetStatus}
    (found : catalog.datasets.lookup datasetId = some row)
    (activates : status = .active → catalog.Backed row ∧ catalog.HasField datasetId) :
    (updateStatus catalog datasetId row status actorId now).ActiveBacked :=
  activeBacked_insertDataset backed (fun active => (activates active).1)
    (fun active => (activates active).2) (backed.sourced datasetId row found)

private theorem activeBacked_createConnection (backed : catalog.ActiveBacked)
    {tenantId actorId connectionId credentialId : Uuid} {payload : ConnectionPayload Uuid}
    (created : createConnection settings catalog tenantId payload actorId connectionId credentialId
      now = .ok next) : next.ActiveBacked := by
  obtain ⟨_, _, _, inserted, stored, assignments, insertion, storing, rfl, _⟩ :=
    createConnection_ok created
  have before := activeBacked_of_rewrites backed
    ((rewrites_insertSource insertion).trans (rewrites_storeCredentials storing))
  exact ⟨before.backed, before.filled, before.sourced⟩

private theorem activeBacked_updateConnection (backed : catalog.ActiveBacked)
    {tenantId connectionId actorId : Uuid} {patch : ConnectionPatch}
    (keeps : (Call.updateConnection tenantId connectionId patch actorId now).KeepsBacked catalog)
    (updated : updateConnection settings catalog tenantId connectionId patch actorId now =
      .ok next) : next.ActiveBacked := by
  rcases updateConnection_ok updated with rfl | ⟨existing, row, present, own, applied, writing⟩
  · exact backed
  · obtain ⟨sourceName, description, _, _, rfl⟩ := writeSource_ok writing
    refine activeBacked_of_sources backed rfl rfl
      fun datasetId dataset dataSourceId found active uses inService => ?_
    obtain ⟨source, held, isActive⟩ := inService
    by_cases same : dataSourceId = connectionId
    · subst same
      obtain rfl := Option.some.inj (present.symm.trans held)
      refine ⟨_, AList.lookup_insert _, ?_⟩
      obtain ⟨status, parsed, rfl⟩ := Option.map_eq_some_iff.mp applied
      change status = .active
      split at parsed
      · exact (Option.some.inj parsed).symm.trans isActive
      · rename_i text given
        by_contra inactive
        have reached : getByTenant catalog tenantId dataSourceId = some existing :=
          Option.filter_eq_some_iff.mpr ⟨present, beq_iff_eq.mpr own⟩
        exact keeps existing text status reached given parsed inactive datasetId dataset found uses
          active
    · exact ⟨source, (AList.lookup_insert_ne same).trans held, isActive⟩

private theorem activeBacked_deleteConnection (backed : catalog.ActiveBacked)
    {tenantId connectionId : Uuid}
    (deleted : deleteConnection catalog tenantId connectionId = .ok next) : next.ActiveBacked := by
  obtain ⟨unused, rfl⟩ := deleteConnection_ok deleted
  refine activeBacked_of_sources backed rfl rfl
    fun datasetId dataset dataSourceId found active uses inService => ?_
  obtain ⟨source, held, isActive⟩ := inService
  have apart : dataSourceId ≠ connectionId := by
    rintro rfl
    exact unused datasetId dataset found uses
  exact ⟨source, (AList.lookup_erase_ne apart).trans held, isActive⟩

private theorem activeBacked_setSourceStatus (backed : catalog.ActiveBacked)
    {workspaceId dataSourceId actorId : Uuid} {status : SourceStatus}
    (unused : status = .active ∨ ∀ datasetId dataset,
      catalog.datasets.lookup datasetId = some dataset →
        dataset.dataSourceId = some dataSourceId → dataset.status ≠ .active)
    (set : setSourceStatus catalog workspaceId dataSourceId actorId status now = .ok next) :
    next.ActiveBacked := by
  obtain ⟨row, written, present, _, status, rfl⟩ := setSourceStatus_ok set
  refine activeBacked_of_sources backed rfl rfl
    fun datasetId dataset other found active uses inService => ?_
  obtain ⟨source, held, isActive⟩ := inService
  by_cases same : other = dataSourceId
  · subst same
    refine ⟨written, AList.lookup_insert _, ?_⟩
    rcases unused with activates | unused
    · exact status.trans activates
    · exact absurd active (unused datasetId dataset found uses)
  · exact ⟨source, (AList.lookup_insert_ne same).trans held, isActive⟩

private theorem activeBacked_removeField (backed : catalog.ActiveBacked)
    {workspaceId datasetId fieldId : Uuid}
    (keeps : (Call.removeField workspaceId datasetId fieldId).KeepsBacked catalog)
    (removed : removeField settings catalog workspaceId datasetId fieldId = .ok next) :
    next.ActiveBacked := by
  obtain ⟨⟨removedFrom, reached, ofWorkspace⟩, row, held, own, rfl⟩ := removeField_ok removed
  refine activeBacked_fields backed fun other dataset found active filled => ?_
  by_cases same : other = datasetId
  · subst same
    obtain rfl := Option.some.inj (reached.symm.trans found)
    obtain ⟨kept, field, apart, present, ofDataset⟩ := keeps removedFrom found ofWorkspace active
    exact ⟨kept, field, (AList.lookup_erase_ne apart).trans present, ofDataset⟩
  · obtain ⟨kept, field, present, ofDataset⟩ := filled
    refine ⟨kept, field, (AList.lookup_erase_ne ?_).trans present, ofDataset⟩
    rintro rfl
    obtain rfl := Option.some.inj (held.symm.trans present)
    exact same (ofDataset.symm.trans own)

private theorem activeBacked_perform (backed : catalog.ActiveBacked) {call : Call Uuid}
    (keeps : call.KeepsBacked catalog) (performed : perform settings catalog call = .ok next) :
    next.ActiveBacked := by
  cases call with
  | createConnection => exact activeBacked_createConnection backed performed
  | updateConnection => exact activeBacked_updateConnection backed keeps performed
  | replaceAssignments =>
    obtain ⟨_, assignments, rfl, _⟩ := replaceAssignments_ok performed
    exact ⟨backed.backed, backed.filled, backed.sourced⟩
  | deleteConnection => exact activeBacked_deleteConnection backed performed
  | createDataset =>
    obtain ⟨verified, _, rfl⟩ := createDataset_ok performed
    exact activeBacked_insertDataset backed nofun nofun (verifyDataSource_ok verified).1
  | addField =>
    obtain ⟨fields, rfl, kept⟩ := addField_ok performed
    exact activeBacked_fields backed fun datasetId _ _ _ => kept datasetId
  | removeField => exact activeBacked_removeField backed keeps performed
  | bulkImportFields =>
    obtain ⟨fields, rfl, kept⟩ := bulkImportFields_ok performed
    exact activeBacked_fields backed fun datasetId _ _ _ => kept datasetId
  | activateDataset =>
    obtain ⟨row, found, own, draft, filled, rfl⟩ := activateDataset_ok performed
    exact activeBacked_updateStatus backed found fun _ =>
      ⟨keeps row found own draft filled, filled⟩
  | deactivateDataset =>
    obtain ⟨row, found, rfl⟩ := deactivateDataset_ok performed
    exact activeBacked_updateStatus backed found nofun
  | reactivateDataset =>
    obtain ⟨row, found, own, inactive, rfl⟩ := reactivateDataset_ok performed
    exact activeBacked_updateStatus backed found fun _ => keeps row found own inactive
  | archiveDataset =>
    obtain ⟨row, found, rfl⟩ := archiveDataset_ok performed
    exact activeBacked_updateStatus backed found nofun
  | createSource => exact activeBacked_of_rewrites backed (rewrites_createSource performed)
  | updateSource => exact activeBacked_of_rewrites backed (rewrites_updateSource performed)
  | archiveSource =>
    obtain ⟨unused, middle, set, rfl⟩ := archiveSource_ok performed
    exact activeBacked_of_rewrites (activeBacked_setSourceStatus backed (.inr unused) set)
      rewrites_emitAudit
  | restoreSource =>
    obtain ⟨middle, set, rfl⟩ := restoreSource_ok performed
    exact activeBacked_of_rewrites (activeBacked_setSourceStatus backed (.inl rfl) set)
      rewrites_emitAudit

end Steps

/-- Calls that check what the services do not keep every active dataset on an active source, with a
field. -/
theorem active_datasets_stay_backed (settings : SourceSettings Uuid)
    {start reached : Catalog Uuid} {schedule : List (Call Uuid)}
    (begun : start.ActiveBacked)
    (keeps : RunMeets (step settings) (fun catalog call => call.KeepsBacked catalog) start schedule)
    (ran : run (step settings) start schedule = some reached) : reached.ActiveBacked := by
  refine run_preserves (fun catalog call next backed keeps stepped => ?_) begun keeps ran
  rcases step_cases settings stepped with performed | rfl
  · exact activeBacked_perform backed keeps performed
  · exact backed

private theorem activeBacked_empty (workspaces : Rows Uuid Uuid) :
    (Catalog.empty workspaces).ActiveBacked := by
  refine ⟨?_, ?_, ?_⟩
  all_goals
    intro _ _ found
    cases found

private theorem backed_of_rows {catalog : Catalog Uuid} {datasetId : Uuid} (dataSourceId : Uuid)
    (uses : (catalog.datasets.lookup datasetId).map (·.dataSourceId) = some (some dataSourceId))
    (active : (catalog.dataSources.lookup dataSourceId).map (·.status) = some .active)
    {dataset : Dataset Uuid} (found : catalog.datasets.lookup datasetId = some dataset) :
    catalog.Backed dataset := by
  rw [found] at uses
  unfold Catalog.Backed
  rw [show dataset.dataSourceId = some dataSourceId from Option.some.inj uses]
  exact Option.map_eq_some_iff.mp active

private theorem not_activeBacked_of_rows {catalog : Catalog Uuid} (datasetId dataSourceId : Uuid)
    (uses : (catalog.datasets.lookup datasetId).map (fun row => (row.status, row.dataSourceId)) =
      some (.active, some dataSourceId))
    (idle : (catalog.dataSources.lookup dataSourceId).map (·.status) ≠ some .active) :
    ¬catalog.ActiveBacked := by
  intro backed
  obtain ⟨dataset, found, columns⟩ := Option.map_eq_some_iff.mp uses
  have inService := backed.backed datasetId dataset found (congrArg Prod.fst columns)
  unfold Catalog.Backed at inService
  rw [show dataset.dataSourceId = some dataSourceId from congrArg Prod.snd columns] at inService
  exact idle (Option.map_eq_some_iff.mpr inService)

/-! A data source 5 of workspace 10 and a dataset 30 on it, with a field 40. -/

private def demoRequest : SourceRequest Nat := ⟨10, 1, 3, "workspace_administrator"⟩

private def demoDataset : List (Call Nat) :=
  [.createSource demoRequest ⟨"exports", "csv", "direct", "staging", none, []⟩ 5 6 0,
    .createDataset 10 1 ⟨"orders", "table", "orders.csv", some 5, none, none, none, "low", none,
      none⟩ 3 30 1,
    .addField 10 30 ⟨"id", "integer", false, none, "internal", true⟩ 40,
    .activateDataset 10 30 3 2]

/-- The source of an active dataset is not archived. -/
theorem archiving_refused_while_active :
    ∃ reached, run (step demoSettings) (Catalog.empty demoWorkspaces)
        (demoDataset ++ [.archiveSource demoRequest 5 3]) = some reached ∧
      (reached.datasets.lookup 30).any (·.status == .active) = true ∧ reached.ActiveBacked := by
  have keeps : RunMeets (step demoSettings) (fun catalog call => call.KeepsBacked catalog)
      (Catalog.empty demoWorkspaces) (demoDataset ++ [.archiveSource demoRequest 5 3]) := by
    refine ⟨trivial, fun _ first => ⟨trivial, fun _ second => ⟨trivial, fun _ third =>
      ⟨fun dataset found _ _ _ => ?_, fun _ _ => ⟨trivial, fun _ _ => trivial⟩⟩⟩⟩⟩
    cases first
    cases second
    cases third
    exact backed_of_rows 5 (by decide +kernel) (by decide +kernel) found
  exact ⟨_, rfl, by decide +kernel, active_datasets_stay_backed demoSettings (activeBacked_empty _)
    keeps rfl⟩

/-- Deactivated, its source archived, a dataset is reactivated all the same. -/
theorem reactivated_on_archived_source :
    ∃ reached, run (step demoSettings) (Catalog.empty demoWorkspaces)
        (demoDataset ++ [.deactivateDataset 10 30 3 3, .archiveSource demoRequest 5 4,
          .reactivateDataset 10 30 3 5]) = some reached ∧ ¬reached.ActiveBacked := by
  refine ⟨_, rfl, not_activeBacked_of_rows 30 5 ?_ ?_⟩
  · decide +kernel
  · decide +kernel

end CogniDQ.Sources
