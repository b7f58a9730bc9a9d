import CogniDQ.Protocol.Runs
import CogniDQ.Sources.Effects

/-!
# Connections and datasets of one tenant

Assignments link connections and workspaces of one tenant, and datasets stand on sources of their
workspace, as long as no call reaches over to a connection that is not its own.
-/

set_option autoImplicit false

namespace CogniDQ.Sources

open CogniDQ.Database CogniDQ.Protocol CogniDQ.Python CogniDQ.Workspaces

variable {Uuid : Type} [DecidableEq Uuid]

/-- The source is the workspace's own or a connection assigned to it. -/
def Catalog.Offers (catalog : Catalog Uuid) (workspaceId dataSourceId : Uuid) : Prop :=
  ∃ source, catalog.dataSources.lookup dataSourceId = some source ∧
    (source.workspaceId = some workspaceId ∨
      (catalog.assignments.lookup (dataSourceId, workspaceId)).isSome = true)

def Catalog.SameTenant (catalog : Catalog Uuid) (connectionId workspaceId : Uuid) : Prop :=
  ∃ source, catalog.dataSources.lookup connectionId = some source ∧
    catalog.workspaces.lookup workspaceId = some source.tenantId

structure Catalog.WithinTenants (catalog : Catalog Uuid) : Prop where
  assigned : ∀ connectionId workspaceId row,
    catalog.assignments.lookup (connectionId, workspaceId) = some row →
      catalog.SameTenant connectionId workspaceId
  sourced : ∀ datasetId dataset dataSourceId, catalog.datasets.lookup datasetId = some dataset →
    dataset.dataSourceId = some dataSourceId → catalog.Offers dataset.workspaceId dataSourceId

/-- No reach over to what is not the caller's: assignments are replaced for a connection of the
tenant in the path, and not taken from a workspace whose datasets need them; a dataset is created
over a source that its workspace has. -/
def Call.KeepsToOwn (catalog : Catalog Uuid) : Call Uuid → Prop
  | .replaceAssignments tenantId connectionId workspaceIds _ _ =>
    (∀ workspaceId ∈ workspaceIds, catalog.workspaces.lookup workspaceId = some tenantId) →
      ∀ source, catalog.dataSources.lookup connectionId = some source →
        (workspaceIds ≠ [] → source.tenantId = tenantId) ∧
          ∀ datasetId dataset, catalog.datasets.lookup datasetId = some dataset →
            dataset.dataSourceId = some connectionId →
              source.workspaceId = some dataset.workspaceId ∨ dataset.workspaceId ∈ workspaceIds
  | .createDataset workspaceId _ payload _ _ _ =>
    ∀ dataSourceId source, payload.dataSourceId = some dataSourceId →
      catalog.dataSources.lookup dataSourceId = some source → source.status = .active →
        catalog.Offers workspaceId dataSourceId
  | _ => True

section Steps

variable {settings : SourceSettings Uuid} {catalog next : Catalog Uuid} {now : Int}

private theorem offers_of_rewrites (rewrites : Rewrites SameOwner catalog next)
    {workspaceId dataSourceId : Uuid} (offers : catalog.Offers workspaceId dataSourceId) :
    next.Offers workspaceId dataSourceId := by
  obtain ⟨source, found, own⟩ := offers
  obtain ⟨written, kept, _, workspace⟩ := rewrites.sources dataSourceId source found
  refine ⟨written, kept, ?_⟩
  rwa [workspace, rewrites.assignments]

private theorem sameTenant_of_rewrites (rewrites : Rewrites SameOwner catalog next)
    {connectionId workspaceId : Uuid} (same : catalog.SameTenant connectionId workspaceId) :
    next.SameTenant connectionId workspaceId := by
  obtain ⟨source, found, owned⟩ := same
  obtain ⟨written, kept, tenant, _⟩ := rewrites.sources connectionId source found
  exact ⟨written, kept, by rw [rewrites.workspaces, tenant, owned]⟩

theorem withinTenants_of_rewrites (within : catalog.WithinTenants)
    (rewrites : Rewrites SameOwner catalog next) : next.WithinTenants where
  assigned connectionId workspaceId row found := by
    rw [rewrites.assignments] at found
    exact sameTenant_of_rewrites rewrites (within.assigned connectionId workspaceId row found)
  sourced datasetId dataset dataSourceId found uses := by
    rw [rewrites.datasets] at found
    exact offers_of_rewrites rewrites (within.sourced datasetId dataset dataSourceId found uses)

theorem withinTenants_reassign (within : catalog.WithinTenants)
    {assignments : Rows (Uuid × Uuid) (Assignment Uuid)}
    (added : ∀ connectionId workspaceId row,
      assignments.lookup (connectionId, workspaceId) = some row →
        catalog.assignments.lookup (connectionId, workspaceId) = some row ∨
          catalog.SameTenant connectionId workspaceId)
    (needed : ∀ datasetId dataset dataSourceId, catalog.datasets.lookup datasetId = some dataset →
      dataset.dataSourceId = some dataSourceId →
        ({ catalog with assignments } : Catalog Uuid).Offers dataset.workspaceId dataSourceId) :
    ({ catalog with assignments } : Catalog Uuid).WithinTenants where
  assigned connectionId workspaceId row found :=
    (added connectionId workspaceId row found).elim
      (within.assigned connectionId workspaceId row) id
  sourced := needed

private theorem withinTenants_createConnection (within : catalog.WithinTenants)
    {tenantId actorId connectionId credentialId : Uuid} {payload : ConnectionPayload Uuid}
    (created : createConnection settings catalog tenantId payload actorId connectionId credentialId
      now = .ok next) : next.WithinTenants := by
  obtain ⟨_, owned, absent, inserted, stored, assignments, insertion, storing, rfl, looked⟩ :=
    createConnection_ok created
  have rewrites : Rewrites SameState catalog stored :=
    (rewrites_insertSource insertion).trans (rewrites_storeCredentials storing)
  have before := withinTenants_of_rewrites within rewrites.owner
  -- The identifier is new, so nothing was assigned under it.
  have unassigned : ∀ workspaceId row,
      stored.assignments.lookup (connectionId, workspaceId) ≠ some row := by
    intro workspaceId row found
    rw [rewrites.assignments] at found
    obtain ⟨source, present, _⟩ := within.assigned connectionId workspaceId row found
    rw [absent] at present
    cases present
  have present : ∃ source, stored.dataSources.lookup connectionId = some source ∧
      source.tenantId = tenantId := by
    obtain ⟨sourceName, description, _, _, rfl⟩ := writeSource_ok (insertSource_ok insertion).2
    obtain ⟨source, found, ⟨tenant, _⟩, _⟩ := (rewrites_storeCredentials storing).sources
      connectionId _ (AList.lookup_insert _)
    exact ⟨source, found, tenant⟩
  refine withinTenants_reassign before (fun other workspaceId row found => ?_)
    fun datasetId dataset dataSourceId found uses => ?_
  · rw [looked] at found
    split_ifs at found with new listed
    · right
      obtain rfl : other = connectionId := new.1
      obtain ⟨source, sourced, tenant⟩ := present
      refine ⟨source, sourced, ?_⟩
      rw [rewrites.workspaces, tenant]
      exact owned workspaceId listed
    · exact .inl found
  · obtain ⟨source, sourced, own⟩ := before.sourced datasetId dataset dataSourceId found uses
    refine ⟨source, sourced, own.imp_right fun assigned => ?_⟩
    obtain ⟨row, held⟩ := Option.isSome_iff_exists.mp assigned
    rw [looked, if_neg, held]
    · rfl
    · rintro ⟨rfl, _⟩
      exact unassigned dataset.workspaceId row held

private theorem withinTenants_replaceAssignments (within : catalog.WithinTenants)
    {tenantId connectionId actorId : Uuid} {workspaceIds : List Uuid}
    (own : (Call.replaceAssignments tenantId connectionId workspaceIds actorId now).KeepsToOwn
      catalog)
    (replaced : replaceAssignments settings catalog tenantId connectionId workspaceIds actorId now =
      .ok next) : next.WithinTenants := by
  obtain ⟨owned, assignments, rfl, looked, present⟩ := replaceAssignments_ok replaced
  refine withinTenants_reassign within (fun other workspaceId row found => ?_)
    fun datasetId dataset dataSourceId found uses => ?_
  · rw [looked] at found
    split_ifs at found with same listed
    · right
      obtain rfl : other = connectionId := same
      have given : workspaceIds ≠ [] := List.ne_nil_of_mem listed
      obtain ⟨source, sourced⟩ := Option.isSome_iff_exists.mp (present given)
      refine ⟨source, sourced, ?_⟩
      rw [(own owned source sourced).1 given]
      exact owned workspaceId listed
    · exact .inl found
  · obtain ⟨source, sourced, offered⟩ := within.sourced datasetId dataset dataSourceId found uses
    refine ⟨source, sourced, ?_⟩
    change _ ∨ (assignments.lookup _).isSome = true
    rw [looked]
    by_cases same : dataSourceId = connectionId
    · subst same
      refine ((own owned source sourced).2 datasetId dataset found uses).imp_right fun listed => ?_
      rw [if_pos rfl, if_pos listed]
      rfl
    · rwa [if_neg same]

private theorem withinTenants_deleteConnection (within : catalog.WithinTenants)
    {tenantId connectionId : Uuid}
    (deleted : deleteConnection catalog tenantId connectionId = .ok next) :
    next.WithinTenants := by
  obtain ⟨unused, rfl⟩ := deleteConnection_ok deleted
  have kept : ∀ dataSourceId, dataSourceId ≠ connectionId →
      (catalog.deleteSource connectionId).dataSources.lookup dataSourceId =
        catalog.dataSources.lookup dataSourceId := fun _ other => AList.lookup_erase_ne other
  constructor
  · intro other workspaceId row found
    obtain ⟨held, apart⟩ := Rows.lookup_keep_eq_some found
    obtain ⟨source, present, tenant⟩ := within.assigned other workspaceId row held
    exact ⟨source, (kept other (by simpa using apart)).trans present, tenant⟩
  · intro datasetId dataset dataSourceId found uses
    obtain ⟨source, present, offered⟩ := within.sourced datasetId dataset dataSourceId found uses
    have apart : dataSourceId ≠ connectionId := by
      rintro rfl
      exact unused datasetId dataset found uses
    refine ⟨source, (kept dataSourceId apart).trans present, offered.imp_right fun assigned => ?_⟩
    change ((catalog.assignments.keep _).lookup _).isSome = true
    rwa [Rows.lookup_keep_of_kept fun _ => by simpa using apart]

theorem withinTenants_insertDataset (within : catalog.WithinTenants) {datasetId : Uuid}
    {row : Dataset Uuid}
    (offered : ∀ dataSourceId, row.dataSourceId = some dataSourceId →
      catalog.Offers row.workspaceId dataSourceId) :
    ({ catalog with datasets := catalog.datasets.insert datasetId row } :
      Catalog Uuid).WithinTenants where
  assigned := within.assigned
  sourced other dataset dataSourceId found uses := by
    rcases Rows.lookup_insert_cases found with ⟨_, rfl⟩ | ⟨_, before⟩
    · exact offered dataSourceId uses
    · exact within.sourced other dataset dataSourceId before uses

theorem withinTenants_updateStatus (within : catalog.WithinTenants) {datasetId actorId : Uuid}
    {row : Dataset Uuid} {status : DatasetStatus}
    (found : catalog.datasets.lookup datasetId = some row) :
    (updateStatus catalog datasetId row status actorId now).WithinTenants :=
  withinTenants_insertDataset within fun dataSourceId uses =>
    within.sourced datasetId row dataSourceId found uses

private theorem withinTenants_fields (within : catalog.WithinTenants)
    (fields : Rows Uuid (DatasetField Uuid)) :
    ({ catalog with fields } : Catalog Uuid).WithinTenants :=
  ⟨within.assigned, within.sourced⟩

theorem rewrites_setSourceStatus {workspaceId dataSourceId actorId : Uuid} {status : SourceStatus}
    (set : setSourceStatus catalog workspaceId dataSourceId actorId status now = .ok next) :
    Rewrites SameOwner catalog next := by
  obtain ⟨row, written, found, owner, _, rfl⟩ := setSourceStatus_ok set
  refine rewrites_insert (fun _ => ⟨rfl, rfl⟩) fun other same => ?_
  obtain rfl := Option.some.inj (found.symm.trans same)
  exact owner

theorem rewrites_updateConnection {tenantId connectionId actorId : Uuid} {patch : ConnectionPatch}
    (updated : updateConnection settings catalog tenantId connectionId patch actorId now =
      .ok next) : Rewrites SameOwner catalog next := by
  rcases updateConnection_ok updated with rfl | ⟨existing, row, found, _, applied, writing⟩
  · exact Rewrites.refl.owner
  · obtain ⟨sourceName, description, _, _, rfl⟩ := writeSource_ok writing
    refine rewrites_insert (fun _ => ⟨rfl, rfl⟩) fun other same => ?_
    obtain rfl := Option.some.inj (found.symm.trans same)
    obtain ⟨status, _, rfl⟩ := Option.map_eq_some_iff.mp applied
    exact ⟨rfl, rfl⟩

private theorem withinTenants_perform (within : catalog.WithinTenants) {call : Call Uuid}
    (own : call.KeepsToOwn catalog) (performed : perform settings catalog call = .ok next) :
    next.WithinTenants := by
  cases call with
  | createConnection => exact withinTenants_createConnection within performed
  | updateConnection =>
    exact withinTenants_of_rewrites within (rewrites_updateConnection performed)
  | replaceAssignments => exact withinTenants_replaceAssignments within own performed
  | deleteConnection => exact withinTenants_deleteConnection within performed
  | createDataset workspaceId tenantId payload actorId datasetId now =>
    obtain ⟨verified, _, rfl⟩ := createDataset_ok performed
    refine withinTenants_insertDataset within fun dataSourceId uses => ?_
    obtain ⟨source, present, active⟩ := (verifyDataSource_ok verified).2 dataSourceId uses
    exact own dataSourceId source uses present active
  | addField =>
    obtain ⟨fields, rfl, _⟩ := addField_ok performed
    exact withinTenants_fields within fields
  | removeField =>
    obtain ⟨_, _, _, _, rfl⟩ := removeField_ok performed
    exact withinTenants_fields within _
  | bulkImportFields =>
    obtain ⟨fields, rfl, _⟩ := bulkImportFields_ok performed
    exact withinTenants_fields within fields
  | activateDataset =>
    obtain ⟨_, found, _, _, _, rfl⟩ := activateDataset_ok performed
    exact withinTenants_updateStatus within found
  | deactivateDataset =>
    obtain ⟨_, found, rfl⟩ := deactivateDataset_ok performed
    exact withinTenants_updateStatus within found
  | reactivateDataset =>
    obtain ⟨_, found, _, _, rfl⟩ := reactivateDataset_ok performed
    exact withinTenants_updateStatus within found
  | archiveDataset =>
    obtain ⟨_, found, rfl⟩ := archiveDataset_ok performed
    exact withinTenants_updateStatus within found
  | createSource =>
    exact withinTenants_of_rewrites within (rewrites_createSource performed).owner
  | updateSource =>
    exact withinTenants_of_rewrites within (rewrites_updateSource performed).owner
  | archiveSource =>
    obtain ⟨_, middle, set, rfl⟩ := archiveSource_ok performed
    exact withinTenants_of_rewrites (withinTenants_of_rewrites within (rewrites_setSourceStatus set))
      rewrites_emitAudit.owner
  | restoreSource =>
    obtain ⟨middle, set, rfl⟩ := restoreSource_ok performed
    exact withinTenants_of_rewrites (withinTenants_of_rewrites within (rewrites_setSourceStatus set))
      rewrites_emitAudit.owner

end Steps

private theorem withinTenants_empty (workspaces : Rows Uuid Uuid) :
    (Catalog.empty workspaces).WithinTenants := by
  constructor
  · intro _ _ _ found
    cases found
  · intro _ _ _ found
    cases found

/-- From an empty store, calls that keep to their own leave every assignment and every dataset within
its tenant. -/
theorem connections_stay_within_tenants (settings : SourceSettings Uuid)
    {workspaces : Rows Uuid Uuid} {schedule : List (Call Uuid)} {reached : Catalog Uuid}
    (own : RunMeets (step settings) (fun catalog call => call.KeepsToOwn catalog)
      (Catalog.empty workspaces) schedule)
    (ran : run (step settings) (Catalog.empty workspaces) schedule = some reached) :
    reached.WithinTenants := by
  refine run_preserves (fun catalog call next within own stepped => ?_)
    (withinTenants_empty workspaces) own ran
  rcases step_cases settings stepped with performed | rfl
  · exact withinTenants_perform within own performed
  · exact within

/-! A connection 5 of tenant 1. -/

private def demoConnection (workspaceIds : List Nat) : Call Nat :=
  .createConnection 1 ⟨"exports", "csv", "direct", "staging", none, none, workspaceIds⟩ 3 5 6 0

/-- The owner creates a connection for its workspace. -/
theorem own_workspace_assigned :
    ∃ reached, run (step demoSettings) (Catalog.empty demoWorkspaces) [demoConnection [10]] =
        some reached ∧ (reached.assignments.lookup (5, 10)).isSome = true ∧
      reached.WithinTenants := by
  have own : RunMeets (step demoSettings) (fun catalog call => call.KeepsToOwn catalog)
      (Catalog.empty demoWorkspaces) [demoConnection [10]] := ⟨trivial, fun _ _ => trivial⟩
  exact ⟨_, rfl, by decide +kernel, connections_stay_within_tenants demoSettings own rfl⟩

/-- The administrator of tenant 2 assigns the connection of tenant 1 to its own workspace. -/
theorem foreign_connection_assigned :
    ∃ reached, run (step demoSettings) (Catalog.empty demoWorkspaces)
        [demoConnection [10], .replaceAssignments 2 5 [20] 4 1] = some reached ∧
      ¬reached.WithinTenants := by
  refine ⟨_, rfl, fun within => ?_⟩
  obtain ⟨source, found, tenant⟩ := within.assigned 5 20 ⟨1, 4⟩ (by rfl)
  have owner : (Option.map (·.tenantId) (some source)) = some 1 := by
    rw [← found]
    decide +kernel
  rw [show source.tenantId = 1 from Option.some.inj owner] at tenant
  revert tenant
  decide +kernel

end CogniDQ.Sources
