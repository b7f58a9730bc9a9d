import CogniDQ.Sources.DataSources
import Mathlib.Tactic.SplitIfs

/-!
# Effects

What each operation that succeeds has checked, and which rows it has written.
-/

set_option autoImplicit false

namespace CogniDQ.Sources

open CogniDQ.Database CogniDQ.Python CogniDQ.Workspaces

variable {Uuid : Type} [DecidableEq Uuid] {settings : SourceSettings Uuid}
  {catalog next : Catalog Uuid} {now : Int}

section Statements

variable {dataSourceId credentialId : Uuid} {row : DataSource Uuid}

theorem writeSource_ok (written : catalog.writeSource settings dataSourceId row = .ok next) :
    ∃ sourceName description, storeVarchar 100 row.sourceName = .ok sourceName ∧
      storeOptionalVarchar 500 row.description = .ok description ∧
      next = { catalog with
        dataSources := catalog.dataSources.insert dataSourceId
          { row with sourceName, description } } := by
  unfold Catalog.writeSource at written
  obtain ⟨sourceName, named, written⟩ := bind_eq_ok written
  obtain ⟨description, described, written⟩ := bind_eq_ok written
  obtain ⟨_, _, written⟩ := bind_eq_ok written
  obtain ⟨_, _, written⟩ := bind_eq_ok written
  obtain ⟨_, _, written⟩ := bind_eq_ok written
  obtain ⟨_, _, written⟩ := bind_eq_ok written
  obtain ⟨_, _, written⟩ := bind_eq_ok written
  exact ⟨sourceName, description, named, described, (Except.ok.inj written).symm⟩

theorem insertSource_ok (inserted : catalog.insertSource settings dataSourceId row = .ok next) :
    catalog.dataSources.lookup dataSourceId = none ∧
      catalog.writeSource settings dataSourceId row = .ok next := by
  unfold Catalog.insertSource at inserted
  split_ifs at inserted with present
  · cases inserted
  · exact ⟨Option.not_isSome_iff_eq_none.mp present, inserted⟩

theorem insertCredential_ok {credential : Credential Uuid}
    (inserted : catalog.insertCredential credentialId credential = .ok next) :
    catalog.credentials.lookup credentialId = none ∧
      next = { catalog with
        credentials := catalog.credentials.insert credentialId credential } := by
  unfold Catalog.insertCredential at inserted
  split_ifs at inserted with present missing
  · cases inserted
  · cases inserted
  · exact ⟨Option.not_isSome_iff_eq_none.mp present, (Except.ok.inj inserted).symm⟩

omit [DecidableEq Uuid] in
theorem encryptCredentials_ok {credentials : Dict} {payload : String}
    (encrypted : encryptCredentials settings credentials = .ok payload) :
    settings.encrypt credentials = some payload := by
  unfold encryptCredentials at encrypted
  split at encrypted
  · rename_i found
    exact found.trans (congrArg some (Except.ok.inj encrypted))
  · cases encrypted

theorem uncaught_ok {α : Type} {outcome : Except Exn α} {value : α}
    (caught : uncaught outcome = .ok value) : outcome = .ok value := by
  unfold uncaught at caught
  split at caught
  · exact congrArg Except.ok (Except.ok.inj caught)
  · cases caught

omit [DecidableEq Uuid] in
theorem duplicateName_ok {message : String} {outcome : Except Failure (Catalog Uuid)}
    (succeeded : duplicateName message outcome = .ok next) : outcome = .ok next := by
  unfold duplicateName at succeeded
  split at succeeded
  · cases succeeded
  · exact succeeded

omit [DecidableEq Uuid] in
theorem duplicateSourceName_ok {update : SourceUpdate} {outcome : Except Failure (Catalog Uuid)}
    (succeeded : duplicateSourceName update outcome = .ok next) : outcome = .ok next := by
  unfold duplicateSourceName at succeeded
  split at succeeded
  · cases succeeded
  · exact succeeded

end Statements

section Connections

variable {tenantId connectionId actorId credentialId : Uuid} {workspaceIds : List Uuid}

theorem checkWorkspaces_ok {done : Unit}
    (checked : checkWorkspaces settings catalog tenantId workspaceIds = .ok done) :
    ∀ workspaceId ∈ workspaceIds, catalog.workspaces.lookup workspaceId = some tenantId := by
  induction workspaceIds with
  | nil => exact fun _ listed => nomatch listed
  | cons workspaceId rest ih =>
    unfold checkWorkspaces at checked
    split_ifs at checked with owned
    exact List.forall_mem_cons.mpr ⟨owned, ih checked⟩

private theorem insertAssignments_ok {row : Assignment Uuid}
    (inserted : insertAssignments connectionId row catalog workspaceIds = .ok next) :
    ∃ assignments, next = { catalog with assignments } ∧
      (∀ key, assignments.lookup key =
        if key.1 = connectionId ∧ key.2 ∈ workspaceIds then some row
        else catalog.assignments.lookup key) ∧
      (workspaceIds ≠ [] → (catalog.dataSources.lookup connectionId).isSome) := by
  induction workspaceIds generalizing catalog with
  | nil =>
    cases inserted
    refine ⟨_, rfl, fun key => ?_, fun given => absurd rfl given⟩
    exact (if_neg fun listed => nomatch listed.2).symm
  | cons workspaceId rest ih =>
    unfold insertAssignments at inserted
    split_ifs at inserted with taken missing
    · cases inserted
    · cases inserted
    · obtain ⟨assignments, result, looked, _⟩ := ih inserted
      refine ⟨assignments, result, fun key => ?_, fun _ => ?_⟩
      · rw [looked key]
        by_cases later : key.1 = connectionId ∧ key.2 ∈ rest
        · rw [if_pos later, if_pos ⟨later.1, List.mem_cons_of_mem _ later.2⟩]
        · rw [if_neg later]
          by_cases same : key = (connectionId, workspaceId)
          · subst same
            rw [if_pos ⟨rfl, List.mem_cons_self⟩]
            exact AList.lookup_insert _
          · rw [if_neg]
            · exact AList.lookup_insert_ne same
            · rintro ⟨connection, listed⟩
              rcases List.mem_cons.mp listed with first | further
              · exact same (Prod.ext connection first)
              · exact later ⟨connection, further⟩
      · exact Option.isSome_iff_ne_none.mpr fun absent =>
          missing (Option.isNone_iff_eq_none.mpr absent)

theorem replaceAssignments_ok
    (replaced : replaceAssignments settings catalog tenantId connectionId workspaceIds actorId now =
      .ok next) :
    (∀ workspaceId ∈ workspaceIds, catalog.workspaces.lookup workspaceId = some tenantId) ∧
      ∃ assignments, next = { catalog with assignments } ∧
        (∀ key, assignments.lookup key =
          if key.1 = connectionId then
            if key.2 ∈ workspaceIds then some ⟨now, actorId⟩ else none
          else catalog.assignments.lookup key) ∧
        (workspaceIds ≠ [] → (catalog.dataSources.lookup connectionId).isSome) := by
  unfold replaceAssignments at replaced
  obtain ⟨_, checked, replaced⟩ := bind_eq_ok replaced
  obtain ⟨assignments, rfl, looked, present⟩ := insertAssignments_ok replaced
  refine ⟨checkWorkspaces_ok checked, assignments, rfl, fun key => ?_, present⟩
  rw [looked key]
  by_cases own : key.1 = connectionId
  · by_cases listed : key.2 ∈ workspaceIds
    · rw [if_pos ⟨own, listed⟩, if_pos own, if_pos listed]
    · rw [if_neg fun both => listed both.2, if_pos own, if_neg listed,
        Rows.lookup_keep_of_dropped]
      exact fun _ => by simp [own]
  · rw [if_neg fun both => own both.1, if_neg own, Rows.lookup_keep_of_kept]
    exact fun _ => by simp [own]

theorem createConnection_ok {payload : ConnectionPayload Uuid}
    (created : createConnection settings catalog tenantId payload actorId connectionId credentialId
      now = .ok next) :
    validateCreatePayload settings { payload with credentials := payload.credentials.getD [] } =
        .ok [] ∧
      (∀ workspaceId ∈ payload.workspaceIds,
        catalog.workspaces.lookup workspaceId = some tenantId) ∧
      catalog.dataSources.lookup connectionId = none ∧
      ∃ inserted stored assignments,
        catalog.insertSource settings connectionId (connectionRow tenantId payload actorId now) =
          .ok inserted ∧
        storeCredentials settings inserted payload actorId connectionId credentialId now =
          .ok stored ∧
        next = { stored with assignments } ∧
        (∀ key, assignments.lookup key =
          if key.1 = connectionId ∧ payload.workspaceIds ≠ [] then
            if key.2 ∈ payload.workspaceIds then some ⟨now, actorId⟩ else none
          else stored.assignments.lookup key) := by
  unfold createConnection at created
  obtain ⟨errors, validated, created⟩ := bind_eq_ok created
  obtain ⟨_, accepted, created⟩ := bind_eq_ok created
  obtain ⟨_, checked, created⟩ := bind_eq_ok created
  obtain ⟨inserted, insertion, created⟩ := bind_eq_ok created
  obtain ⟨stored, storing, created⟩ := bind_eq_ok created
  have insertion := duplicateName_ok insertion
  have noErrors : errors = [] := by simpa using rejectIf_ok accepted
  refine ⟨?_, checkWorkspaces_ok checked, (insertSource_ok insertion).1, inserted, stored, ?_⟩
  · rw [← noErrors]
    exact uncaught_ok validated
  · split_ifs at created with unassigned
    · obtain rfl := Except.ok.inj created
      refine ⟨stored.assignments, insertion, storing, rfl, fun key => ?_⟩
      rw [if_neg fun given => given.2 (List.isEmpty_iff.mp unassigned)]
    · obtain ⟨_, assignments, result, looked, _⟩ := replaceAssignments_ok created
      refine ⟨assignments, insertion, storing, result, fun key => ?_⟩
      have given : payload.workspaceIds ≠ [] := fun empty => unassigned (List.isEmpty_iff.mpr empty)
      rw [looked key]
      by_cases own : key.1 = connectionId
      · simp only [own, given, true_and, if_true, ne_eq, not_false_eq_true]
      · simp only [own, false_and, if_false]

theorem updateConnection_ok {patch : ConnectionPatch}
    (updated : updateConnection settings catalog tenantId connectionId patch actorId now =
      .ok next) :
    next = catalog ∨ ∃ existing row,
      catalog.dataSources.lookup connectionId = some existing ∧ existing.tenantId = tenantId ∧
        patch.apply existing actorId now = some row ∧
        catalog.writeSource settings connectionId row = .ok next := by
  unfold updateConnection at updated
  obtain ⟨_, _, updated⟩ := bind_eq_ok updated
  obtain ⟨_, _, updated⟩ := bind_eq_ok updated
  split at updated
  · cases updated
  · rename_i existing found
    obtain ⟨present, own⟩ := Option.filter_eq_some_iff.mp found
    split_ifs at updated with empty
    · exact .inl (Except.ok.inj updated).symm
    · split at updated
      · cases updated
      · rename_i row applied
        exact .inr ⟨existing, row, present, of_decide_eq_true own, applied,
          duplicateName_ok updated⟩

theorem deleteConnection_ok (deleted : deleteConnection catalog tenantId connectionId = .ok next) :
    (∀ datasetId dataset, catalog.datasets.lookup datasetId = some dataset →
        dataset.dataSourceId ≠ some connectionId) ∧
      next = catalog.deleteSource connectionId := by
  unfold deleteConnection at deleted
  split at deleted
  · cases deleted
  · split_ifs at deleted with used
    refine ⟨fun datasetId dataset found uses => used ?_, (Except.ok.inj deleted).symm⟩
    exact List.any_eq_true.mpr ⟨⟨datasetId, dataset⟩, AList.mem_lookup_iff.mp found,
      beq_iff_eq.mpr uses⟩

end Connections

section Datasets

variable {workspaceId tenantId actorId datasetId : Uuid}

theorem verifyDataSource_ok {payload : DatasetPayload Uuid} {done : Unit}
    (verified : verifyDataSource settings catalog payload = .ok done) :
    (payload.dataSourceId = none → payload.datasetType = "file") ∧
      ∀ dataSourceId, payload.dataSourceId = some dataSourceId → ∃ source,
        catalog.dataSources.lookup dataSourceId = some source ∧ source.status = .active := by
  unfold verifyDataSource at verified
  split at verified
  · rename_i absent
    refine ⟨fun _ => by simpa using rejectIf_ok verified, fun dataSourceId given => ?_⟩
    rw [absent] at given
    cases given
  · rename_i dataSourceId given
    refine ⟨fun absent => ?_, fun other same => ?_⟩
    · rw [given] at absent
      cases absent
    · obtain rfl := Option.some.inj (given.symm.trans same)
      unfold verifyDataSourceActive at verified
      split at verified
      · cases verified
      · rename_i source found
        split_ifs at verified with active
        exact ⟨source, found, active⟩

private theorem insertDataset_ok {row : Dataset Uuid}
    (inserted : insertDataset settings catalog datasetId row = .ok next) :
    catalog.datasets.lookup datasetId = none ∧
      next = { catalog with datasets := catalog.datasets.insert datasetId row } := by
  unfold insertDataset at inserted
  split_ifs at inserted with present named identified homeless sourceless
  · cases inserted
  · cases inserted
  · cases inserted
  · exact ⟨Option.not_isSome_iff_eq_none.mp present, (Except.ok.inj inserted).symm⟩

theorem createDataset_ok {payload : DatasetPayload Uuid}
    (created : createDataset settings catalog workspaceId tenantId payload actorId datasetId now =
      .ok next) :
    verifyDataSource settings catalog payload = .ok () ∧
      catalog.datasets.lookup datasetId = none ∧
      next = { catalog with
        datasets := catalog.datasets.insert datasetId
          (datasetRow settings workspaceId tenantId payload actorId now) } := by
  unfold createDataset at created
  obtain ⟨_, _, created⟩ := bind_eq_ok created
  obtain ⟨_, verified, created⟩ := bind_eq_ok created
  exact ⟨verified, insertDataset_ok created⟩

omit settings in
theorem findDataset_ok {row : Dataset Uuid}
    (found : findDataset catalog workspaceId datasetId = .ok row) :
    catalog.datasets.lookup datasetId = some row ∧ row.workspaceId = workspaceId := by
  unfold findDataset at found
  split at found
  · rename_i other looked
    obtain rfl := Except.ok.inj found
    obtain ⟨present, own⟩ := Option.filter_eq_some_iff.mp looked
    exact ⟨present, beq_iff_eq.mp own⟩
  · cases found

private theorem requireNonArchivedDataset_ok {row : Dataset Uuid}
    (required : requireNonArchivedDataset settings catalog workspaceId datasetId = .ok row) :
    catalog.datasets.lookup datasetId = some row ∧ row.workspaceId = workspaceId := by
  unfold requireNonArchivedDataset at required
  obtain ⟨found, looked, required⟩ := bind_eq_ok required
  obtain ⟨_, _, required⟩ := bind_eq_ok required
  obtain rfl := Except.ok.inj required
  exact findDataset_ok looked

/-! ### Fields -/

def Catalog.HasField (catalog : Catalog Uuid) (datasetId : Uuid) : Prop :=
  ∃ fieldId row, catalog.fields.lookup fieldId = some row ∧ row.datasetId = datasetId

omit settings in
theorem hasField_iff : catalog.HasField datasetId ↔ ¬(fieldsOf catalog datasetId).length < 1 := by
  rw [Nat.lt_one_iff, List.length_eq_zero_iff, fieldsOf, List.filter_eq_nil_iff]
  constructor
  · rintro ⟨fieldId, row, found, own⟩ without
    exact without row (List.mem_map.mpr ⟨_, AList.mem_lookup_iff.mp found, rfl⟩)
      (beq_iff_eq.mpr own)
  · intro filled
    push Not at filled
    obtain ⟨row, listed, own⟩ := filled
    obtain ⟨⟨fieldId, same⟩, stored, rfl⟩ := List.mem_map.mp listed
    exact ⟨fieldId, same, AList.mem_lookup_iff.mpr stored, beq_iff_eq.mp own⟩

private theorem insertField_ok {fieldId : Uuid} {row : DatasetField Uuid}
    (inserted : insertField settings catalog fieldId row = .ok next) :
    catalog.fields.lookup fieldId = none ∧
      next = { catalog with fields := catalog.fields.insert fieldId row } := by
  unfold insertField at inserted
  split_ifs at inserted with present named
  · cases inserted
  · exact ⟨Option.not_isSome_iff_eq_none.mp present, (Except.ok.inj inserted).symm⟩

theorem insertFields_ok {ordinal : Nat} {batch : List (Uuid × FieldPayload)}
    (inserted : insertFields settings datasetId catalog ordinal batch = .ok next) :
    ∃ fields, next = { catalog with fields } ∧
      (∀ other, catalog.HasField other → next.HasField other) ∧
      (batch ≠ [] → next.HasField datasetId) := by
  induction batch generalizing catalog ordinal with
  | nil =>
    obtain rfl := Except.ok.inj inserted
    exact ⟨_, rfl, fun _ has => has, fun given => absurd rfl given⟩
  | cons entry rest ih =>
    unfold insertFields at inserted
    obtain ⟨middle, first, inserted⟩ := bind_eq_ok inserted
    obtain ⟨absent, rfl⟩ := insertField_ok first
    obtain ⟨fields, result, kept, _⟩ := ih inserted
    refine ⟨fields, result, fun other has => kept other ?_, fun _ => kept datasetId ?_⟩
    · obtain ⟨fieldId, row, found, own⟩ := has
      refine ⟨fieldId, row, ?_, own⟩
      refine (AList.lookup_insert_ne ?_).trans found
      rintro rfl
      rw [absent] at found
      cases found
    · exact ⟨entry.1, _, AList.lookup_insert _, rfl⟩

theorem addField_ok {payload : FieldPayload} {fieldId : Uuid}
    (added : addField settings catalog workspaceId datasetId payload fieldId = .ok next) :
    ∃ fields, next = { catalog with fields } ∧
      ∀ other, catalog.HasField other → next.HasField other := by
  unfold addField at added
  obtain ⟨_, _, added⟩ := bind_eq_ok added
  obtain ⟨_, _, added⟩ := bind_eq_ok added
  have single : insertFields settings datasetId catalog (maxOrdinal catalog datasetId)
      [(fieldId, payload)] = .ok next := by
    unfold insertFields
    rw [added]
    rfl
  obtain ⟨fields, result, kept, _⟩ := insertFields_ok single
  exact ⟨fields, result, kept⟩

theorem removeField_ok {fieldId : Uuid}
    (removed : removeField settings catalog workspaceId datasetId fieldId = .ok next) :
    (∃ dataset, catalog.datasets.lookup datasetId = some dataset ∧
        dataset.workspaceId = workspaceId) ∧
      ∃ row, catalog.fields.lookup fieldId = some row ∧ row.datasetId = datasetId ∧
        next = { catalog with fields := catalog.fields.erase fieldId } := by
  unfold removeField at removed
  obtain ⟨dataset, required, removed⟩ := bind_eq_ok removed
  obtain ⟨_, present, removed⟩ := bind_eq_ok removed
  obtain ⟨row, found⟩ : ∃ row,
      (catalog.fields.lookup fieldId).filter (·.datasetId == datasetId) = some row := by
    have filled := rejectIf_ok present
    rw [← Option.not_isSome, Bool.not_eq_false', Option.isSome_iff_exists] at filled
    exact filled
  obtain ⟨looked, own⟩ := Option.filter_eq_some_iff.mp found
  exact ⟨⟨dataset, requireNonArchivedDataset_ok required⟩, row, looked, beq_iff_eq.mp own,
    (Except.ok.inj removed).symm⟩

theorem bulkImportFields_ok {mode : String} {batch : List (Uuid × FieldPayload)}
    (imported : bulkImportFields settings catalog workspaceId datasetId mode batch = .ok next) :
    ∃ fields, next = { catalog with fields } ∧
      ∀ other, catalog.HasField other → next.HasField other := by
  unfold bulkImportFields at imported
  obtain ⟨_, _, imported⟩ := bind_eq_ok imported
  obtain ⟨_, accepted, imported⟩ := bind_eq_ok imported
  obtain ⟨_, _, imported⟩ := bind_eq_ok imported
  have given : batch ≠ [] := by
    rintro rfl
    exact absurd (rejectIf_ok accepted) (by simp [validateBulkImportFields])
  split_ifs at imported with replaces
  · obtain ⟨fields, result, kept, filled⟩ := insertFields_ok imported
    refine ⟨fields, result, fun other has => ?_⟩
    by_cases same : other = datasetId
    · exact same ▸ filled given
    · refine kept other ?_
      obtain ⟨fieldId, row, found, own⟩ := has
      refine ⟨fieldId, row, ?_, own⟩
      rw [Rows.lookup_keep, found]
      exact if_pos (by simpa [own] using same)
  · unfold appendFields at imported
    obtain ⟨_, _, imported⟩ := bind_eq_ok imported
    obtain ⟨fields, result, kept, _⟩ := insertFields_ok imported
    exact ⟨fields, result, kept⟩

/-! ### Status transitions -/

theorem activateDataset_ok
    (activated : activateDataset catalog workspaceId datasetId actorId now = .ok next) :
    ∃ row, catalog.datasets.lookup datasetId = some row ∧ row.workspaceId = workspaceId ∧
      row.status = .draft ∧ catalog.HasField datasetId ∧
      next = updateStatus catalog datasetId row .active actorId now := by
  unfold activateDataset at activated
  obtain ⟨row, found, activated⟩ := bind_eq_ok activated
  obtain ⟨_, draft, activated⟩ := bind_eq_ok activated
  obtain ⟨_, counted, activated⟩ := bind_eq_ok activated
  obtain ⟨present, own⟩ := findDataset_ok found
  exact ⟨row, present, own, by simpa using rejectIf_ok draft,
    hasField_iff.mpr (of_decide_eq_false (rejectIf_ok counted)), (Except.ok.inj activated).symm⟩

theorem deactivateDataset_ok
    (deactivated : deactivateDataset catalog workspaceId datasetId actorId now = .ok next) :
    ∃ row, catalog.datasets.lookup datasetId = some row ∧
      next = updateStatus catalog datasetId row .inactive actorId now := by
  unfold deactivateDataset at deactivated
  obtain ⟨row, found, deactivated⟩ := bind_eq_ok deactivated
  obtain ⟨_, _, deactivated⟩ := bind_eq_ok deactivated
  exact ⟨row, (findDataset_ok found).1, (Except.ok.inj deactivated).symm⟩

theorem reactivateDataset_ok
    (reactivated : reactivateDataset catalog workspaceId datasetId actorId now = .ok next) :
    ∃ row, catalog.datasets.lookup datasetId = some row ∧ row.workspaceId = workspaceId ∧
      row.status = .inactive ∧
      next = updateStatus catalog datasetId row .active actorId now := by
  unfold reactivateDataset at reactivated
  obtain ⟨row, found, reactivated⟩ := bind_eq_ok reactivated
  obtain ⟨_, inactive, reactivated⟩ := bind_eq_ok reactivated
  obtain ⟨present, own⟩ := findDataset_ok found
  exact ⟨row, present, own, by simpa using rejectIf_ok inactive,
    (Except.ok.inj reactivated).symm⟩

theorem archiveDataset_ok
    (archived : archiveDataset catalog workspaceId datasetId actorId now = .ok next) :
    ∃ row, catalog.datasets.lookup datasetId = some row ∧
      next = updateStatus catalog datasetId row .archived actorId now := by
  unfold archiveDataset at archived
  obtain ⟨row, found, archived⟩ := bind_eq_ok archived
  obtain ⟨_, _, archived⟩ := bind_eq_ok archived
  exact ⟨row, (findDataset_ok found).1, (Except.ok.inj archived).symm⟩

end Datasets

section Updates

variable {request : SourceRequest Uuid} {dataSourceId credentialId : Uuid} {update : SourceUpdate}
  {current : DataSource Uuid}

theorem findSource_ok {workspaceId : Uuid}
    (found : findSource settings catalog workspaceId dataSourceId = .ok current) :
    catalog.dataSources.lookup dataSourceId = some current ∧
      catalog.visible workspaceId dataSourceId current = true := by
  unfold findSource at found
  split at found
  · cases found
  · rename_i row looked
    split_ifs at found
    obtain rfl := Except.ok.inj found
    exact Option.filter_eq_some_iff.mp looked

theorem updateSource_ok
    (updated : updateSource settings catalog request dataSourceId update credentialId now =
      .ok next) :
    ∃ current written, catalog.dataSources.lookup dataSourceId = some current ∧
      catalog.visible request.workspaceId dataSourceId current = true ∧
      writeUpdate settings catalog request dataSourceId current update credentialId now =
        .ok written ∧
      next = emitAudit written request request.tenantId dataSourceId "data_source.updated"
        update.changedFields now := by
  unfold updateSource at updated
  obtain ⟨_, _, updated⟩ := bind_eq_ok updated
  obtain ⟨_, _, updated⟩ := bind_eq_ok updated
  obtain ⟨current, found, updated⟩ := bind_eq_ok updated
  obtain ⟨written, writing, updated⟩ := bind_eq_ok updated
  obtain ⟨present, visible⟩ := findSource_ok found
  exact ⟨current, written, present, visible, duplicateSourceName_ok writing,
    (Except.ok.inj updated).symm⟩

theorem writeMetadata_ok
    (written : writeMetadata settings catalog request dataSourceId update now = .ok next) :
    (next = catalog ∧ ¬(update.metadata = true ∧ ∃ row,
        catalog.dataSources.lookup dataSourceId = some row ∧
          row.workspaceId = some request.workspaceId)) ∨
      ∃ row sourceName description, update.metadata = true ∧
        catalog.dataSources.lookup dataSourceId = some row ∧
        row.workspaceId = some request.workspaceId ∧
        storeVarchar 100 (update.sourceName.getD row.sourceName) = .ok sourceName ∧
        storeOptionalVarchar 500 (update.description.or row.description) = .ok description ∧
        next = { catalog with
          dataSources := catalog.dataSources.insert dataSourceId
            { row with
              sourceName
              environment := update.environment.getD row.environment
              description
              updatedAt := now
              updatedBy := some request.actorId } } := by
  unfold writeMetadata at written
  split_ifs at written with provided
  · unfold updateMetadata at written
    split at written
    · rename_i unowned
      refine .inl ⟨(Except.ok.inj written).symm, ?_⟩
      rintro ⟨_, row, found, own⟩
      rw [found] at unowned
      exact absurd (Option.filter_eq_none_iff.mp unowned row rfl) (by simp [own])
    · rename_i row owned
      obtain ⟨found, own⟩ := Option.filter_eq_some_iff.mp owned
      obtain ⟨sourceName, description, named, described, rfl⟩ := writeSource_ok written
      exact .inr ⟨row, sourceName, description, provided, found, beq_iff_eq.mp own, named,
        described, rfl⟩
  · exact .inl ⟨(Except.ok.inj written).symm, fun both => provided both.1⟩

theorem rotateCredentials_ok {credentials : Dict}
    (rotated : rotateCredentials settings catalog request dataSourceId current credentials
      credentialId now = .ok next) :
    ∃ encrypted inserted, settings.encrypt credentials = some encrypted ∧
      catalog.credentials.lookup credentialId = none ∧
      inserted = { catalog with
        credentials := catalog.credentials.insert credentialId
          ⟨dataSourceId, current.sourceType, encrypted, now, request.actorId, none⟩ } ∧
      next = current.credentialReference.elim
        (updateCredentialReference inserted request.workspaceId dataSourceId credentialId
          request.actorId now)
        fun superseded => (updateCredentialReference inserted request.workspaceId dataSourceId
          credentialId request.actorId now).supersede superseded now := by
  unfold rotateCredentials at rotated
  obtain ⟨encrypted, encryption, rotated⟩ := bind_eq_ok rotated
  obtain ⟨inserted, insertion, rotated⟩ := bind_eq_ok rotated
  obtain ⟨absent, insertion⟩ := insertCredential_ok insertion
  exact ⟨encrypted, inserted, encryptCredentials_ok encryption, absent, insertion,
    (Except.ok.inj rotated).symm⟩

end Updates

/-! ### What writing data sources leaves alone -/

/-- The tables other than data sources, credentials and the audit log are as before, and each data
source is still there, rewritten within a relation. -/
structure Rewrites (related : DataSource Uuid → DataSource Uuid → Prop)
    (before after : Catalog Uuid) : Prop where
  workspaces : after.workspaces = before.workspaces
  assignments : after.assignments = before.assignments
  datasets : after.datasets = before.datasets
  fields : after.fields = before.fields
  sources : ∀ dataSourceId row, before.dataSources.lookup dataSourceId = some row →
    ∃ written, after.dataSources.lookup dataSourceId = some written ∧ related row written

def SameOwner (row written : DataSource Uuid) : Prop :=
  written.tenantId = row.tenantId ∧ written.workspaceId = row.workspaceId

def SameState (row written : DataSource Uuid) : Prop :=
  SameOwner row written ∧ written.status = row.status

section Rewriting

variable {middle : Catalog Uuid} {dataSourceId credentialId : Uuid} {row written : DataSource Uuid}

omit [DecidableEq Uuid] in
theorem sameState_refl : SameState row row := ⟨⟨rfl, rfl⟩, rfl⟩

theorem Rewrites.refl : Rewrites SameState catalog catalog :=
  ⟨rfl, rfl, rfl, rfl, fun _ row found => ⟨row, found, sameState_refl⟩⟩

theorem Rewrites.owner (rewrites : Rewrites SameState catalog next) :
    Rewrites SameOwner catalog next :=
  { rewrites with
    sources := fun dataSourceId row found =>
      (rewrites.sources dataSourceId row found).imp fun _ kept => ⟨kept.1, kept.2.1⟩ }

theorem Rewrites.trans (first : Rewrites SameState catalog middle)
    (second : Rewrites SameState middle next) : Rewrites SameState catalog next where
  workspaces := second.workspaces.trans first.workspaces
  assignments := second.assignments.trans first.assignments
  datasets := second.datasets.trans first.datasets
  fields := second.fields.trans first.fields
  sources dataSourceId row found := by
    obtain ⟨between, reached, ⟨tenant, workspace⟩, status⟩ := first.sources dataSourceId row found
    obtain ⟨last, kept, ⟨tenant', workspace'⟩, status'⟩ :=
      second.sources dataSourceId between reached
    exact ⟨last, kept, ⟨tenant'.trans tenant, workspace'.trans workspace⟩, status'.trans status⟩

theorem rewrites_insert {related : DataSource Uuid → DataSource Uuid → Prop}
    (reflexive : ∀ row, related row row)
    (replaced : ∀ row, catalog.dataSources.lookup dataSourceId = some row → related row written) :
    Rewrites related catalog
      { catalog with dataSources := catalog.dataSources.insert dataSourceId written } where
  workspaces := rfl
  assignments := rfl
  datasets := rfl
  fields := rfl
  sources other row found := by
    by_cases same : other = dataSourceId
    · subst same
      exact ⟨written, AList.lookup_insert _, replaced row found⟩
    · exact ⟨row, (AList.lookup_insert_ne same).trans found, reflexive row⟩

theorem rewrites_insertSource
    (inserted : catalog.insertSource settings dataSourceId row = .ok next) :
    Rewrites SameState catalog next := by
  obtain ⟨absent, writing⟩ := insertSource_ok inserted
  obtain ⟨sourceName, description, _, _, rfl⟩ := writeSource_ok writing
  refine rewrites_insert (fun _ => sameState_refl) fun other found => ?_
  rw [absent] at found
  cases found

theorem rewrites_insertCredential {credential : Credential Uuid}
    (inserted : catalog.insertCredential credentialId credential = .ok next) :
    Rewrites SameState catalog next := by
  obtain ⟨_, rfl⟩ := insertCredential_ok inserted
  exact ⟨rfl, rfl, rfl, rfl, fun _ row found => ⟨row, found, sameState_refl⟩⟩

theorem rewrites_supersede : Rewrites SameState catalog (catalog.supersede credentialId now) := by
  unfold Catalog.supersede
  split
  · split_ifs
    · exact ⟨rfl, rfl, rfl, rfl, fun _ row found => ⟨row, found, sameState_refl⟩⟩
    · exact .refl
  · exact .refl

private theorem rewrites_setCredentialReference {actorId : Uuid} :
    Rewrites SameState catalog
      (setCredentialReference catalog dataSourceId credentialId actorId now) := by
  unfold setCredentialReference
  split
  · exact .refl
  · rename_i row found
    refine rewrites_insert (fun _ => sameState_refl) fun other same => ?_
    obtain rfl := Option.some.inj (found.symm.trans same)
    exact sameState_refl

theorem rewrites_updateCredentialReference {workspaceId actorId : Uuid} :
    Rewrites SameState catalog
      (updateCredentialReference catalog workspaceId dataSourceId credentialId actorId now) := by
  unfold updateCredentialReference
  split
  · exact .refl
  · rename_i row found
    refine rewrites_insert (fun _ => sameState_refl) fun other same => ?_
    obtain rfl := Option.some.inj ((Option.filter_eq_some_iff.mp found).1.symm.trans same)
    exact sameState_refl

theorem rewrites_emitAudit {request : SourceRequest Uuid} {tenantId : Uuid} {actionType : String}
    {newData : List (String × String)} :
    Rewrites SameState catalog
      (emitAudit catalog request tenantId dataSourceId actionType newData now) :=
  ⟨rfl, rfl, rfl, rfl, fun _ row found => ⟨row, found, sameState_refl⟩⟩

theorem rewrites_storeCredentials {payload : ConnectionPayload Uuid} {actorId : Uuid}
    (storing : storeCredentials settings catalog payload actorId dataSourceId credentialId now =
      .ok next) : Rewrites SameState catalog next := by
  unfold storeCredentials at storing
  split at storing
  · obtain rfl := Except.ok.inj storing
    exact .refl
  · obtain ⟨_, _, storing⟩ := bind_eq_ok storing
    obtain ⟨inserted, insertion, storing⟩ := bind_eq_ok storing
    obtain rfl := Except.ok.inj storing
    exact (rewrites_insertCredential insertion).trans rewrites_setCredentialReference

theorem rewrites_createSource {request : SourceRequest Uuid} {payload : SourcePayload}
    (created : createSource settings catalog request payload dataSourceId credentialId now =
      .ok next) : Rewrites SameState catalog next := by
  unfold createSource at created
  obtain ⟨_, _, created⟩ := bind_eq_ok created
  obtain ⟨_, _, created⟩ := bind_eq_ok created
  obtain ⟨_, _, created⟩ := bind_eq_ok created
  obtain ⟨inserted, insertion, created⟩ := bind_eq_ok created
  obtain ⟨_, _, created⟩ := bind_eq_ok created
  obtain ⟨stored, storing, created⟩ := bind_eq_ok created
  obtain rfl := Except.ok.inj created
  exact (((rewrites_insertSource insertion).trans (rewrites_insertCredential storing)).trans
    rewrites_updateCredentialReference).trans rewrites_emitAudit

private theorem rewrites_updateMetadata {workspaceId actorId : Uuid} {update : SourceUpdate}
    (updated : updateMetadata settings catalog workspaceId dataSourceId actorId update now =
      .ok next) : Rewrites SameState catalog next := by
  unfold updateMetadata at updated
  split at updated
  · obtain rfl := Except.ok.inj updated
    exact .refl
  · rename_i row found
    obtain ⟨sourceName, description, _, _, rfl⟩ := writeSource_ok updated
    refine rewrites_insert (fun _ => sameState_refl) fun other same => ?_
    obtain rfl := Option.some.inj ((Option.filter_eq_some_iff.mp found).1.symm.trans same)
    exact sameState_refl

private theorem rewrites_rotateCredentials {request : SourceRequest Uuid} {credentials : Dict}
    (rotated : rotateCredentials settings catalog request dataSourceId row credentials credentialId
      now = .ok next) : Rewrites SameState catalog next := by
  obtain ⟨encrypted, inserted, _, _, insertion, result⟩ := rotateCredentials_ok rotated
  have stored : Rewrites SameState catalog inserted := by
    subst insertion
    exact ⟨rfl, rfl, rfl, rfl, fun _ row found => ⟨row, found, sameState_refl⟩⟩
  rw [result]
  cases row.credentialReference with
  | none => exact stored.trans rewrites_updateCredentialReference
  | some superseded =>
    exact (stored.trans rewrites_updateCredentialReference).trans rewrites_supersede

theorem rewrites_updateSource {request : SourceRequest Uuid} {update : SourceUpdate}
    (updated : updateSource settings catalog request dataSourceId update credentialId now =
      .ok next) : Rewrites SameState catalog next := by
  obtain ⟨current, written, _, _, writing, rfl⟩ := updateSource_ok updated
  refine Rewrites.trans ?_ rewrites_emitAudit
  unfold writeUpdate at writing
  obtain ⟨middle, first, second⟩ := bind_eq_ok writing
  have metadata : Rewrites SameState catalog middle := by
    unfold writeMetadata at first
    split_ifs at first
    · exact rewrites_updateMetadata first
    · obtain rfl := Except.ok.inj first
      exact .refl
  refine metadata.trans ?_
  split at second
  · obtain rfl := Except.ok.inj second
    exact .refl
  · exact rewrites_rotateCredentials second

theorem setSourceStatus_ok {workspaceId actorId : Uuid} {status : SourceStatus}
    (set : setSourceStatus catalog workspaceId dataSourceId actorId status now = .ok next) :
    ∃ row written, catalog.dataSources.lookup dataSourceId = some row ∧ SameOwner row written ∧
      written.status = status ∧
      next = { catalog with dataSources := catalog.dataSources.insert dataSourceId written } := by
  unfold setSourceStatus at set
  split at set
  · cases set
  · rename_i row found
    refine ⟨row, _, (Option.filter_eq_some_iff.mp found).1, ?_, ?_, (Except.ok.inj set).symm⟩
    · exact ⟨rfl, rfl⟩
    · rfl

theorem archiveSource_ok {request : SourceRequest Uuid}
    (archived : archiveSource settings catalog request dataSourceId now = .ok next) :
    (∀ datasetId dataset, catalog.datasets.lookup datasetId = some dataset →
        dataset.dataSourceId = some dataSourceId → dataset.status ≠ .active) ∧
      ∃ middle, setSourceStatus catalog request.workspaceId dataSourceId request.actorId .archived
          now = .ok middle ∧
        next = emitAudit middle request request.tenantId dataSourceId "data_source_archived"
          [("status", "archived")] now := by
  unfold archiveSource at archived
  obtain ⟨_, _, archived⟩ := bind_eq_ok archived
  obtain ⟨_, _, archived⟩ := bind_eq_ok archived
  obtain ⟨_, _, archived⟩ := bind_eq_ok archived
  obtain ⟨_, counted, archived⟩ := bind_eq_ok archived
  obtain ⟨middle, set, archived⟩ := bind_eq_ok archived
  refine ⟨fun datasetId dataset found uses active => ?_, middle, set,
    (Except.ok.inj archived).symm⟩
  have nobody := of_decide_eq_false (rejectIf_ok counted)
  rw [Nat.not_lt, Nat.le_zero, List.length_eq_zero_iff, List.filter_eq_nil_iff] at nobody
  exact nobody _ (AList.mem_lookup_iff.mp found) (by simp [uses, active])

theorem restoreSource_ok {request : SourceRequest Uuid}
    (restored : restoreSource settings catalog request dataSourceId now = .ok next) :
    ∃ middle, setSourceStatus catalog request.workspaceId dataSourceId request.actorId .active
        now = .ok middle ∧
      next = emitAudit middle request request.tenantId dataSourceId "data_source_restored"
        [("status", "active")] now := by
  unfold restoreSource at restored
  obtain ⟨_, _, restored⟩ := bind_eq_ok restored
  obtain ⟨_, _, restored⟩ := bind_eq_ok restored
  obtain ⟨_, _, restored⟩ := bind_eq_ok restored
  obtain ⟨middle, set, restored⟩ := bind_eq_ok restored
  exact ⟨middle, set, (Except.ok.inj restored).symm⟩

end Rewriting

end CogniDQ.Sources
