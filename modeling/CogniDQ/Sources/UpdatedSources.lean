import CogniDQ.Sources.AcceptedSources

/-!
# Updated data sources

An update that returns has replaced what it was given and no more, and says so in the audit log,
where the workspace owns the source.
-/

set_option autoImplicit false

namespace CogniDQ.Sources

open CogniDQ.Database CogniDQ.Python CogniDQ.Workspaces

theorem storeVarchar_whole_iff {limit : Nat} {text kept : String}
    (storing : storeVarchar limit text = .ok kept) : kept = text ↔ text.toList.length ≤ limit := by
  obtain ⟨rfl, _⟩ := storeVarchar_ok storing
  constructor
  · intro whole
    rw [← whole, String.toList_ofList, List.length_take]
    exact Nat.min_le_left _ _
  · intro fits
    rw [List.take_of_length_le fits, String.ofList_toList]

private theorem storeOptionalVarchar_whole_iff {limit : Nat} {text kept : Option String}
    (storing : storeOptionalVarchar limit text = .ok kept) :
    kept = text ↔ ∀ given ∈ text, given.toList.length ≤ limit := by
  cases text with
  | none =>
    obtain rfl := Except.ok.inj storing
    constructor
    · rintro _ _ ⟨⟩
    · exact fun _ => rfl
  | some text =>
    change (storeVarchar limit text).map some = .ok kept at storing
    cases stored : storeVarchar limit text with
    | error failure =>
      rw [stored] at storing
      cases storing
    | ok short =>
      rw [stored] at storing
      obtain rfl := Except.ok.inj storing
      rw [Option.some.injEq, storeVarchar_whole_iff stored]
      constructor
      · rintro fits _ ⟨⟩
        exact fits
      · exact fun fits => fits text rfl

variable {Uuid : Type}

def SourceUpdate.described (update : SourceUpdate) (row : DataSource Uuid) : DataSource Uuid :=
  { row with
    sourceName := update.sourceName.getD row.sourceName
    environment := update.environment.getD row.environment
    description := update.description.or row.description }

/-- The row that refers to other credentials, which nobody has tested. -/
def DataSource.referring (row : DataSource Uuid) (credentialId : Uuid) : DataSource Uuid :=
  { row with
    credentialReference := some credentialId
    lastTestStatus := .untested
    lastTestedAt := none }

def SourceUpdate.applied (update : SourceUpdate) (row : DataSource Uuid) (credentialId : Uuid) :
    DataSource Uuid :=
  match update.credentials with
  | none => update.described row
  | some _ => (update.described row).referring credentialId

def DataSource.stamped (row : DataSource Uuid) (updatedAt : Int) (updatedBy : Option Uuid) :
    DataSource Uuid :=
  { row with updatedAt, updatedBy }

def SourceUpdate.difference (update : SourceUpdate) (stored : DataSource Uuid) :
    List (String × String) :=
  (update.sourceName.toList.map fun _ => ("source_name", stored.sourceName)) ++
    (update.environment.toList.map fun _ => ("environment", stored.environment)) ++
    (update.description.toList.flatMap fun _ =>
      stored.description.toList.map (("description", ·)))

variable [DecidableEq Uuid]

/-- The update has been applied to one row, which is stamped if it changed; new credentials are the
provided ones, and the audit log has one more entry, for what the stored row now says. -/
structure Applied (settings : SourceSettings Uuid) (catalog next : Catalog Uuid)
    (request : SourceRequest Uuid) (dataSourceId : Uuid) (update : SourceUpdate)
    (credentialId : Uuid) (now : Int) (row stored : DataSource Uuid) : Prop where
  held : next.dataSources.lookup dataSourceId = some stored
  replaced : stored.stamped row.updatedAt row.updatedBy = update.applied row credentialId
  stamp : stored.stamped now (some request.actorId) = stored ∨ stored = row
  others : ∀ other, other ≠ dataSourceId →
    next.dataSources.lookup other = catalog.dataSources.lookup other
  kept : update.credentials = none → next.credentials = catalog.credentials
  rotated : ∀ credentials, update.credentials = some credentials → ∃ credential,
    next.credentials.lookup credentialId = some credential ∧
      credential.dataSourceId = dataSourceId ∧
      settings.encrypt credentials = some credential.encryptedPayload
  audited : next.auditLogs = catalog.auditLogs ++
    [⟨request.tenantId, request.workspaceId, "data_source.updated", request.actorId,
      request.actorRole, dataSourceId, update.difference stored, now⟩]

/-- The metadata lands: in a source of the workspace it fits the columns, and a source of the tenant
says the same already. -/
def SourceUpdate.Lands (update : SourceUpdate) (request : SourceRequest Uuid)
    (row : DataSource Uuid) : Prop :=
  if row.workspaceId = some request.workspaceId then
    update.metadata = true → (update.described row).sourceName.toList.length ≤ 100 ∧
      ∀ description ∈ (update.described row).description, description.toList.length ≤ 500
  else update.described row = row

/-- The row after the metadata: as much of it as landed. -/
structure MetadataWritten (catalog middle : Catalog Uuid) (request : SourceRequest Uuid)
    (dataSourceId : Uuid) (update : SourceUpdate) (now : Int) (row edited : DataSource Uuid) :
    Prop where
  held : middle.dataSources.lookup dataSourceId = some edited
  replaced : edited.stamped row.updatedAt row.updatedBy = update.described row ↔
    update.Lands request row
  rest : ∃ sourceName environment description, edited.stamped row.updatedAt row.updatedBy =
    { row with sourceName, environment, description }
  stamp : edited.stamped now (some request.actorId) = edited ∨ edited = row
  others : ∀ other, other ≠ dataSourceId →
    middle.dataSources.lookup other = catalog.dataSources.lookup other
  credentials : middle.credentials = catalog.credentials
  assignments : middle.assignments = catalog.assignments
  auditLogs : middle.auditLogs = catalog.auditLogs

theorem MetadataWritten.visible {catalog middle : Catalog Uuid} {request : SourceRequest Uuid}
    {dataSourceId : Uuid} {update : SourceUpdate} {now : Int} {row edited : DataSource Uuid}
    (written : MetadataWritten catalog middle request dataSourceId update now row edited)
    (visible : catalog.visible request.workspaceId dataSourceId row = true) :
    middle.visible request.workspaceId dataSourceId edited = true := by
  obtain ⟨_, _, _, rest⟩ := written.rest
  have owner : (edited.stamped row.updatedAt row.updatedBy).workspaceId = row.workspaceId := by
    rw [rest]
  change edited.workspaceId = row.workspaceId at owner
  unfold Catalog.visible at visible ⊢
  rwa [owner, written.assignments]

section Steps

variable {settings : SourceSettings Uuid} {catalog middle next : Catalog Uuid}
  {request : SourceRequest Uuid} {dataSourceId credentialId : Uuid} {update : SourceUpdate}
  {now : Int} {row edited : DataSource Uuid}

omit [DecidableEq Uuid] in
private theorem described_of_no_metadata (given : update.metadata = false) :
    update.described row = row := by
  unfold SourceUpdate.metadata at given
  simp only [Bool.or_eq_false_iff, Option.isSome_eq_false_iff, Option.isNone_iff_eq_none] at given
  obtain ⟨⟨noName, noEnvironment⟩, noDescription⟩ := given
  unfold SourceUpdate.described
  rw [noName, noEnvironment, noDescription]
  rfl

theorem writeMetadata_written (present : catalog.dataSources.lookup dataSourceId = some row)
    (written : writeMetadata settings catalog request dataSourceId update now = .ok middle) :
    ∃ edited, MetadataWritten catalog middle request dataSourceId update now row edited := by
  rcases writeMetadata_ok written with
    ⟨rfl, unlanded⟩ | ⟨owner, sourceName, description, given, found, own, named, described, rfl⟩
  · refine ⟨row, present, ?_, ⟨_, _, _, rfl⟩, .inr rfl, fun _ _ => rfl, rfl, rfl, rfl⟩
    change row = update.described row ↔ _
    unfold SourceUpdate.Lands
    split_ifs with own
    · have none : update.metadata = false := by
        by_contra given
        exact unlanded ⟨Bool.not_eq_false _ ▸ given, row, present, own⟩
      rw [described_of_no_metadata none, none]
      exact ⟨fun _ given => (nomatch given), fun _ => rfl⟩
    · exact eq_comm
  · obtain rfl := Option.some.inj (present.symm.trans found)
    refine ⟨_, AList.lookup_insert _, ?_, ⟨_, _, _, rfl⟩, .inl rfl,
      fun _ apart => AList.lookup_insert_ne apart, rfl, rfl, rfl⟩
    unfold SourceUpdate.Lands
    rw [if_pos own]
    constructor
    · intro replaced _
      exact ⟨(storeVarchar_whole_iff named).mp (congrArg DataSource.sourceName replaced),
        (storeOptionalVarchar_whole_iff described).mp (congrArg DataSource.description replaced)⟩
    · intro fits
      obtain ⟨nameFits, descriptionFits⟩ := fits given
      obtain rfl := (storeVarchar_whole_iff named).mpr nameFits
      obtain rfl := (storeOptionalVarchar_whole_iff described).mpr descriptionFits
      rfl

omit [DecidableEq Uuid] in
private theorem referring_replaced_iff {referred : DataSource Uuid}
    (rest : ∃ sourceName environment description,
      edited = { row with sourceName, environment, description })
    (referring : referred = edited.referring credentialId) :
    referred = (update.described row).referring credentialId ↔ edited = update.described row := by
  obtain ⟨sourceName, environment, description, rfl⟩ := rest
  subst referring
  constructor
  · intro same
    have named : sourceName = _ := congrArg DataSource.sourceName same
    have placed : environment = _ := congrArg DataSource.environment same
    have described : description = _ := congrArg DataSource.description same
    rw [named, placed, described]
    rfl
  · exact fun same => congrArg (·.referring credentialId) same

theorem updateCredentialReference_visible {workspaceId actorId : Uuid}
    (present : catalog.dataSources.lookup dataSourceId = some row)
    (visible : catalog.visible workspaceId dataSourceId row = true) :
    updateCredentialReference catalog workspaceId dataSourceId credentialId actorId now =
      { catalog with
        dataSources := catalog.dataSources.insert dataSourceId
          ((row.referring credentialId).stamped now (some actorId)) } := by
  have found : (catalog.dataSources.lookup dataSourceId).filter
      (catalog.visible workspaceId dataSourceId) = some row :=
    Option.filter_eq_some_iff.mpr ⟨present, visible⟩
  unfold updateCredentialReference
  rw [found]
  rfl

theorem supersede_auditLogs : (catalog.supersede credentialId now).auditLogs = catalog.auditLogs := by
  unfold Catalog.supersede
  split
  · split_ifs <;> rfl
  · rfl

private theorem rotateCredentials_written {current : DataSource Uuid} {credentials : Dict}
    (present : catalog.dataSources.lookup dataSourceId = some row)
    (visible : catalog.visible request.workspaceId dataSourceId row = true)
    (rotated : rotateCredentials settings catalog request dataSourceId current credentials
      credentialId now = .ok next) :
    next.dataSources = catalog.dataSources.insert dataSourceId
        ((row.referring credentialId).stamped now (some request.actorId)) ∧
      next.auditLogs = catalog.auditLogs ∧ ∃ credential,
        next.credentials.lookup credentialId = some credential ∧
          credential.dataSourceId = dataSourceId ∧
          settings.encrypt credentials = some credential.encryptedPayload := by
  obtain ⟨encrypted, inserted, encryption, _, stored, rfl⟩ := rotateCredentials_ok rotated
  have referred : updateCredentialReference inserted request.workspaceId dataSourceId credentialId
      request.actorId now =
      { inserted with
        dataSources := inserted.dataSources.insert dataSourceId
          ((row.referring credentialId).stamped now (some request.actorId)) } := by
    refine updateCredentialReference_visible ?_ ?_
    · rw [stored]
      exact present
    · rw [stored]
      exact visible
  have held : (updateCredentialReference inserted request.workspaceId dataSourceId credentialId
      request.actorId now).credentials.lookup credentialId =
      some ⟨dataSourceId, current.sourceType, encrypted, now, request.actorId, none⟩ := by
    rw [referred, stored]
    exact AList.lookup_insert _
  cases current.credentialReference with
  | none =>
    refine ⟨?_, ?_, _, held, rfl, encryption⟩
    · rw [Option.elim_none, referred, stored]
    · rw [Option.elim_none, referred, stored]
  | some superseded =>
    obtain ⟨credential, kept, own, payload⟩ := keepsCredentials_supersede credentialId _ held
    refine ⟨?_, ?_, credential, kept, own, payload ▸ encryption⟩
    · rw [Option.elim_some, supersede_dataSources, referred, stored]
    · rw [Option.elim_some, supersede_auditLogs, referred, stored]

omit [DecidableEq Uuid] in
private theorem changedFields_eq_difference {stored : DataSource Uuid}
    (replaced : stored.stamped row.updatedAt row.updatedBy = update.applied row credentialId) :
    update.changedFields = update.difference stored := by
  have named : stored.sourceName = (update.described row).sourceName := by
    refine (congrArg DataSource.sourceName replaced).trans ?_
    unfold SourceUpdate.applied
    split <;> rfl
  have placed : stored.environment = (update.described row).environment := by
    refine (congrArg DataSource.environment replaced).trans ?_
    unfold SourceUpdate.applied
    split <;> rfl
  have described : stored.description = (update.described row).description := by
    refine (congrArg DataSource.description replaced).trans ?_
    unfold SourceUpdate.applied
    split <;> rfl
  unfold SourceUpdate.changedFields SourceUpdate.difference
  rw [named, placed, described]
  unfold SourceUpdate.described
  cases update.sourceName <;> cases update.environment <;> cases update.description <;> rfl

omit [DecidableEq Uuid] in
private theorem emitAudit_difference {stored : DataSource Uuid}
    (logs : middle.auditLogs = catalog.auditLogs)
    (replaced : stored.stamped row.updatedAt row.updatedBy = update.applied row credentialId) :
    (emitAudit middle request request.tenantId dataSourceId "data_source.updated"
      update.changedFields now).auditLogs = catalog.auditLogs ++
        [⟨request.tenantId, request.workspaceId, "data_source.updated", request.actorId,
          request.actorRole, dataSourceId, update.difference stored, now⟩] := by
  unfold emitAudit
  rw [changedFields_eq_difference replaced]
  dsimp only
  rw [logs]

theorem updateSource_applied_iff (present : catalog.dataSources.lookup dataSourceId = some row)
    (updated : updateSource settings catalog request dataSourceId update credentialId now =
      .ok next) :
    (∃ stored, Applied settings catalog next request dataSourceId update credentialId now row
      stored) ↔ update.Lands request row := by
  obtain ⟨current, final, found, visible, writing, rfl⟩ := updateSource_ok updated
  obtain rfl := Option.some.inj (present.symm.trans found)
  unfold writeUpdate at writing
  obtain ⟨middle, first, second⟩ := bind_eq_ok writing
  obtain ⟨edited, written⟩ := writeMetadata_written present first
  rw [← written.replaced]
  split at second
  · rename_i absent
    obtain rfl := Except.ok.inj second
    have applies : update.applied row credentialId = update.described row := by
      unfold SourceUpdate.applied
      rw [absent]
    constructor
    · rintro ⟨stored, applied⟩
      obtain rfl := Option.some.inj (written.held.symm.trans applied.held)
      exact applied.replaced.trans applies
    · intro replaced
      have replaced := replaced.trans applies.symm
      refine ⟨edited, written.held, replaced, written.stamp, written.others,
        fun _ => written.credentials, fun _ provided => ?_, ?_⟩
      · rw [absent] at provided
        cases provided
      · exact emitAudit_difference written.auditLogs replaced
  · rename_i credentials provided
    obtain ⟨sources, logs, credential, held, own, encryption⟩ :=
      rotateCredentials_written written.held (written.visible visible) second
    have applies : update.applied row credentialId =
        (update.described row).referring credentialId := by
      unfold SourceUpdate.applied
      rw [provided]
    have holds : final.dataSources.lookup dataSourceId =
        some ((edited.referring credentialId).stamped now (some request.actorId)) := by
      rw [sources]
      exact AList.lookup_insert _
    have referring : (edited.stamped row.updatedAt row.updatedBy).referring credentialId =
        (update.described row).referring credentialId ↔
          edited.stamped row.updatedAt row.updatedBy = update.described row :=
      referring_replaced_iff written.rest rfl
    constructor
    · rintro ⟨stored, applied⟩
      obtain rfl := Option.some.inj (holds.symm.trans applied.held)
      exact referring.mp (applied.replaced.trans applies)
    · intro replaced
      have replaced : ((edited.referring credentialId).stamped now
          (some request.actorId)).stamped row.updatedAt row.updatedBy =
          update.applied row credentialId := (referring.mpr replaced).trans applies.symm
      refine ⟨_, holds, replaced, .inl rfl, fun other apart => ?_, fun absent => ?_,
        fun given same => ?_, emitAudit_difference (logs.trans written.auditLogs) replaced⟩
      · refine Eq.trans ?_ (written.others other apart)
        change final.dataSources.lookup other = _
        rw [sources]
        exact AList.lookup_insert_ne apart
      · rw [provided] at absent
        cases absent
      · obtain rfl := Option.some.inj (provided.symm.trans same)
        exact ⟨credential, held, own, encryption⟩

end Steps

/-! A data source 5 of workspace 10, or a connection 5 of its tenant assigned to it, and a rename. -/

private def demoRow (workspaceId : Option Nat) : DataSource Nat :=
  { sourceRow ⟨10, 1, 3, "workspace_administrator"⟩ 1
      ⟨"exports", "csv", "direct", "staging", none, []⟩ 0 with
    workspaceId }

private def demoCatalog (workspaceId : Option Nat) : Catalog Nat :=
  { Catalog.empty demoWorkspaces with
    dataSources := AList.insert 5 (demoRow workspaceId) ∅
    assignments := AList.insert (5, 10) ⟨0, 3⟩ ∅ }

private def renameSource (catalog : Catalog Nat) : Except Failure (Catalog Nat) :=
  updateSource demoSettings catalog ⟨10, 1, 3, "workspace_administrator"⟩ 5
    ⟨some "archive", none, none, none, none, none⟩ 7 1

end CogniDQ.Sources
