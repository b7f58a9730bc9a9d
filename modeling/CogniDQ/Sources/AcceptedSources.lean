import CogniDQ.Protocol.Runs
import CogniDQ.Sources.Effects
import Mathlib.Data.List.TakeWhile

/-!
# Accepted data sources

The fields and the current credentials of every direct source pass the checks of creation, as long as
what an update leaves behind would pass them too.
-/

set_option autoImplicit false

namespace CogniDQ.Sources

open CogniDQ.Database CogniDQ.Protocol CogniDQ.Python CogniDQ.Workspaces

/-! ### Validation -/

section Validation

variable {Uuid : Type} {settings : SourceSettings Uuid} {payload : SourcePayload}

structure SourcePayload.FieldsAccepted (settings : SourceSettings Uuid) (payload : SourcePayload) :
    Prop where
  sourceName : validateSourceName settings payload.sourceName = []
  sourceType : validateSourceType payload.sourceType = []
  connectionMode : validateConnectionMode payload.connectionMode = []
  environment : validateEnvironment payload.environment = []
  description : validateSourceDescription payload.description = []

theorem validateCreatePayload_ok_nil_iff :
    validateCreatePayload settings payload = .ok [] ↔
      payload.FieldsAccepted settings ∧
        validateCredentialStructure settings payload.sourceType payload.credentials
          payload.connectionMode = .ok [] := by
  unfold validateCreatePayload
  constructor
  · intro accepted
    dsimp only at accepted
    split_ifs at accepted with known
    · obtain ⟨structural, checked, accepted⟩ := bind_eq_ok accepted
      obtain ⟨fields, noStructural⟩ := List.append_eq_nil_iff.mp (Except.ok.inj accepted)
      simp only [List.append_eq_nil_iff] at fields
      exact ⟨⟨fields.1.1.1.1, fields.1.1.1.2, fields.1.1.2, fields.1.2, fields.2⟩,
        checked.trans (congrArg Except.ok noStructural)⟩
    · refine absurd ?_ known
      rw [show validateSourceName settings payload.sourceName ++
        validateSourceType payload.sourceType ++ validateConnectionMode payload.connectionMode ++
        validateEnvironment payload.environment ++ validateSourceDescription payload.description = []
          from Except.ok.inj accepted]
      rfl
  · rintro ⟨fields, checked⟩
    rw [fields.sourceName, fields.sourceType, fields.connectionMode, fields.environment,
      fields.description, checked]
    rfl

private theorem strip_append_blanks (unicode : Unicode) (text : List Char) {blanks : List Char}
    (blank : ∀ c ∈ blanks, c = ' ') : unicode.strip (text ++ blanks) = unicode.strip text := by
  have spaces : ∀ c ∈ blanks, unicode.isSpace c = true := by
    intro c listed
    rw [blank c listed, unicode.isSpace_ascii ' ' (by decide)]
    decide
  have dropped : blanks.dropWhile unicode.isSpace = [] := List.dropWhile_eq_nil_iff.mpr spaces
  unfold Unicode.strip
  rw [List.dropWhile_append]
  split_ifs with empty
  · rw [dropped, List.isEmpty_iff.mp empty]
  · rw [List.reverse_append, List.dropWhile_append, if_pos]
    rw [List.isEmpty_iff, List.dropWhile_eq_nil_iff]
    exact fun c listed => spaces c (List.mem_reverse.mp listed)

theorem storeVarchar_ok {limit : Nat} {text kept : String}
    (storing : storeVarchar limit text = .ok kept) :
    kept = String.ofList (text.toList.take limit) ∧ ∀ c ∈ text.toList.drop limit, c = ' ' := by
  unfold storeVarchar varchar at storing
  split at storing
  · rename_i stored fits
    split_ifs at fits with blank
    obtain rfl := Except.ok.inj storing
    refine ⟨(Except.ok.inj fits).symm, fun c listed => ?_⟩
    exact beq_iff_eq.mp (List.all_eq_true.mp blank c listed)
  · cases storing

private theorem validateSourceName_stored {text kept : String}
    (storing : storeVarchar 100 text = .ok kept) :
    validateSourceName settings kept = validateSourceName settings text := by
  obtain ⟨rfl, blank⟩ := storeVarchar_ok storing
  have same : settings.runtime.stripStr (String.ofList (text.toList.take 100)) =
      settings.runtime.stripStr text := by
    unfold Runtime.stripStr
    rw [String.toList_ofList]
    conv_rhs => rw [← List.take_append_drop 100 text.toList]
    rw [strip_append_blanks _ _ blank]
  unfold validateSourceName validateStripped
  rw [same]

private theorem validateSourceDescription_stored {description kept : Option String}
    (storing : storeOptionalVarchar 500 description = .ok kept) :
    validateSourceDescription kept = [] := by
  cases description with
  | none =>
    obtain rfl := Except.ok.inj storing
    rfl
  | some text =>
    change (storeVarchar 500 text).map some = .ok kept at storing
    cases whole : storeVarchar 500 text with
    | error failure =>
      rw [whole] at storing
      cases storing
    | ok short =>
      rw [whole] at storing
      obtain rfl := Except.ok.inj storing
      obtain ⟨rfl, _⟩ := storeVarchar_ok whole
      unfold validateSourceDescription validateOptional
      dsimp only
      rw [if_neg]
      rw [String.toList_ofList, List.length_take]
      omega

theorem fieldsAccepted_stored {sourceName : String} {description : Option String}
    (accepted : payload.FieldsAccepted settings)
    (named : storeVarchar 100 payload.sourceName = .ok sourceName)
    (described : storeOptionalVarchar 500 payload.description = .ok description)
    (credentials : Dict) :
    SourcePayload.FieldsAccepted settings
      { payload with sourceName, description, credentials } :=
  ⟨(validateSourceName_stored named).trans accepted.sourceName, accepted.sourceType,
    accepted.connectionMode, accepted.environment,
    validateSourceDescription_stored described⟩

end Validation

/-! ### Current credentials -/

variable {Uuid : Type} [DecidableEq Uuid]

/-- The credentials that a source refers to are its own and decrypt; without a reference there are
none. -/
def Catalog.CurrentCredentials (settings : SourceSettings Uuid) (catalog : Catalog Uuid)
    (dataSourceId : Uuid) (reference : Option Uuid) (credentials : Dict) : Prop :=
  match reference with
  | none => credentials = []
  | some credentialId => ∃ credential, catalog.credentials.lookup credentialId = some credential ∧
    credential.dataSourceId = dataSourceId ∧
    settings.decrypt credential.encryptedPayload = some credentials

def DataSource.payload (row : DataSource Uuid) (credentials : Dict) : SourcePayload :=
  ⟨row.sourceName, row.sourceType, row.connectionMode, row.environment, row.description,
    credentials⟩

def Catalog.AcceptedRow (settings : SourceSettings Uuid) (catalog : Catalog Uuid)
    (dataSourceId : Uuid) (row : DataSource Uuid) : Prop :=
  ∃ credentials, catalog.CurrentCredentials settings dataSourceId row.credentialReference
      credentials ∧ validateCreatePayload settings (row.payload credentials) = .ok []

def Catalog.Accepted (settings : SourceSettings Uuid) (catalog : Catalog Uuid) : Prop :=
  ∀ dataSourceId row, catalog.dataSources.lookup dataSourceId = some row →
    row.connectionMode = "direct" → catalog.AcceptedRow settings dataSourceId row

/-- The payload that an update makes of a source; the metadata counts in a source of the workspace
only. -/
def SourceUpdate.merge (update : SourceUpdate) (row : DataSource Uuid) (owned : Bool)
    (credentials : Dict) : SourcePayload :=
  { row.payload (update.credentials.getD credentials) with
    sourceName := if owned then update.sourceName.getD row.sourceName else row.sourceName
    environment := if owned then update.environment.getD row.environment else row.environment
    description := if owned then update.description.or row.description else row.description }

/-- What an update of a direct source, or a patch of a direct connection, makes of it would be
accepted. -/
def Call.KeepsAccepted (settings : SourceSettings Uuid) (catalog : Catalog Uuid) :
    Call Uuid → Prop
  | .updateSource request dataSourceId update _ _ =>
    ∀ row credentials, catalog.dataSources.lookup dataSourceId = some row →
      catalog.visible request.workspaceId dataSourceId row = true →
        row.connectionMode = "direct" →
          catalog.CurrentCredentials settings dataSourceId row.credentialReference credentials →
            validateCreatePayload settings
              (update.merge row (row.workspaceId == some request.workspaceId) credentials) = .ok []
  | .updateConnection tenantId connectionId patch _ _ =>
    ∀ row credentials, getByTenant catalog tenantId connectionId = some row →
      row.connectionMode = "direct" →
        catalog.CurrentCredentials settings connectionId row.credentialReference credentials →
          validateCreatePayload settings
            { row.payload credentials with
              sourceName := patch.sourceName.getD row.sourceName
              environment := patch.environment.getD row.environment
              description := patch.description.or row.description } = .ok []
  | _ => True

section Steps

variable {settings : SourceSettings Uuid} {catalog next : Catalog Uuid} {now : Int}

/-- The credentials are still there, with their payload. -/
def KeepsCredentials (before after : Catalog Uuid) : Prop :=
  ∀ credentialId credential, before.credentials.lookup credentialId = some credential →
    ∃ kept, after.credentials.lookup credentialId = some kept ∧
      kept.dataSourceId = credential.dataSourceId ∧
      kept.encryptedPayload = credential.encryptedPayload

theorem keepsCredentials_of_eq (same : next.credentials = catalog.credentials) :
    KeepsCredentials catalog next := by
  intro credentialId credential found
  exact ⟨credential, same ▸ found, rfl, rfl⟩

theorem keepsCredentials_insert {credentialId : Uuid} {credential : Credential Uuid}
    (absent : catalog.credentials.lookup credentialId = none) :
    KeepsCredentials catalog
      { catalog with credentials := catalog.credentials.insert credentialId credential } := by
  intro other held found
  refine ⟨held, (AList.lookup_insert_ne ?_).trans found, rfl, rfl⟩
  rintro rfl
  rw [absent] at found
  cases found

theorem keepsCredentials_supersede {credentialId : Uuid} :
    KeepsCredentials catalog (catalog.supersede credentialId now) := by
  intro other held found
  unfold Catalog.supersede
  split
  · rename_i credential present
    split_ifs
    · by_cases same : other = credentialId
      · subst same
        obtain rfl := Option.some.inj (present.symm.trans found)
        exact ⟨_, AList.lookup_insert _, rfl, rfl⟩
      · exact ⟨held, (AList.lookup_insert_ne same).trans found, rfl, rfl⟩
    · exact ⟨held, found, rfl, rfl⟩
  · exact ⟨held, found, rfl, rfl⟩

theorem CurrentCredentials.keep {dataSourceId : Uuid} {reference : Option Uuid} {credentials : Dict}
    (current : catalog.CurrentCredentials settings dataSourceId reference credentials)
    (keeps : KeepsCredentials catalog next) :
    next.CurrentCredentials settings dataSourceId reference credentials := by
  cases reference with
  | none => exact current
  | some credentialId =>
    obtain ⟨credential, found, own, decrypted⟩ := current
    obtain ⟨kept, held, owner, payload⟩ := keeps credentialId credential found
    exact ⟨kept, held, owner.trans own, payload ▸ decrypted⟩

theorem accepted_of_rows (accepted : catalog.Accepted settings)
    (keeps : KeepsCredentials catalog next)
    (rows : ∀ dataSourceId row, next.dataSources.lookup dataSourceId = some row →
      row.connectionMode = "direct" →
        catalog.dataSources.lookup dataSourceId = some row ∨
          next.AcceptedRow settings dataSourceId row) : next.Accepted settings := by
  intro dataSourceId row found direct
  rcases rows dataSourceId row found direct with before | changed
  · obtain ⟨credentials, current, passes⟩ := accepted dataSourceId row before direct
    exact ⟨credentials, CurrentCredentials.keep current keeps, passes⟩
  · exact changed

theorem accepted_of_eq (accepted : catalog.Accepted settings)
    (sources : next.dataSources = catalog.dataSources)
    (credentials : next.credentials = catalog.credentials) : next.Accepted settings :=
  accepted_of_rows accepted (keepsCredentials_of_eq credentials) fun _ _ found _ =>
    .inl (sources ▸ found)

theorem accepted_of_insert (accepted : catalog.Accepted settings)
    (keeps : KeepsCredentials catalog next) {dataSourceId : Uuid} {written : DataSource Uuid}
    (sources : ∀ other row, next.dataSources.lookup other = some row →
      other = dataSourceId ∧ row = written ∨ catalog.dataSources.lookup other = some row)
    (passes : written.connectionMode = "direct" →
      next.AcceptedRow settings dataSourceId written) : next.Accepted settings := by
  refine accepted_of_rows accepted keeps fun other row found direct => ?_
  rcases sources other row found with ⟨rfl, rfl⟩ | before
  · exact .inr (passes direct)
  · exact .inl before

private theorem accepted_deleteSource (accepted : catalog.Accepted settings) (dataSourceId : Uuid) :
    (catalog.deleteSource dataSourceId).Accepted settings := by
  intro other row found direct
  have apart : other ≠ dataSourceId := by
    rintro rfl
    rw [show (catalog.deleteSource other).dataSources.lookup other = none from
      AList.lookup_erase _ _] at found
    cases found
  have before : catalog.dataSources.lookup other = some row :=
    (AList.lookup_erase_ne apart).symm.trans found
  obtain ⟨credentials, current, passes⟩ := accepted other row before direct
  refine ⟨credentials, ?_, passes⟩
  cases reference : row.credentialReference with
  | none =>
    rw [reference] at current
    exact current
  | some credentialId =>
    rw [reference] at current
    obtain ⟨credential, held, own, decrypted⟩ := current
    refine ⟨credential, ?_, own, decrypted⟩
    change (catalog.credentials.keep _).lookup _ = _
    rw [Rows.lookup_keep, held]
    exact if_pos (by simpa [own] using apart)

theorem acceptedRow_of_reference {dataSourceId credentialId : Uuid} {row : DataSource Uuid}
    {credential : Credential Uuid} {credentials : Dict}
    (found : next.credentials.lookup credentialId = some credential)
    (own : credential.dataSourceId = dataSourceId)
    (decrypted : settings.decrypt credential.encryptedPayload = some credentials)
    (refers : row.credentialReference = some credentialId)
    (passes : validateCreatePayload settings (row.payload credentials) = .ok []) :
    next.AcceptedRow settings dataSourceId row := by
  refine ⟨credentials, ?_, passes⟩
  rw [refers]
  exact ⟨credential, found, own, decrypted⟩

theorem lookup_insert_twice {rows : Rows Uuid (DataSource Uuid)} {dataSourceId other : Uuid}
    {first written row : DataSource Uuid}
    (found : AList.lookup other
      (AList.insert dataSourceId written (AList.insert dataSourceId first rows)) = some row) :
    other = dataSourceId ∧ row = written ∨ rows.lookup other = some row := by
  rcases Rows.lookup_insert_cases found with own | ⟨apart, later⟩
  · exact .inl own
  · rcases Rows.lookup_insert_cases later with ⟨same, _⟩ | ⟨_, before⟩
    · exact absurd same apart
    · exact .inr before

private theorem accepted_createConnection
    (roundTrip : ∀ credentials token, settings.encrypt credentials = some token →
      settings.decrypt token = some credentials)
    (accepted : catalog.Accepted settings) {tenantId actorId connectionId credentialId : Uuid}
    {payload : ConnectionPayload Uuid}
    (created : createConnection settings catalog tenantId payload actorId connectionId credentialId
      now = .ok next) : next.Accepted settings := by
  obtain ⟨validated, _, absent, inserted, stored, assignments, insertion, storing, rfl, _⟩ :=
    createConnection_ok created
  obtain ⟨fields, structural⟩ := validateCreatePayload_ok_nil_iff.mp validated
  obtain ⟨sourceName, description, named, described, rfl⟩ :=
    writeSource_ok (insertSource_ok insertion).2
  have storedFields := fun credentials => fieldsAccepted_stored fields named described credentials
  unfold storeCredentials at storing
  split at storing
  · rename_i unset
    obtain rfl := Except.ok.inj storing
    have empty : payload.credentials.getD [] = [] := by
      cases given : payload.credentials with
      | none => rfl
      | some credentials =>
        rw [given] at unset
        have untrue := Option.filter_eq_none_iff.mp unset credentials rfl
        unfold Dict.truthy at untrue
        change credentials = []
        exact List.isEmpty_iff.mp (by simpa using untrue)
    rw [empty] at structural
    exact accepted_of_insert accepted (keepsCredentials_of_eq rfl)
      (fun _ _ found => (Rows.lookup_insert_cases found).imp_right And.right)
      fun _ => ⟨[], rfl, validateCreatePayload_ok_nil_iff.mpr ⟨storedFields [], structural⟩⟩
  · rename_i credentials set
    obtain ⟨encrypted, encryption, storing⟩ := bind_eq_ok storing
    obtain ⟨referred, crediting, storing⟩ := bind_eq_ok storing
    obtain ⟨fresh, rfl⟩ := insertCredential_ok crediting
    obtain rfl := Except.ok.inj storing
    have given : payload.credentials.getD [] = credentials := by
      rw [(Option.filter_eq_some_iff.mp set).1]
      rfl
    rw [given] at structural
    unfold setCredentialReference
    simp only [AList.lookup_insert]
    refine accepted_of_insert accepted (keepsCredentials_insert fresh)
      (fun _ _ found => lookup_insert_twice found) fun _ => ?_
    exact acceptedRow_of_reference (AList.lookup_insert _) rfl
      (roundTrip credentials encrypted (encryptCredentials_ok encryption)) rfl
      (validateCreatePayload_ok_nil_iff.mpr ⟨storedFields credentials, structural⟩)

private theorem accepted_createSource
    (roundTrip : ∀ credentials token, settings.encrypt credentials = some token →
      settings.decrypt token = some credentials)
    (accepted : catalog.Accepted settings) {request : SourceRequest Uuid} {payload : SourcePayload}
    {dataSourceId credentialId : Uuid}
    (created : createSource settings catalog request payload dataSourceId credentialId now =
      .ok next) : next.Accepted settings := by
  unfold createSource at created
  obtain ⟨errors, validated, created⟩ := bind_eq_ok created
  obtain ⟨_, passed, created⟩ := bind_eq_ok created
  obtain ⟨tenantId, _, created⟩ := bind_eq_ok created
  obtain ⟨inserted, insertion, created⟩ := bind_eq_ok created
  obtain ⟨encrypted, encryption, created⟩ := bind_eq_ok created
  obtain ⟨credited, crediting, created⟩ := bind_eq_ok created
  obtain ⟨fresh, rfl⟩ := insertCredential_ok crediting
  obtain rfl := Except.ok.inj created
  have noErrors : errors = [] := by simpa using rejectIf_ok passed
  subst noErrors
  obtain ⟨fields, structural⟩ := validateCreatePayload_ok_nil_iff.mp (uncaught_ok validated)
  obtain ⟨sourceName, description, named, described, rfl⟩ :=
    writeSource_ok (insertSource_ok insertion).2
  refine accepted_of_eq ?_ rfl rfl
  unfold updateCredentialReference
  simp only [AList.lookup_insert, Option.filter_some, Catalog.visible, sourceRow, beq_self_eq_true,
    Bool.true_or, if_true]
  refine accepted_of_insert accepted (keepsCredentials_insert fresh)
    (fun _ _ found => lookup_insert_twice found) fun _ => ?_
  exact acceptedRow_of_reference (AList.lookup_insert _) rfl
    (roundTrip payload.credentials encrypted (encryptCredentials_ok encryption)) rfl
    (validateCreatePayload_ok_nil_iff.mpr
      ⟨fieldsAccepted_stored fields named described payload.credentials, structural⟩)

private theorem accepted_updateConnection (accepted : catalog.Accepted settings)
    {tenantId connectionId actorId : Uuid} {patch : ConnectionPatch}
    (keeps : (Call.updateConnection tenantId connectionId patch actorId now).KeepsAccepted settings
      catalog)
    (updated : updateConnection settings catalog tenantId connectionId patch actorId now =
      .ok next) : next.Accepted settings := by
  rcases updateConnection_ok updated with rfl | ⟨existing, row, present, own, applied, writing⟩
  · exact accepted
  · obtain ⟨sourceName, description, named, described, rfl⟩ := writeSource_ok writing
    obtain ⟨status, _, rfl⟩ := Option.map_eq_some_iff.mp applied
    refine accepted_of_insert accepted (keepsCredentials_of_eq rfl)
      (fun _ _ found => (Rows.lookup_insert_cases found).imp_right And.right) fun direct => ?_
    obtain ⟨credentials, current, _⟩ := accepted connectionId existing present direct
    have passes := keeps existing credentials
      (Option.filter_eq_some_iff.mpr ⟨present, beq_iff_eq.mpr own⟩) direct current
    obtain ⟨fields, structural⟩ := validateCreatePayload_ok_nil_iff.mp passes
    exact ⟨credentials, current, validateCreatePayload_ok_nil_iff.mpr
      ⟨fieldsAccepted_stored fields named described credentials, structural⟩⟩

theorem supersede_dataSources {credentialId : Uuid} :
    (catalog.supersede credentialId now).dataSources = catalog.dataSources := by
  unfold Catalog.supersede
  split
  · split_ifs <;> rfl
  · rfl

section Updates

variable {request : SourceRequest Uuid} {dataSourceId credentialId : Uuid} {update : SourceUpdate}
  {current : DataSource Uuid} {middle : Catalog Uuid}

/-- The row as the metadata of an update leaves it. -/
structure Edited (catalog middle : Catalog Uuid) (dataSourceId : Uuid)
    (current edited : DataSource Uuid) : Prop where
  held : middle.dataSources.lookup dataSourceId = some edited
  credentials : middle.credentials = catalog.credentials
  reference : edited.credentialReference = current.credentialReference
  sourceType : edited.sourceType = current.sourceType
  connectionMode : edited.connectionMode = current.connectionMode
  rows : ∀ other row, middle.dataSources.lookup other = some row →
    other = dataSourceId ∧ row = edited ∨ catalog.dataSources.lookup other = some row

private theorem writeMetadata_edits (accepted : catalog.Accepted settings)
    (keeps : (Call.updateSource request dataSourceId update credentialId now).KeepsAccepted settings
      catalog)
    (present : catalog.dataSources.lookup dataSourceId = some current)
    (visible : catalog.visible request.workspaceId dataSourceId current = true)
    (written : writeMetadata settings catalog request dataSourceId update now = .ok middle) :
    ∃ edited, Edited catalog middle dataSourceId current edited ∧
      (current.connectionMode = "direct" → ∀ credentials,
        (edited.payload credentials).FieldsAccepted settings) := by
  rcases writeMetadata_ok written with
    ⟨rfl, _⟩ | ⟨row, sourceName, description, _, found, own, named, described, rfl⟩
  · refine ⟨current, ⟨present, rfl, rfl, rfl, rfl, fun _ _ found => .inr found⟩,
      fun direct credentials => ?_⟩
    obtain ⟨_, _, passes⟩ := accepted dataSourceId current present direct
    obtain ⟨fields, _⟩ := validateCreatePayload_ok_nil_iff.mp passes
    exact ⟨fields.sourceName, fields.sourceType, fields.connectionMode, fields.environment,
      fields.description⟩
  · obtain rfl := Option.some.inj (present.symm.trans found)
    refine ⟨_, ⟨AList.lookup_insert _, rfl, rfl, rfl, rfl, fun _ _ found =>
      (Rows.lookup_insert_cases found).imp_right And.right⟩, fun direct credentials => ?_⟩
    obtain ⟨before, held, _⟩ := accepted dataSourceId current present direct
    have passes := keeps current before present visible direct held
    rw [own, beq_self_eq_true] at passes
    exact fieldsAccepted_stored (validateCreatePayload_ok_nil_iff.mp passes).1 named described
      credentials

private theorem Edited.acceptedRow {edited : DataSource Uuid}
    (edits : Edited catalog middle dataSourceId current edited)
    (keeps : KeepsCredentials catalog next) (accepted : catalog.Accepted settings)
    (present : catalog.dataSources.lookup dataSourceId = some current)
    (fields : current.connectionMode = "direct" → ∀ credentials,
      (edited.payload credentials).FieldsAccepted settings)
    (direct : edited.connectionMode = "direct") :
    next.AcceptedRow settings dataSourceId edited := by
  rw [edits.connectionMode] at direct
  obtain ⟨credentials, held, passes⟩ := accepted dataSourceId current present direct
  refine ⟨credentials, ?_, validateCreatePayload_ok_nil_iff.mpr ⟨fields direct credentials, ?_⟩⟩
  · rw [edits.reference]
    exact CurrentCredentials.keep held keeps
  · have structural := (validateCreatePayload_ok_nil_iff.mp passes).2
    unfold DataSource.payload at structural ⊢
    rw [edits.sourceType, edits.connectionMode]
    exact structural

private theorem accepted_updateSource
    (roundTrip : ∀ credentials token, settings.encrypt credentials = some token →
      settings.decrypt token = some credentials)
    (accepted : catalog.Accepted settings)
    (keeps : (Call.updateSource request dataSourceId update credentialId now).KeepsAccepted settings
      catalog)
    (updated : updateSource settings catalog request dataSourceId update credentialId now =
      .ok next) : next.Accepted settings := by
  obtain ⟨current, written, present, visible, writing, rfl⟩ := updateSource_ok updated
  refine accepted_of_eq ?_ rfl rfl
  unfold writeUpdate at writing
  obtain ⟨middle, first, second⟩ := bind_eq_ok writing
  obtain ⟨edited, edits, fields⟩ := writeMetadata_edits accepted keeps present visible first
  split at second
  · obtain rfl := Except.ok.inj second
    have kept : KeepsCredentials catalog middle := keepsCredentials_of_eq edits.credentials
    exact accepted_of_insert accepted kept edits.rows
      (edits.acceptedRow kept accepted present fields)
  · rename_i credentials provided
    obtain ⟨encrypted, inserted, encryption, fresh, rfl, rfl⟩ := rotateCredentials_ok second
    have kept : KeepsCredentials catalog
        { middle with
          credentials := middle.credentials.insert credentialId
            ⟨dataSourceId, current.sourceType, encrypted, now, request.actorId, none⟩ } := by
      intro other credential found
      rw [← edits.credentials] at found
      exact keepsCredentials_insert fresh other credential found
    have referred : (updateCredentialReference
        { middle with
          credentials := middle.credentials.insert credentialId
            ⟨dataSourceId, current.sourceType, encrypted, now, request.actorId, none⟩ }
        request.workspaceId dataSourceId credentialId request.actorId now).Accepted settings := by
      unfold updateCredentialReference
      split
      · exact accepted_of_insert accepted kept edits.rows
          (edits.acceptedRow kept accepted present fields)
      · rename_i row found
        obtain rfl := Option.some.inj
          (edits.held.symm.trans (Option.filter_eq_some_iff.mp found).1)
        refine accepted_of_rows accepted kept fun other later found direct => ?_
        rcases Rows.lookup_insert_cases found with ⟨rfl, rfl⟩ | ⟨apart, before⟩
        · right
          have direct : current.connectionMode = "direct" := edits.connectionMode.symm.trans direct
          obtain ⟨before, held, _⟩ := accepted other current present direct
          have passes := keeps current before present visible direct held
          have structural := (validateCreatePayload_ok_nil_iff.mp passes).2
          unfold SourceUpdate.merge DataSource.payload at structural
          rw [provided] at structural
          refine acceptedRow_of_reference (AList.lookup_insert _) rfl
            (roundTrip credentials encrypted encryption) rfl
            (validateCreatePayload_ok_nil_iff.mpr ⟨?_, ?_⟩)
          · have edited := fields direct credentials
            exact ⟨edited.sourceName, edited.sourceType, edited.connectionMode, edited.environment,
              edited.description⟩
          · unfold DataSource.payload
            dsimp only
            rw [edits.sourceType, edits.connectionMode]
            exact structural
        · exact .inl ((edits.rows other later before).resolve_left fun own => apart own.1)
    cases current.credentialReference with
    | none => exact referred
    | some superseded =>
      refine accepted_of_rows referred keepsCredentials_supersede fun _ _ found _ => .inl ?_
      exact (congrArg (AList.lookup _) supersede_dataSources).symm.trans found

end Updates

private theorem accepted_setSourceStatus (accepted : catalog.Accepted settings)
    {workspaceId dataSourceId actorId : Uuid} {status : SourceStatus}
    (set : setSourceStatus catalog workspaceId dataSourceId actorId status now = .ok next) :
    next.Accepted settings := by
  unfold setSourceStatus at set
  split at set
  · cases set
  · rename_i row found
    obtain rfl := Except.ok.inj set
    refine accepted_of_insert accepted (keepsCredentials_of_eq rfl)
      (fun _ _ found => (Rows.lookup_insert_cases found).imp_right And.right) fun direct => ?_
    exact accepted dataSourceId row (Option.filter_eq_some_iff.mp found).1 direct

private theorem accepted_perform
    (roundTrip : ∀ credentials token, settings.encrypt credentials = some token →
      settings.decrypt token = some credentials)
    (accepted : catalog.Accepted settings) {call : Call Uuid}
    (keeps : call.KeepsAccepted settings catalog)
    (performed : perform settings catalog call = .ok next) : next.Accepted settings := by
  cases call with
  | createConnection => exact accepted_createConnection roundTrip accepted performed
  | updateConnection => exact accepted_updateConnection accepted keeps performed
  | replaceAssignments =>
    obtain ⟨_, assignments, rfl, _⟩ := replaceAssignments_ok performed
    exact accepted_of_eq accepted rfl rfl
  | deleteConnection tenantId connectionId =>
    obtain ⟨_, rfl⟩ := deleteConnection_ok performed
    exact accepted_deleteSource accepted connectionId
  | createDataset =>
    obtain ⟨_, _, rfl⟩ := createDataset_ok performed
    exact accepted_of_eq accepted rfl rfl
  | addField =>
    obtain ⟨fields, rfl, _⟩ := addField_ok performed
    exact accepted_of_eq accepted rfl rfl
  | removeField =>
    obtain ⟨_, _, _, _, rfl⟩ := removeField_ok performed
    exact accepted_of_eq accepted rfl rfl
  | bulkImportFields =>
    obtain ⟨fields, rfl, _⟩ := bulkImportFields_ok performed
    exact accepted_of_eq accepted rfl rfl
  | activateDataset =>
    obtain ⟨_, _, _, _, _, rfl⟩ := activateDataset_ok performed
    exact accepted_of_eq accepted rfl rfl
  | deactivateDataset =>
    obtain ⟨_, _, rfl⟩ := deactivateDataset_ok performed
    exact accepted_of_eq accepted rfl rfl
  | reactivateDataset =>
    obtain ⟨_, _, _, _, rfl⟩ := reactivateDataset_ok performed
    exact accepted_of_eq accepted rfl rfl
  | archiveDataset =>
    obtain ⟨_, _, rfl⟩ := archiveDataset_ok performed
    exact accepted_of_eq accepted rfl rfl
  | createSource => exact accepted_createSource roundTrip accepted performed
  | updateSource => exact accepted_updateSource roundTrip accepted keeps performed
  | archiveSource =>
    obtain ⟨_, middle, set, rfl⟩ := archiveSource_ok performed
    exact accepted_of_eq (accepted_setSourceStatus accepted set) rfl rfl
  | restoreSource =>
    obtain ⟨middle, set, rfl⟩ := restoreSource_ok performed
    exact accepted_of_eq (accepted_setSourceStatus accepted set) rfl rfl

end Steps

private theorem accepted_empty (settings : SourceSettings Uuid) (workspaces : Rows Uuid Uuid) :
    (Catalog.empty workspaces).Accepted settings := by
  intro _ _ found
  cases found

/-- Updates whose outcome would be accepted keep every direct source accepted. -/
theorem direct_sources_stay_accepted {settings : SourceSettings Uuid}
    (roundTrip : ∀ credentials token, settings.encrypt credentials = some token →
      settings.decrypt token = some credentials)
    {start reached : Catalog Uuid} {schedule : List (Call Uuid)}
    (begun : start.Accepted settings)
    (keeps : RunMeets (step settings) (fun catalog call => call.KeepsAccepted settings catalog)
      start schedule)
    (ran : run (step settings) start schedule = some reached) : reached.Accepted settings := by
  have preserved : ∀ catalog call next, Catalog.Accepted settings catalog →
      Call.KeepsAccepted settings catalog call → step settings catalog call = some next →
        Catalog.Accepted settings next := by
    intro catalog call next accepted keeps stepped
    rcases step_cases settings stepped with performed | rfl
    · exact accepted_perform roundTrip accepted keeps performed
    · exact accepted
  exact run_preserves preserved begun keeps ran

/-! A PostgreSQL source 5 of workspace 10, and settings that encrypt the credentials of such a
source only. -/

private def postgresCredentials (host : String) : Dict :=
  [("host", .str host), ("port", .int 5432), ("database", .str "sales"),
    ("username", .str "reader"), ("password", .str "secret")]

private def postgresSettings : SourceSettings Nat where
  text := toString
  runtime := Runtime.ascii
  loads _ := none
  debug := false
  encrypt
    | [("host", .str host), ("port", .int 5432), ("database", .str "sales"),
        ("username", .str "reader"), ("password", .str "secret")] =>
      some (String.ofList ("gAAAAA".toList ++ host.toList))
    | _ => none
  decrypt token := some (postgresCredentials (String.ofList (token.toList.drop 6)))
  lower := fun name => String.ofList (name.toList.map Char.toLower)

private theorem postgresSettings_decrypt (credentials : Dict) (token : String)
    (encrypted : postgresSettings.encrypt credentials = some token) :
    postgresSettings.decrypt token = some credentials := by
  unfold postgresSettings at encrypted ⊢
  dsimp only at encrypted ⊢
  split at encrypted
  · rename_i host
    obtain rfl := Option.some.inj encrypted
    rw [String.toList_ofList]
    change some (postgresCredentials (String.ofList host.toList)) = _
    rw [String.ofList_toList]
    rfl
  · cases encrypted

private def createPostgres : Call Nat :=
  .createSource ⟨10, 1, 3, "workspace_administrator"⟩
    ⟨"sales", "postgresql", "direct", "production", none, postgresCredentials "db.example.com"⟩ 5 6 0

private def rotatePostgres (host : String) : Call Nat :=
  .updateSource ⟨10, 1, 3, "workspace_administrator"⟩ 5
    ⟨none, none, none, some (postgresCredentials host), none, none⟩ 7 1

theorem public_host_rotated_in :
    ∃ reached, run (step postgresSettings) (Catalog.empty demoWorkspaces)
        [createPostgres, rotatePostgres "replica.example.com"] = some reached ∧
      (reached.dataSources.lookup 5).any (·.credentialReference == some 7) = true ∧
      reached.Accepted postgresSettings := by
  have keeps : RunMeets (step postgresSettings)
      (fun catalog call => call.KeepsAccepted postgresSettings catalog)
      (Catalog.empty demoWorkspaces) [createPostgres, rotatePostgres "replica.example.com"] := by
    refine ⟨trivial, fun created first => ⟨?_, fun _ _ => trivial⟩⟩
    cases first
    intro row credentials found _ _ _
    have columns : (some row).map (fun row => (row.sourceName, row.sourceType, row.connectionMode,
        row.environment, row.description)) =
        some ("sales", "postgresql", "direct", "production", none) := by
      rw [← found]
      decide +kernel
    simp only [Option.map_some, Option.some.injEq, Prod.mk.injEq] at columns
    obtain ⟨sourceName, sourceType, connectionMode, environment, description⟩ := columns
    simp only [SourceUpdate.merge, DataSource.payload, Option.getD_none, Option.getD_some,
      Option.none_or, ite_self, sourceName, sourceType, connectionMode, environment, description]
    decide +kernel
  exact ⟨_, rfl, by decide +kernel,
    direct_sources_stay_accepted postgresSettings_decrypt (accepted_empty _ _) keeps rfl⟩

/-- A rotation to a host that creation refuses. -/
theorem loopback_host_rotated_in :
    ∃ reached, run (step postgresSettings) (Catalog.empty demoWorkspaces)
        [createPostgres, rotatePostgres "127.0.0.1"] = some reached ∧
      ¬reached.Accepted postgresSettings := by
  refine ⟨_, rfl, fun accepted => ?_⟩
  obtain ⟨credentials, current, passes⟩ := accepted 5 _ (by rfl) (by rfl)
  obtain ⟨credential, found, _, decrypted⟩ := current
  cases found
  cases decrypted
  have noErrors := congrArg (fun errors => errors.toOption.map List.isEmpty) passes
  revert noErrors
  decide +kernel

end CogniDQ.Sources
