import CogniDQ.Python.Dynamic
import CogniDQ.Python.IpAddress

/-!
# Validation of data sources and datasets

The checks of `data_sources/validation.py` and `datasets/validation.py`, which collect the errors of
every field.
-/

set_option autoImplicit false

namespace CogniDQ.Sources

open CogniDQ.Python

/-- A field of a payload and what is wrong with it. -/
structure FieldError where
  field : String
  message : String := ""
deriving DecidableEq

/-- What validation and encryption take from outside: the interpreter's text methods, `json.loads`
(none when it raises `ValueError`), the `DEBUG` setting and the Fernet key. -/
structure SourceSettings (Uuid : Type) where
  /-- `str` of an identifier. -/
  text : Uuid → String
  runtime : Runtime
  loads : String → Option Value
  debug : Bool
  encrypt : Dict → Option String
  decrypt : String → Option Dict
  /-- `lower` of the database. -/
  lower : String → String

def sortedText (names : List String) : String := "['" ++ join "', '" names ++ "']"

section Sources

variable {Uuid : Type} (settings : SourceSettings Uuid)

/-! Sets of names are listed in the order of their sorted texts. -/

def supportedSourceTypes : List String :=
  ["adls_gen2", "bigquery", "csv", "databricks", "dbt_manifest", "excel", "gcs", "hive_metastore",
    "iceberg", "json", "mssql", "mysql", "oracle", "parquet", "postgresql", "powerbi", "redshift",
    "s3", "snowflake", "synapse", "trino"]

def jdbcSourceTypes : List String := ["mssql", "mysql", "oracle"]

def bigqueryServiceAccountRequiredKeys : List String :=
  ["auth_uri", "client_email", "client_id", "private_key", "private_key_id", "project_id",
    "token_uri", "type"]

def validConnectionModes : List String := ["agent", "direct"]

def validEnvironments : List String := ["development", "production", "staging"]

/-- A text of at most so many characters that strips to something. -/
def validateStripped (field : String) (limit : Nat) (value : String) : List FieldError :=
  let stripped := (settings.runtime.stripStr value).toList
  if stripped.isEmpty then [⟨field, "Cannot be empty."⟩]
  else if limit < stripped.length then
    [⟨field, s!"Exceeds maximum length of {limit} characters."⟩]
  else []

def validateOptional (field : String) (limit : Nat) (value : Option String) : List FieldError :=
  match value with
  | none => []
  | some value =>
    if limit < value.toList.length then [⟨field, s!"Exceeds maximum length of {limit} characters."⟩]
    else []

def validateSourceName (value : String) : List FieldError :=
  validateStripped settings "source_name" 100 value

def validateSourceType (value : String) : List FieldError :=
  if supportedSourceTypes.contains value then []
  else [⟨"source_type",
    s!"Unsupported source type '{value}'. Allowed: {sortedText supportedSourceTypes}."⟩]

def validateMember (field : String) (members : List String) (value : String) : List FieldError :=
  if members.contains value then [] else [⟨field, s!"Must be one of: {sortedText members}."⟩]

def validateConnectionMode (value : String) : List FieldError :=
  validateMember "connection_mode" validConnectionModes value

def validateEnvironment (value : String) : List FieldError :=
  validateMember "environment" validEnvironments value

def validateSourceDescription (value : Option String) : List FieldError :=
  validateOptional "description" 500 value

def privateIpNetworks : List (IpAddress × Nat) :=
  [(.v4 (10 * 2 ^ 24), 8), (.v4 (172 * 2 ^ 24 + 16 * 2 ^ 16), 12),
    (.v4 (192 * 2 ^ 24 + 168 * 2 ^ 16), 16), (.v4 (127 * 2 ^ 24), 8), (.v6 1, 128),
    (.v6 (0xfc00 * 2 ^ 112), 7)]

def validateHostNotPrivate (host : Value) : Except Exn (List FieldError) :=
  match IpAddress.parse host with
  | some address =>
    if privateIpNetworks.any address.inNetwork then
      .ok [⟨"credentials.host",
        "Private or loopback addresses are not allowed for direct-mode connections."⟩]
    else .ok []
  | none =>
    match host with
    | .str host =>
      let lower := settings.runtime.lowerStr host
      if ["localhost", "localhost.localdomain"].contains lower then
        .ok [⟨"credentials.host", "localhost is not allowed for direct-mode connections."⟩]
      else if ".local".toList.isSuffixOf lower.toList then
        .ok [⟨"credentials.host", ".local hostnames are not allowed for direct-mode connections."⟩]
      else .ok []
    | _ => .error .attributeError

def validatePort : Value → List FieldError
  | .int value =>
    if 1 ≤ value ∧ value ≤ 65535 then []
    else [⟨"credentials.port", "Must be between 1 and 65535."⟩]
  | _ => [⟨"credentials.port", "Must be an integer."⟩]

def requireKeys (credentials : Dict) (keys : List String) : List FieldError :=
  (keys.filter fun key => !(credentials.get key).truthy).map fun key =>
    ⟨s!"credentials.{key}", "Required."⟩

def validateServiceAccount (raw : Value) : List FieldError :=
  let malformed := [⟨"credentials.service_account_json", "Must be valid JSON."⟩]
  let parsed :=
    match raw with
    | .str text => settings.loads text
    | other => some other
  match parsed with
  | some (.dict entries) =>
    let missing := bigqueryServiceAccountRequiredKeys.filter fun key =>
      (entries.lookup key).isNone
    if missing.isEmpty then []
    else [⟨"credentials.service_account_json",
      s!"Missing required keys: {sortedText missing}."⟩]
  | _ => malformed

def validateCredentialStructure (sourceType : String) (credentials : Dict)
    (connectionMode : String) : Except Exn (List FieldError) :=
  if connectionMode = "agent" then .ok []
  else if ("postgresql" :: jdbcSourceTypes).contains sourceType then do
    let missing := requireKeys credentials ["host", "port", "database", "username", "password"]
    let forged ←
      if !settings.debug && credentials.has "host" && missing.isEmpty then
        validateHostNotPrivate settings (credentials.get "host")
      else .ok []
    let misplaced :=
      if credentials.has "port" then validatePort (credentials.get "port") else []
    return missing ++ forged ++ misplaced
  else if sourceType = "snowflake" then
    .ok (requireKeys credentials ["account", "warehouse", "database", "username", "password"])
  else if sourceType = "bigquery" then
    let raw := credentials.get "service_account_json"
    if raw.truthy then .ok (validateServiceAccount settings raw)
    else .ok [⟨"credentials.service_account_json", "Required."⟩]
  else .ok []

structure SourcePayload where
  sourceName : String
  sourceType : String
  connectionMode : String
  environment : String
  description : Option String
  credentials : Dict

def validateCreatePayload (payload : SourcePayload) : Except Exn (List FieldError) := do
  let errors := validateSourceName settings payload.sourceName ++
    validateSourceType payload.sourceType ++ validateConnectionMode payload.connectionMode ++
    validateEnvironment payload.environment ++ validateSourceDescription payload.description
  -- The credentials are only looked at under a known type and mode.
  if errors.all fun error => !(["source_type", "connection_mode"].contains error.field) then
    let structural ← validateCredentialStructure settings payload.sourceType payload.credentials
      payload.connectionMode
    return errors ++ structural
  else return errors

end Sources

section Datasets

variable {Uuid : Type} (settings : SourceSettings Uuid)

structure DatasetPayload (Uuid : Type) where
  datasetName : String
  datasetType : String
  physicalIdentifier : String
  dataSourceId : Option Uuid
  schemaName : Option String
  description : Option String
  businessDomain : Option String
  criticality : String
  ownerUserId : Option Uuid
  freshnessExpectation : Option String

def validateCreateDatasetPayload (payload : DatasetPayload Uuid) : List FieldError :=
  validateStripped settings "dataset_name" 200 payload.datasetName ++
    validateMember "dataset_type" ["file", "logical", "table", "view"] payload.datasetType ++
    validateStripped settings "physical_identifier" 500 payload.physicalIdentifier ++
    validateOptional "schema_name" 200 payload.schemaName ++
    validateOptional "description" 1000 payload.description ++
    validateOptional "business_domain" 100 payload.businessDomain ++
    validateMember "criticality" ["critical", "high", "low", "medium"] payload.criticality ++
    validateOptional "freshness_expectation" 200 payload.freshnessExpectation

structure FieldPayload where
  fieldName : String
  dataType : String
  nullable : Bool
  businessDefinition : Option String
  sensitivityClassification : String
  isKeyCandidate : Bool

def validateCreateFieldPayload (payload : FieldPayload) : List FieldError :=
  validateStripped settings "field_name" 200 payload.fieldName ++
    validateStripped settings "data_type" 100 payload.dataType ++
    validateOptional "business_definition" 1000 payload.businessDefinition ++
    validateMember "sensitivity_classification" ["confidential", "internal", "public", "restricted"]
      payload.sensitivityClassification

/-- The errors of a batch from its `position` on, where some names have been seen. -/
def validateBatch (seen : List String) (position : Nat) : List FieldPayload → List FieldError
  | [] => []
  | payload :: rest =>
    let lowerName := settings.runtime.lowerStr (settings.runtime.stripStr payload.fieldName)
    let repeated :=
      if seen.contains lowerName then
        [⟨s!"fields[{position}].field_name",
          s!"Duplicate field name '{payload.fieldName}' in batch."⟩]
      else []
    repeated ++
      (validateCreateFieldPayload settings payload).map (fun error =>
        ⟨s!"fields[{position}].{error.field}", error.message⟩) ++
      validateBatch (lowerName :: seen) (position + 1) rest

def validateBulkImportFields (fields : List FieldPayload) : List FieldError :=
  if fields.isEmpty then [⟨"fields", "Field list cannot be empty."⟩]
  else if 500 < fields.length then [⟨"fields", "Cannot import more than 500 fields at once."⟩]
  else validateBatch settings [] 0 fields

end Datasets

end CogniDQ.Sources
