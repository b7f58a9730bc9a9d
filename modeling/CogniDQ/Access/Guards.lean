import CogniDQ.Database.ReadCommitted
import CogniDQ.Workspaces.Roles

/-!
# Guards of workspace content

The dependencies of `workspace_auth`, `data_source_auth` and `dataset_auth` that stand before the
content of a workspace, and the support grants that platform staff need there.
-/

set_option autoImplicit false

namespace CogniDQ.Access

open CogniDQ.Database CogniDQ.Workspaces

structure SupportGrant (Uuid : Type) where
  tenantId : Uuid
  workspaceId : Option Uuid
  expiresAt : Int
  revokedAt : Option Int

structure Directory (Uuid Moment : Type) where
  /-- The tenant of each workspace. -/
  workspaces : Rows Uuid Uuid
  grants : List (SupportGrant Uuid)
  store : Store Uuid Moment

structure Actor (Uuid : Type) where
  actorId : Uuid
  actorRole : String
  tenantId : Option Uuid
deriving DecidableEq

structure Payload where
  actorId : Option String
  actorRole : Option String
  tenantId : Option String

inductive JwtError where
  | expiredSignature
  | other

structure Refusal where
  statusCode : Nat
  detail : String
deriving DecidableEq

/-- A request on a route below `/workspaces/{workspace_id}`. -/
structure Request (Uuid : Type) where
  authorization : Option String
  workspaceId : Uuid

structure GuardSettings (Uuid : Type) where
  decode : String → Except JwtError Payload
  /-- `UUID` of a text; none when it raises. -/
  uuid : String → Option Uuid
  environment : Environment Uuid

section Grants

variable {Uuid Moment : Type} [DecidableEq Uuid] (directory : Directory Uuid Moment)

def hasActiveGrant (now : Int) (tenantId workspaceId : Option Uuid) : Bool :=
  let resolved :=
    match tenantId with
    | some tenantId => some tenantId
    | none => workspaceId.bind fun workspaceId => directory.workspaces.lookup workspaceId
  match resolved with
  | none => false
  | some tenantId =>
    directory.grants.any fun grant =>
      grant.tenantId == tenantId &&
        (grant.workspaceId.isNone || workspaceId.isSome && grant.workspaceId == workspaceId) &&
        grant.revokedAt.isNone && decide (now < grant.expiresAt)

end Grants

section Authentication

variable {Uuid : Type} (settings : GuardSettings Uuid)

def extractBearerToken (authorization : Option String) : Except Refusal String :=
  match authorization.filter fun header => !header.isEmpty with
  | none => .error ⟨401, "Authorization header is missing"⟩
  | some header =>
    if "Bearer ".toList.isPrefixOf header.toList then
      match header.toList.drop 7 with
      | [] => .error ⟨401, "Bearer token value is empty"⟩
      | token => .ok (String.ofList token)
    else .error ⟨401, "Authorization header must use Bearer scheme"⟩

def decodeToken (token : String) : Except Refusal Payload :=
  match settings.decode token with
  | .ok payload => .ok payload
  | .error .expiredSignature => .error ⟨401, "Token has expired"⟩
  | .error .other => .error ⟨401, "Token is invalid"⟩

def buildContext (tenantOptional : String → Bool) (payload : Payload) :
    Except Refusal (Actor Uuid) :=
  let unidentified := Except.error ⟨401, "Token does not contain required identity claims"⟩
  let present := fun claim : Option String => claim.filter fun text => !text.isEmpty
  match present payload.actorId, present payload.actorRole with
  | some rawActorId, some actorRole =>
    if (present payload.tenantId).isNone && !tenantOptional actorRole then unidentified
    else
      match settings.uuid rawActorId with
      | none => .error ⟨401, "Token actor_id claim is not a valid UUID"⟩
      | some actorId =>
        match present payload.tenantId with
        | none => .ok { actorId, actorRole, tenantId := none }
        | some rawTenantId =>
          match settings.uuid rawTenantId with
          | none => .error ⟨401, "Token tenant_id claim is not a valid UUID"⟩
          | some tenantId => .ok { actorId, actorRole, tenantId := some tenantId }
  | _, _ => unidentified

def authenticate (tenantOptional : String → Bool) (request : Request Uuid) :
    Except Refusal (Actor Uuid) := do
  let token ← extractBearerToken request.authorization
  let payload ← decodeToken settings token
  buildContext settings tenantOptional payload

/-- `_build_workspace_actor_context`, where no role needs a tenant. -/
def authenticateWorkspace (request : Request Uuid) : Except Refusal (Actor Uuid) :=
  authenticate settings (fun _ => true) request

def authenticateDataSource (request : Request Uuid) : Except Refusal (Actor Uuid) :=
  authenticate settings (["platform_admin", "platform_viewer"].contains ·) request

def authenticateDataset (request : Request Uuid) : Except Refusal (Actor Uuid) :=
  authenticate settings
    (["platform_admin", "platform_viewer", "platform_operator"].contains ·) request

end Authentication

def platformOperatorRoles : List String := ["platform_admin", "platform_viewer"]

def auditLogAllowedRoles : List String := "workspace_administrator" :: platformOperatorRoles

def settingsReadAllowedRoles : List String :=
  ["workspace_administrator", "data_engineer", "data_steward"] ++ platformOperatorRoles

/-! The roles of data sources and datasets, sorted as the refusals show them. -/

def dataSourceWriteRoles : List String :=
  ["data_engineer", "platform_admin", "tenant_admin", "workspace_administrator",
    "workspace_steward"]

def dataSourceReadRoles : List String :=
  ["business_analyst", "data_engineer", "data_steward", "governance_viewer", "member",
    "platform_admin", "platform_operator", "platform_viewer", "tenant_admin",
    "workspace_administrator", "workspace_steward", "workspace_viewer"]

def datasetWriteRoles : List String :=
  ["data_engineer", "data_steward", "platform_admin", "tenant_admin", "workspace_administrator",
    "workspace_steward"]

def datasetReadRoles : List String :=
  ["business_analyst", "data_engineer", "data_owner", "data_steward", "governance_viewer",
    "platform_admin", "platform_operator", "platform_viewer", "tenant_admin",
    "workspace_administrator", "workspace_steward", "workspace_viewer"]

def datasetArchiveRoles : List String := ["platform_admin", "tenant_admin", "workspace_administrator"]

def datasetPauseRoles : List String :=
  ["data_engineer", "platform_admin", "tenant_admin", "workspace_administrator"]

section Guards

variable {Uuid Moment : Type} [DecidableEq Uuid] (settings : GuardSettings Uuid)
  (directory : Directory Uuid Moment) (now : Int)

/-- The grant check of `workspace_auth`, with the tenant of the actor's token. -/
def requireSupportGrant (workspaceId : Uuid) (tenantId : Option Uuid) : Except Refusal Unit :=
  if hasActiveGrant directory now tenantId (some workspaceId) then .ok ()
  else
    .error ⟨403, "This requires an active support access grant from the tenant admin. " ++
      "Ask the tenant admin to grant temporary support access, or check your " ++
      "active grants in the admin console."⟩

/-- The grant check of the other two modules, which is for one of the platform roles only. -/
def requireSupportGrantIfPlatformAdmin (actor : Actor Uuid) (workspaceId : Uuid) :
    Except Refusal Unit :=
  if actor.actorRole ≠ "platform_admin" then .ok ()
  else if hasActiveGrant directory now none (some workspaceId) then .ok ()
  else
    .error ⟨403, "This requires an active support access grant from the tenant admin. " ++
      "Ask them to grant temporary support access, or check your active " ++
      "grants in the admin console."⟩

/-- A guard of `workspace_auth` with a set of roles, some of which need a grant. -/
def verifyWorkspaceRole (roles granted : List String) (detail : String) (request : Request Uuid) :
    Except Refusal (Actor Uuid) := do
  let actor ← authenticateWorkspace settings request
  if actor.actorRole ∉ roles then throw ⟨403, detail⟩
  if actor.actorRole ∈ granted then
    requireSupportGrant directory now request.workspaceId actor.tenantId
  return actor

def verifyAnyAuthenticatedActor (request : Request Uuid) : Except Refusal (Actor Uuid) :=
  authenticateWorkspace settings request

def verifyAuditLogActor : Request Uuid → Except Refusal (Actor Uuid) :=
  verifyWorkspaceRole settings directory now auditLogAllowedRoles platformOperatorRoles
    "Only Workspace Administrators and Platform Operators may view audit logs."

def verifyWorkspaceSettingsReadActor : Request Uuid → Except Refusal (Actor Uuid) :=
  verifyWorkspaceRole settings directory now settingsReadAllowedRoles platformOperatorRoles
    "Your role does not have permission to read workspace settings."

def verifyWorkspaceSettingsWriteActor : Request Uuid → Except Refusal (Actor Uuid) :=
  verifyWorkspaceRole settings directory now ["workspace_administrator", "platform_admin"]
    ["platform_admin"]
    "Only Workspace Administrators and Platform Admins may update workspace settings."

def requireWorkspacePermission (action : String) (request : Request Uuid) :
    Except Refusal (Actor Uuid) := do
  let actor ← authenticateWorkspace settings request
  if actor.actorRole ∈ platformOperatorRoles then
    if hasActiveGrant directory now none (some request.workspaceId) then
      if actor.actorRole = "platform_admin" then return actor
      if ":read".toList.isSuffixOf action.toList || action == "view_audit_logs" then return actor
      throw ⟨403, "Platform viewers may not perform '" ++ action ++ "' on workspaces."⟩
    else
      throw ⟨403, "This workspace requires an active support access grant from the " ++
        "tenant admin. Ask them to grant temporary support access, or check " ++
        "your active grants in the admin console."⟩
  else if actor.actorRole = "tenant_admin" then
    if actor.tenantId.isSome && directory.workspaces.lookup request.workspaceId == actor.tenantId
    then return actor
    else throw ⟨403, "Tenant admin privileges do not extend to this workspace."⟩
  else if checkPermission settings.environment request.workspaceId actor.actorId action directory.store
  then return actor
  else throw ⟨403, "You do not have permission to perform '" ++ action ++ "' in this workspace."⟩

/-- A guard of `data_source_auth` or `dataset_auth` with a set of roles. -/
def verifyContentRole (authenticated : Except Refusal (Actor Uuid)) (roles : List String)
    (purpose : String) (request : Request Uuid) : Except Refusal (Actor Uuid) := do
  let actor ← authenticated
  if actor.actorRole ∉ roles then
    throw ⟨403, "Role '" ++ actor.actorRole ++ "' is not authorised to " ++ purpose ++
      ". Required: ['" ++ "', '".intercalate roles ++ "']"⟩
  requireSupportGrantIfPlatformAdmin directory now actor request.workspaceId
  return actor

def verifyDataSourceWriteActor (request : Request Uuid) : Except Refusal (Actor Uuid) :=
  verifyContentRole directory now (authenticateDataSource settings request) dataSourceWriteRoles
    "modify data sources" request

def verifyDataSourceReadActor (request : Request Uuid) : Except Refusal (Actor Uuid) :=
  verifyContentRole directory now (authenticateDataSource settings request) dataSourceReadRoles
    "read data sources" request

def verifyDatasetWriteActor (request : Request Uuid) : Except Refusal (Actor Uuid) :=
  verifyContentRole directory now (authenticateDataset settings request) datasetWriteRoles
    "modify datasets" request

def verifyDatasetReadActor (request : Request Uuid) : Except Refusal (Actor Uuid) :=
  verifyContentRole directory now (authenticateDataset settings request) datasetReadRoles
    "read datasets" request

def verifyDatasetArchiveActor (request : Request Uuid) : Except Refusal (Actor Uuid) :=
  verifyContentRole directory now (authenticateDataset settings request) datasetArchiveRoles
    "archive datasets" request

def verifyDatasetPauseActor (request : Request Uuid) : Except Refusal (Actor Uuid) :=
  verifyContentRole directory now (authenticateDataset settings request) datasetPauseRoles
    "pause/deactivate datasets" request

inductive Guard where
  | anyAuthenticated
  | auditLog
  | settingsRead
  | settingsWrite
  | permission (action : String)
  | dataSourceWrite
  | dataSourceRead
  | datasetWrite
  | datasetRead
  | datasetArchive
  | datasetPause

def Guard.verify (request : Request Uuid) : Guard → Except Refusal (Actor Uuid)
  | .anyAuthenticated => verifyAnyAuthenticatedActor settings request
  | .auditLog => verifyAuditLogActor settings directory now request
  | .settingsRead => verifyWorkspaceSettingsReadActor settings directory now request
  | .settingsWrite => verifyWorkspaceSettingsWriteActor settings directory now request
  | .permission action => requireWorkspacePermission settings directory now action request
  | .dataSourceWrite => verifyDataSourceWriteActor settings directory now request
  | .dataSourceRead => verifyDataSourceReadActor settings directory now request
  | .datasetWrite => verifyDatasetWriteActor settings directory now request
  | .datasetRead => verifyDatasetReadActor settings directory now request
  | .datasetArchive => verifyDatasetArchiveActor settings directory now request
  | .datasetPause => verifyDatasetPauseActor settings directory now request

end Guards

end CogniDQ.Access
