import CogniDQ.Database.ReadCommitted
import CogniDQ.Protocol.Runs
import CogniDQ.Python.Text
import CogniDQ.Python.Value

/-!
# Workspaces and the status of their tenant

The statements of `create_workspace`, `update_workspace`, `archive_workspace`, `restore_workspace`
and of the tenant's `change_status` with its cascade, one step each, as transactions under READ
COMMITTED interleave them. A bulk `UPDATE` takes the rows its snapshot selects one by one, and looks
at each again once it is locked.
-/

set_option autoImplicit false

namespace CogniDQ.Tenancy

open CogniDQ.Database CogniDQ.Python

inductive TenantStatus where
  | draft
  | active
  | suspended
  | archived
deriving DecidableEq

inductive WorkspaceStatus where
  | active
  | archived
  | suspended
deriving DecidableEq

structure Tenant (Uuid : Type) where
  status : TenantStatus
  statusReason : Option String
  updatedBy : Uuid
  version : Nat

/-- A row of `control.workspaces`, without its generated column. -/
structure Workspace (Uuid : Type) where
  tenantId : Uuid
  workspaceName : String
  workspaceSlug : String
  description : Option String
  defaultTimezone : String
  status : WorkspaceStatus
  statusReason : Option String
  createdAt : Int
  updatedAt : Int
  createdBy : Uuid
  updatedBy : Uuid
  version : Nat

inductive Column where
  | workspaceId
  | tenantId
  | workspaceName
  | workspaceSlug
  | description
  | defaultTimezone
  | status
  | statusReason
  | createdAt
  | updatedAt
  | createdBy
  | updatedBy
deriving DecidableEq

inductive Cell (Uuid : Type) where
  | uuid (id : Uuid)
  | text (value : Option String)
  | status (value : WorkspaceStatus)
  | moment (value : Int)
deriving DecidableEq

abbrev AuditState (Uuid : Type) : Type := List (Column × Cell Uuid)

def Workspace.cell {Uuid : Type} (workspaceId : Uuid) (row : Workspace Uuid) : Column → Cell Uuid
  | .workspaceId => .uuid workspaceId
  | .tenantId => .uuid row.tenantId
  | .workspaceName => .text (some row.workspaceName)
  | .workspaceSlug => .text (some row.workspaceSlug)
  | .description => .text row.description
  | .defaultTimezone => .text (some row.defaultTimezone)
  | .status => .status row.status
  | .statusReason => .text row.statusReason
  | .createdAt => .moment row.createdAt
  | .updatedAt => .moment row.updatedAt
  | .createdBy => .uuid row.createdBy
  | .updatedBy => .uuid row.updatedBy

structure AuditEntry (Uuid : Type) where
  tenantId : Uuid
  workspaceId : Uuid
  actionType : String
  actorId : Uuid
  actorRole : String
  beforeState : Option (AuditState Uuid)
  afterState : AuditState Uuid

structure Actor (Uuid : Type) where
  id : Uuid
  role : String

/-- A payload after `validate_create_payload`. -/
structure CreatePayload where
  workspaceName : String
  workspaceSlug : String
  description : Option String
  defaultTimezone : Option String

/-- A payload after `validate_update_payload`; none for a field that is not in it. -/
structure UpdatePayload where
  workspaceName : Option String
  description : Option (Option String)
  defaultTimezone : Option String

inductive Call (Uuid : Type) where
  | createWorkspace (tenantId : Uuid) (actor : Actor Uuid) (payload : CreatePayload)
  | updateWorkspace (workspaceId tenantId : Uuid) (actor : Actor Uuid) (payload : UpdatePayload)
  | archiveWorkspace (workspaceId tenantId : Uuid) (actor : Actor Uuid) (statusReason : Value)
      (confirmLastWorkspace : Bool)
  | restoreWorkspace (workspaceId tenantId : Uuid) (actor : Actor Uuid)
  | changeStatus (tenantId : Uuid) (actor : Actor Uuid) (target : TenantStatus)
      (statusReason : Option String)

inductive Failure where
  | workspaceNotFound
  | workspaceArchived
  | tenantNotFound
  | tenantNotActive
  | duplicateName
  | forbiddenTransition
  | workspaceValidation (reasons : List String)
  | lastActiveWorkspace
  | tenantApi (statusCode : Nat) (code message : String)
  /-- A statement raises, or the caller does before it commits. -/
  | raised

structure Settings (Uuid : Type) where
  unicode : Unicode
  /-- `unicodedata.normalize("NFC", text)`. -/
  nfc : List Char → List Char
  /-- The generated column `workspace_name_lower`. -/
  generatedLower : String → String
  hashtext : Uuid → Int

/-- What a call changes of a workspace: its row before, none for a new one, its row after, and the
audit entry. -/
structure Change (Uuid : Type) where
  workspaceId : Uuid
  before : Option (Workspace Uuid)
  after : Workspace Uuid
  entry : AuditEntry Uuid

section Changes

variable {Uuid : Type}

def CreatePayload.change (payload : CreatePayload) (workspaceId tenantId : Uuid)
    (actor : Actor Uuid) (now : Int) : Change Uuid :=
  let row : Workspace Uuid :=
    { tenantId
      workspaceName := payload.workspaceName
      workspaceSlug := payload.workspaceSlug
      description := payload.description
      defaultTimezone := payload.defaultTimezone.getD "UTC"
      status := .active
      statusReason := none
      createdAt := now
      updatedAt := now
      createdBy := actor.id
      updatedBy := actor.id
      version := 0 }
  let columns : List Column :=
    [.workspaceId, .tenantId, .workspaceName, .workspaceSlug, .description, .defaultTimezone,
      .status, .statusReason, .createdAt, .updatedAt, .createdBy, .updatedBy]
  { workspaceId
    before := none
    after := row
    entry :=
      { tenantId
        workspaceId
        actionType := "workspace_created"
        actorId := actor.id
        actorRole := actor.role
        beforeState := none
        afterState := columns.map fun column => (column, row.cell workspaceId column) } }

namespace UpdatePayload

variable (payload : UpdatePayload)

def items : AuditState Uuid :=
  (payload.workspaceName.map fun name => (Column.workspaceName, Cell.text (some name))).toList ++
    (payload.description.map fun text => (Column.description, Cell.text text)).toList ++
    (payload.defaultTimezone.map fun zone => (Column.defaultTimezone, Cell.text (some zone))).toList

def hasChanges [DecidableEq Uuid] (workspaceId : Uuid) (row : Workspace Uuid) : Bool :=
  payload.items.any fun item => item.2 != row.cell workspaceId item.1

/-- The updated row, which keeps its `updated_by`. -/
def apply (row : Workspace Uuid) (now : Int) : Workspace Uuid :=
  { row with
    workspaceName := payload.workspaceName.getD row.workspaceName
    description := payload.description.getD row.description
    defaultTimezone := payload.defaultTimezone.getD row.defaultTimezone
    version := row.version + 1
    updatedAt := now }

def change (workspaceId tenantId : Uuid) (actor : Actor Uuid) (row : Workspace Uuid) (now : Int) :
    Change Uuid :=
  { workspaceId
    before := some row
    after := payload.apply row now
    entry :=
      { tenantId
        workspaceId
        actionType := "workspace_metadata_updated"
        actorId := actor.id
        actorRole := "workspace_administrator"
        beforeState :=
          some ((payload.items : AuditState Uuid).map fun item =>
            (item.1, row.cell workspaceId item.1))
        afterState := payload.items } }

end UpdatePayload

/-- The row of an archived or restored workspace, and the entry with its two states. -/
def statusChange (workspaceId tenantId : Uuid) (actor : Actor Uuid) (row : Workspace Uuid)
    (status : WorkspaceStatus) (statusReason : Option String) (actionType : String) (now : Int) :
    Change Uuid :=
  { workspaceId
    before := some row
    after :=
      { row with
        status, statusReason, updatedAt := now, updatedBy := actor.id, version := row.version + 1 }
    entry :=
      { tenantId
        workspaceId
        actionType
        actorId := actor.id
        actorRole := actor.role
        beforeState := some [(.status, .status row.status), (.statusReason, .text row.statusReason)]
        afterState := [(.status, .status status), (.statusReason, .text statusReason)] } }

def archiveChange (workspaceId tenantId : Uuid) (actor : Actor Uuid) (row : Workspace Uuid)
    (reason : String) (now : Int) : Change Uuid :=
  statusChange workspaceId tenantId actor row .archived (some reason) "workspace_archived" now

def restoreChange (workspaceId tenantId : Uuid) (actor : Actor Uuid) (row : Workspace Uuid)
    (now : Int) : Change Uuid :=
  statusChange workspaceId tenantId actor row .active none "workspace_restored" now

end Changes

section Reasons

def hasControlCharacter (text : List Char) : Bool :=
  text.any fun c => decide (c.toNat ≤ 0x1F) || c.toNat == 0x7F

def validateStatusReason (unicode : Unicode) : Value → Except (List String) String
  | .none => .error ["missing_reason"]
  | .str text =>
    let normalized := unicode.strip text.toList
    if normalized.isEmpty then .error ["missing_reason"]
    else
      let reasons :=
        (if normalized.length < 10 then ["reason_too_short"] else []) ++
          (if 500 < normalized.length then ["field_too_long"] else []) ++
          (if hasControlCharacter normalized then ["invalid_characters"] else [])
      if reasons.isEmpty then .ok (String.ofList normalized) else .error reasons
  | _ => .error ["invalid_field_type"]

def TenantStatus.name : TenantStatus → String
  | .draft => "draft"
  | .active => "active"
  | .suspended => "suspended"
  | .archived => "archived"

def allowedTransition : TenantStatus → TenantStatus → Bool
  | .draft, .active => true
  | .draft, .archived => true
  | .active, .suspended => true
  | .active, .archived => true
  | .suspended, .active => true
  | .suspended, .archived => true
  | _, _ => false

/-- The reason a status change stores: it is required for two of the statuses, and cleared for the
others. -/
def transitionReason (unicode : Unicode) (target : TenantStatus) (statusReason : Option String) :
    Except Failure (Option String) :=
  if target = .suspended ∨ target = .archived then
    let trimmed := unicode.strip (statusReason.getD "").toList
    if trimmed.isEmpty then
      .error (.tenantApi 422 "missing_status_reason"
        ("status_reason is required when transitioning to '" ++ target.name ++ "' status."))
    else if trimmed.length < 10 then
      .error (.tenantApi 422 "validation_error" "status_reason must be at least 10 characters.")
    else if 500 < trimmed.length then
      .error (.tenantApi 422 "validation_error" "status_reason must not exceed 500 characters.")
    else if hasControlCharacter trimmed then
      .error (.tenantApi 422 "validation_error"
        "status_reason contains invalid control characters.")
    else .ok (some (String.ofList trimmed))
  else .ok none

end Reasons

structure Transition (Uuid : Type) where
  tenantId : Uuid
  actor : Actor Uuid
  source : TenantStatus
  target : TenantStatus
  statusReason : Option String

namespace Transition

variable {Uuid : Type} (transition : Transition Uuid)

/-- The status of the workspaces that the bulk `UPDATE` of a transition takes. -/
def affects (status : WorkspaceStatus) : Bool :=
  match transition.target with
  | .suspended => status == .active
  | .active => transition.source == .suspended && status == .suspended
  | .archived => status != .archived
  | .draft => false

def cascade (row : Workspace Uuid) (now : Int) : Workspace Uuid :=
  let updated :=
    { row with updatedAt := now, updatedBy := transition.actor.id, version := row.version + 1 }
  match transition.target with
  | .suspended =>
    { updated with
      status := .suspended
      statusReason := some (transition.statusReason.getD "Tenant suspended.") }
  | .archived =>
    { updated with
      status := .archived
      statusReason := some (transition.statusReason.getD "Tenant archived.") }
  | .active => { updated with status := .active, statusReason := none }
  | .draft => row

def selects [DecidableEq Uuid] (row : Workspace Uuid) : Bool :=
  row.tenantId == transition.tenantId && transition.affects row.status

def tenantRow (row : Tenant Uuid) : Tenant Uuid :=
  { status := transition.target
    statusReason := transition.statusReason
    updatedBy := transition.actor.id
    version := row.version + 1 }

end Transition

/-- The checks of `change_status` on the tenant it has locked. -/
def checkTransition {Uuid : Type} (unicode : Unicode) (tenantId : Uuid) (actor : Actor Uuid)
    (source target : TenantStatus) (statusReason : Option String) :
    Except Failure (Transition Uuid) :=
  if source = target then
    .error (.tenantApi 422 "no_op_transition"
      ("Tenant is already in '" ++ target.name ++ "' status."))
  else if allowedTransition source target then
    (transitionReason unicode target statusReason).map fun reason =>
      { tenantId, actor, source, target, statusReason := reason }
  else
    .error (.tenantApi 422 "forbidden_transition"
      ("Transition from '" ++ source.name ++ "' to '" ++ target.name ++ "' is not permitted."))

/-- An archival between the lock on its workspace and its last check. -/
structure Archival (Uuid : Type) where
  workspaceId : Uuid
  tenantId : Uuid
  actor : Actor Uuid
  statusReason : Value
  confirmLastWorkspace : Bool
  workspace : Workspace Uuid

inductive Phase (Uuid : Type) where
  /-- Between calls, with the failure of the last one. -/
  | idle (failure : Option Failure)
  | calling (call : Call Uuid)
  | updating (workspaceId tenantId : Uuid) (actor : Actor Uuid) (payload : UpdatePayload)
      (workspace : Workspace Uuid)
  /-- The query for another workspace of the new name. -/
  | naming (change : Change Uuid) (name : String)
  | archiving (archival : Archival Uuid)
  | counting (archival : Archival Uuid) (reason : String)
  | restoring (workspaceId tenantId : Uuid) (actor : Actor Uuid) (workspace : Workspace Uuid)
  | writing (change : Change Uuid)
  | auditing (change : Change Uuid)
  /-- Without a change when an update has nothing to do. -/
  | committing (change : Option (Change Uuid))
  | writingTenant (transition : Transition Uuid) (tenant : Tenant Uuid)
  | selecting (transition : Transition Uuid)
  /-- The rows that the bulk `UPDATE` has selected and not looked at again. -/
  | cascading (transition : Transition Uuid) (remaining : List Uuid)

structure World (Tx Uuid : Type) where
  workspaces : Table Tx Uuid (Workspace Uuid)
  tenants : Table Tx Uuid (Tenant Uuid)
  /-- The holders of the advisory locks. -/
  advisory : Int → Option Tx
  /-- The tenants that uncommitted workspaces refer to. -/
  keyShares : List (Tx × Uuid)
  audit : List (AuditEntry Uuid)
  /-- The audit entries of the transactions in progress. -/
  entries : Tx → List (AuditEntry Uuid)
  phase : Tx → Phase Uuid

inductive Action (Uuid : Type) where
  | begin (call : Call Uuid)
  /-- The next statement, with the time and the identifier it generates. -/
  | proceed (now : Int) (generated : Uuid)
  | cascadeRow (workspaceId : Uuid) (now : Int)
  | abort

section Steps

variable {Tx Uuid : Type} [DecidableEq Tx] [DecidableEq Uuid]

namespace World

def start (workspaces : Rows Uuid (Workspace Uuid)) (tenants : Rows Uuid (Tenant Uuid))
    (audit : List (AuditEntry Uuid)) : World Tx Uuid :=
  { workspaces := Table.quiet workspaces
    tenants := Table.quiet tenants
    advisory := fun _ => none
    keyShares := []
    audit
    entries := fun _ => []
    phase := fun _ => .idle none }

variable (world : World Tx Uuid) (tx : Tx)

def goto (phase : Phase Uuid) : World Tx Uuid :=
  { world with phase := Function.update world.phase tx phase }

omit [DecidableEq Uuid] in
@[simp] theorem phase_goto (phase : Phase Uuid) : (world.goto tx phase).phase tx = phase :=
  Function.update_self ..

def workspace (workspaceId : Uuid) : Option (Workspace Uuid) :=
  (world.workspaces.view tx).lookup workspaceId

def tenant (tenantId : Uuid) : Option (Tenant Uuid) :=
  (world.tenants.view tx).lookup tenantId

/-- The end of a transaction: its locks and its uncommitted entries are gone. -/
def finish (failure : Option Failure) : World Tx Uuid :=
  ({ world with
    workspaces := world.workspaces.release tx
    tenants := world.tenants.release tx
    advisory := fun key => if world.advisory key = some tx then none else world.advisory key
    keyShares := world.keyShares.filter fun share => share.1 != tx
    entries := Function.update world.entries tx [] }).goto tx (.idle failure)

omit [DecidableEq Uuid] in
@[simp] theorem phase_finish (failure : Option Failure) :
    (world.finish tx failure).phase tx = .idle failure :=
  Function.update_self ..

def fail (failure : Failure) : World Tx Uuid :=
  world.finish tx (some failure)

def commit : World Tx Uuid :=
  { world.finish tx none with
    workspaces := world.workspaces.commit tx
    tenants := world.tenants.commit tx
    audit := world.audit ++ world.entries tx }

@[simp] theorem phase_commit : (world.commit tx).phase tx = .idle none :=
  world.phase_finish tx none

/-- `find_by_id` with `FOR UPDATE`, and the check of the workspace's status; none while another
transaction has locked the row. -/
def lockWorkspace (workspaceId tenantId : Uuid)
    (next : Workspace Uuid → Except Failure (Phase Uuid)) : Option (World Tx Uuid) :=
  match world.workspace tx workspaceId with
  | none => some (world.fail tx .workspaceNotFound)
  | some row =>
    if row.tenantId = tenantId then
      if world.workspaces.free tx workspaceId then
        match next row with
        | .error failure => some (world.fail tx failure)
        | .ok phase =>
          some (({ world with workspaces := world.workspaces.lock tx workspaceId }).goto tx phase)
      else none
    else some (world.fail tx .workspaceNotFound)

/-- `find_tenant_by_id`, which locks nothing, and the check of the tenant's status. -/
def checkTenant (tenantId : Uuid) (next : Phase Uuid) : World Tx Uuid :=
  match world.tenant tx tenantId with
  | none => world.fail tx .tenantNotFound
  | some row =>
    if row.status = .active then world.goto tx next else world.fail tx .tenantNotActive

/-- `find_by_id_for_update` with `NOWAIT`. -/
def lockTenant (settings : Settings Uuid) (tenantId : Uuid) (actor : Actor Uuid)
    (target : TenantStatus) (statusReason : Option String) : World Tx Uuid :=
  if world.tenants.free tx tenantId &&
      world.keyShares.all fun share => share.1 == tx || share.2 != tenantId then
    match world.tenant tx tenantId with
    | none => world.fail tx (.tenantApi 404 "not_found" "Tenant not found.")
    | some row =>
      match checkTransition settings.unicode tenantId actor row.status target statusReason with
      | .error failure => world.fail tx failure
      | .ok transition =>
        ({ world with tenants := world.tenants.lock tx tenantId }).goto tx
          (.writingTenant transition row)
  else
    world.fail tx (.tenantApi 409 "conflict"
      "The tenant is currently being modified by another request. Please try again.")

def begin (settings : Settings Uuid) (now : Int) (generated : Uuid) :
    Call Uuid → Option (World Tx Uuid)
  | .createWorkspace tenantId actor payload =>
    some (world.checkTenant tx tenantId (.writing (payload.change generated tenantId actor now)))
  | .updateWorkspace workspaceId tenantId actor payload =>
    world.lockWorkspace tx workspaceId tenantId fun row =>
      if row.status = .archived then .error .workspaceArchived
      else .ok (.updating workspaceId tenantId actor payload row)
  | .archiveWorkspace workspaceId tenantId actor statusReason confirmLastWorkspace =>
    world.lockWorkspace tx workspaceId tenantId fun row =>
      if row.status = .active then
        .ok (.archiving ⟨workspaceId, tenantId, actor, statusReason, confirmLastWorkspace, row⟩)
      else .error .forbiddenTransition
  | .restoreWorkspace workspaceId tenantId actor =>
    world.lockWorkspace tx workspaceId tenantId fun row =>
      if row.status = .archived then .ok (.restoring workspaceId tenantId actor row)
      else .error .forbiddenTransition
  | .changeStatus tenantId actor target statusReason =>
    some (world.lockTenant tx settings tenantId actor target statusReason)

/-- `update_workspace` from its check of the tenant to the query for the name. -/
def update (workspaceId tenantId : Uuid) (actor : Actor Uuid) (payload : UpdatePayload)
    (row : Workspace Uuid) (now : Int) : World Tx Uuid :=
  let change := payload.change workspaceId tenantId actor row now
  world.checkTenant tx tenantId
    (if payload.hasChanges workspaceId row then
      match payload.workspaceName with
      | none => .writing change
      | some name => if name = row.workspaceName then .writing change else .naming change name
    else .committing none)

def nameTaken (settings : Settings Uuid) (change : Change Uuid) (name : String) : Bool :=
  let stripped := settings.nfc (settings.unicode.strip name.toList)
  let lower := String.ofList (settings.unicode.lower stripped)
  (world.workspaces.view tx).entries.any fun entry =>
    entry.2.tenantId == change.after.tenantId &&
      settings.generatedLower entry.2.workspaceName == lower && entry.1 != change.workspaceId

/-- The advisory lock on the tenant, and the check of the reason; none while another transaction
has the lock. -/
def lockAdvisory (settings : Settings Uuid) (archival : Archival Uuid) : Option (World Tx Uuid) :=
  let key := settings.hashtext archival.tenantId
  if (world.advisory key).all (· == tx) then
    match validateStatusReason settings.unicode archival.statusReason with
    | .error reasons => some (world.fail tx (.workspaceValidation reasons))
    | .ok reason =>
      some (({ world with advisory := Function.update world.advisory key (some tx) }).goto tx
        (.counting archival reason))
  else none

def countActiveWorkspaces (tenantId : Uuid) : Nat :=
  ((world.workspaces.view tx).entries.filter fun entry =>
    entry.2.tenantId == tenantId && entry.2.status == .active).length

def guardLast (archival : Archival Uuid) (reason : String) (now : Int) : World Tx Uuid :=
  if world.countActiveWorkspaces tx archival.tenantId = 1 ∧ archival.confirmLastWorkspace = false
  then world.fail tx .lastActiveWorkspace
  else
    world.goto tx (.writing (archiveChange archival.workspaceId archival.tenantId archival.actor
      archival.workspace reason now))

/-- The `INSERT` or the `UPDATE` of a workspace. An `INSERT` also takes a share of the key of its
tenant, and waits for a transaction that has locked it; an identifier that is taken raises. -/
def write (change : Change Uuid) : Option (World Tx Uuid) :=
  let written :=
    { world with
      workspaces := world.workspaces.write tx change.workspaceId (some change.after) }
  if world.workspaces.free tx change.workspaceId then
    match change.before with
    | some _ => some (written.goto tx (.auditing change))
    | none =>
      if world.tenants.free tx change.after.tenantId then
        if (world.workspace tx change.workspaceId).isSome ∨
            (world.tenant tx change.after.tenantId).isNone then some (world.fail tx .raised)
        else
          some (({ written with
            keyShares := (tx, change.after.tenantId) :: world.keyShares }).goto tx
              (.auditing change))
      else none
  else none

/-- The entry refers to the tenant as well, so that its `INSERT` takes the same share. -/
def writeAudit (change : Change Uuid) : World Tx Uuid :=
  ({ world with
    keyShares := (tx, change.after.tenantId) :: world.keyShares
    entries := Function.update world.entries tx (world.entries tx ++ [change.entry]) }).goto tx
      (.committing (some change))

/-- The `UPDATE` of the tenant; only some transitions have a cascade. -/
def writeTenant (transition : Transition Uuid) (row : Tenant Uuid) : World Tx Uuid :=
  let cascades := transition.target = .suspended ∨ transition.target = .archived ∨
    transition.target = .active ∧ transition.source = .suspended
  ({ world with
    tenants := world.tenants.write tx transition.tenantId (some (transition.tenantRow row)) }).goto
      tx (if cascades then .selecting transition else .cascading transition [])

/-- The snapshot of the bulk `UPDATE`. -/
def selectCascade (transition : Transition Uuid) : World Tx Uuid :=
  world.goto tx (.cascading transition
    (((world.workspaces.view tx).entries.filter fun entry => transition.selects entry.2).map
      (·.1)))

/-- One row of the bulk `UPDATE`; none while another transaction has locked it. -/
def cascadeRow (transition : Transition Uuid) (remaining : List Uuid) (workspaceId : Uuid)
    (now : Int) : Option (World Tx Uuid) :=
  if workspaceId ∈ remaining then
    if world.workspaces.free tx workspaceId then
      let next := Phase.cascading transition (remaining.erase workspaceId)
      match (world.workspace tx workspaceId).filter transition.selects with
      | none => some (world.goto tx next)
      | some row =>
        some (({ world with
          workspaces := world.workspaces.write tx workspaceId
            (some (transition.cascade row now)) }).goto tx next)
    else none
  else none

def proceed (settings : Settings Uuid) (now : Int) (generated : Uuid) :
    Phase Uuid → Option (World Tx Uuid)
  | .calling call => world.begin tx settings now generated call
  | .updating workspaceId tenantId actor payload row =>
    some (world.update tx workspaceId tenantId actor payload row now)
  | .naming change name =>
    if world.nameTaken tx settings change name then some (world.fail tx .duplicateName)
    else some (world.goto tx (.writing change))
  | .archiving archival => world.lockAdvisory tx settings archival
  | .counting archival reason => some (world.guardLast tx archival reason now)
  | .restoring workspaceId tenantId actor row =>
    some (world.checkTenant tx tenantId (.writing (restoreChange workspaceId tenantId actor row now)))
  | .writing change => world.write tx change
  | .auditing change =>
    if world.tenants.free tx change.after.tenantId then some (world.writeAudit tx change) else none
  | .committing _ => some (world.commit tx)
  | .writingTenant transition row => some (world.writeTenant tx transition row)
  | .selecting transition => some (world.selectCascade tx transition)
  | .cascading _ [] => some (world.commit tx)
  | .cascading _ (_ :: _) => none
  | .idle _ => none

def step (settings : Settings Uuid) (world : World Tx Uuid) :
    Tx × Action Uuid → Option (World Tx Uuid)
  | (tx, .begin call) =>
    match world.phase tx with
    | .idle _ => some (world.goto tx (.calling call))
    | _ => none
  | (tx, .proceed now generated) => world.proceed tx settings now generated (world.phase tx)
  | (tx, .cascadeRow workspaceId now) =>
    match world.phase tx with
    | .cascading transition remaining => world.cascadeRow tx transition remaining workspaceId now
    | _ => none
  | (tx, .abort) =>
    match world.phase tx with
    | .idle _ => none
    | _ => some (world.fail tx .raised)

end World

end Steps

end CogniDQ.Tenancy
