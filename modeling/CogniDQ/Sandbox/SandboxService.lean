import CogniDQ.Database.Rows
import CogniDQ.Database.Paging
import CogniDQ.Python.Dynamic

/-!
# Sandbox environments

The rows of `control.sandbox_environments` and `control.sandbox_extensions`, with the statements of
their repositories. Times are microseconds since the epoch, in UTC.
-/

set_option autoImplicit false

namespace CogniDQ.Sandbox

open CogniDQ.Database

def days (count : Int) : Int := count * 86400000000

def hours (count : Int) : Int := count * 3600000000

inductive EnvironmentStatus where
  | provisioning
  | provisioningFailed
  | active
  | suspended
  | expired
  | archived
  | deleted
deriving DecidableEq

def EnvironmentStatus.text : EnvironmentStatus → String
  | .provisioning => "provisioning"
  | .provisioningFailed => "provisioning_failed"
  | .active => "active"
  | .suspended => "suspended"
  | .expired => "expired"
  | .archived => "archived"
  | .deleted => "deleted"

structure SandboxEnvironment (Uuid : Type) where
  demoRequestId : Uuid
  tenantId : Uuid
  workspaceId : Uuid
  templateId : String
  accessProfileId : Uuid
  status : EnvironmentStatus
  provisionedAt : Option Int
  expiresAt : Option Int
  suspendedAt : Option Int
  archivedAt : Option Int
  deletedAt : Option Int
  extensionCount : Nat
deriving DecidableEq

structure SandboxExtension (Uuid : Type) where
  sandboxId : Uuid
  extendedBy : Option Uuid
  extensionDays : Int
  note : String
  previousExpiresAt : Int
  newExpiresAt : Int
deriving DecidableEq

structure Schema (Uuid : Type) where
  /-- The columns of `control.sandbox_environments`. -/
  environmentColumns : List String
  /-- The `CHECK` constraints on `extension_count`, `expires_at` and `provisioned_at`. -/
  checksEnvironment : Nat → Option Int → Option Int → Bool
  checksExtension : SandboxExtension Uuid → Bool

/-- The tables of `040_f134_demo_sandbox_schema.sql`, with statuses of text and not of its enums. -/
def migration040 (Uuid : Type) : Schema Uuid where
  environmentColumns :=
    ["id", "demo_request_id", "tenant_id", "workspace_id", "template_id", "access_profile_id",
      "status", "provisioned_at", "expires_at", "suspended_at", "archived_at", "deleted_at",
      "extension_count", "grace_period_days", "retention_policy", "engagement_score",
      "last_activity_at", "session_count", "created_at", "updated_at"]
  checksEnvironment extensionCount expiresAt provisionedAt :=
    decide (extensionCount ≤ 2) &&
      match expiresAt, provisionedAt with
      | some expiresAt, some provisionedAt => decide (provisionedAt < expiresAt)
      | _, _ => true
  checksExtension extension := decide (extension.extensionDays = 3)

/-- The same with the column that `_UPDATE_STATUS_SQL` assigns and the migration does not create. -/
def withLastError (Uuid : Type) : Schema Uuid :=
  { migration040 Uuid with
    environmentColumns := "last_error" :: (migration040 Uuid).environmentColumns }

def statusColumns : List String :=
  ["status", "updated_at", "provisioned_at", "suspended_at", "archived_at", "deleted_at",
    "last_error"]

/-- The columns that `_UPDATE_STATUS_SQL` assigns exist. -/
def Schema.updatesStatus {Uuid : Type} (schema : Schema Uuid) : Bool :=
  statusColumns.all (schema.environmentColumns.contains ·)

def SandboxEnvironment.meets {Uuid : Type} (row : SandboxEnvironment Uuid) (schema : Schema Uuid) :
    Bool :=
  schema.checksEnvironment row.extensionCount row.expiresAt row.provisionedAt

structure StatusUpdate where
  status : EnvironmentStatus
  setProvisionedAt : Bool := false
  setSuspendedAt : Bool := false
  setArchivedAt : Bool := false
  setDeletedAt : Bool := false

def SandboxEnvironment.updateStatus {Uuid : Type} (row : SandboxEnvironment Uuid)
    (update : StatusUpdate) (now : Int) : SandboxEnvironment Uuid :=
  { row with
    status := update.status
    provisionedAt := if update.setProvisionedAt then some now else row.provisionedAt
    suspendedAt := if update.setSuspendedAt then some now else row.suspendedAt
    archivedAt := if update.setArchivedAt then some now else row.archivedAt
    deletedAt := if update.setDeletedAt then some now else row.deletedAt }

/-- The row that `_INCREMENT_EXTENSION_SQL` writes. -/
def SandboxEnvironment.extended {Uuid : Type} (row : SandboxEnvironment Uuid) (newExpiresAt : Int) :
    SandboxEnvironment Uuid :=
  { row with extensionCount := row.extensionCount + 1, expiresAt := some newExpiresAt }

section Statements

variable {Uuid : Type} [DecidableEq Uuid] (schema : Schema Uuid)

/-- A new version of a row, under the `CHECK` constraints. -/
def storeEnvironment (sandboxId : Uuid) (row : SandboxEnvironment Uuid)
    (environments : Rows Uuid (SandboxEnvironment Uuid)) :
    Except String (Rows Uuid (SandboxEnvironment Uuid)) :=
  if row.meets schema then .ok (environments.insert sandboxId row)
  else .error "new row for relation sandbox_environments violates check constraint"

def createEnvironment (sandboxId : Uuid) (row : SandboxEnvironment Uuid)
    (environments : Rows Uuid (SandboxEnvironment Uuid)) :
    Except String (Rows Uuid (SandboxEnvironment Uuid)) :=
  if (environments.lookup sandboxId).isSome then
    .error "duplicate key value violates unique constraint pk_sandbox_environments"
  else if environments.entries.any fun entry =>
      decide (entry.2.demoRequestId = row.demoRequestId) then
    .error "duplicate key value violates unique constraint uq_sandbox_env_demo_request"
  else storeEnvironment schema sandboxId row environments

def updateStatus (sandboxId : Uuid) (update : StatusUpdate) (now : Int)
    (environments : Rows Uuid (SandboxEnvironment Uuid)) :
    Except String (Rows Uuid (SandboxEnvironment Uuid)) :=
  if schema.updatesStatus then
    match environments.lookup sandboxId with
    | none => .ok environments
    | some row => storeEnvironment schema sandboxId (row.updateStatus update now) environments
  else .error "column last_error of relation sandbox_environments does not exist"

def incrementExtension (sandboxId : Uuid) (newExpiresAt : Int)
    (environments : Rows Uuid (SandboxEnvironment Uuid)) :
    Except String (Rows Uuid (SandboxEnvironment Uuid)) :=
  match environments.lookup sandboxId with
  | none => .ok environments
  | some row => storeEnvironment schema sandboxId (row.extended newExpiresAt) environments

def createExtension (extension : SandboxExtension Uuid)
    (environments : Rows Uuid (SandboxEnvironment Uuid))
    (extensions : List (SandboxExtension Uuid)) : Except String (List (SandboxExtension Uuid)) :=
  if !(environments.lookup extension.sandboxId).isSome then
    .error "insert on table sandbox_extensions violates foreign key constraint"
  else if schema.checksExtension extension then .ok (extensions ++ [extension])
  else .error "new row for relation sandbox_extensions violates check constraint"

variable {schema} {sandboxId : Uuid} {row : SandboxEnvironment Uuid}
  {environments after : Rows Uuid (SandboxEnvironment Uuid)}

theorem storeEnvironment_ok
    (stored : storeEnvironment schema sandboxId row environments = .ok after) :
    after = environments.insert sandboxId row ∧ row.meets schema = true := by
  unfold storeEnvironment at stored
  split_ifs at stored with met
  exact ⟨(Except.ok.inj stored).symm, met⟩

theorem createEnvironment_ok
    (created : createEnvironment schema sandboxId row environments = .ok after) :
    after = environments.insert sandboxId row ∧ row.meets schema = true ∧
      environments.lookup sandboxId = none ∧ ∀ other version,
        environments.lookup other = some version → version.demoRequestId ≠ row.demoRequestId := by
  unfold createEnvironment at created
  split_ifs at created with taken shared
  obtain ⟨stored, met⟩ := storeEnvironment_ok created
  refine ⟨stored, met, Option.not_isSome_iff_eq_none.mp taken, ?_⟩
  intro other version found same
  have listed := AList.mem_lookup_iff.mp found
  exact shared (List.any_eq_true.mpr ⟨⟨other, version⟩, listed, decide_eq_true same⟩)

theorem updateStatus_ok {update : StatusUpdate} {now : Int}
    (updated : updateStatus schema sandboxId update now environments = .ok after) :
    schema.updatesStatus = true ∧
      (environments.lookup sandboxId = none ∧ after = environments ∨
        ∃ row, environments.lookup sandboxId = some row ∧
          after = environments.insert sandboxId (row.updateStatus update now) ∧
          (row.updateStatus update now).meets schema = true) := by
  unfold updateStatus at updated
  split_ifs at updated with columns
  refine ⟨columns, ?_⟩
  cases found : environments.lookup sandboxId with
  | none =>
    rw [found] at updated
    exact .inl ⟨rfl, (Except.ok.inj updated).symm⟩
  | some row =>
    rw [found] at updated
    exact .inr ⟨row, rfl, storeEnvironment_ok updated⟩

theorem incrementExtension_ok {newExpiresAt : Int}
    (extended : incrementExtension schema sandboxId newExpiresAt environments = .ok after) :
    environments.lookup sandboxId = none ∧ after = environments ∨
      ∃ row, environments.lookup sandboxId = some row ∧
        after = environments.insert sandboxId (row.extended newExpiresAt) ∧
        (row.extended newExpiresAt).meets schema = true := by
  unfold incrementExtension at extended
  cases found : environments.lookup sandboxId with
  | none =>
    rw [found] at extended
    exact .inl ⟨rfl, (Except.ok.inj extended).symm⟩
  | some row =>
    rw [found] at extended
    exact .inr ⟨row, rfl, storeEnvironment_ok extended⟩

end Statements

end CogniDQ.Sandbox

/-!
## The sandbox service

The lifecycle operations of sandbox environments. A call that raises leaves nothing behind: its
session is closed without a commit.
-/

namespace CogniDQ.Sandbox

open CogniDQ.Database CogniDQ.Python

structure Sandboxes (Uuid : Type) where
  environments : Rows Uuid (SandboxEnvironment Uuid)
  extensions : List (SandboxExtension Uuid)

inductive SandboxError where
  | notFound (message : String)
  | state (message : String)
  | validation (message : String)
  | database (message : String)

def maxExtensions : Nat := 2

/-- `validate_extension`: the fields with their messages. -/
def validateExtension (runtime : Runtime) (note : String) (currentExtensionCount : Nat) :
    List (String × String) :=
  (if (runtime.stripStr note).length < 10 then
    [("note", "An internal note (10+ chars) is required when extending.")] else []) ++
  if maxExtensions ≤ currentExtensionCount then
    [("extension_count", "Maximum of 2 extensions allowed per sandbox.")] else []

/-- The key, with the columns of a row. -/
abbrev EnvironmentRow (Uuid : Type) : Type := Uuid × SandboxEnvironment Uuid

abbrev ByExpiry (Uuid : Type) : Type :=
  OrderBy (EnvironmentRow Uuid) fun row => row.2.expiresAt.getD 0

abbrev ByArchival (Uuid : Type) : Type :=
  OrderBy (EnvironmentRow Uuid) fun row => row.2.archivedAt.getD 0

structure ScanSummary where
  remindersSent : Nat
  expired : Nat
  scannedAt : Int

structure CleanupSummary where
  archived : Nat
  processedAt : Int

inductive Call (Uuid : Type) where
  | extend (sandboxId : Uuid) (note : String) (adminId : Option Uuid) (extraDays now : Int)
  | suspend (sandboxId : Uuid) (now : Int)
  | archive (sandboxId : Uuid) (now : Int)
  | delete (sandboxId : Uuid) (force : Bool) (now : Int)
  | scanExpiring (reminderWindows : List Int) (graceHours now dbNow : Int)
  | cleanupExpired (graceDays : Int) (batchLimit : Nat) (now dbNow : Int)

section Service

variable {Uuid : Type} (byExpiry : ByExpiry Uuid) (byArchival : ByArchival Uuid)

def environmentRows (environments : Rows Uuid (SandboxEnvironment Uuid)) :
    List (EnvironmentRow Uuid) :=
  environments.entries.map fun entry => (entry.1, entry.2)

def listExpiring (environments : Rows Uuid (SandboxEnvironment Uuid)) (thresholdAt : Int) :
    List (EnvironmentRow Uuid) :=
  byExpiry.arrange ((environmentRows environments).filter fun row =>
    (decide (row.2.status = .active) || decide (row.2.status = .suspended)) &&
      row.2.expiresAt.any fun expiresAt => decide (expiresAt ≤ thresholdAt))

def listReadyForCleanup (environments : Rows Uuid (SandboxEnvironment Uuid)) (thresholdAt : Int)
    (limit : Nat) : List (EnvironmentRow Uuid) :=
  (byArchival.arrange ((environmentRows environments).filter fun row =>
    decide (row.2.status = .archived) &&
      row.2.archivedAt.any fun archivedAt => decide (archivedAt ≤ thresholdAt))).take limit

/-- The reminder of a window is due, within a quarter of an hour. -/
def remindable (window now : Int) (row : EnvironmentRow Uuid) : Bool :=
  decide (row.2.status = .active) && row.2.expiresAt.any fun expiresAt =>
    decide (hours window - 900000000 ≤ expiresAt - now) &&
      decide (expiresAt - now ≤ hours window + 900000000)

def expirable (graceCutoff : Int) (row : EnvironmentRow Uuid) : Bool :=
  decide (row.2.status = .active) && row.2.expiresAt.any fun expiresAt =>
    decide (expiresAt ≤ graceCutoff)

def cleanable (row : EnvironmentRow Uuid) : Bool :=
  decide (row.2.status = .expired) || decide (row.2.status = .suspended)

namespace SandboxService

def orDatabaseError {α : Type} : Except String α → Except SandboxError α
  | .ok value => .ok value
  | .error message => .error (.database message)

variable [DecidableEq Uuid] (schema : Schema Uuid) (sandboxes : Sandboxes Uuid)

/-! ### The sweeps -/

/-- The updates of `scan_expiring`, the first of which that is refused ends the call. -/
def expireAll (now : Int) (environments : Rows Uuid (SandboxEnvironment Uuid))
    (due : List (EnvironmentRow Uuid)) : Except String (Rows Uuid (SandboxEnvironment Uuid)) :=
  due.foldlM (fun environments row =>
    updateStatus schema row.1 { status := .expired } now environments) environments

def scanExpiring (reminderWindows : List Int) (graceHours now dbNow : Int) :
    Except SandboxError (ScanSummary × Sandboxes Uuid) := do
  let remindersSent := (reminderWindows.map fun window =>
    ((listExpiring byExpiry sandboxes.environments (now + hours window)).filter
      (remindable window now)).length).sum
  let graceCutoff := now - hours graceHours
  let due := (listExpiring byExpiry sandboxes.environments graceCutoff).filter
    (expirable graceCutoff)
  let environments ← orDatabaseError (expireAll schema dbNow sandboxes.environments due)
  .ok ({ remindersSent, expired := due.length, scannedAt := now }, { sandboxes with environments })

/-- One row of `cleanup_expired`, whose exceptions are logged. A refused update leaves no
transaction to go on with. -/
def cleanupRow (dbNow : Int) (state : Option (Rows Uuid (SandboxEnvironment Uuid)) × Nat)
    (row : EnvironmentRow Uuid) : Option (Rows Uuid (SandboxEnvironment Uuid)) × Nat :=
  if cleanable row then
    match state.1 with
    | none => state
    | some environments =>
      match updateStatus schema row.1 { status := .archived, setArchivedAt := true } dbNow
          environments with
      | .ok environments => (some environments, state.2 + 1)
      | .error _ => (none, state.2)
  else state

def cleanupExpired (graceDays : Int) (batchLimit : Nat) (now dbNow : Int) :
    CleanupSummary × Sandboxes Uuid :=
  let candidates :=
    listReadyForCleanup byArchival sandboxes.environments (now - days graceDays) batchLimit
  let cleaned := candidates.foldl (cleanupRow schema dbNow) (some sandboxes.environments, 0)
  ({ archived := cleaned.2, processedAt := now },
    { sandboxes with environments := cleaned.1.getD sandboxes.environments })

/-! ### The calls of administrators -/

variable [ToString Uuid] (runtime : Runtime)

def requireSandbox (sandboxId : Uuid) : Except SandboxError (SandboxEnvironment Uuid) :=
  match sandboxes.environments.lookup sandboxId with
  | some row => .ok row
  | none => .error (.notFound ("Sandbox " ++ toString sandboxId ++ " not found."))

def extend (sandboxId : Uuid) (note : String) (adminId : Option Uuid) (extraDays now : Int) :
    Except SandboxError (Sandboxes Uuid) := do
  let sandbox ← requireSandbox sandboxes sandboxId
  match validateExtension runtime note sandbox.extensionCount with
  | (field, message) :: _ => .error (.validation (field ++ ": " ++ message))
  | [] =>
    let oldExpiresAt := sandbox.expiresAt.getD now
    let newExpiresAt := oldExpiresAt + days extraDays
    let extensions ← orDatabaseError (createExtension schema
      { sandboxId, extendedBy := adminId, extensionDays := extraDays, note,
        previousExpiresAt := oldExpiresAt, newExpiresAt }
      sandboxes.environments sandboxes.extensions)
    let environments ← orDatabaseError
      (incrementExtension schema sandboxId newExpiresAt sandboxes.environments)
    .ok { environments, extensions }

def suspend (sandboxId : Uuid) (now : Int) : Except SandboxError (Sandboxes Uuid) := do
  let sandbox ← requireSandbox sandboxes sandboxId
  if [.suspended, .archived, .deleted].contains sandbox.status then
    .error (.state ("Cannot suspend sandbox in status '" ++ sandbox.status.text ++ "'."))
  else
    let environments ← orDatabaseError (updateStatus schema sandboxId
      { status := .suspended, setSuspendedAt := true } now sandboxes.environments)
    .ok { sandboxes with environments }

def archive (sandboxId : Uuid) (now : Int) : Except SandboxError (Sandboxes Uuid) := do
  let sandbox ← requireSandbox sandboxes sandboxId
  if [.active, .provisioning].contains sandbox.status then
    .error (.state "Suspend the sandbox before archiving.")
  else if [.archived, .deleted].contains sandbox.status then
    .error (.state ("Sandbox is already '" ++ sandbox.status.text ++ "'."))
  else
    let environments ← orDatabaseError (updateStatus schema sandboxId
      { status := .archived, setArchivedAt := true } now sandboxes.environments)
    .ok { sandboxes with environments }

def delete (sandboxId : Uuid) (force : Bool) (now : Int) :
    Except SandboxError (Sandboxes Uuid) := do
  let sandbox ← requireSandbox sandboxes sandboxId
  if sandbox.status = .deleted then .error (.state "Sandbox is already deleted.")
  else if force = false ∧ sandbox.status ≠ .archived then
    .error (.state "Archive the sandbox before deleting, or use force=True.")
  else
    let environments ← orDatabaseError (updateStatus schema sandboxId
      { status := .deleted, setDeletedAt := true } now sandboxes.environments)
    .ok { sandboxes with environments }

end SandboxService

variable [DecidableEq Uuid] [ToString Uuid] (runtime : Runtime) (schema : Schema Uuid)
  (sandboxes : Sandboxes Uuid)

def Call.perform : Call Uuid → Except SandboxError (Sandboxes Uuid)
  | .extend sandboxId note adminId extraDays now =>
    SandboxService.extend schema sandboxes runtime sandboxId note adminId extraDays now
  | .suspend sandboxId now => SandboxService.suspend schema sandboxes sandboxId now
  | .archive sandboxId now => SandboxService.archive schema sandboxes sandboxId now
  | .delete sandboxId force now => SandboxService.delete schema sandboxes sandboxId force now
  | .scanExpiring reminderWindows graceHours now dbNow =>
    (SandboxService.scanExpiring byExpiry schema sandboxes reminderWindows graceHours now
      dbNow).map (·.2)
  | .cleanupExpired graceDays batchLimit now dbNow =>
    .ok (SandboxService.cleanupExpired byArchival schema sandboxes graceDays batchLimit now dbNow).2

def Call.after (call : Call Uuid) : Sandboxes Uuid :=
  match call.perform byExpiry byArchival runtime schema sandboxes with
  | .ok next => next
  | .error _ => sandboxes

def Sandboxes.reached (calls : List (Call Uuid)) : Sandboxes Uuid :=
  calls.foldl (fun sandboxes call => call.after byExpiry byArchival runtime schema sandboxes)
    sandboxes

end Service

end CogniDQ.Sandbox
