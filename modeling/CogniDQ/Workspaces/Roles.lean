import Mathlib.Data.List.AList
import Mathlib.Data.List.Sort
import Mathlib.Data.List.Dedup

/-!
# Role assignments of a workspace

The fixed roles of the workspace access control, the tables its service reads and writes, and the
statements over `control.workspace_role_assignments` that every operation is built from.
-/

set_option autoImplicit false

namespace CogniDQ.Workspaces

def workspaceAdminRole : String := "workspace_administrator"

def fixedRolePermissions : List (String × List String) :=
  [("workspace_administrator",
      ["workspaces:read", "workspaces:write", "members:read", "members:write", "members:delete",
        "roles:read", "roles:assign", "roles:write", "datasources:read", "datasources:write",
        "datasources:delete", "datasources:execute", "datasets:read", "datasets:write",
        "datasets:delete", "rules:read", "rules:write", "rules:execute", "rules:delete",
        "flows:read", "flows:write", "flows:execute", "flows:delete", "executions:read",
        "executions:write", "issues:read", "issues:write", "incidents:read", "incidents:write",
        "alerts:read", "alerts:write", "reports:read", "settings:read", "settings:write",
        "view_audit_logs"]),
    ("data_engineer",
      ["workspaces:read", "members:read", "roles:read", "datasources:read", "datasources:write",
        "datasources:delete", "datasources:execute", "datasets:read", "datasets:write",
        "datasets:delete", "rules:read", "rules:write", "rules:execute", "rules:delete",
        "flows:read", "flows:write", "flows:execute", "flows:delete", "executions:read",
        "executions:write", "issues:read", "issues:write", "incidents:read", "incidents:write",
        "alerts:read", "alerts:write", "reports:read", "settings:read"]),
    ("data_steward",
      ["workspaces:read", "members:read", "roles:read", "datasources:read", "datasets:read",
        "datasets:write", "rules:read", "rules:write", "rules:execute", "flows:read",
        "flows:write", "flows:execute", "executions:read", "issues:read", "issues:write",
        "incidents:read", "incidents:write", "alerts:read", "reports:read", "settings:read"]),
    ("business_analyst",
      ["workspaces:read", "members:read", "roles:read", "datasets:read", "rules:read",
        "flows:read", "executions:read", "issues:read", "incidents:read", "reports:read"]),
    ("governance_viewer",
      ["workspaces:read", "members:read", "roles:read", "datasources:read", "datasets:read",
        "rules:read", "flows:read", "executions:read", "issues:read", "incidents:read",
        "reports:read"])]

def validRoleNames : List String := fixedRolePermissions.map (·.1)

def allKnownPermissions : List String := fixedRolePermissions.flatMap (·.2)

theorem workspaceAdminRole_valid : workspaceAdminRole ∈ validRoleNames := by
  decide

theorem length_lt_of_valid {name : String} (builtIn : name ∈ validRoleNames) :
    name.length < 60 := by
  have short : ∀ known ∈ validRoleNames, known.length < 60 := by decide +kernel
  exact short name builtIn

/-- The columns of a row of `control.workspace_role_assignments` beside its unique key. -/
structure Assignment (Uuid Moment : Type) where
  id : Uuid
  roleName : String
  grantedBy : Option Uuid
  grantedAt : Moment

/-- The rows under `uq_wra_user_workspace`, indexed by workspace and user. -/
abbrev Assignments (Uuid Moment : Type) : Type :=
  AList fun _ : Uuid × Uuid => Assignment Uuid Moment

section Statements

variable {Uuid Moment : Type}

def Assignment.isAdmin (row : Assignment Uuid Moment) : Bool := row.roleName == workspaceAdminRole

@[simp] theorem Assignment.isAdmin_iff {row : Assignment Uuid Moment} :
    row.isAdmin = true ↔ row.roleName = workspaceAdminRole := by
  simp [Assignment.isAdmin]

/-- The row `INSERT … ON CONFLICT (workspace_id, user_id) DO UPDATE` leaves: an existing row keeps
its identity. -/
def replacedRow (existing : Option (Assignment Uuid Moment)) (id : Uuid) (roleName : String)
    (grantedBy : Uuid) (now : Moment) : Assignment Uuid Moment :=
  match existing with
  | some row => { row with roleName, grantedBy := some grantedBy, grantedAt := now }
  | none => { id, roleName, grantedBy := some grantedBy, grantedAt := now }

@[simp] theorem replacedRow_roleName (existing : Option (Assignment Uuid Moment)) (id : Uuid)
    (roleName : String) (grantedBy : Uuid) (now : Moment) :
    (replacedRow existing id roleName grantedBy now).roleName = roleName := by
  cases existing <;> rfl

def administratorRow (id : Uuid) (now : Moment) : Assignment Uuid Moment :=
  { id, roleName := workspaceAdminRole, grantedBy := none, grantedAt := now }

variable [DecidableEq Uuid]

def getMemberRole (workspaceId userId : Uuid) (rows : Assignments Uuid Moment) :
    Option (Assignment Uuid Moment) :=
  rows.lookup (workspaceId, userId)

/-- The rows the subquery of `get_admin_count` selects, by their unique key. -/
def adminRows (workspaceId : Uuid) (rows : Assignments Uuid Moment) : List (Uuid × Uuid) :=
  (rows.entries.filter fun entry => entry.1.1 == workspaceId && entry.2.isAdmin).map (·.1)

def getAdminCount (workspaceId : Uuid) (rows : Assignments Uuid Moment) : Nat :=
  (adminRows workspaceId rows).length

end Statements

end CogniDQ.Workspaces

/-!
## Custom roles and role assignment

The operations of the workspace access control, each one run in a transaction of its own: an
operation that raises is rolled back.
-/

namespace CogniDQ.Workspaces

inductive Violation where
  | unique (constraint : String)
  | foreignKey (constraint : String)
  | check (constraint : String)
  | tooLong (limit : Nat)
  deriving DecidableEq

inductive RbacError where
  | valueError (message : String)
  | roleAssignmentNotFound (message : String)
  | lastWorkspaceAdministrator (message : String)
  | roleGrantFailed (message : String)
  | dataError (message : String)

/-- What the operations take from outside the access-control tables: the rows their foreign keys
refer to, the order of `ORDER BY permission`, and how identifiers and errors are written out. -/
structure Environment (Uuid : Type) where
  workspaces : Uuid → Bool
  users : Uuid → Bool
  collation : String → String → Bool
  str : Uuid → String
  repr : List String → String
  describe : Violation → String

structure CustomRole (Uuid Moment : Type) where
  id : Uuid
  workspaceId : Uuid
  name : String
  displayName : String
  description : Option String
  createdBy : Uuid
  createdAt : Moment
  updatedAt : Moment

/-- The access-control tables; a permission row is a role id and a permission. -/
structure Store (Uuid Moment : Type) where
  assignments : Assignments Uuid Moment
  customRoles : List (CustomRole Uuid Moment)
  customRolePermissions : List (Uuid × String)

def Store.empty {Uuid Moment : Type} : Store Uuid Moment := ⟨∅, [], []⟩

/-- The dict `get_custom_role` returns. -/
structure CustomRoleView (Uuid Moment : Type) where
  role : CustomRole Uuid Moment
  permissions : List String

/-- Storing in a `VARCHAR(limit)`: spaces past the limit are cut off, other text is refused. -/
def varchar (limit : Nat) (text : String) : Except Violation String :=
  if (text.toList.drop limit).all (· == ' ') then .ok (String.ofList (text.toList.take limit))
  else .error (.tooLong limit)

def nameFormat (name : String) : Bool :=
  match name.toList with
  | [] => false
  | initial :: rest =>
    initial.isLower && decide (2 ≤ rest.length) && decide (rest.length ≤ 59) &&
      rest.all fun c => c.isLower || c.isDigit || c == '_'

section Operations

variable {Uuid Moment : Type} [DecidableEq Uuid] (env : Environment Uuid)

def getCustomRole (workspaceId roleId : Uuid) (store : Store Uuid Moment) :
    Option (CustomRoleView Uuid Moment) :=
  (store.customRoles.find? fun role => role.workspaceId == workspaceId && role.id == roleId).map
    fun role =>
      { role
        permissions :=
          ((store.customRolePermissions.filter fun row => row.1 == role.id).map (·.2)).mergeSort
            env.collation }

def getCustomRoleByName (workspaceId : Uuid) (name : String) (store : Store Uuid Moment) :
    Option (CustomRoleView Uuid Moment) :=
  match store.customRoles.find? fun role => role.workspaceId == workspaceId && role.name == name with
  | none => none
  | some role => getCustomRole env workspaceId role.id store

def getRolePermissions (workspaceId : Uuid) (roleName : String) (store : Store Uuid Moment) :
    Option (List String) :=
  match fixedRolePermissions.lookup roleName with
  | some permissions => some permissions
  | none => (getCustomRoleByName env workspaceId roleName store).map (·.permissions)

def checkPermission (workspaceId userId : Uuid) (action : String) (store : Store Uuid Moment) :
    Bool :=
  match getMemberRole workspaceId userId store.assignments with
  | none => false
  | some assignment =>
    match getRolePermissions env workspaceId assignment.roleName store with
    | none => false
    | some permissions => decide (action ∈ permissions)

/-- The constraints an inserted or replaced assignment row meets. -/
def admitAssignment (workspaceId userId : Uuid) (row : Assignment Uuid Moment)
    (store : Store Uuid Moment) : Except Violation Unit :=
  if row.roleName.toList.all (· == ' ') then .error (.check "ck_wra_role_name_nonempty")
  else if store.assignments.entries.any fun entry =>
      entry.2.id == row.id && entry.1 != (workspaceId, userId) then
    .error (.unique "pk_workspace_role_assignments")
  else if !env.workspaces workspaceId then .error (.foreignKey "fk_wra_workspace")
  else if !env.users userId then .error (.foreignKey "fk_wra_user")
  else if !row.grantedBy.all env.users then .error (.foreignKey "fk_wra_granted_by")
  else .ok ()

def grantWorkspaceAdmin (workspaceId actorId : Uuid) (generatedId : Uuid) (now : Moment)
    (store : Store Uuid Moment) : Except RbacError (Store Uuid Moment) :=
  if (store.assignments.lookup (workspaceId, actorId)).isSome then .ok store
  else
    let row := administratorRow generatedId now
    match admitAssignment env workspaceId actorId row store with
    | .error violation =>
      .error (.roleGrantFailed s!"Failed to grant workspace_administrator for workspace {env.str workspaceId} to actor {env.str actorId}: {env.describe violation}")
    | .ok () => .ok { store with assignments := store.assignments.insert (workspaceId, actorId) row }

def assignRole (workspaceId userId : Uuid) (roleName : String) (grantedBy : Uuid)
    (raId : Uuid) (now : Moment) (store : Store Uuid Moment) :
    Except RbacError (Store Uuid Moment × Option (Assignment Uuid Moment)) :=
  if !decide (roleName ∈ validRoleNames) &&
      (getCustomRoleByName env workspaceId roleName store).isNone then
    .error (.valueError s!"Invalid role_name '{roleName}'. Must be a built-in role or a custom role defined in this workspace.")
  else
    let existing := getMemberRole workspaceId userId store.assignments
    if existing.any (·.isAdmin) && roleName != workspaceAdminRole &&
        decide (getAdminCount workspaceId store.assignments ≤ 1) then
      .error (.lastWorkspaceAdministrator s!"Cannot change role: user {env.str userId} is the last workspace_administrator in workspace {env.str workspaceId}.")
    else if existing.any (·.roleName == roleName) then .ok (store, existing)
    else
      let row := replacedRow existing raId roleName grantedBy now
      match admitAssignment env workspaceId userId row store with
      | .error violation =>
        .error (.roleGrantFailed s!"Failed to assign role '{roleName}' to user {env.str userId} in workspace {env.str workspaceId}: {env.describe violation}")
      | .ok () =>
        let assignments := store.assignments.insert (workspaceId, userId) row
        .ok ({ store with assignments }, getMemberRole workspaceId userId assignments)

def revokeRole (workspaceId userId : Uuid) (store : Store Uuid Moment) :
    Except RbacError (Store Uuid Moment) :=
  match getMemberRole workspaceId userId store.assignments with
  | none =>
    .error (.roleAssignmentNotFound s!"User {env.str userId} has no role assignment in workspace {env.str workspaceId}.")
  | some existing =>
    if existing.isAdmin && decide (getAdminCount workspaceId store.assignments ≤ 1) then
      .error (.lastWorkspaceAdministrator s!"Cannot revoke: user {env.str userId} is the last workspace_administrator in workspace {env.str workspaceId}.")
    else .ok { store with assignments := store.assignments.erase (workspaceId, userId) }

/-- `unknown`, the permissions that no built-in role grants. -/
def unknownPermissions (permissions : List String) : List String :=
  permissions.filter fun permission => !decide (permission ∈ allKnownPermissions)

def unknownPermissionsError (permissions : List String) : RbacError :=
  .valueError s!"Unknown permissions: {env.repr ((unknownPermissions permissions).mergeSort fun left right => decide (left ≤ right))}"

/-- The `INSERT` into `control.workspace_custom_roles`, under the table's constraints. -/
def insertCustomRole (role : CustomRole Uuid Moment) (store : Store Uuid Moment) :
    Except Violation (Store Uuid Moment) := do
  let name ← varchar 60 role.name
  let displayName ← varchar 120 role.displayName
  if !nameFormat name then .error (.check "ck_wcr_name_format")
  else if store.customRoles.any fun other => other.id == role.id then
    .error (.unique "pk_workspace_custom_roles")
  else if store.customRoles.any fun other =>
      other.workspaceId == role.workspaceId && other.name == name then
    .error (.unique "uq_wcr_workspace_name")
  else if !env.workspaces role.workspaceId then .error (.foreignKey "fk_wcr_workspace")
  else if !env.users role.createdBy then .error (.foreignKey "fk_wcr_created_by")
  else
    .ok { store with customRoles := store.customRoles ++ [{ role with name, displayName }] }

/-- The rows `for perm in set(permissions)` inserts for a role. -/
def permissionRows (roleId : Uuid) (permissions : List String) : List (Uuid × String) :=
  permissions.dedup.map fun permission => (roleId, permission)

/-- The loop of inserts into `control.workspace_custom_role_permissions`, under its primary key. -/
def insertPermissions (roleId : Uuid) (permissions : List String) (store : Store Uuid Moment) :
    Except Violation (Store Uuid Moment) :=
  let rows := permissionRows roleId permissions
  if rows.any fun row => decide (row ∈ store.customRolePermissions) then .error (.unique "pk_wcrp")
  else .ok { store with customRolePermissions := store.customRolePermissions ++ rows }

/-- `create_custom_role`. Only integrity errors are turned into a `ValueError`. -/
def createCustomRole (workspaceId : Uuid) (name displayName : String) (description : Option String)
    (permissions : List String) (createdBy : Uuid) (roleId : Uuid) (now : Moment)
    (store : Store Uuid Moment) :
    Except RbacError (Store Uuid Moment × Option (CustomRoleView Uuid Moment)) :=
  if name ∈ validRoleNames then
    .error (.valueError s!"Role name '{name}' is reserved by a built-in role.")
  else if unknownPermissions permissions ≠ [] then .error (unknownPermissionsError env permissions)
  else
    let role : CustomRole Uuid Moment :=
      { id := roleId, workspaceId, name, displayName, description, createdBy,
        createdAt := now, updatedAt := now }
    match insertCustomRole env role store >>= insertPermissions roleId permissions with
    | .error (.tooLong limit) => .error (.dataError (env.describe (.tooLong limit)))
    | .error _ =>
      .error (.valueError s!"A role named '{name}' already exists in this workspace or the name is invalid.")
    | .ok created => .ok (created, getCustomRole env workspaceId roleId created)

/-- The `UPDATE` of `control.workspace_custom_roles`; it does not write the name. -/
def updateCustomRoleRow (workspaceId roleId : Uuid) (displayName : String)
    (description : Option String) (now : Moment) (store : Store Uuid Moment) :
    Except Violation (Store Uuid Moment) := do
  let displayName ← varchar 120 displayName
  return { store with
    customRoles := store.customRoles.map fun role =>
      if role.workspaceId == workspaceId && role.id == roleId then
        { role with displayName, description, updatedAt := now }
      else role }

def replacePermissions (roleId : Uuid) (permissions : Option (List String))
    (store : Store Uuid Moment) : Except Violation (Store Uuid Moment) :=
  match permissions with
  | none => .ok store
  | some permissions =>
    insertPermissions roleId permissions
      { store with
        customRolePermissions := store.customRolePermissions.filter fun row => row.1 != roleId }

def customRoleNotFound (workspaceId roleId : Uuid) : RbacError :=
  .roleAssignmentNotFound s!"Custom role {env.str roleId} not found in workspace {env.str workspaceId}."

def updateCustomRole (workspaceId roleId : Uuid) (displayName description : Option String)
    (permissions : Option (List String)) (now : Moment) (store : Store Uuid Moment) :
    Except RbacError (Store Uuid Moment × Option (CustomRoleView Uuid Moment)) :=
  match getCustomRole env workspaceId roleId store with
  | none => .error (customRoleNotFound env workspaceId roleId)
  | some existing =>
    if unknownPermissions (permissions.getD []) ≠ [] then
      .error (unknownPermissionsError env (permissions.getD []))
    else
      let newDisplay := displayName.getD existing.role.displayName
      let newDescription := description.or existing.role.description
      match updateCustomRoleRow workspaceId roleId newDisplay newDescription now store >>=
          replacePermissions roleId permissions with
      | .error violation => .error (.dataError (env.describe violation))
      | .ok updated => .ok (updated, getCustomRole env workspaceId roleId updated)

/-- `delete_custom_role`. The permission rows go with their role. -/
def deleteCustomRole (workspaceId roleId : Uuid) (store : Store Uuid Moment) :
    Except RbacError (Store Uuid Moment) :=
  match getCustomRole env workspaceId roleId store with
  | none => .error (customRoleNotFound env workspaceId roleId)
  | some existing =>
    let inUse := store.assignments.entries.countP fun entry =>
      entry.1.1 == workspaceId && entry.2.roleName == existing.role.name
    if 0 < inUse then
      .error (.valueError s!"Cannot delete role '{existing.role.name}': {inUse} member(s) currently assigned. Reassign them first.")
    else
      .ok { store with
        customRoles := store.customRoles.filter fun role =>
          !(role.workspaceId == workspaceId && role.id == roleId)
        customRolePermissions := store.customRolePermissions.filter fun row => row.1 != roleId }

end Operations

end CogniDQ.Workspaces
