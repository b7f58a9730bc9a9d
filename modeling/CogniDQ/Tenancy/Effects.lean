import CogniDQ.Tenancy.WorkspaceService

/-!
# What a statement can do

Every step of a transaction is one of the effects below, with what its checks have established.
-/

set_option autoImplicit false

namespace CogniDQ.Tenancy

open CogniDQ.Database CogniDQ.Python

section

variable {Uuid : Type}

/-- Where a call goes with the workspace it has locked. -/
inductive Call.Opens (workspaceId : Uuid) (row : Workspace Uuid) : Call Uuid → Phase Uuid → Prop where
  | update (actor : Actor Uuid) (payload : UpdatePayload) (live : row.status ≠ .archived) :
      Opens workspaceId row (.updateWorkspace workspaceId row.tenantId actor payload)
        (.updating workspaceId row.tenantId actor payload row)
  | archive (actor : Actor Uuid) (statusReason : Value) (confirmLastWorkspace : Bool)
      (active : row.status = .active) :
      Opens workspaceId row
        (.archiveWorkspace workspaceId row.tenantId actor statusReason confirmLastWorkspace)
        (.archiving ⟨workspaceId, row.tenantId, actor, statusReason, confirmLastWorkspace, row⟩)
  | restore (actor : Actor Uuid) (archived : row.status = .archived) :
      Opens workspaceId row (.restoreWorkspace workspaceId row.tenantId actor)
        (.restoring workspaceId row.tenantId actor row)

variable {Tx : Type} [DecidableEq Tx] [DecidableEq Uuid]

/-- An active tenant, as a transaction reads it. -/
def World.Active (world : World Tx Uuid) (tx : Tx) (tenantId : Uuid) : Prop :=
  ∃ row, world.tenant tx tenantId = some row ∧ row.status = .active

/-- The last active workspace is kept, unless that is confirmed. -/
def World.Spared (world : World Tx Uuid) (tx : Tx) (archival : Archival Uuid) : Prop :=
  ¬(world.countActiveWorkspaces tx archival.tenantId = 1 ∧ archival.confirmLastWorkspace = false)

inductive World.Effect (settings : Settings Uuid) (world : World Tx Uuid) (tx : Tx)
    (action : Action Uuid) : World Tx Uuid → Prop where
  | failed (failure : Failure) : Effect settings world tx action (world.fail tx failure)
  | began (failure : Option Failure) (call : Call Uuid) (begins : action = .begin call)
      (at_ : world.phase tx = .idle failure) :
      Effect settings world tx action (world.goto tx (.calling call))
  | locked (call : Call Uuid) (workspaceId : Uuid) (row : Workspace Uuid) (phase : Phase Uuid)
      (at_ : world.phase tx = .calling call) (seen : world.workspace tx workspaceId = some row)
      (free : world.workspaces.free tx workspaceId) (opens : call.Opens workspaceId row phase) :
      Effect settings world tx action
        (({ world with workspaces := world.workspaces.lock tx workspaceId }).goto tx phase)
  | created (tenantId : Uuid) (actor : Actor Uuid) (payload : CreatePayload) (generated : Uuid)
      (now : Int) (proceeds : action = .proceed now generated)
      (at_ : world.phase tx = .calling (.createWorkspace tenantId actor payload))
      (active : world.Active tx tenantId) :
      Effect settings world tx action
        (world.goto tx (.writing (payload.change generated tenantId actor now)))
  | unchanged (workspaceId tenantId : Uuid) (actor : Actor Uuid) (payload : UpdatePayload)
      (row : Workspace Uuid) (at_ : world.phase tx = .updating workspaceId tenantId actor payload row) :
      Effect settings world tx action (world.goto tx (.committing none))
  | checkingName (workspaceId tenantId : Uuid) (actor : Actor Uuid) (payload : UpdatePayload)
      (row : Workspace Uuid) (name : String) (now : Int)
      (at_ : world.phase tx = .updating workspaceId tenantId actor payload row)
      (active : world.Active tx tenantId) (changes : payload.hasChanges workspaceId row) :
      Effect settings world tx action
        (world.goto tx (.naming (payload.change workspaceId tenantId actor row now) name))
  | updated (workspaceId tenantId : Uuid) (actor : Actor Uuid) (payload : UpdatePayload)
      (row : Workspace Uuid) (now : Int)
      (at_ : world.phase tx = .updating workspaceId tenantId actor payload row)
      (active : world.Active tx tenantId) (changes : payload.hasChanges workspaceId row) :
      Effect settings world tx action
        (world.goto tx (.writing (payload.change workspaceId tenantId actor row now)))
  | named (change : Change Uuid) (name : String) (at_ : world.phase tx = .naming change name) :
      Effect settings world tx action (world.goto tx (.writing change))
  | lockedAdvisory (archival : Archival Uuid) (reason : String)
      (at_ : world.phase tx = .archiving archival)
      (free : (world.advisory (settings.hashtext archival.tenantId)).all (· == tx)) :
      Effect settings world tx action
        (({ world with
          advisory :=
            Function.update world.advisory (settings.hashtext archival.tenantId) (some tx) }).goto
              tx (.counting archival reason))
  | archived (archival : Archival Uuid) (reason : String) (now : Int)
      (at_ : world.phase tx = .counting archival reason) (spared : world.Spared tx archival) :
      Effect settings world tx action
        (world.goto tx (.writing (archiveChange archival.workspaceId archival.tenantId
          archival.actor archival.workspace reason now)))
  | restored (workspaceId tenantId : Uuid) (actor : Actor Uuid) (row : Workspace Uuid) (now : Int)
      (generated : Uuid) (proceeds : action = .proceed now generated)
      (at_ : world.phase tx = .restoring workspaceId tenantId actor row)
      (active : world.Active tx tenantId) :
      Effect settings world tx action
        (world.goto tx (.writing (restoreChange workspaceId tenantId actor row now)))
  | wroteRow (change : Change Uuid) (row : Workspace Uuid) (at_ : world.phase tx = .writing change)
      (before : change.before = some row) (free : world.workspaces.free tx change.workspaceId) :
      Effect settings world tx action
        (({ world with
          workspaces := world.workspaces.write tx change.workspaceId (some change.after) }).goto tx
            (.auditing change))
  | insertedRow (change : Change Uuid) (at_ : world.phase tx = .writing change)
      (before : change.before = none) (free : world.workspaces.free tx change.workspaceId)
      (freeTenant : world.tenants.free tx change.after.tenantId)
      (new : world.workspace tx change.workspaceId = none) :
      Effect settings world tx action
        (({ world with
          workspaces := world.workspaces.write tx change.workspaceId (some change.after)
          keyShares := (tx, change.after.tenantId) :: world.keyShares }).goto tx (.auditing change))
  | wroteAudit (change : Change Uuid) (at_ : world.phase tx = .auditing change)
      (freeTenant : world.tenants.free tx change.after.tenantId) :
      Effect settings world tx action (world.writeAudit tx change)
  | committed (change : Option (Change Uuid)) (at_ : world.phase tx = .committing change) :
      Effect settings world tx action (world.commit tx)
  | lockedTenant (tenantId : Uuid) (actor : Actor Uuid) (target : TenantStatus)
      (statusReason : Option String) (transition : Transition Uuid) (row : Tenant Uuid)
      (now : Int) (generated : Uuid) (proceeds : action = .proceed now generated)
      (at_ : world.phase tx = .calling (.changeStatus tenantId actor target statusReason))
      (free : world.tenants.free tx tenantId)
      (unshared : world.keyShares.all fun share => share.1 == tx || share.2 != tenantId)
      (seen : world.tenant tx tenantId = some row)
      (checked : checkTransition settings.unicode tenantId actor row.status target statusReason =
        .ok transition) :
      Effect settings world tx action
        (({ world with tenants := world.tenants.lock tx tenantId }).goto tx
          (.writingTenant transition row))
  | wroteTenant (transition : Transition Uuid) (row : Tenant Uuid)
      (at_ : world.phase tx = .writingTenant transition row) :
      Effect settings world tx action (world.writeTenant tx transition row)
  | selected (transition : Transition Uuid) (at_ : world.phase tx = .selecting transition) :
      Effect settings world tx action (world.selectCascade tx transition)
  | skippedRow (transition : Transition Uuid) (remaining : List Uuid) (workspaceId : Uuid)
      (at_ : world.phase tx = .cascading transition remaining)
      (unaffected : (world.workspace tx workspaceId).filter transition.selects = none) :
      Effect settings world tx action
        (world.goto tx (.cascading transition (remaining.erase workspaceId)))
  | cascadedRow (transition : Transition Uuid) (remaining : List Uuid) (workspaceId : Uuid)
      (row : Workspace Uuid) (now : Int) (at_ : world.phase tx = .cascading transition remaining)
      (free : world.workspaces.free tx workspaceId)
      (seen : world.workspace tx workspaceId = some row) (selects : transition.selects row) :
      Effect settings world tx action
        (({ world with
          workspaces := world.workspaces.write tx workspaceId
            (some (transition.cascade row now)) }).goto tx
              (.cascading transition (remaining.erase workspaceId)))
  | cascaded (transition : Transition Uuid) (at_ : world.phase tx = .cascading transition []) :
      Effect settings world tx action (world.commit tx)

variable {settings : Settings Uuid} {world next : World Tx Uuid} {tx : Tx} {action : Action Uuid}

private theorem effect_lockWorkspace {workspaceId tenantId : Uuid} {call : Call Uuid}
    {check : Workspace Uuid → Except Failure (Phase Uuid)}
    (at_ : world.phase tx = .calling call)
    (opens : ∀ row phase, row.tenantId = tenantId → check row = .ok phase →
      call.Opens workspaceId row phase)
    (stepped : world.lockWorkspace tx workspaceId tenantId check = some next) :
    world.Effect settings tx action next := by
  unfold World.lockWorkspace at stepped
  split at stepped
  · cases stepped
    exact .failed _
  · rename_i row seen
    split_ifs at stepped with same free
    · split at stepped
      · cases stepped
        exact .failed _
      · rename_i phase checked
        cases stepped
        exact .locked call workspaceId row phase at_ seen free (opens row phase same checked)
    · cases stepped
      exact .failed _

theorem effect_checkTenant {tenantId : Uuid} {phase : Phase Uuid}
    (passes : world.Active tx tenantId → world.Effect settings tx action (world.goto tx phase)) :
    world.Effect settings tx action (world.checkTenant tx tenantId phase) := by
  unfold World.checkTenant
  split
  · exact .failed _
  · rename_i row seen
    split_ifs with active
    · exact passes ⟨row, seen, active⟩
    · exact .failed _

private theorem effect_lockTenant {tenantId : Uuid} {actor : Actor Uuid} {target : TenantStatus}
    {statusReason : Option String} {now : Int} {generated : Uuid}
    (proceeds : action = .proceed now generated)
    (at_ : world.phase tx = .calling (.changeStatus tenantId actor target statusReason)) :
    world.Effect settings tx action (world.lockTenant tx settings tenantId actor target statusReason) := by
  unfold World.lockTenant
  split
  · rename_i available
    obtain ⟨free, unshared⟩ := Bool.and_eq_true_iff.mp available
    split
    · exact .failed _
    · rename_i row seen
      split
      · exact .failed _
      · rename_i transition checked
        exact .lockedTenant tenantId actor target statusReason transition row now generated proceeds at_
          free unshared seen checked
  · exact .failed _

private theorem effect_begin {call : Call Uuid} {now : Int} {generated : Uuid}
    (proceeds : action = .proceed now generated) (at_ : world.phase tx = .calling call)
    (stepped : world.begin tx settings now generated call = some next) :
    world.Effect settings tx action next := by
  cases call with
  | createWorkspace tenantId actor payload =>
      cases stepped
      exact effect_checkTenant fun active =>
        .created tenantId actor payload generated now proceeds at_ active
  | updateWorkspace workspaceId tenantId actor payload =>
      refine effect_lockWorkspace at_ (fun row phase same checked => ?_) stepped
      split_ifs at checked with status
      cases checked
      subst same
      exact .update actor payload status
  | archiveWorkspace workspaceId tenantId actor statusReason confirmLastWorkspace =>
      refine effect_lockWorkspace at_ (fun row phase same checked => ?_) stepped
      split_ifs at checked with status
      cases checked
      subst same
      exact .archive actor statusReason confirmLastWorkspace status
  | restoreWorkspace workspaceId tenantId actor =>
      refine effect_lockWorkspace at_ (fun row phase same checked => ?_) stepped
      split_ifs at checked with status
      cases checked
      subst same
      exact .restore actor status
  | changeStatus tenantId actor target statusReason =>
      cases stepped
      exact effect_lockTenant proceeds at_

theorem effect_update {workspaceId tenantId : Uuid} {actor : Actor Uuid} {payload : UpdatePayload}
    {row : Workspace Uuid} (now : Int)
    (at_ : world.phase tx = .updating workspaceId tenantId actor payload row) :
    world.Effect settings tx action (world.update tx workspaceId tenantId actor payload row now) := by
  unfold World.update
  refine effect_checkTenant fun active => ?_
  split_ifs with changes
  · split
    · exact .updated workspaceId tenantId actor payload row now at_ active changes
    · split_ifs
      · exact .updated workspaceId tenantId actor payload row now at_ active changes
      · exact .checkingName workspaceId tenantId actor payload row _ now at_ active changes
  · exact .unchanged workspaceId tenantId actor payload row at_

theorem effect_lockAdvisory {archival : Archival Uuid} (at_ : world.phase tx = .archiving archival)
    (stepped : world.lockAdvisory tx settings archival = some next) :
    world.Effect settings tx action next := by
  unfold World.lockAdvisory at stepped
  dsimp only at stepped
  split_ifs at stepped with free
  split at stepped
  · cases stepped
    exact .failed _
  · cases stepped
    exact .lockedAdvisory archival _ at_ free

private theorem effect_write {change : Change Uuid} (at_ : world.phase tx = .writing change)
    (stepped : world.write tx change = some next) : world.Effect settings tx action next := by
  unfold World.write at stepped
  dsimp only at stepped
  split at stepped
  · rename_i free
    split at stepped
    · rename_i row before
      cases stepped
      exact .wroteRow change row at_ before free
    · rename_i before
      split_ifs at stepped with freeTenant refused
      · cases stepped
        exact .failed _
      · cases stepped
        refine .insertedRow change at_ before free freeTenant ?_
        simpa using (not_or.mp refused).1
  · cases stepped

private theorem effect_cascadeRow {transition : Transition Uuid} {remaining : List Uuid}
    {workspaceId : Uuid} {now : Int} (at_ : world.phase tx = .cascading transition remaining)
    (stepped : world.cascadeRow tx transition remaining workspaceId now = some next) :
    world.Effect settings tx action next := by
  unfold World.cascadeRow at stepped
  split_ifs at stepped with listed free
  split at stepped
  · rename_i unaffected
    cases stepped
    exact .skippedRow transition remaining workspaceId at_ unaffected
  · rename_i row selected
    cases stepped
    obtain ⟨seen, selects⟩ := Option.filter_eq_some_iff.mp selected
    exact .cascadedRow transition remaining workspaceId row now at_ free seen selects

theorem step_effect (stepped : world.step settings (tx, action) = some next) :
    world.Effect settings tx action next := by
  cases action with
  | begin call =>
      dsimp only [World.step] at stepped
      split at stepped
      · rename_i failure at_
        cases stepped
        exact .began failure call rfl at_
      · cases stepped
  | proceed now generated =>
      dsimp only [World.step] at stepped
      cases at_ : world.phase tx with
      | idle => rw [at_] at stepped; cases stepped
      | calling call => rw [at_] at stepped; exact effect_begin rfl at_ stepped
      | updating => rw [at_] at stepped; cases stepped; exact effect_update now at_
      | naming change name =>
          rw [at_] at stepped
          dsimp only [World.proceed] at stepped
          split_ifs at stepped
          · cases stepped
            exact .failed _
          · cases stepped
            exact .named change name at_
      | archiving => rw [at_] at stepped; exact effect_lockAdvisory at_ stepped
      | counting archival reason =>
          rw [at_] at stepped
          cases stepped
          unfold World.guardLast
          split
          · exact .failed _
          · rename_i spared
            exact .archived archival reason now at_ spared
      | restoring workspaceId tenantId actor row =>
          rw [at_] at stepped
          cases stepped
          exact effect_checkTenant fun active =>
            .restored workspaceId tenantId actor row now generated rfl at_ active
      | writing => rw [at_] at stepped; exact effect_write at_ stepped
      | auditing change =>
          rw [at_] at stepped
          dsimp only [World.proceed] at stepped
          split_ifs at stepped with freeTenant
          cases stepped
          exact .wroteAudit change at_ freeTenant
      | committing change => rw [at_] at stepped; cases stepped; exact .committed change at_
      | writingTenant transition row =>
          rw [at_] at stepped
          cases stepped
          exact .wroteTenant transition row at_
      | selecting transition => rw [at_] at stepped; cases stepped; exact .selected transition at_
      | cascading transition remaining =>
          rw [at_] at stepped
          cases remaining with
          | nil => cases stepped; exact .cascaded transition at_
          | cons => cases stepped
  | cascadeRow workspaceId now =>
      dsimp only [World.step] at stepped
      split at stepped
      · rename_i at_
        exact effect_cascadeRow at_ stepped
      · cases stepped
  | abort =>
      dsimp only [World.step] at stepped
      split at stepped
      · cases stepped
      · cases stepped
        exact .failed _

end

end CogniDQ.Tenancy
