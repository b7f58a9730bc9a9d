import CogniDQ.Tenancy.Effects

/-!
# Locks and uncommitted writes

What a transaction relies on stays as it is until it ends: the row it has locked, its writes and
its audit entry. No step of another transaction touches them.
-/

set_option autoImplicit false

namespace CogniDQ.Tenancy

open CogniDQ.Database CogniDQ.Protocol

section Changes

variable {Uuid : Type} [DecidableEq Uuid]

/-- The changes of a workspace that the calls make. -/
inductive Change.Made : Change Uuid → Prop where
  | created (payload : CreatePayload) (workspaceId tenantId : Uuid) (actor : Actor Uuid)
      (now : Int) : Made (payload.change workspaceId tenantId actor now)
  | updated (payload : UpdatePayload) (workspaceId : Uuid) (actor : Actor Uuid)
      (row : Workspace Uuid) (now : Int) (changes : payload.hasChanges workspaceId row)
      (live : row.status ≠ .archived) :
      Made (payload.change workspaceId row.tenantId actor row now)
  | archived (workspaceId : Uuid) (actor : Actor Uuid) (row : Workspace Uuid) (reason : String)
      (now : Int) (active : row.status = .active) :
      Made (archiveChange workspaceId row.tenantId actor row reason now)
  | restored (workspaceId : Uuid) (actor : Actor Uuid) (row : Workspace Uuid) (now : Int)
      (archived : row.status = .archived) :
      Made (restoreChange workspaceId row.tenantId actor row now)

/-- What the checks of a call have established of the row it has locked. -/
def Phase.Checked : Phase Uuid → Prop
  | .updating _ tenantId _ _ row => row.tenantId = tenantId ∧ row.status ≠ .archived
  | .archiving archival =>
    archival.workspace.tenantId = archival.tenantId ∧ archival.workspace.status = .active
  | .counting archival _ =>
    archival.workspace.tenantId = archival.tenantId ∧ archival.workspace.status = .active
  | .restoring _ tenantId _ row => row.tenantId = tenantId ∧ row.status = .archived
  | .naming change _ => change.Made ∧ change.before.isSome
  | .writing change => change.Made
  | .auditing change => change.Made
  | .committing (some change) => change.Made
  | .writingTenant transition _ => allowedTransition transition.source transition.target
  | .selecting transition => allowedTransition transition.source transition.target
  | .cascading transition _ => allowedTransition transition.source transition.target
  | _ => True

def Phase.change : Phase Uuid → Option (Change Uuid)
  | .naming change _ => some change
  | .writing change => some change
  | .auditing change => some change
  | .committing change => change
  | _ => none

def Phase.reserved : Phase Uuid → Option (Uuid × Option (Workspace Uuid))
  | .updating workspaceId _ _ _ row => some (workspaceId, some row)
  | .archiving archival => some (archival.workspaceId, some archival.workspace)
  | .counting archival _ => some (archival.workspaceId, some archival.workspace)
  | .restoring workspaceId _ _ row => some (workspaceId, some row)
  | .naming change _ => some (change.workspaceId, change.before)
  | .writing change => change.before.map fun row => (change.workspaceId, some row)
  | .auditing change => some (change.workspaceId, change.before)
  | .committing change => change.map fun change => (change.workspaceId, change.before)
  | _ => none

def Phase.tenantChange : Phase Uuid → Option (Transition Uuid)
  | .writingTenant transition _ => some transition
  | .selecting transition => some transition
  | .cascading transition _ => some transition
  | _ => none

def Phase.Written (committed : Rows Uuid (Workspace Uuid))
    (pending : Rows Uuid (Option (Workspace Uuid))) : Phase Uuid → Prop
  | .auditing change => pending = AList.insert change.workspaceId (some change.after) ∅
  | .committing (some change) => pending = AList.insert change.workspaceId (some change.after) ∅
  | .cascading transition _ => ∀ workspaceId value, pending.lookup workspaceId = some value →
      ∃ row now, committed.lookup workspaceId = some row ∧ transition.selects row ∧
        value = some (transition.cascade row now)
  | _ => pending = ∅

def Phase.TenantWritten (pending : Rows Uuid (Option (Tenant Uuid))) : Phase Uuid → Prop
  | .selecting transition => ∃ row,
      pending = AList.insert transition.tenantId (some (transition.tenantRow row)) ∅
  | .cascading transition _ => ∃ row,
      pending = AList.insert transition.tenantId (some (transition.tenantRow row)) ∅
  | _ => pending = ∅

def Phase.entries : Phase Uuid → List (AuditEntry Uuid)
  | .committing (some change) => [change.entry]
  | _ => []

/-- Nothing is written yet. -/
def Phase.Quiet : Phase Uuid → Prop
  | .auditing _ => False
  | .committing (some _) => False
  | .selecting _ => False
  | .cascading _ _ => False
  | _ => True

section Quiet

variable {phase : Phase Uuid} (quiet : phase.Quiet)

include quiet

theorem written_of_quiet {committed : Rows Uuid (Workspace Uuid)}
    {pending : Rows Uuid (Option (Workspace Uuid))} :
    phase.Written committed pending ↔ pending = ∅ := by
  cases phase with
  | auditing | selecting | cascading => exact quiet.elim
  | committing change =>
      cases change with
      | none => exact Iff.rfl
      | some => exact quiet.elim
  | _ => exact Iff.rfl

theorem tenantWritten_of_quiet {pending : Rows Uuid (Option (Tenant Uuid))} :
    phase.TenantWritten pending ↔ pending = ∅ := by
  cases phase with
  | selecting | cascading => exact quiet.elim
  | _ => exact Iff.rfl

omit [DecidableEq Uuid] in
theorem entries_of_quiet : phase.entries = [] := by
  cases phase with
  | committing change =>
      cases change with
      | none => rfl
      | some => exact quiet.elim
  | _ => rfl

end Quiet

omit [DecidableEq Uuid] in
theorem checkTransition_ok {unicode : Python.Unicode} {tenantId : Uuid} {actor : Actor Uuid}
    {source target : TenantStatus} {statusReason : Option String} {transition : Transition Uuid}
    (ok : checkTransition unicode tenantId actor source target statusReason = .ok transition) :
    transition.tenantId = tenantId ∧ transition.source = source ∧ transition.target = target ∧
      allowedTransition transition.source transition.target := by
  unfold checkTransition at ok
  split_ifs at ok with same allowed
  cases reason : transitionReason unicode target statusReason with
  | error failure =>
      rw [reason] at ok
      cases ok
  | ok text =>
      rw [reason] at ok
      cases ok
      exact ⟨rfl, rfl, rfl, allowed⟩

theorem cascade_unselected (transition : Transition Uuid) (row : Workspace Uuid) (now : Int) :
    transition.selects (transition.cascade row now) = false ∨ transition.selects row = false := by
  cases target : transition.target with
  | draft => right; simp [Transition.selects, Transition.affects, target]
  | active =>
      left
      simp [Transition.selects, Transition.affects, Transition.cascade, target]
  | suspended =>
      left
      simp [Transition.selects, Transition.affects, Transition.cascade, target]
  | archived =>
      left
      simp [Transition.selects, Transition.affects, Transition.cascade, target]

end Changes

section Worlds

variable {Tx Uuid : Type} [DecidableEq Tx] [DecidableEq Uuid]

structure World.Grounded (world : World Tx Uuid) (tx : Tx) : Prop where
  checked : (world.phase tx).Checked
  reserved : ∀ workspaceId before, (world.phase tx).reserved = some (workspaceId, before) →
    world.workspaces.holder workspaceId = some tx ∧
      world.workspaces.committed.lookup workspaceId = before
  locked : ∀ transition, (world.phase tx).tenantChange = some transition →
    world.tenants.holder transition.tenantId = some tx ∧
      ∃ row, world.tenants.committed.lookup transition.tenantId = some row ∧
        row.status = transition.source
  written : (world.phase tx).Written world.workspaces.committed (world.workspaces.pending tx)
  tenantWritten : (world.phase tx).TenantWritten (world.tenants.pending tx)
  recorded : world.entries tx = (world.phase tx).entries

structure World.Sound (world : World Tx Uuid) : Prop where
  owned : world.workspaces.Owned
  ownedTenants : world.tenants.Owned
  grounded : ∀ tx, world.Grounded tx

omit [DecidableEq Tx] in
theorem World.sound_start {workspaces : Rows Uuid (Workspace Uuid)}
    {tenants : Rows Uuid (Tenant Uuid)} {audit : List (AuditEntry Uuid)} :
    (World.start workspaces tenants audit : World Tx Uuid).Sound where
  owned := Table.owned_quiet _
  ownedTenants := Table.owned_quiet _
  grounded _ :=
    { checked := trivial
      reserved := fun _ _ reserved => nomatch reserved
      locked := fun _ locked => nomatch locked
      written := rfl
      tenantWritten := rfl
      recorded := rfl }

/-- What a step of one transaction leaves to another. -/
structure World.Frame (before after : World Tx Uuid) (other : Tx) : Prop where
  workspaces : before.workspaces.Frame after.workspaces other
  tenants : before.tenants.Frame after.tenants other
  advisory : ∀ key, before.advisory key = some other → after.advisory key = some other
  entries : after.entries other = before.entries other
  phase : after.phase other = before.phase other

variable {settings : Settings Uuid} {world next : World Tx Uuid} {tx other : Tx}
  {action : Action Uuid}

omit [DecidableEq Tx] in
theorem World.Grounded.frame (grounded : world.Grounded other) (owned : world.workspaces.Owned)
    (frame : world.Frame next other) : next.Grounded other := by
  obtain ⟨workspaces, tenants, _, entries, phase⟩ := frame
  constructor
  · rw [phase]
    exact grounded.checked
  · intro workspaceId before reserved
    rw [phase] at reserved
    obtain ⟨held, committed⟩ := grounded.reserved workspaceId before reserved
    exact ⟨workspaces.held _ held, (workspaces.committed _ held).trans committed⟩
  · intro transition locked
    rw [phase] at locked
    obtain ⟨held, row, committed, status⟩ := grounded.locked transition locked
    exact ⟨tenants.held _ held, row, (tenants.committed _ held).trans committed, status⟩
  · have written := grounded.written
    rw [phase, workspaces.pending]
    unfold Phase.Written at written ⊢
    split at written
    · exact written
    · exact written
    · intro workspaceId value lookup
      obtain ⟨row, now, committed, rest⟩ := written workspaceId value lookup
      have held := owned other workspaceId (by rw [lookup]; rfl)
      exact ⟨row, now, (workspaces.committed _ held).trans committed, rest⟩
    · exact written
  · rw [phase, tenants.pending]
    exact grounded.tenantWritten
  · rw [phase, entries]
    exact grounded.recorded

theorem World.Grounded.freeTenant (grounded : world.Grounded tx) {transition : Transition Uuid}
    (changing : (world.phase tx).tenantChange = some transition) :
    world.tenants.free tx transition.tenantId = true :=
  Table.free_iff.mpr fun _ held =>
    Option.some.inj (held.symm.trans (grounded.locked transition changing).1)

omit [DecidableEq Tx] in
theorem World.Grounded.unwritten (grounded : world.Grounded tx) (quiet : (world.phase tx).Quiet) :
    world.workspaces.pending tx = ∅ ∧ world.tenants.pending tx = ∅ ∧ world.entries tx = [] :=
  ⟨(written_of_quiet quiet).mp grounded.written,
    (tenantWritten_of_quiet quiet).mp grounded.tenantWritten,
    grounded.recorded.trans (entries_of_quiet quiet)⟩

private theorem frame_of_goto (phase : Phase Uuid) (apart : other ≠ tx) :
    world.Frame (world.goto tx phase) other :=
  ⟨.refl _ _, .refl _ _, fun _ held => held, rfl, Function.update_of_ne apart ..⟩

theorem frame_finish (failure : Option Failure) (apart : other ≠ tx) :
    world.Frame (world.finish tx failure) other := by
  refine ⟨Table.frame_release apart, Table.frame_release apart, fun key held => ?_,
    Function.update_of_ne apart .., Function.update_of_ne apart ..⟩
  have different : world.advisory key ≠ some tx := by
    rw [held]
    exact fun same => apart (Option.some.inj same)
  exact (if_neg different).trans held

theorem frame_commit (sound : world.Sound) (apart : other ≠ tx) :
    world.Frame (world.commit tx) other := by
  have finished : world.Frame (world.finish tx none) other := frame_finish none apart
  exact ⟨Table.frame_commit sound.owned apart, Table.frame_commit sound.ownedTenants apart,
    finished.advisory, finished.entries, finished.phase⟩

theorem effect_frame (sound : world.Sound) (effect : world.Effect settings tx action next)
    (apart : other ≠ tx) : world.Frame next other := by
  cases effect with
  | failed => exact frame_finish _ apart
  | began | created | unchanged | checkingName | updated | named | archived | restored | selected
  | skippedRow => exact frame_of_goto _ apart
  | locked call workspaceId row phase at_ seen free opens =>
      exact ⟨Table.frame_lock free apart, .refl _ _, fun _ held => held, rfl,
        Function.update_of_ne apart ..⟩
  | lockedAdvisory archival reason at_ free =>
      refine ⟨.refl _ _, .refl _ _, fun key held => ?_, rfl, Function.update_of_ne apart ..⟩
      have different : key ≠ settings.hashtext archival.tenantId := by
        rintro rfl
        rw [held] at free
        exact apart (by simpa using free)
      exact (Function.update_of_ne different ..).trans held
  | wroteRow change row at_ before free =>
      exact ⟨Table.frame_write free _ apart, .refl _ _, fun _ held => held, rfl,
        Function.update_of_ne apart ..⟩
  | insertedRow change at_ before free =>
      exact ⟨Table.frame_write free _ apart, .refl _ _, fun _ held => held, rfl,
        Function.update_of_ne apart ..⟩
  | wroteAudit =>
      exact ⟨.refl _ _, .refl _ _, fun _ held => held, Function.update_of_ne apart ..,
        Function.update_of_ne apart ..⟩
  | committed => exact frame_commit sound apart
  | cascaded => exact frame_commit sound apart
  | lockedTenant tenantId actor target statusReason transition row now generated proceeds at_ free =>
      exact ⟨.refl _ _, Table.frame_lock free apart, fun _ held => held, rfl,
        Function.update_of_ne apart ..⟩
  | wroteTenant transition row at_ =>
      have free : world.tenants.free tx transition.tenantId = true :=
        (sound.grounded tx).freeTenant (by rw [at_]; rfl)
      exact ⟨.refl _ _, Table.frame_write free _ apart, fun _ held => held, rfl,
        Function.update_of_ne apart ..⟩
  | cascadedRow transition remaining workspaceId row now at_ free =>
      exact ⟨Table.frame_write free _ apart, .refl _ _, fun _ held => held, rfl,
        Function.update_of_ne apart ..⟩

private theorem effect_owned (sound : world.Sound) (effect : world.Effect settings tx action next) :
    next.workspaces.Owned ∧ next.tenants.Owned := by
  obtain ⟨owned, ownedTenants, grounded⟩ := sound
  cases effect with
  | failed => exact ⟨owned.release tx, ownedTenants.release tx⟩
  | began | created | unchanged | checkingName | updated | named | archived | restored | selected
  | skippedRow | lockedAdvisory | wroteAudit => exact ⟨owned, ownedTenants⟩
  | locked call workspaceId row phase at_ seen free opens => exact ⟨owned.lock free, ownedTenants⟩
  | wroteRow change row at_ before free => exact ⟨owned.write free _, ownedTenants⟩
  | insertedRow change at_ before free => exact ⟨owned.write free _, ownedTenants⟩
  | committed => exact ⟨owned.release tx, ownedTenants.release tx⟩
  | cascaded => exact ⟨owned.release tx, ownedTenants.release tx⟩
  | lockedTenant tenantId actor target statusReason transition row now generated proceeds at_ free =>
      exact ⟨owned, ownedTenants.lock free⟩
  | wroteTenant transition row at_ =>
      have free : world.tenants.free tx transition.tenantId = true :=
        (grounded tx).freeTenant (by rw [at_]; rfl)
      exact ⟨owned, ownedTenants.write free _⟩
  | cascadedRow transition remaining workspaceId row now at_ free =>
      exact ⟨owned.write free _, ownedTenants⟩

omit [DecidableEq Tx] in
theorem grounded_at {phase : Phase Uuid} (at_ : next.phase tx = phase) (checked : phase.Checked)
    (reserved : ∀ workspaceId before, phase.reserved = some (workspaceId, before) →
      next.workspaces.holder workspaceId = some tx ∧
        next.workspaces.committed.lookup workspaceId = before)
    (locked : ∀ transition, phase.tenantChange = some transition →
      next.tenants.holder transition.tenantId = some tx ∧
        ∃ row, next.tenants.committed.lookup transition.tenantId = some row ∧
          row.status = transition.source)
    (written : phase.Written next.workspaces.committed (next.workspaces.pending tx))
    (tenantWritten : phase.TenantWritten (next.tenants.pending tx))
    (recorded : next.entries tx = phase.entries) : next.Grounded tx := by
  subst at_
  exact ⟨checked, reserved, locked, written, tenantWritten, recorded⟩

theorem World.Grounded.goto (grounded : world.Grounded tx) {phase : Phase Uuid}
    (checked : phase.Checked)
    (reserved : phase.reserved = none ∨ phase.reserved = (world.phase tx).reserved)
    (locked : phase.tenantChange = none ∨ phase.tenantChange = (world.phase tx).tenantChange)
    (written : phase.Written world.workspaces.committed (world.workspaces.pending tx))
    (tenantWritten : phase.TenantWritten (world.tenants.pending tx))
    (entries : (world.phase tx).entries = phase.entries) : (world.goto tx phase).Grounded tx := by
  refine grounded_at (Function.update_self ..) checked ?_ ?_ written tenantWritten
    (grounded.recorded.trans entries)
  · intro workspaceId before found
    rcases reserved with none_ | same
    · rw [none_] at found
      cases found
    · rw [same] at found
      exact grounded.reserved workspaceId before found
  · intro transition found
    rcases locked with none_ | same
    · rw [none_] at found
      cases found
    · rw [same] at found
      exact grounded.locked transition found

omit [DecidableEq Tx] in
theorem grounded_idle {failure : Option Failure} (at_ : next.phase tx = .idle failure)
    (workspaces : next.workspaces.pending tx = ∅) (tenants : next.tenants.pending tx = ∅)
    (entries : next.entries tx = []) : next.Grounded tx :=
  grounded_at at_ trivial (fun _ _ reserved => nomatch reserved) (fun _ locked => nomatch locked)
    workspaces tenants entries

theorem grounded_finish (failure : Option Failure) : (world.finish tx failure).Grounded tx :=
  grounded_idle (Function.update_self ..) (Function.update_self ..) (Function.update_self ..)
    (Function.update_self ..)

private theorem grounded_commit : (world.commit tx).Grounded tx :=
  grounded_idle (Function.update_self ..) (Function.update_self ..) (Function.update_self ..)
    (Function.update_self ..)

private theorem World.Grounded.quiet (grounded : world.Grounded tx) {phase : Phase Uuid}
    (before : (world.phase tx).Quiet) (after : phase.Quiet) (checked : phase.Checked)
    (reserved : phase.reserved = none ∨ phase.reserved = (world.phase tx).reserved)
    (locked : phase.tenantChange = none) : (world.goto tx phase).Grounded tx := by
  obtain ⟨written, tenantWritten, entries⟩ := grounded.unwritten before
  apply grounded.goto checked reserved (.inl locked)
  · exact (written_of_quiet after).mpr written
  · exact (tenantWritten_of_quiet after).mpr tenantWritten
  · rw [entries_of_quiet before, entries_of_quiet after]

omit [DecidableEq Tx] in
private theorem cascade_committed {transition : Transition Uuid} {remaining : List Uuid}
    {workspaceId : Uuid} {row : Workspace Uuid}
    (written : Phase.Written world.workspaces.committed (world.workspaces.pending tx)
      (.cascading transition remaining))
    (seen : world.workspace tx workspaceId = some row) (selects : transition.selects row = true) :
    world.workspaces.committed.lookup workspaceId = some row := by
  rw [World.workspace, Table.lookup_view] at seen
  cases earlier : (world.workspaces.pending tx).lookup workspaceId with
  | none =>
      rw [earlier] at seen
      exact seen
  | some value =>
      obtain ⟨before, now, _, selected, rfl⟩ := written workspaceId value earlier
      rw [earlier] at seen
      cases seen
      rcases cascade_unselected transition before now with again | never
      · rw [again] at selects
        cases selects
      · rw [never] at selected
        cases selected

private theorem grounded_lock (grounded : world.Grounded tx) {call : Call Uuid} {workspaceId : Uuid}
    {row : Workspace Uuid} {phase : Phase Uuid} (at_ : world.phase tx = .calling call)
    (seen : world.workspace tx workspaceId = some row) (opens : call.Opens workspaceId row phase) :
    (({ world with workspaces := world.workspaces.lock tx workspaceId }).goto tx phase).Grounded
      tx := by
  obtain ⟨written, tenantWritten, entries⟩ := grounded.unwritten (by rw [at_]; trivial)
  have committed : world.workspaces.committed.lookup workspaceId = some row := by
    rw [World.workspace, Table.lookup_view, written] at seen
    exact seen
  apply grounded_at (Function.update_self ..)
  · cases opens with
    | update actor payload live => exact ⟨rfl, live⟩
    | archive actor statusReason confirmLastWorkspace active => exact ⟨rfl, active⟩
    | restore actor archived => exact ⟨rfl, archived⟩
  · intro locked before reserved
    have same : locked = workspaceId ∧ before = some row := by
      cases opens <;> cases reserved <;> exact ⟨rfl, rfl⟩
    obtain ⟨rfl, rfl⟩ := same
    exact ⟨Function.update_self .., committed⟩
  · intro transition changing
    cases opens <;> cases changing
  · cases opens <;> exact written
  · cases opens <;> exact tenantWritten
  · cases opens <;> exact entries

/-- The `UPDATE` of a workspace or its `INSERT`, which takes a share of the tenant's key besides. -/
theorem grounded_write (grounded : world.Grounded tx) {change : Change Uuid}
    (shares : List (Tx × Uuid)) (at_ : world.phase tx = .writing change)
    (committed : world.workspaces.committed.lookup change.workspaceId = change.before) :
    (({ world with
      workspaces := world.workspaces.write tx change.workspaceId (some change.after)
      keyShares := shares }).goto tx (.auditing change)).Grounded tx := by
  obtain ⟨written, tenantWritten, entries⟩ := grounded.unwritten (by rw [at_]; trivial)
  have checked := grounded.checked
  have made : change.Made := by rwa [at_] at checked
  apply grounded_at (Function.update_self ..)
  · exact made
  · intro workspaceId earlier reserved
    cases reserved
    exact ⟨Function.update_self .., committed⟩
  · exact fun _ changing => nomatch changing
  · exact (Table.pending_write_self _).trans (by rw [written])
  · exact tenantWritten
  · exact entries

private theorem grounded_writeAudit (grounded : world.Grounded tx) {change : Change Uuid}
    (at_ : world.phase tx = .auditing change) : (world.writeAudit tx change).Grounded tx := by
  obtain ⟨checked, reserved, -, written, tenantWritten, recorded⟩ := grounded
  rw [at_] at checked reserved written tenantWritten recorded
  have made : change.Made := checked
  apply grounded_at (Function.update_self ..)
  · exact made
  · exact reserved
  · exact fun _ changing => nomatch changing
  · exact written
  · exact tenantWritten
  · exact (Function.update_self ..).trans (by rw [recorded]; rfl)

private theorem grounded_lockTenant (grounded : world.Grounded tx) {transition : Transition Uuid}
    {row : Tenant Uuid} {call : Call Uuid} (at_ : world.phase tx = .calling call)
    (seen : world.tenant tx transition.tenantId = some row) (source : row.status = transition.source)
    (allowed : allowedTransition transition.source transition.target) :
    (({ world with tenants := world.tenants.lock tx transition.tenantId }).goto tx
      (.writingTenant transition row)).Grounded tx := by
  obtain ⟨written, tenantWritten, entries⟩ := grounded.unwritten (by rw [at_]; trivial)
  rw [World.tenant, Table.lookup_view, tenantWritten] at seen
  apply grounded_at (Function.update_self ..)
  · exact allowed
  · exact fun _ _ reserved => nomatch reserved
  · intro changing same
    cases same
    exact ⟨Function.update_self .., row, seen, source⟩
  · exact written
  · exact tenantWritten
  · exact entries

private theorem grounded_writeTenant (grounded : world.Grounded tx) {transition : Transition Uuid}
    {row : Tenant Uuid} (at_ : world.phase tx = .writingTenant transition row) :
    (world.writeTenant tx transition row).Grounded tx := by
  have locked := grounded.locked transition (by rw [at_]; rfl)
  obtain ⟨written, tenantWritten, entries⟩ := grounded.unwritten (by rw [at_]; trivial)
  have checked := grounded.checked
  rw [at_] at checked
  have allowed : allowedTransition transition.source transition.target := checked
  have pending : (world.tenants.write tx transition.tenantId
      (some (transition.tenantRow row))).pending tx =
        AList.insert transition.tenantId (some (transition.tenantRow row)) ∅ :=
    (Table.pending_write_self _).trans (by rw [tenantWritten])
  unfold World.writeTenant
  dsimp only
  split_ifs
  · apply grounded_at (Function.update_self ..)
    · exact allowed
    · exact fun _ _ reserved => nomatch reserved
    · intro changing same
      cases same
      exact ⟨Function.update_self .., locked.2⟩
    · exact written
    · exact ⟨row, pending⟩
    · exact entries
  · apply grounded_at (Function.update_self ..)
    · exact allowed
    · exact fun _ _ reserved => nomatch reserved
    · intro changing same
      cases same
      exact ⟨Function.update_self .., locked.2⟩
    · intro workspaceId value lookup
      rw [World.goto, written] at lookup
      cases lookup
    · exact ⟨row, pending⟩
    · exact entries

private theorem grounded_cascadeRow (grounded : world.Grounded tx) {transition : Transition Uuid}
    {remaining : List Uuid} {workspaceId : Uuid} {row : Workspace Uuid} (now : Int)
    (at_ : world.phase tx = .cascading transition remaining)
    (seen : world.workspace tx workspaceId = some row) (selects : transition.selects row = true) :
    (({ world with
      workspaces := world.workspaces.write tx workspaceId
        (some (transition.cascade row now)) }).goto tx
          (.cascading transition (remaining.erase workspaceId))).Grounded tx := by
  obtain ⟨checked, -, locked, written, tenantWritten, recorded⟩ := grounded
  rw [at_] at checked locked written tenantWritten recorded
  have allowed : allowedTransition transition.source transition.target := checked
  have committed := cascade_committed written seen selects
  apply grounded_at (Function.update_self ..)
  · exact allowed
  · exact fun _ _ reserved => nomatch reserved
  · exact locked
  · intro other value lookup
    rw [World.goto, Table.pending_write_self] at lookup
    by_cases same : other = workspaceId
    · subst same
      rw [AList.lookup_insert] at lookup
      cases lookup
      exact ⟨row, now, committed, selects, rfl⟩
    · rw [AList.lookup_insert_ne same] at lookup
      exact written other value lookup
  · exact tenantWritten
  · exact recorded

theorem effect_grounded (sound : world.Sound) (effect : world.Effect settings tx action next) :
    next.Grounded tx := by
  have grounded := sound.grounded tx
  have checked := grounded.checked
  cases effect with
  | failed => exact grounded_finish _
  | began failure call begins at_ =>
      exact grounded.quiet (by rw [at_]; trivial) trivial trivial (.inl rfl) rfl
  | created tenantId actor payload generated now proceeds at_ =>
      exact grounded.quiet (by rw [at_]; trivial) trivial
        (.created payload generated tenantId actor now) (.inl rfl) rfl
  | unchanged workspaceId tenantId actor payload row at_ =>
      exact grounded.quiet (by rw [at_]; trivial) trivial trivial (.inl rfl) rfl
  | checkingName workspaceId tenantId actor payload row name now at_ active changes =>
      rw [at_] at checked
      obtain ⟨rfl, live⟩ := checked
      exact grounded.quiet (by rw [at_]; trivial) trivial
        ⟨.updated payload workspaceId actor row now changes live, rfl⟩ (.inr (by rw [at_]; rfl)) rfl
  | updated workspaceId tenantId actor payload row now at_ active changes =>
      rw [at_] at checked
      obtain ⟨rfl, live⟩ := checked
      exact grounded.quiet (by rw [at_]; trivial) trivial
        (.updated payload workspaceId actor row now changes live) (.inr (by rw [at_]; rfl)) rfl
  | named change name at_ =>
      rw [at_] at checked
      obtain ⟨made, before⟩ := checked
      obtain ⟨row, before⟩ := Option.isSome_iff_exists.mp before
      refine grounded.quiet (by rw [at_]; trivial) trivial made (.inr ?_) rfl
      rw [at_]
      simp [Phase.reserved, before]
  | archived archival reason now at_ =>
      rw [at_] at checked
      obtain ⟨same, active⟩ := checked
      refine grounded.quiet (by rw [at_]; trivial) trivial ?_ (.inr (by rw [at_]; rfl)) rfl
      rw [← same]
      exact .archived _ _ _ reason now active
  | restored workspaceId tenantId actor row now generated proceeds at_ =>
      rw [at_] at checked
      obtain ⟨rfl, archived⟩ := checked
      exact grounded.quiet (by rw [at_]; trivial) trivial (.restored workspaceId actor row now archived)
        (.inr (by rw [at_]; rfl)) rfl
  | lockedAdvisory archival reason at_ =>
      rw [at_] at checked
      have moved : (world.goto tx (.counting archival reason)).Grounded tx :=
        grounded.quiet (by rw [at_]; trivial) trivial checked (.inr (by rw [at_]; rfl)) rfl
      exact ⟨moved.checked, moved.reserved, moved.locked, moved.written, moved.tenantWritten,
        moved.recorded⟩
  | committed => exact grounded_commit
  | cascaded => exact grounded_commit
  | locked call workspaceId row phase at_ seen free opens => exact grounded_lock grounded at_ seen opens
  | wroteRow change row at_ before free =>
      exact grounded_write grounded _ at_ (grounded.reserved change.workspaceId change.before (by
        rw [at_]; simp [Phase.reserved, before])).2
  | insertedRow change at_ before free freeTenant new =>
      obtain ⟨written, -, -⟩ := grounded.unwritten (by rw [at_]; trivial)
      rw [World.workspace, Table.lookup_view, written] at new
      exact grounded_write grounded _ at_ (new.trans before.symm)
  | wroteAudit change at_ => exact grounded_writeAudit grounded at_
  | lockedTenant tenantId actor target statusReason transition row now generated proceeds at_ free
      unshared seen ok =>
      obtain ⟨rfl, source, _, allowed⟩ := checkTransition_ok ok
      exact grounded_lockTenant grounded at_ seen source.symm allowed
  | wroteTenant transition row at_ => exact grounded_writeTenant grounded at_
  | selected transition at_ =>
      have written := grounded.written
      have tenantWritten := grounded.tenantWritten
      rw [at_] at checked written tenantWritten
      refine grounded.goto checked (.inl rfl) (.inr (by rw [at_]; rfl)) ?_ tenantWritten
        (by rw [at_]; rfl)
      intro workspaceId value lookup
      rw [written] at lookup
      cases lookup
  | skippedRow transition remaining workspaceId at_ =>
      have written := grounded.written
      have tenantWritten := grounded.tenantWritten
      rw [at_] at checked written tenantWritten
      exact grounded.goto checked (.inl rfl) (.inr (by rw [at_]; rfl)) written tenantWritten
        (by rw [at_]; rfl)
  | cascadedRow transition remaining workspaceId row now at_ free seen selects =>
      exact grounded_cascadeRow grounded now at_ seen selects

theorem World.Sound.effect (sound : world.Sound) (effect : world.Effect settings tx action next) :
    next.Sound := by
  obtain ⟨owned, ownedTenants⟩ := effect_owned sound effect
  refine ⟨owned, ownedTenants, fun other => ?_⟩
  by_cases same : other = tx
  · subst same
    exact effect_grounded sound effect
  · exact (sound.grounded other).frame sound.owned (effect_frame sound effect same)

/-! ### Changes -/

inductive World.Decides (settings : Settings Uuid) (world : World Tx Uuid) (tx : Tx)
    (action : Action Uuid) : Change Uuid → Prop where
  | created (tenantId : Uuid) (actor : Actor Uuid) (payload : CreatePayload) (generated : Uuid)
      (now : Int) (proceeds : action = .proceed now generated)
      (at_ : world.phase tx = .calling (.createWorkspace tenantId actor payload))
      (active : world.Active tx tenantId) :
      Decides settings world tx action (payload.change generated tenantId actor now)
  | updated (workspaceId : Uuid) (actor : Actor Uuid) (payload : UpdatePayload)
      (row : Workspace Uuid) (now : Int)
      (at_ : world.phase tx = .updating workspaceId row.tenantId actor payload row)
      (live : row.status ≠ .archived) (changes : payload.hasChanges workspaceId row) :
      Decides settings world tx action (payload.change workspaceId row.tenantId actor row now)
  | archived (archival : Archival Uuid) (reason : String) (now : Int)
      (at_ : world.phase tx = .counting archival reason) (spared : world.Spared tx archival) :
      Decides settings world tx action (archiveChange archival.workspaceId archival.tenantId
        archival.actor archival.workspace reason now)
  | restored (workspaceId : Uuid) (actor : Actor Uuid) (row : Workspace Uuid) (now : Int)
      (generated : Uuid) (proceeds : action = .proceed now generated)
      (at_ : world.phase tx = .restoring workspaceId row.tenantId actor row)
      (archived : row.status = .archived) (active : world.Active tx row.tenantId) :
      Decides settings world tx action (restoreChange workspaceId row.tenantId actor row now)

theorem effect_change (sound : world.Sound) (effect : world.Effect settings tx action next)
    {change : Change Uuid} (changing : (next.phase tx).change = some change) :
    (world.phase tx).change = some change ∨ world.Decides settings tx action change := by
  have checked := (sound.grounded tx).checked
  cases effect with
  | failed failure =>
      rw [World.fail, World.phase_finish] at changing
      cases changing
  | committed | cascaded =>
      rw [World.phase_commit] at changing
      cases changing
  | locked call workspaceId row phase at_ seen free opens =>
      rw [World.phase_goto] at changing
      cases opens <;> cases changing
  | wroteTenant transition row at_ =>
      rw [World.writeTenant, World.phase_goto] at changing
      split_ifs at changing <;> cases changing
  | created tenantId actor payload generated now proceeds at_ active =>
      rw [World.phase_goto] at changing
      cases changing
      exact .inr (.created tenantId actor payload generated now proceeds at_ active)
  | checkingName workspaceId tenantId actor payload row name now at_ active changes =>
      rw [World.phase_goto] at changing
      cases changing
      rw [at_] at checked
      obtain ⟨rfl, live⟩ := checked
      exact .inr (.updated workspaceId actor payload row now at_ live changes)
  | updated workspaceId tenantId actor payload row now at_ active changes =>
      rw [World.phase_goto] at changing
      cases changing
      rw [at_] at checked
      obtain ⟨rfl, live⟩ := checked
      exact .inr (.updated workspaceId actor payload row now at_ live changes)
  | restored workspaceId tenantId actor row now generated proceeds at_ active =>
      rw [World.phase_goto] at changing
      cases changing
      rw [at_] at checked
      obtain ⟨rfl, archived⟩ := checked
      exact .inr (.restored workspaceId actor row now generated proceeds at_ archived active)
  | archived archival reason now at_ spared =>
      rw [World.phase_goto] at changing
      cases changing
      exact .inr (.archived archival reason now at_ spared)
  | named change name at_ =>
      rw [World.phase_goto] at changing
      rw [at_]
      exact .inl changing
  | wroteRow change row at_ | insertedRow change at_ =>
      rw [World.phase_goto] at changing
      rw [at_]
      exact .inl changing
  | wroteAudit change at_ =>
      rw [World.writeAudit, World.phase_goto] at changing
      rw [at_]
      exact .inl changing
  | selected =>
      rw [World.selectCascade, World.phase_goto] at changing
      cases changing
  | _ =>
      rw [World.phase_goto] at changing
      cases changing

/-! ### Commits -/

theorem effect_committed (effect : world.Effect settings tx action next) :
    (next.workspaces.committed = world.workspaces.committed ∧
      next.tenants.committed = world.tenants.committed ∧ next.audit = world.audit) ∨
    next = world.commit tx ∧ ((∃ change, world.phase tx = .committing change) ∨
      ∃ transition, world.phase tx = .cascading transition []) := by
  cases effect with
  | committed change at_ => exact .inr ⟨rfl, .inl ⟨change, at_⟩⟩
  | cascaded transition at_ => exact .inr ⟨rfl, .inr ⟨transition, at_⟩⟩
  | _ => exact .inl ⟨rfl, rfl, rfl⟩

theorem lookup_commit (workspaceId : Uuid) :
    (world.commit tx).workspaces.committed.lookup workspaceId =
      ((world.workspaces.pending tx).lookup workspaceId).getD
        (world.workspaces.committed.lookup workspaceId) :=
  Table.lookup_view _ _ _

theorem lookup_commit_tenant (tenantId : Uuid) :
    (world.commit tx).tenants.committed.lookup tenantId =
      ((world.tenants.pending tx).lookup tenantId).getD
        (world.tenants.committed.lookup tenantId) :=
  Table.lookup_view _ _ _

theorem lookup_commit_change (sound : world.Sound) {change : Change Uuid}
    (at_ : world.phase tx = .committing (some change)) (workspaceId : Uuid) :
    (world.commit tx).workspaces.committed.lookup workspaceId =
      if workspaceId = change.workspaceId then some change.after
      else world.workspaces.committed.lookup workspaceId := by
  have written := (sound.grounded tx).written
  rw [at_] at written
  rw [lookup_commit, written]
  split_ifs with same
  · rw [same, AList.lookup_insert]
    rfl
  · rw [AList.lookup_insert_ne same]
    rfl

theorem lookup_commit_nothing (sound : world.Sound) (at_ : world.phase tx = .committing none)
    (workspaceId : Uuid) :
    (world.commit tx).workspaces.committed.lookup workspaceId =
      world.workspaces.committed.lookup workspaceId := by
  have written := (sound.grounded tx).written
  rw [at_] at written
  rw [lookup_commit, written]
  rfl

end Worlds

end CogniDQ.Tenancy
