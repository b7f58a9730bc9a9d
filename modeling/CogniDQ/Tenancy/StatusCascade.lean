import CogniDQ.Tenancy.RowLocks
import Mathlib.Data.Fintype.Basic

/-!
# The status of a tenant and its workspaces

No workspace of a suspended or archived tenant is active, and one is suspended only while its tenant
is, as long as no change of the tenant's status comes between the check of that status by a creation
or a restoration and its commit: the check locks nothing.
-/

set_option autoImplicit false

namespace CogniDQ.Tenancy

open CogniDQ.Database CogniDQ.Protocol

/-- The statuses that a workspace may have under its tenant's. -/
def Compatible (tenant : TenantStatus) (workspace : WorkspaceStatus) : Prop :=
  (tenant = .suspended ∨ tenant = .archived → workspace ≠ .active) ∧
    (workspace = .suspended → tenant = .suspended)

section Transitions

variable {Uuid : Type} {transition : Transition Uuid} {row : Workspace Uuid}
  {status : WorkspaceStatus}

theorem compatible_archived (tenant : TenantStatus) : Compatible tenant .archived :=
  ⟨fun _ => nofun, nofun⟩

theorem compatible_active : Compatible .active .active := by
  constructor
  · rintro (suspended | archived)
    · cases suspended
    · cases archived
  · nofun

private theorem compatible_unaffected
    (allowed : allowedTransition transition.source transition.target)
    (before : Compatible transition.source status)
    (unaffected : transition.affects status = false) : Compatible transition.target status := by
  obtain ⟨_, suspendedOnly⟩ := before
  cases status with
  | archived => exact compatible_archived _
  | active =>
      cases target : transition.target <;> cases source : transition.source <;>
        simp_all [Compatible, Transition.affects, allowedTransition]
  | suspended =>
      cases target : transition.target <;> cases source : transition.source <;>
        simp_all [Transition.affects, allowedTransition]

theorem compatible_cascade (allowed : allowedTransition transition.source transition.target)
    (now : Int) : Compatible transition.target (transition.cascade row now).status := by
  cases target : transition.target with
  | draft => cases source : transition.source <;> simp [target, source, allowedTransition] at allowed
  | active => simpa [Transition.cascade, target] using compatible_active
  | suspended => simp [Transition.cascade, target, Compatible]
  | archived => simpa [Transition.cascade, target] using compatible_archived .archived

private theorem cascade_tenantId (transition : Transition Uuid) (row : Workspace Uuid) (now : Int) :
    (transition.cascade row now).tenantId = row.tenantId := by
  cases target : transition.target <;> simp [Transition.cascade, target]

end Transitions

section Changes

variable {Uuid : Type}

/-- The change makes an active workspace of the tenant out of one that is not. -/
structure Change.Admits (change : Change Uuid) (tenantId : Uuid) : Prop where
  tenant : change.after.tenantId = tenantId
  active : change.after.status = .active
  new : ∀ row, change.before = some row → row.status ≠ .active

/-- A creation or a restoration has found the tenant active. -/
def Phase.Admits (tenantId : Uuid) (phase : Phase Uuid) : Prop :=
  ∃ change, phase.change = some change ∧ change.Admits tenantId

variable [DecidableEq Uuid]

theorem Change.Made.kinds {change : Change Uuid} (made : change.Made) :
    change.Admits change.after.tenantId ∨ change.after.status = .archived ∨
      ∃ row, change.before = some row ∧ change.after.tenantId = row.tenantId ∧
        change.after.status = row.status := by
  cases made with
  | created => exact .inl ⟨rfl, rfl, nofun⟩
  | updated payload workspaceId actor row => exact .inr (.inr ⟨row, rfl, rfl, rfl⟩)
  | archived => exact .inr (.inl rfl)
  | restored workspaceId actor row now archived =>
      refine .inl ⟨rfl, rfl, fun before same active => ?_⟩
      cases same
      rw [archived] at active
      cases active

end Changes

section Worlds

variable {Tx Uuid : Type} [DecidableEq Tx] [DecidableEq Uuid]

def Consistent (workspaces : Rows Uuid (Workspace Uuid)) (tenants : Rows Uuid (Tenant Uuid)) :
    Prop :=
  ∀ workspaceId row tenant, workspaces.lookup workspaceId = some row →
    tenants.lookup row.tenantId = some tenant → Compatible tenant.status row.status

/-- The condition on a step: a creation or a restoration reads the status of its tenant while no
other transaction has locked it, and a change of the status locks it when every other transaction
that has found the tenant active has the share of its key that makes the lock fail. -/
def World.Serialized (world : World Tx Uuid) : Tx × Action Uuid → Prop
  | (tx, .proceed _ _) =>
    match world.phase tx with
    | .calling (.createWorkspace tenantId _ _) => world.tenants.free tx tenantId = true
    | .restoring _ tenantId _ _ => world.tenants.free tx tenantId = true
    | .calling (.changeStatus tenantId _ _ _) =>
      ∀ other, other ≠ tx → (world.phase other).Admits tenantId →
        (other, tenantId) ∈ world.keyShares
    | _ => True
  | _ => True

instance decidableAdmits (tenantId : Uuid) (phase : Phase Uuid) : Decidable (phase.Admits tenantId) :=
  decidable_of_iff
    (∃ change ∈ phase.change, change.after.tenantId = tenantId ∧ change.after.status = .active ∧
      ∀ row ∈ change.before, row.status ≠ .active)
    (exists_congr fun _ => and_congr_right' ⟨fun ⟨tenant, active, new⟩ => ⟨tenant, active, new⟩,
      fun ⟨tenant, active, new⟩ => ⟨tenant, active, new⟩⟩)

instance decidableSerialized [Fintype Tx] (world : World Tx Uuid) (action : Tx × Action Uuid) :
    Decidable (world.Serialized action) := by
  unfold World.Serialized
  split
  · split <;> infer_instance
  · infer_instance

/-- The bulk `UPDATE` has selected every workspace that does not fit the new status. -/
def World.Covered (world : World Tx Uuid) (tx : Tx) (transition : Transition Uuid)
    (remaining : List Uuid) : Prop :=
  ∀ workspaceId row, world.workspace tx workspaceId = some row →
    row.tenantId = transition.tenantId →
      workspaceId ∈ remaining ∨ Compatible transition.target row.status

structure World.Governed (world : World Tx Uuid) : Prop where
  sound : world.Sound
  consistent : Consistent world.workspaces.committed world.tenants.committed
  admitted : ∀ tx tenantId, (world.phase tx).Admits tenantId →
    ∃ row, world.tenants.committed.lookup tenantId = some row ∧ row.status = .active
  unlocked : ∀ tx tenantId, (world.phase tx).Admits tenantId →
    ∀ other transition, (world.phase other).tenantChange = some transition →
      transition.tenantId ≠ tenantId
  covered : ∀ tx transition remaining, world.phase tx = .cascading transition remaining →
    world.Covered tx transition remaining

variable {settings : Settings Uuid} {world next : World Tx Uuid} {tx other : Tx}
  {action : Action Uuid} {transition : Transition Uuid} {tenantId : Uuid}

omit [DecidableEq Tx] in
theorem selected_tenant {row : Workspace Uuid} (selects : transition.selects row = true) :
    row.tenantId = transition.tenantId ∧ transition.affects row.status = true := by
  rw [Transition.selects, Bool.and_eq_true, beq_iff_eq] at selects
  exact selects

private theorem effect_tenantChange (effect : world.Effect settings tx action next)
    (changing : (next.phase tx).tenantChange = some transition) :
    (world.phase tx).tenantChange = some transition ∨ ∃ actor target statusReason now generated,
      action = .proceed now generated ∧
      world.phase tx = .calling (.changeStatus transition.tenantId actor target statusReason) ∧
      ∀ other, other ≠ tx → (other, transition.tenantId) ∉ world.keyShares := by
  cases effect with
  | failed failure =>
      rw [World.fail, World.phase_finish] at changing
      cases changing
  | committed | cascaded =>
      rw [World.phase_commit] at changing
      cases changing
  | locked call workspaceId row phase at_ seen free opens =>
      rw [World.phase_goto] at changing
      cases opens <;> cases changing
  | lockedTenant tenantId actor target statusReason begun row now generated proceeds at_ free
      unshared seen checked =>
      rw [World.phase_goto] at changing
      cases changing
      obtain ⟨rfl, _⟩ := checkTransition_ok checked
      refine .inr ⟨actor, target, statusReason, now, generated, proceeds, at_, ?_⟩
      intro other apart shared
      have refused := List.all_eq_true.mp unshared _ shared
      simp [apart] at refused
  | wroteTenant begun row at_ =>
      rw [World.writeTenant, World.phase_goto] at changing
      rw [at_]
      split_ifs at changing <;> exact .inl changing
  | selected begun at_ =>
      rw [World.selectCascade, World.phase_goto] at changing
      rw [at_]
      exact .inl changing
  | skippedRow begun remaining workspaceId at_ =>
      rw [World.phase_goto] at changing
      rw [at_]
      exact .inl changing
  | cascadedRow begun remaining workspaceId row now at_ =>
      rw [World.phase_goto] at changing
      rw [at_]
      exact .inl changing
  | wroteAudit =>
      rw [World.writeAudit, World.phase_goto] at changing
      cases changing
  | _ =>
      rw [World.phase_goto] at changing
      cases changing

omit [DecidableEq Tx] in
private theorem World.Sound.changesApart (sound : world.Sound) {others : Transition Uuid}
    (apart : other ≠ tx) (changing : (world.phase tx).tenantChange = some transition)
    (changingToo : (world.phase other).tenantChange = some others) :
    others.tenantId ≠ transition.tenantId := by
  intro same
  have mine := ((sound.grounded tx).locked transition changing).1
  have theirs := ((sound.grounded other).locked others changingToo).1
  rw [same] at theirs
  exact apart (Option.some.inj (theirs.symm.trans mine))

theorem lookup_commit_tenant_of_change (sound : world.Sound) {change : Option (Change Uuid)}
    (at_ : world.phase tx = .committing change) (tenantId : Uuid) :
    (world.commit tx).tenants.committed.lookup tenantId =
      world.tenants.committed.lookup tenantId := by
  have written := (sound.grounded tx).tenantWritten
  rw [at_] at written
  rw [lookup_commit_tenant, written]
  rfl

theorem lookup_commit_tenant_of_cascade (sound : world.Sound) {remaining : List Uuid}
    (at_ : world.phase tx = .cascading transition remaining) (tenantId : Uuid) :
    ∃ row, (world.commit tx).tenants.committed.lookup tenantId =
      if tenantId = transition.tenantId then some (transition.tenantRow row)
      else world.tenants.committed.lookup tenantId := by
  have written := (sound.grounded tx).tenantWritten
  rw [at_] at written
  obtain ⟨row, written⟩ := written
  refine ⟨row, ?_⟩
  rw [lookup_commit_tenant, written]
  split_ifs with same
  · rw [same, AList.lookup_insert]
    rfl
  · rw [AList.lookup_insert_ne same]
    rfl

theorem lookup_commit_cascade (sound : world.Sound) {remaining : List Uuid}
    (at_ : world.phase tx = .cascading transition remaining) {workspaceId : Uuid}
    {row : Workspace Uuid}
    (found : (world.commit tx).workspaces.committed.lookup workspaceId = some row) :
    world.workspaces.committed.lookup workspaceId = some row ∨
      row.tenantId = transition.tenantId := by
  have written := (sound.grounded tx).written
  rw [at_] at written
  rw [lookup_commit] at found
  cases pending : (world.workspaces.pending tx).lookup workspaceId with
  | none =>
      rw [pending] at found
      exact .inl found
  | some value =>
      obtain ⟨before, now, _, selects, rfl⟩ := written workspaceId value pending
      rw [pending] at found
      cases found
      rw [cascade_tenantId]
      exact .inr (selected_tenant selects).1

/-! ### Commits -/

private theorem consistent_change (governed : world.Governed) {change : Change Uuid}
    (at_ : world.phase tx = .committing (some change)) :
    Consistent (world.commit tx).workspaces.committed (world.commit tx).tenants.committed := by
  intro workspaceId row tenant found under
  rw [lookup_commit_tenant_of_change governed.sound at_] at under
  rw [lookup_commit_change governed.sound at_] at found
  split_ifs at found with same
  · cases found
    have grounded := governed.sound.grounded tx
    have made := grounded.checked
    have reserved := grounded.reserved change.workspaceId change.before (by rw [at_]; rfl)
    rw [at_] at made
    rcases Change.Made.kinds made with admits | archived | ⟨before, isBefore, sameTenant, sameStatus⟩
    · obtain ⟨active, present, status⟩ := governed.admitted tx _ ⟨change, by rw [at_]; rfl, admits⟩
      rw [present] at under
      cases under
      rw [status, admits.active]
      exact compatible_active
    · rw [archived]
      exact compatible_archived _
    · rw [sameTenant] at under
      rw [sameStatus]
      exact governed.consistent change.workspaceId before tenant (reserved.2.trans isBefore) under
  · exact governed.consistent workspaceId row tenant found under

private theorem consistent_cascade (governed : world.Governed)
    (at_ : world.phase tx = .cascading transition []) :
    Consistent (world.commit tx).workspaces.committed (world.commit tx).tenants.committed := by
  intro workspaceId row tenant found under
  obtain ⟨updated, tenants⟩ := lookup_commit_tenant_of_cascade governed.sound at_ row.tenantId
  rw [tenants] at under
  split_ifs at under with same
  · cases under
    rcases governed.covered tx transition [] at_ workspaceId row found same with listed | compatible
    · cases listed
    · exact compatible
  · rcases lookup_commit_cascade governed.sound at_ found with before | affected
    · exact governed.consistent workspaceId row tenant before under
    · exact absurd affected same

private theorem World.Governed.consistentNext (governed : world.Governed)
    (effect : world.Effect settings tx action next) :
    Consistent next.workspaces.committed next.tenants.committed := by
  rcases effect_committed effect with ⟨workspaces, tenants, _⟩ | ⟨rfl, ⟨change, at_⟩ | ⟨_, at_⟩⟩
  · rw [workspaces, tenants]
    exact governed.consistent
  · cases change with
    | none =>
        intro workspaceId row tenant found under
        rw [lookup_commit_tenant_of_change governed.sound at_] at under
        rw [lookup_commit_nothing governed.sound at_] at found
        exact governed.consistent workspaceId row tenant found under
    | some change => exact consistent_change governed at_
  · exact consistent_cascade governed at_

/-! ### Admissions -/

/-- An admission goes back to a check of the tenant's status, while no other transaction has locked
it. -/
theorem effect_admits (sound : world.Sound) (serialized : world.Serialized (tx, action))
    (effect : world.Effect settings tx action next) (admits : (next.phase tx).Admits tenantId) :
    (world.phase tx).Admits tenantId ∨
      (∃ row, world.tenants.committed.lookup tenantId = some row ∧ row.status = .active) ∧
        world.tenants.free tx tenantId = true := by
  obtain ⟨change, changing, admission⟩ := admits
  have committed : ∀ {tenantId}, (world.phase tx).Quiet → world.Active tx tenantId →
      ∃ row, world.tenants.committed.lookup tenantId = some row ∧ row.status = .active := by
    rintro tenantId quiet ⟨row, seen, active⟩
    rw [World.tenant, Table.lookup_view, ((sound.grounded tx).unwritten quiet).2.1] at seen
    exact ⟨row, seen, active⟩
  rcases effect_change sound effect changing with before | decides
  · exact .inl ⟨change, before, admission⟩
  · obtain ⟨rfl, isActive, new⟩ := admission
    cases decides with
    | created tenantId actor payload generated now proceeds at_ active =>
        subst proceeds
        simp only [World.Serialized, at_] at serialized
        exact .inr ⟨committed (by rw [at_]; trivial) active, serialized⟩
    | updated workspaceId actor payload row => exact absurd isActive (new row rfl)
    | archived => cases isActive
    | restored workspaceId actor row now generated proceeds at_ archived active =>
        subst proceeds
        simp only [World.Serialized, at_] at serialized
        exact .inr ⟨committed (by rw [at_]; trivial) active, serialized⟩

omit [DecidableEq Tx] [DecidableEq Uuid] in
private theorem Phase.Admits.tenantChange {phase : Phase Uuid} (admits : phase.Admits tenantId) :
    phase.tenantChange = none := by
  obtain ⟨change, changing, _⟩ := admits
  cases phase <;> first | rfl | cases changing

private theorem World.Governed.admittedNext (governed : world.Governed)
    (serialized : world.Serialized (tx, action)) (effect : world.Effect settings tx action next)
    (admits : (next.phase other).Admits tenantId) :
    ∃ row, next.tenants.committed.lookup tenantId = some row ∧ row.status = .active := by
  by_cases mine : other = tx
  · subst mine
    rcases effect_committed effect with ⟨_, tenants, _⟩ | ⟨rfl, _⟩
    · rw [tenants]
      rcases effect_admits governed.sound serialized effect admits with before | ⟨active, _⟩
      · exact governed.admitted other tenantId before
      · exact active
    · obtain ⟨change, changing, _⟩ := admits
      rw [World.phase_commit] at changing
      cases changing
  · rw [(effect_frame governed.sound effect mine).phase] at admits
    obtain ⟨row, present, active⟩ := governed.admitted other tenantId admits
    rcases effect_committed effect with ⟨_, tenants, _⟩ | ⟨rfl, ⟨change, at_⟩ | ⟨transition, at_⟩⟩
    · rw [tenants]
      exact ⟨row, present, active⟩
    · rw [lookup_commit_tenant_of_change governed.sound at_]
      exact ⟨row, present, active⟩
    · obtain ⟨updated, tenants⟩ := lookup_commit_tenant_of_cascade governed.sound at_ tenantId
      have apart := governed.unlocked other tenantId admits tx transition (by rw [at_]; rfl)
      rw [tenants, if_neg (Ne.symm apart)]
      exact ⟨row, present, active⟩

private theorem World.Governed.unlockedNext (governed : world.Governed)
    (serialized : world.Serialized (tx, action)) (effect : world.Effect settings tx action next)
    {admitting changing : Tx} (admits : (next.phase admitting).Admits tenantId)
    (changes : (next.phase changing).tenantChange = some transition) :
    transition.tenantId ≠ tenantId := by
  have frame : ∀ other, other ≠ tx → next.phase other = world.phase other :=
    fun other apart => (effect_frame governed.sound effect apart).phase
  by_cases admitsMine : admitting = tx
  · subst admitsMine
    have apart : changing ≠ admitting := by
      rintro rfl
      rw [admits.tenantChange] at changes
      cases changes
    rw [frame changing apart] at changes
    rcases effect_admits governed.sound serialized effect admits with before | ⟨_, free⟩
    · exact governed.unlocked admitting tenantId before changing transition changes
    · rintro rfl
      have held := ((governed.sound.grounded changing).locked transition changes).1
      exact apart (Table.free_iff.mp free changing held)
  · rw [frame admitting admitsMine] at admits
    by_cases changesMine : changing = tx
    · subst changesMine
      rcases effect_tenantChange effect changes with before | ⟨actor, target, statusReason, now,
        generated, rfl, at_, unshared⟩
      · exact governed.unlocked admitting tenantId admits changing transition before
      · rintro rfl
        simp only [World.Serialized, at_] at serialized
        exact unshared admitting admitsMine (serialized admitting admitsMine admits)
    · rw [frame changing changesMine] at changes
      exact governed.unlocked admitting tenantId admits changing transition changes

/-! ### Cascades -/

omit [DecidableEq Tx] in
theorem allowed_of_tenantChange (sound : world.Sound)
    (changing : (world.phase tx).tenantChange = some transition) :
    allowedTransition transition.source transition.target := by
  have checked := (sound.grounded tx).checked
  cases at_ : world.phase tx with
  | writingTenant | selecting | cascading =>
      rw [at_] at checked changing
      cases changing
      exact checked
  | _ =>
      rw [at_] at changing
      cases changing

omit [DecidableEq Tx] in
private theorem seen_in_cascade (sound : world.Sound)
    (changing : (world.phase tx).tenantChange = some transition) {workspaceId : Uuid}
    {row : Workspace Uuid} (seen : world.workspace tx workspaceId = some row) :
    world.workspaces.committed.lookup workspaceId = some row ∨
      ∃ before now, row = transition.cascade before now := by
  have written := (sound.grounded tx).written
  rw [World.workspace, Table.lookup_view] at seen
  cases pending : (world.workspaces.pending tx).lookup workspaceId with
  | none =>
      rw [pending] at seen
      exact .inl seen
  | some value =>
      rw [pending] at seen
      cases at_ : world.phase tx with
      | cascading begun remaining =>
          rw [at_] at changing written
          cases changing
          obtain ⟨before, now, _, _, rfl⟩ := written workspaceId value pending
          cases seen
          exact .inr ⟨before, now, rfl⟩
      | writingTenant | selecting =>
          rw [at_] at written
          have none_ : world.workspaces.pending tx = ∅ := written
          rw [none_] at pending
          cases pending
      | _ =>
          rw [at_] at changing
          cases changing

omit [DecidableEq Tx] in
private theorem World.Governed.compatibleUnaffected (governed : world.Governed)
    (changing : (world.phase tx).tenantChange = some transition) {workspaceId : Uuid}
    {row : Workspace Uuid} (seen : world.workspace tx workspaceId = some row)
    (tenant : row.tenantId = transition.tenantId)
    (unaffected : transition.affects row.status = false) :
    Compatible transition.target row.status := by
  have allowed := allowed_of_tenantChange governed.sound changing
  rcases seen_in_cascade governed.sound changing seen with committed | ⟨before, now, rfl⟩
  · obtain ⟨_, source, present, status⟩ := (governed.sound.grounded tx).locked transition changing
    have before := governed.consistent workspaceId row source committed (by rw [tenant, present])
    rw [status] at before
    exact compatible_unaffected allowed before unaffected
  · exact compatible_cascade allowed now

omit [DecidableEq Tx] [DecidableEq Uuid] in
theorem affects_nothing
    (none_ : ¬(transition.target = .suspended ∨ transition.target = .archived ∨
      transition.target = .active ∧ transition.source = .suspended)) (status : WorkspaceStatus) :
    transition.affects status = false := by
  simp only [not_or, not_and] at none_
  obtain ⟨notSuspended, notArchived, notReactivated⟩ := none_
  unfold Transition.affects
  split
  · rename_i suspended
    exact absurd suspended notSuspended
  · rename_i active
    simp [notReactivated active]
  · rename_i archived
    exact absurd archived notArchived
  · rfl

theorem covered_self (governed : world.Governed) (effect : world.Effect settings tx action next)
    {remaining : List Uuid} (at_ : next.phase tx = .cascading transition remaining) :
    next.Covered tx transition remaining := by
  cases effect with
  | failed failure =>
      rw [World.fail, World.phase_finish] at at_
      cases at_
  | committed | cascaded =>
      rw [World.phase_commit] at at_
      cases at_
  | locked call workspaceId row phase _ seen free opens =>
      rw [World.phase_goto] at at_
      subst at_
      cases opens
  | wroteTenant begun tenant before =>
      rw [World.writeTenant, World.phase_goto] at at_
      split_ifs at at_ with cascades
      cases at_
      intro workspaceId row seen sameTenant
      exact .inr (governed.compatibleUnaffected (by rw [before]; rfl) seen sameTenant
        (affects_nothing cascades _))
  | selected begun before =>
      rw [World.selectCascade, World.phase_goto] at at_
      cases at_
      intro workspaceId row seen sameTenant
      cases affected : transition.affects row.status with
      | true =>
          left
          refine List.mem_map.mpr ⟨⟨workspaceId, row⟩, ?_, rfl⟩
          exact List.mem_filter.mpr ⟨AList.mem_lookup_iff.mp seen, by
            simp [Transition.selects, sameTenant, affected]⟩
      | false => exact .inr (governed.compatibleUnaffected (by rw [before]; rfl) seen sameTenant affected)
  | skippedRow begun remaining skipped before unaffected =>
      rw [World.phase_goto] at at_
      cases at_
      intro workspaceId row seen sameTenant
      by_cases same : workspaceId = skipped
      · subst same
        have seenBefore : world.workspace tx workspaceId = some row := seen
        rw [seenBefore] at unaffected
        have notSelected : transition.affects row.status = false := by
          simpa [Transition.selects, sameTenant] using unaffected
        exact .inr (governed.compatibleUnaffected (by rw [before]; rfl) seenBefore sameTenant
          notSelected)
      · rcases governed.covered tx transition remaining before workspaceId row seen sameTenant with
          listed | compatible
        · exact .inl ((List.mem_erase_of_ne same).mpr listed)
        · exact .inr compatible
  | cascadedRow begun remaining changed row now before free seen selects =>
      rw [World.phase_goto] at at_
      cases at_
      intro workspaceId current seenNow sameTenant
      have allowed : allowedTransition transition.source transition.target :=
        allowed_of_tenantChange governed.sound (by rw [before]; rfl)
      by_cases same : workspaceId = changed
      · subst same
        have written : current = transition.cascade row now := by
          rw [World.workspace, World.goto, Table.lookup_view_write_self] at seenNow
          exact (Option.some.inj seenNow).symm
        rw [written]
        exact .inr (compatible_cascade allowed now)
      · have seenBefore : world.workspace tx workspaceId = some current := by
          rw [World.workspace, World.goto, Table.lookup_view, Table.pending_write_self,
            AList.lookup_insert_ne same] at seenNow
          rw [World.workspace, Table.lookup_view]
          exact seenNow
        rcases governed.covered tx transition remaining before workspaceId current seenBefore
          sameTenant with listed | compatible
        · exact .inl ((List.mem_erase_of_ne same).mpr listed)
        · exact .inr compatible
  | wroteAudit =>
      rw [World.writeAudit, World.phase_goto] at at_
      cases at_
  | _ =>
      rw [World.phase_goto] at at_
      cases at_

/-- What another transaction commits during a cascade fits the new status already, or has been
selected. -/
theorem covered_commit (governed : world.Governed) (apart : other ≠ tx)
    (ended : (∃ change, world.phase tx = .committing change) ∨
      ∃ transition, world.phase tx = .cascading transition [])
    {remaining : List Uuid} (at_ : world.phase other = .cascading transition remaining) :
    (world.commit tx).Covered other transition remaining := by
  intro workspaceId row seen sameTenant
  have covered := governed.covered other transition remaining at_ workspaceId
  have frame := frame_commit governed.sound apart
  have changing : (world.phase other).tenantChange = some transition := by
    rw [at_]
    rfl
  rw [World.workspace, Table.lookup_view, frame.workspaces.pending] at seen
  cases pending : (world.workspaces.pending other).lookup workspaceId with
  | some value =>
      rw [pending] at seen
      refine covered row ?_ sameTenant
      rw [World.workspace, Table.lookup_view, pending]
      exact seen
  | none =>
      rw [pending] at seen
      have unwritten : ∀ version, world.workspaces.committed.lookup workspaceId = some version →
          world.workspace other workspaceId = some version := by
        intro version present
        rw [World.workspace, Table.lookup_view, pending]
        exact present
      have found : (world.commit tx).workspaces.committed.lookup workspaceId = some row := seen
      rcases ended with ⟨change, committing⟩ | ⟨others, cascading⟩
      · cases change with
        | none =>
            rw [lookup_commit_nothing governed.sound committing] at found
            exact covered row (unwritten row found) sameTenant
        | some change =>
            rw [lookup_commit_change governed.sound committing] at found
            split_ifs at found with same
            · subst same
              cases found
              have grounded := governed.sound.grounded tx
              have made := grounded.checked
              have reserved := grounded.reserved change.workspaceId change.before (by
                rw [committing]; rfl)
              rw [committing] at made
              rcases Change.Made.kinds made with admits | archived | ⟨before, isBefore, tenant, status⟩
              · have admitting : (world.phase tx).Admits change.after.tenantId :=
                  ⟨change, by rw [committing]; rfl, admits⟩
                exact absurd sameTenant.symm (governed.unlocked tx _ admitting other transition changing)
              · rw [archived]
                exact .inr (compatible_archived _)
              · rw [status]
                exact covered before (unwritten before (reserved.2.trans isBefore))
                  (tenant.symm.trans sameTenant)
            · exact covered row (unwritten row found) sameTenant
      · rcases lookup_commit_cascade governed.sound cascading found with before | affected
        · exact covered row (unwritten row before) sameTenant
        · have different := governed.sound.changesApart (Ne.symm apart) changing
            (by rw [cascading]; rfl)
          exact absurd (affected.symm.trans sameTenant) different

private theorem World.Governed.effect (governed : world.Governed)
    (serialized : world.Serialized (tx, action)) (effect : world.Effect settings tx action next) :
    next.Governed where
  sound := governed.sound.effect effect
  consistent := governed.consistentNext effect
  admitted _ _ admits := governed.admittedNext serialized effect admits
  unlocked _ _ admits _ _ changes := governed.unlockedNext serialized effect admits changes
  covered other transition remaining at_ := by
    by_cases mine : other = tx
    · subst mine
      exact covered_self governed effect at_
    · have frame := effect_frame governed.sound effect mine
      rw [frame.phase] at at_
      rcases effect_committed effect with ⟨workspaces, _, _⟩ | ⟨rfl, ended⟩
      · intro workspaceId row seen
        refine governed.covered other transition remaining at_ workspaceId row ?_
        rw [World.workspace, Table.lookup_view] at seen ⊢
        rwa [workspaces, frame.workspaces.pending] at seen
      · exact covered_commit governed mine ended at_

/-! ### A status change on its own -/

def standing (rows : Rows Uuid (Workspace Uuid)) (workspaceId : Uuid) :
    Option (Uuid × WorkspaceStatus) :=
  (rows.lookup workspaceId).map fun row => (row.tenantId, row.status)

def Transition.settle (transition : Transition Uuid) (before : Uuid × WorkspaceStatus) :
    Uuid × WorkspaceStatus :=
  if before.1 = transition.tenantId ∧ transition.affects before.2 = true then
    match transition.target with
    | .suspended => (before.1, .suspended)
    | .archived => (before.1, .archived)
    | .active => (before.1, .active)
    | .draft => before
  else before

/-- A call that a transaction makes and commits, with no step of another one in between. -/
def World.Completes (settings : Settings Uuid) (world : World Tx Uuid) (tx : Tx) (call : Call Uuid)
    (next : World Tx Uuid) : Prop :=
  ∃ statements : List (Action Uuid), (∀ call, .begin call ∉ statements) ∧
    run (World.step settings) world ((tx, .begin call) :: statements.map fun action => (tx, action)) =
      some next ∧
    next.phase tx = .idle none

/-- A transition takes the tenant and its workspaces from the one state to the other. -/
structure World.Settles (before : World Tx Uuid) (tenantId : Uuid) (target : TenantStatus)
    (transition : Transition Uuid) (world : World Tx Uuid) : Prop where
  tenant : transition.tenantId = tenantId
  towards : transition.target = target
  allowed : allowedTransition transition.source transition.target
  source : ∃ row, before.tenants.committed.lookup tenantId = some row ∧
    row.status = transition.source
  reached : ∃ row, world.tenants.committed.lookup tenantId = some row ∧ row.status = target
  settled : ∀ workspaceId, standing world.workspaces.committed workspaceId =
    (standing before.workspaces.committed workspaceId).map transition.settle

/-- How far a change of status has come on its own. -/
inductive World.Progress (before : World Tx Uuid) (tx : Tx) (tenantId : Uuid)
    (target : TenantStatus) (world : World Tx Uuid) : Prop where
  | failed (failure : Failure) (at_ : world.phase tx = .idle (some failure))
  | called (actor : Actor Uuid) (statusReason : Option String)
      (at_ : world.phase tx = .calling (.changeStatus tenantId actor target statusReason))
      (workspaces : world.workspaces.committed = before.workspaces.committed)
      (tenants : world.tenants.committed = before.tenants.committed)
  | changing (transition : Transition Uuid) (tenant : transition.tenantId = tenantId)
      (towards : transition.target = target)
      (at_ : (world.phase tx).tenantChange = some transition)
      (workspaces : world.workspaces.committed = before.workspaces.committed)
      (tenants : world.tenants.committed = before.tenants.committed)
      (selected : ∀ remaining, world.phase tx = .cascading transition remaining →
        ∀ workspaceId row, before.workspaces.committed.lookup workspaceId = some row →
          transition.selects row = true →
            workspaceId ∈ remaining ∨ ((world.workspaces.pending tx).lookup workspaceId).isSome)
  | done (transition : Transition Uuid) (at_ : world.phase tx = .idle none)
      (settled : before.Settles tenantId target transition world)

theorem settle_cascade {row : Workspace Uuid} (selects : transition.selects row = true) (now : Int) :
    ((transition.cascade row now).tenantId, (transition.cascade row now).status) =
      transition.settle (row.tenantId, row.status) := by
  obtain ⟨tenant, affected⟩ := selected_tenant selects
  unfold Transition.settle
  rw [if_pos ⟨tenant, affected⟩]
  cases target : transition.target <;> simp [Transition.cascade, target]

theorem settle_unselected {row : Workspace Uuid} (unselected : transition.selects row = false) :
    transition.settle (row.tenantId, row.status) = (row.tenantId, row.status) := by
  refine if_neg ?_
  rintro ⟨tenant, affected⟩
  dsimp only at tenant affected
  simp [Transition.selects, tenant, affected] at unselected

variable {before : World Tx Uuid} {target : TenantStatus}

theorem settled_commit (sound : world.Sound) (at_ : world.phase tx = .cascading transition [])
    (workspaces : world.workspaces.committed = before.workspaces.committed)
    (selected : ∀ workspaceId row, before.workspaces.committed.lookup workspaceId = some row →
      transition.selects row = true →
        ((world.workspaces.pending tx).lookup workspaceId).isSome) (workspaceId : Uuid) :
    standing (world.commit tx).workspaces.committed workspaceId =
      (standing before.workspaces.committed workspaceId).map transition.settle := by
  have written := (sound.grounded tx).written
  rw [at_] at written
  unfold standing
  rw [lookup_commit]
  cases pending : (world.workspaces.pending tx).lookup workspaceId with
  | some value =>
      obtain ⟨row, now, committed, selects, rfl⟩ := written workspaceId value pending
      rw [workspaces] at committed
      rw [committed]
      exact congrArg some (settle_cascade selects now)
  | none =>
      rw [workspaces]
      cases present : before.workspaces.committed.lookup workspaceId with
      | none => rfl
      | some row =>
          have unselected : transition.selects row = false := by
            by_contra selects
            have changed := selected workspaceId row present (Bool.not_eq_false _ ▸ selects)
            rw [pending] at changed
            cases changed
          exact (congrArg some (settle_unselected unselected)).symm

theorem progress_commit (sound : world.Sound) (at_ : world.phase tx = .cascading transition [])
    (tenant : transition.tenantId = tenantId) (towards : transition.target = target)
    (workspaces : world.workspaces.committed = before.workspaces.committed)
    (tenants : world.tenants.committed = before.tenants.committed)
    (selected : ∀ workspaceId row, before.workspaces.committed.lookup workspaceId = some row →
      transition.selects row = true →
        ((world.workspaces.pending tx).lookup workspaceId).isSome) :
    World.Progress before tx tenantId target (world.commit tx) := by
  have changing : (world.phase tx).tenantChange = some transition := by
    rw [at_]
    rfl
  obtain ⟨_, source, present, status⟩ := (sound.grounded tx).locked transition changing
  obtain ⟨row, committed⟩ := lookup_commit_tenant_of_cascade sound at_ tenantId
  rw [if_pos tenant.symm] at committed
  rw [tenants, tenant] at present
  refine .done transition (World.phase_commit ..) ⟨tenant, towards, ?_, ?_, ?_, ?_⟩
  · exact allowed_of_tenantChange sound changing
  · exact ⟨source, present, status⟩
  · exact ⟨_, committed, towards⟩
  · exact settled_commit sound at_ workspaces selected

theorem failed_fail (failure : Failure) :
    World.Progress before tx tenantId target (world.fail tx failure) :=
  .failed failure (World.phase_finish ..)

private theorem progress_idle {failure : Option Failure} (at_ : world.phase tx = .idle failure)
    (continues : ∀ call, action ≠ .begin call) (effect : world.Effect settings tx action next) :
    World.Progress before tx tenantId target next := by
  cases effect with
  | failed failure => exact failed_fail failure
  | began failure call begins => exact absurd begins (continues call)
  | _ =>
      have elsewhere := ‹world.phase tx = _›
      rw [at_] at elsewhere
      cases elsewhere

private theorem progress_called {actor : Actor Uuid} {statusReason : Option String}
    (at_ : world.phase tx = .calling (.changeStatus tenantId actor target statusReason))
    (workspaces : world.workspaces.committed = before.workspaces.committed)
    (tenants : world.tenants.committed = before.tenants.committed)
    (effect : world.Effect settings tx action next) :
    World.Progress before tx tenantId target next := by
  cases effect with
  | failed failure => exact failed_fail failure
  | lockedTenant lockedId caller requested reason transition row now generated proceeds calling free
      unshared seen checked =>
      rw [at_] at calling
      cases calling
      obtain ⟨tenant, _, towards, _⟩ := checkTransition_ok checked
      refine .changing transition tenant towards (by rw [World.phase_goto]; rfl) workspaces tenants ?_
      intro remaining cascading
      rw [World.phase_goto] at cascading
      cases cascading
  | locked call workspaceId row phase calling seen free opens =>
      rw [at_] at calling
      cases calling
      cases opens
  | _ =>
      have elsewhere := ‹world.phase tx = _›
      rw [at_] at elsewhere
      cases elsewhere

private theorem progress_changing (sound : world.Sound) (tenant : transition.tenantId = tenantId)
    (towards : transition.target = target)
    (at_ : (world.phase tx).tenantChange = some transition)
    (workspaces : world.workspaces.committed = before.workspaces.committed)
    (tenants : world.tenants.committed = before.tenants.committed)
    (selected : ∀ remaining, world.phase tx = .cascading transition remaining →
      ∀ workspaceId row, before.workspaces.committed.lookup workspaceId = some row →
        transition.selects row = true →
          workspaceId ∈ remaining ∨ ((world.workspaces.pending tx).lookup workspaceId).isSome)
    (effect : world.Effect settings tx action next) :
    World.Progress before tx tenantId target next := by
  cases effect with
  | failed failure => exact failed_fail failure
  | wroteTenant begun row writing =>
      rw [writing] at at_
      cases at_
      refine .changing transition tenant towards ?_ workspaces tenants ?_
      · rw [World.writeTenant, World.phase_goto]
        split_ifs <;> rfl
      · intro remaining cascading workspaceId row _ selects
        rw [World.writeTenant, World.phase_goto] at cascading
        split_ifs at cascading with cascades
        have unaffected := affects_nothing cascades row.status
        rw [(selected_tenant selects).2] at unaffected
        cases unaffected
  | selected begun selecting =>
      rw [selecting] at at_
      cases at_
      refine .changing transition tenant towards (by rw [World.selectCascade, World.phase_goto]; rfl)
        workspaces tenants ?_
      intro remaining cascading workspaceId row present selects
      rw [World.selectCascade, World.phase_goto] at cascading
      cases cascading
      have unwritten : world.workspaces.pending tx = ∅ := by
        have written := (sound.grounded tx).written
        rwa [selecting] at written
      have seen : (world.workspaces.view tx).lookup workspaceId = some row := by
        rw [Table.lookup_view, unwritten, workspaces]
        exact present
      exact .inl (List.mem_map.mpr ⟨⟨workspaceId, row⟩,
        List.mem_filter.mpr ⟨AList.mem_lookup_iff.mp seen, selects⟩, rfl⟩)
  | skippedRow begun remaining skipped cascading unaffected =>
      rw [cascading] at at_
      cases at_
      refine .changing transition tenant towards (by rw [World.phase_goto]; rfl) workspaces tenants ?_
      intro rest cascadingNow workspaceId row present selects
      rw [World.phase_goto] at cascadingNow
      cases cascadingNow
      by_cases same : workspaceId = skipped
      · subst same
        refine .inr ?_
        change ((world.workspaces.pending tx).lookup workspaceId).isSome
        by_contra unwritten
        rw [Option.isSome_iff_ne_none, not_not] at unwritten
        rw [World.workspace, Table.lookup_view, unwritten, workspaces] at unaffected
        change (AList.lookup workspaceId before.workspaces.committed).filter _ = none at unaffected
        rw [present] at unaffected
        simp [selects] at unaffected
      · rcases selected remaining cascading workspaceId row present selects with listed | written
        · exact .inl ((List.mem_erase_of_ne same).mpr listed)
        · exact .inr written
  | cascadedRow begun remaining changed row now cascading free seen selects =>
      rw [cascading] at at_
      cases at_
      refine .changing transition tenant towards (by rw [World.phase_goto]; rfl) workspaces tenants ?_
      intro rest cascadingNow workspaceId version present selectsToo
      rw [World.phase_goto] at cascadingNow
      cases cascadingNow
      rw [World.goto, Table.pending_write_self]
      by_cases same : workspaceId = changed
      · subst same
        rw [AList.lookup_insert]
        exact .inr rfl
      · rw [AList.lookup_insert_ne same]
        rcases selected remaining cascading workspaceId version present selectsToo with
          listed | written
        · exact .inl ((List.mem_erase_of_ne same).mpr listed)
        · exact .inr written
  | cascaded begun cascading =>
      rw [cascading] at at_
      cases at_
      refine progress_commit sound cascading tenant towards workspaces tenants ?_
      intro workspaceId row present selects
      rcases selected [] cascading workspaceId row present selects with listed | written
      · cases listed
      · exact written
  | _ =>
      have elsewhere := ‹world.phase tx = _›
      rw [elsewhere] at at_
      cases at_

private theorem World.Progress.effect (progress : World.Progress before tx tenantId target world)
    (sound : world.Sound) (continues : ∀ call, action ≠ .begin call)
    (effect : world.Effect settings tx action next) :
    World.Progress before tx tenantId target next := by
  cases progress with
  | failed failure at_ => exact progress_idle at_ continues effect
  | done transition at_ => exact progress_idle at_ continues effect
  | called actor statusReason at_ workspaces tenants =>
      exact progress_called at_ workspaces tenants effect
  | changing transition tenant towards at_ workspaces tenants selected =>
      exact progress_changing sound tenant towards at_ workspaces tenants selected effect

private theorem World.Completes.settles {actor : Actor Uuid} {statusReason : Option String}
    (sound : world.Sound)
    (completes : World.Completes settings world tx
      (.changeStatus tenantId actor target statusReason) next) :
    next.Sound ∧ ∃ transition, world.Settles tenantId target transition next := by
  obtain ⟨statements, continues, ran, ended⟩ := completes
  obtain ⟨called, stepped, continued⟩ := run_cons ran
  have begun : World.Progress world tx tenantId target called := by
    dsimp only [World.step] at stepped
    split at stepped
    · cases stepped
      exact .called actor statusReason (World.phase_goto ..) rfl rfl
    · cases stepped
  have preserved : ∀ (reached : World Tx Uuid) (action : Tx × Action Uuid) (after : World Tx Uuid),
      reached.Sound ∧ World.Progress world tx tenantId target reached →
        (action.1 = tx ∧ ∀ call, action.2 ≠ .begin call) →
          World.step settings reached action = some after →
            after.Sound ∧ World.Progress world tx tenantId target after := by
    rintro reached ⟨same, action⟩ after ⟨reachedSound, progress⟩ ⟨rfl, proceeds⟩ steppedOn
    have effect := step_effect steppedOn
    exact ⟨reachedSound.effect effect, progress.effect reachedSound proceeds effect⟩
  have alone : RunMeets (World.step settings)
      (fun _ action => action.1 = tx ∧ ∀ call, action.2 ≠ .begin call) called
        (statements.map fun action => (tx, action)) := by
    refine runMeets_of_mem fun _ action listed => ?_
    obtain ⟨statement, statementListed, rfl⟩ := List.mem_map.mp listed
    refine ⟨rfl, fun call begins => continues call ?_⟩
    rw [← begins]
    exact statementListed
  obtain ⟨nextSound, progress⟩ :=
    run_preserves preserved ⟨sound.effect (step_effect stepped), begun⟩ alone continued
  refine ⟨nextSound, ?_⟩
  cases progress with
  | done transition at_ settled => exact ⟨transition, settled⟩
  | failed failure at_ | called actor reason at_ =>
      rw [ended] at at_
      cases at_
  | changing transition tenant towards at_ =>
      rw [ended] at at_
      cases at_

omit [DecidableEq Tx] in
private theorem settle_reactivation {suspension reactivation : Transition Uuid}
    (suspends : suspension.target = .suspended) (reactivates : reactivation.target = .active)
    (suspended : reactivation.source = .suspended)
    (same : reactivation.tenantId = suspension.tenantId) {before : Uuid × WorkspaceStatus}
    (notSuspended : before.1 = suspension.tenantId → before.2 ≠ .suspended) :
    reactivation.settle (suspension.settle before) = before := by
  obtain ⟨workspaceTenant, status⟩ := before
  dsimp only at notSuspended
  by_cases ours : workspaceTenant = suspension.tenantId
  · have kept := notSuspended ours
    cases status <;>
      simp_all [Transition.settle, Transition.affects]
  · simp [Transition.settle, same, ours]

private theorem standing_reactivated {first second : Tx} {middle final : World Tx Uuid}
    {actor returning : Actor Uuid} {statusReason reason : Option String}
    (sound : world.Sound)
    (consistent : Consistent world.workspaces.committed world.tenants.committed)
    (suspends : World.Completes settings world first
      (.changeStatus tenantId actor .suspended statusReason) middle)
    (reactivates : World.Completes settings middle second
      (.changeStatus tenantId returning .active reason) final) (workspaceId : Uuid) :
    standing final.workspaces.committed workspaceId =
      standing world.workspaces.committed workspaceId := by
  obtain ⟨middleSound, suspension, suspended⟩ := suspends.settles sound
  obtain ⟨_, reactivation, reactivated⟩ := reactivates.settles middleSound
  rw [reactivated.settled, suspended.settled, Option.map_map]
  have fromSuspended : reactivation.source = .suspended := by
    obtain ⟨row, present, status⟩ := suspended.reached
    obtain ⟨source, presentToo, sourceStatus⟩ := reactivated.source
    rw [present] at presentToo
    cases presentToo
    exact sourceStatus.symm.trans status
  have fromActive : suspension.source = .active := by
    have allowed := suspended.allowed
    rw [suspended.towards] at allowed
    cases source : suspension.source <;> simp [source, allowedTransition] at allowed ⊢
  cases present : world.workspaces.committed.lookup workspaceId with
  | none => simp [standing, present]
  | some row =>
      have notSuspended : row.tenantId = suspension.tenantId → row.status ≠ .suspended := by
        intro ours isSuspended
        obtain ⟨tenant, tenantPresent, tenantStatus⟩ := suspended.source
        have compatible := consistent workspaceId row tenant present
          (by rw [ours, suspended.tenant, tenantPresent])
        have onlySuspended := compatible.2 isSuspended
        rw [tenantStatus, fromActive] at onlySuspended
        cases onlySuspended
      have back : reactivation.settle (suspension.settle (row.tenantId, row.status)) =
          (row.tenantId, row.status) :=
        settle_reactivation suspended.towards reactivated.towards fromSuspended
          (reactivated.tenant.trans suspended.tenant.symm) notSuspended
      simp only [standing, present, Option.map_some, Function.comp_apply, back]

/-! ### Runs -/

variable {workspaces : Rows Uuid (Workspace Uuid)} {tenants : Rows Uuid (Tenant Uuid)}
  {audit : List (AuditEntry Uuid)} {schedule : List (Tx × Action Uuid)} {reached : World Tx Uuid}

omit [DecidableEq Tx] in
private theorem World.governed_start (consistent : Consistent workspaces tenants) :
    (World.start workspaces tenants audit : World Tx Uuid).Governed where
  sound := World.sound_start
  consistent := consistent
  admitted _ _ admits := by
    obtain ⟨_, changing, _⟩ := admits
    cases changing
  unlocked _ _ admits := by
    obtain ⟨_, changing, _⟩ := admits
    cases changing
  covered _ _ _ at_ := nomatch at_

/-- Where no change of a tenant's status is made between the check of it by a creation or a
restoration and the commit of that, the status of a tenant governs its workspaces in every state
that is reached, and a suspension that is taken back leaves them as they were. -/
theorem tenant_status_governs (consistent : Consistent workspaces tenants)
    (serialized : RunMeets (World.step settings) World.Serialized
      (World.start workspaces tenants audit : World Tx Uuid) schedule)
    (ran : run (World.step settings) (World.start workspaces tenants audit) schedule =
      some reached) :
    Consistent reached.workspaces.committed reached.tenants.committed ∧
      ∀ first second tenantId actor returning statusReason reason middle final,
        World.Completes settings reached first
          (.changeStatus tenantId actor .suspended statusReason) middle →
        World.Completes settings middle second
          (.changeStatus tenantId returning .active reason) final →
        ∀ workspaceId, standing final.workspaces.committed workspaceId =
          standing reached.workspaces.committed workspaceId := by
  have preserved : ∀ (world : World Tx Uuid) (action : Tx × Action Uuid) (next : World Tx Uuid),
      world.Governed → world.Serialized action → World.step settings world action = some next →
        next.Governed :=
    fun _ _ _ governed meets stepped => governed.effect meets (step_effect stepped)
  have governed := run_preserves preserved (World.governed_start consistent) serialized ran
  exact ⟨governed.consistent, fun _ _ _ _ _ _ _ _ _ suspends reactivates =>
    standing_reactivated governed.sound governed.consistent suspends reactivates⟩

end Worlds

section Schedules

private def asciiSettings : Settings Nat where
  unicode := .ascii
  nfc := id
  generatedLower := id
  hashtext _ := 0

private def workspaceOf (tenantId : Nat) (status : WorkspaceStatus) : Workspace Nat where
  tenantId := tenantId
  workspaceName := "finance"
  workspaceSlug := "finance"
  description := none
  defaultTimezone := "UTC"
  status := status
  statusReason := none
  createdAt := 0
  updatedAt := 0
  createdBy := 5
  updatedBy := 5
  version := 0

private def activeAndArchived : Rows Nat (Workspace Nat) :=
  AList.insert 10 (workspaceOf 1 .active) (AList.insert 11 (workspaceOf 1 .archived) ∅)

private def activeTenant : Rows Nat (Tenant Nat) :=
  AList.insert 1 ⟨.active, none, 5, 0⟩ ∅

private theorem activeAndArchived_consistent : Consistent activeAndArchived activeTenant := by
  intro workspaceId row tenant found under
  by_cases first : workspaceId = 10
  · subst first
    cases found
    cases under
    exact compatible_active
  · by_cases second : workspaceId = 11
    · subst second
      cases found
      exact compatible_archived _
    · rw [activeAndArchived, AList.lookup_insert_ne first, AList.lookup_insert_ne second] at found
      cases found

private def changing (target : TenantStatus) : Action Nat :=
  .begin (.changeStatus 1 ⟨5, "platform_admin"⟩ target (some "unpaid invoices"))

private def proceeds (statements : Nat) : List (Action Nat) :=
  List.replicate statements (.proceed 3 0)

/-- Locks the tenant, writes it, selects its active workspace, changes that one and commits. -/
private def suspending : List (Action Nat) :=
  changing .suspended :: (proceeds 3 ++ [.cascadeRow 10 3] ++ proceeds 1)

/-- The restoration reads the tenant's status before the suspension, and commits after it. -/
private def restoredMeanwhile : List (Bool × Action Nat) :=
  (false, .begin (.restoreWorkspace 11 1 ⟨5, "tenant_admin"⟩)) ::
    ((proceeds 2).map fun action => (false, action)) ++ suspending.map (fun action => (true, action)) ++
      ((proceeds 3).map fun action => (false, action))

/-- A workspace is active and its tenant suspended. -/
theorem active_under_suspended :
    Consistent activeAndArchived activeTenant ∧ ∃ reached : World Bool Nat,
      run (World.step asciiSettings) (World.start activeAndArchived activeTenant [])
        restoredMeanwhile = some reached ∧
      ¬Consistent reached.workspaces.committed reached.tenants.committed := by
  refine ⟨activeAndArchived_consistent, _, rfl, fun consistent => ?_⟩
  exact (consistent 11 _ _ rfl rfl).1 (.inl rfl) rfl

/-- The statements of a status change that has both workspaces to change. -/
private def changingBoth : List (Action Nat) :=
  proceeds 3 ++ [.cascadeRow 10 3, .cascadeRow 11 3] ++ proceeds 1

private theorem changingBoth_continues (call : Call Nat) : Action.begin call ∉ changingBoth := by
  simp [changingBoth, proceeds]

/-- A suspension is begun before a restoration and gets to the tenant after that has committed; the
return to active is begun before the suspension commits. -/
private def suspendedMeanwhile : List (Bool × Action Nat) :=
  (true, changing .suspended) :: (false, .begin (.restoreWorkspace 11 1 ⟨5, "tenant_admin"⟩)) ::
    ((proceeds 5).map fun action => (false, action)) ++
    ((proceeds 3).map fun action => (true, action)) ++ [(false, changing .active)] ++
    ([.cascadeRow 10 3, .cascadeRow 11 3, .proceed 3 0].map fun action => (true, action)) ++
    (changingBoth.map fun action => (false, action))

theorem both_suspended_and_back :
    ∃ reached middle final : World Bool Nat,
      run (World.step asciiSettings) (World.start activeAndArchived activeTenant [])
          suspendedMeanwhile = some reached ∧
      World.Completes asciiSettings reached true
        (.changeStatus 1 ⟨5, "platform_admin"⟩ .suspended (some "unpaid invoices")) middle ∧
      World.Completes asciiSettings middle false
        (.changeStatus 1 ⟨5, "platform_admin"⟩ .active none) final ∧
      standing middle.workspaces.committed 11 = some (1, .suspended) ∧
      ∀ workspaceId, standing final.workspaces.committed workspaceId =
        standing reached.workspaces.committed workspaceId := by
  have ran : ∃ reached middle final : World Bool Nat,
      run (World.step asciiSettings) (World.start activeAndArchived activeTenant [])
          suspendedMeanwhile = some reached ∧
      World.Completes asciiSettings reached true
        (.changeStatus 1 ⟨5, "platform_admin"⟩ .suspended (some "unpaid invoices")) middle ∧
      World.Completes asciiSettings middle false
        (.changeStatus 1 ⟨5, "platform_admin"⟩ .active none) final ∧
      standing middle.workspaces.committed 11 = some (1, .suspended) :=
    ⟨_, _, _, rfl, ⟨changingBoth, changingBoth_continues, rfl, rfl⟩,
      ⟨changingBoth, changingBoth_continues, rfl, rfl⟩, rfl⟩
  obtain ⟨reached, middle, final, restored, suspends, reactivates, suspended⟩ := ran
  have governs := tenant_status_governs activeAndArchived_consistent (by decide +kernel) restored
  exact ⟨reached, middle, final, restored, suspends, reactivates, suspended,
    governs.2 _ _ _ _ _ _ _ _ _ suspends reactivates⟩

end Schedules

end CogniDQ.Tenancy
