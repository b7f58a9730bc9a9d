import CogniDQ.Tenancy.RowLocks

/-!
# The last active workspace

Without the confirmation, and without a change of the tenant's status, no interleaving of the calls
takes the last active workspace from a tenant. An archival counts under the advisory lock of its
tenant and keeps the lock until it ends, so another active workspace it has counted stays active.
-/

set_option autoImplicit false

namespace CogniDQ.Tenancy

open CogniDQ.Database CogniDQ.Protocol

section Calls

variable {Uuid : Type}

/-- The calls on workspaces, where an archival does not confirm the last one. -/
def Call.Cautious : Call Uuid → Prop
  | .archiveWorkspace _ _ _ _ confirmLastWorkspace => confirmLastWorkspace = false
  | .changeStatus .. => False
  | _ => True

def Phase.Cautious : Phase Uuid → Prop
  | .calling call => call.Cautious
  | .archiving archival => archival.confirmLastWorkspace = false
  | .counting archival _ => archival.confirmLastWorkspace = false
  | .writingTenant _ _ => False
  | .selecting _ => False
  | .cascading _ _ => False
  | _ => True

def Change.Archives (change : Change Uuid) (tenantId : Uuid) : Prop :=
  change.after.tenantId = tenantId ∧ change.after.status = .archived

/-- The transaction archives a workspace of the tenant, and has begun to count the active ones. -/
def Phase.Archives (tenantId : Uuid) (phase : Phase Uuid) : Prop :=
  (∃ archival reason, phase = .counting archival reason ∧ archival.tenantId = tenantId) ∨
    ∃ change, phase.change = some change ∧ change.Archives tenantId

variable [DecidableEq Uuid]

private theorem Change.Made.stays {change : Change Uuid} (made : change.Made) {row : Workspace Uuid}
    (before : change.before = some row) (active : row.status = .active) :
    change.after.tenantId = row.tenantId ∧
      (change.after.status = .active ∨ change.after.status = .archived) := by
  cases made with
  | created => cases before
  | updated =>
      cases before
      exact ⟨rfl, .inl active⟩
  | archived =>
      cases before
      exact ⟨rfl, .inr rfl⟩
  | restored =>
      cases before
      exact ⟨rfl, .inl rfl⟩

end Calls

section Rows

variable {Uuid : Type} [DecidableEq Uuid]

def ActiveIn (tenantId : Uuid) (rows : Rows Uuid (Workspace Uuid)) (workspaceId : Uuid) : Prop :=
  ∃ row, rows.lookup workspaceId = some row ∧ row.tenantId = tenantId ∧ row.status = .active

end Rows

section Worlds

variable {Tx Uuid : Type} [DecidableEq Tx] [DecidableEq Uuid]

structure World.Populated (settings : Settings Uuid) (tenantId : Uuid) (world : World Tx Uuid) :
    Prop where
  sound : world.Sound
  cautious : ∀ tx, (world.phase tx).Cautious
  serial : ∀ tx tenantId, (world.phase tx).Archives tenantId →
    world.advisory (settings.hashtext tenantId) = some tx
  spared : ∀ tx change, (world.phase tx).change = some change → change.Archives tenantId →
    ∃ other, other ≠ change.workspaceId ∧ ActiveIn tenantId world.workspaces.committed other
  populated : ∃ workspaceId, ActiveIn tenantId world.workspaces.committed workspaceId

variable {settings : Settings Uuid} {world next : World Tx Uuid} {tx other : Tx}
  {action : Action Uuid} {tenantId : Uuid}

private theorem effect_cautious (cautious : (world.phase tx).Cautious)
    (begins : ∀ call, action = .begin call → call.Cautious)
    (effect : world.Effect settings tx action next) : (next.phase tx).Cautious := by
  cases effect with
  | failed failure =>
      rw [World.fail, World.phase_finish]
      trivial
  | began failure call starts at_ =>
      rw [World.phase_goto]
      exact begins call starts
  | locked call workspaceId row phase at_ seen free opens =>
      rw [at_] at cautious
      rw [World.phase_goto]
      cases opens with
      | archive => exact cautious
      | _ => trivial
  | lockedAdvisory archival reason at_ =>
      rw [at_] at cautious
      rw [World.phase_goto]
      exact cautious
  | committed | cascaded =>
      rw [World.phase_commit]
      trivial
  | lockedTenant tenantId actor target statusReason transition row now generated proceeds at_ =>
      rw [at_] at cautious
      exact cautious.elim
  | wroteTenant transition row at_ | selected transition at_ =>
      rw [at_] at cautious
      exact cautious.elim
  | skippedRow transition remaining workspaceId at_ =>
      rw [at_] at cautious
      exact cautious.elim
  | cascadedRow transition remaining workspaceId row now at_ =>
      rw [at_] at cautious
      exact cautious.elim
  | wroteAudit change at_ =>
      rw [World.writeAudit, World.phase_goto]
      trivial
  | _ =>
      rw [World.phase_goto]
      trivial

theorem effect_archival (sound : world.Sound) (effect : world.Effect settings tx action next)
    {change : Change Uuid} (changing : (next.phase tx).change = some change)
    (archived : change.after.status = .archived) :
    (world.phase tx).change = some change ∨ ∃ archival reason now,
      world.phase tx = .counting archival reason ∧ world.Spared tx archival ∧
        change = archiveChange archival.workspaceId archival.tenantId archival.actor
          archival.workspace reason now := by
  rcases effect_change sound effect changing with before | decides
  · exact .inl before
  · cases decides with
    | created => cases archived
    | updated workspaceId actor payload row now at_ live => exact absurd archived live
    | archived archival reason now at_ spared =>
        exact .inr ⟨archival, reason, now, at_, spared, rfl⟩
    | restored => cases archived

private theorem effect_advisory (effect : world.Effect settings tx action next)
    (runs : ∀ failure, next.phase tx ≠ .idle failure) {key : Int}
    (held : world.advisory key = some tx) : next.advisory key = some tx := by
  cases effect with
  | failed failure => exact absurd (World.phase_finish ..) (runs _)
  | committed | cascaded => exact absurd (World.phase_commit ..) (runs _)
  | lockedAdvisory archival reason at_ =>
      by_cases same : key = settings.hashtext archival.tenantId
      · subst same
        exact Function.update_self ..
      · exact (Function.update_of_ne same ..).trans held
  | _ => exact held

omit [DecidableEq Uuid] in
theorem Phase.Archives.runs {phase : Phase Uuid} (archives : phase.Archives tenantId)
    (failure : Option Failure) : phase ≠ .idle failure := by
  rintro rfl
  rcases archives with ⟨_, _, counting, _⟩ | ⟨_, changing, _⟩
  · cases counting
  · cases changing

private theorem effect_serial (sound : world.Sound) (effect : world.Effect settings tx action next)
    (serial : (world.phase tx).Archives tenantId →
      world.advisory (settings.hashtext tenantId) = some tx)
    (archives : (next.phase tx).Archives tenantId) :
    next.advisory (settings.hashtext tenantId) = some tx := by
  have checked := (sound.grounded tx).checked
  have kept := fun held => effect_advisory effect archives.runs (serial held)
  rcases archives with ⟨archival, reason, counting, same⟩ | ⟨change, changing, same, archived⟩
  · cases effect with
    | lockedAdvisory counted text at_ =>
        rw [World.phase_goto] at counting
        cases counting
        rw [← same]
        exact Function.update_self ..
    | failed =>
        rw [World.fail, World.phase_finish] at counting
        cases counting
    | committed | cascaded =>
        rw [World.phase_commit] at counting
        cases counting
    | locked call workspaceId row phase at_ seen free opens =>
        rw [World.phase_goto] at counting
        subst counting
        cases opens
    | wroteTenant transition row at_ =>
        rw [World.writeTenant, World.phase_goto] at counting
        split_ifs at counting
    | wroteAudit =>
        rw [World.writeAudit, World.phase_goto] at counting
        cases counting
    | selected =>
        rw [World.selectCascade, World.phase_goto] at counting
        cases counting
    | _ =>
        rw [World.phase_goto] at counting
        cases counting
  · rcases effect_archival sound effect changing archived with before | ⟨archival, reason, now, at_, _,
      rfl⟩
    · exact kept (.inr ⟨change, before, same, archived⟩)
    · rw [at_] at checked
      exact kept (.inl ⟨archival, reason, at_, checked.1.symm.trans same⟩)

private theorem effect_spared (sound : world.Sound) (cautious : (world.phase tx).Cautious)
    (effect : world.Effect settings tx action next) {change : Change Uuid}
    (spared : (world.phase tx).change = some change →
      ∃ other, other ≠ change.workspaceId ∧ ActiveIn tenantId world.workspaces.committed other)
    (changing : (next.phase tx).change = some change) (archives : change.Archives tenantId) :
    ∃ other, other ≠ change.workspaceId ∧ ActiveIn tenantId world.workspaces.committed other := by
  have grounded := sound.grounded tx
  obtain ⟨same, archived⟩ := archives
  rcases effect_archival sound effect changing archived with before | ⟨archival, reason, now, at_,
    counted, rfl⟩
  · exact spared before
  · obtain ⟨written, _, _⟩ := grounded.unwritten (by rw [at_]; trivial)
    have checked := grounded.checked
    have reserved := grounded.reserved archival.workspaceId (some archival.workspace) (by
      rw [at_]; rfl)
    rw [at_] at checked cautious
    obtain ⟨sameTenant, active⟩ := checked
    have view : world.workspaces.view tx = world.workspaces.committed := by
      unfold Table.view
      rw [written]
      rfl
    have several : World.countActiveWorkspaces world tx archival.tenantId ≠ 1 :=
      fun one => counted ⟨one, cautious⟩
    rw [World.countActiveWorkspaces, view] at several
    let counts := fun row : Workspace Uuid =>
      row.tenantId == archival.tenantId && row.status == .active
    have own : counts archival.workspace = true := by simp [counts, sameTenant, active]
    obtain ⟨other, row, apart, present, holds⟩ := another_of_count reserved.2 own several
    rw [Bool.and_eq_true, beq_iff_eq, beq_iff_eq] at holds
    have tenant : archival.tenantId = tenantId := sameTenant.symm.trans same
    exact ⟨other, apart, row, present, holds.1.trans tenant, holds.2⟩

/-- An active workspace of the tenant stays one through the commit of any change but its own
archival. -/
theorem activeIn_commit (sound : world.Sound) {change : Change Uuid}
    (at_ : world.phase tx = .committing (some change)) {workspaceId : Uuid}
    (active : ActiveIn tenantId world.workspaces.committed workspaceId)
    (kept : change.Archives tenantId → workspaceId ≠ change.workspaceId) :
    ActiveIn tenantId (world.commit tx).workspaces.committed workspaceId := by
  obtain ⟨row, present, tenant, status⟩ := active
  have found := lookup_commit_change sound at_ workspaceId
  by_cases same : workspaceId = change.workspaceId
  · subst same
    have grounded := sound.grounded tx
    have made := grounded.checked
    have reserved := grounded.reserved change.workspaceId change.before (by rw [at_]; rfl)
    rw [at_] at made
    have before : change.before = some row := reserved.2.symm.trans present
    obtain ⟨sameTenant, stays | archived⟩ := Change.Made.stays made before status
    · rw [if_pos rfl] at found
      exact ⟨change.after, found, sameTenant.trans tenant, stays⟩
    · exact absurd rfl (kept ⟨sameTenant.trans tenant, archived⟩)
  · rw [if_neg same] at found
    exact ⟨row, found.trans present, tenant, status⟩

private theorem activeIn_nothing (sound : world.Sound) (at_ : world.phase tx = .committing none)
    {workspaceId : Uuid} (active : ActiveIn tenantId world.workspaces.committed workspaceId) :
    ActiveIn tenantId (world.commit tx).workspaces.committed workspaceId := by
  obtain ⟨row, present, holds⟩ := active
  exact ⟨row, (lookup_commit_nothing sound at_ workspaceId).trans present, holds⟩

private theorem activeIn_ended (sound : world.Sound) (cautious : (world.phase tx).Cautious)
    (ended : (∃ change, world.phase tx = .committing change) ∨
      ∃ transition, world.phase tx = .cascading transition []) {workspaceId : Uuid}
    (active : ActiveIn tenantId world.workspaces.committed workspaceId)
    (kept : ∀ change, (world.phase tx).change = some change → change.Archives tenantId →
      workspaceId ≠ change.workspaceId) :
    ActiveIn tenantId (world.commit tx).workspaces.committed workspaceId := by
  rcases ended with ⟨change, at_⟩ | ⟨transition, at_⟩
  · cases change with
    | none => exact activeIn_nothing sound at_ active
    | some change => exact activeIn_commit sound at_ active (kept change (by rw [at_]; rfl))
  · rw [at_] at cautious
    exact cautious.elim

private theorem World.Populated.effect (populated : world.Populated settings tenantId)
    (begins : ∀ call, action = .begin call → call.Cautious)
    (effect : world.Effect settings tx action next) : next.Populated settings tenantId := by
  obtain ⟨sound, cautious, serial, spared, active⟩ := populated
  have frame : ∀ other, other ≠ tx → world.Frame next other :=
    fun _ apart => effect_frame sound effect apart
  refine ⟨sound.effect effect, fun other => ?_, fun other tenant archives => ?_, ?_, ?_⟩
  · by_cases same : other = tx
    · subst same
      exact effect_cautious (cautious other) begins effect
    · rw [(frame other same).phase]
      exact cautious other
  · by_cases same : other = tx
    · subst same
      exact effect_serial sound effect (serial other tenant) archives
    · rw [(frame other same).phase] at archives
      exact (frame other same).advisory _ (serial other tenant archives)
  · intro other change changing archives
    rcases effect_committed effect with ⟨same, _⟩ | ⟨rfl, ended⟩
    · rw [same]
      by_cases mine : other = tx
      · subst mine
        exact effect_spared sound (cautious other) effect
          (fun before => spared other change before archives) changing archives
      · rw [(frame other mine).phase] at changing
        exact spared other change changing archives
    · have apart : other ≠ tx := by
        rintro rfl
        rw [World.phase_commit] at changing
        cases changing
      rw [(frame other apart).phase] at changing
      obtain ⟨kept, different, keptActive⟩ := spared other change changing archives
      refine ⟨kept, different, ?_⟩
      -- Two archivals of the tenant cannot both have its advisory lock.
      have alone : ∀ committed, (world.phase tx).change = some committed →
          ¬committed.Archives tenantId := by
        intro committed committing both
        have first := serial other tenantId (.inr ⟨change, changing, archives⟩)
        have second := serial tx tenantId (.inr ⟨committed, committing, both⟩)
        exact apart (Option.some.inj (first.symm.trans second))
      exact activeIn_ended sound (cautious tx) ended keptActive
        fun committed committing both => absurd both (alone committed committing)
  · rcases effect_committed effect with ⟨same, _⟩ | ⟨rfl, ended⟩
    · rw [same]
      exact active
    · by_cases archiving : ∃ change, (world.phase tx).change = some change ∧
          change.Archives tenantId
      · obtain ⟨change, changing, archives⟩ := archiving
        obtain ⟨kept, different, keptActive⟩ := spared tx change changing archives
        refine ⟨kept, activeIn_ended sound (cautious tx) ended keptActive ?_⟩
        intro committed committing _
        obtain rfl := Option.some.inj (changing.symm.trans committing)
        exact different
      · obtain ⟨workspaceId, stillActive⟩ := active
        exact ⟨workspaceId, activeIn_ended sound (cautious tx) ended stillActive
          fun committed committing both => absurd ⟨committed, committing, both⟩ archiving⟩

/-! ### Runs -/

variable {workspaces : Rows Uuid (Workspace Uuid)} {tenants : Rows Uuid (Tenant Uuid)}
  {audit : List (AuditEntry Uuid)} {schedule : List (Tx × Action Uuid)} {final : World Tx Uuid}

omit [DecidableEq Tx] in
private theorem populated_start
    (active : ∃ workspaceId row, workspaces.lookup workspaceId = some row ∧
      row.tenantId = tenantId ∧ row.status = .active) :
    (World.start workspaces tenants audit : World Tx Uuid).Populated settings tenantId where
  sound := World.sound_start
  cautious _ := trivial
  serial _ _ archives := absurd rfl (archives.runs none)
  spared _ _ changing := nomatch changing
  populated := active

/-- A tenant with an active workspace has one in every state that is reached without a confirmed
archival and without a change of a tenant's status. -/
theorem active_workspace_remains
    (active : ∃ workspaceId row, workspaces.lookup workspaceId = some row ∧
      row.tenantId = tenantId ∧ row.status = .active)
    (cautious : ∀ tx call, (tx, Action.begin call) ∈ schedule → call.Cautious)
    (ran : run (World.step settings) (World.start workspaces tenants audit) schedule =
      some final) :
    ∃ workspaceId row, final.workspaces.committed.lookup workspaceId = some row ∧
      row.tenantId = tenantId ∧ row.status = .active := by
  have preserved : ∀ (world : World Tx Uuid) (action : Tx × Action Uuid) (next : World Tx Uuid),
      world.Populated settings tenantId → (∀ call, action.2 = .begin call → call.Cautious) →
        World.step settings world action = some next → next.Populated settings tenantId :=
    fun _ _ _ populated begins stepped => populated.effect begins (step_effect stepped)
  have meets : RunMeets (World.step settings)
      (fun _ action => ∀ call, action.2 = .begin call → call.Cautious)
      (World.start workspaces tenants audit : World Tx Uuid) schedule := by
    refine runMeets_of_mem fun _ action listed call begins => cautious action.1 call ?_
    rw [← begins]
    exact listed
  exact (run_preserves preserved (populated_start active) meets ran).populated

end Worlds

section Schedules

private def plainSettings : Settings Nat where
  unicode := .ascii
  nfc := id
  generatedLower := id
  hashtext _ := 0

private def workspaceNamed (name : String) : Workspace Nat where
  tenantId := 1
  workspaceName := name
  workspaceSlug := name
  description := none
  defaultTimezone := "UTC"
  status := .active
  statusReason := none
  createdAt := 0
  updatedAt := 0
  createdBy := 5
  updatedBy := 5
  version := 0

private def twoWorkspaces : Rows Nat (Workspace Nat) :=
  AList.insert 10 (workspaceNamed "finance") (AList.insert 11 (workspaceNamed "sales") ∅)

private def oneTenant : Rows Nat (Tenant Nat) :=
  AList.insert 1 ⟨.active, none, 5, 0⟩ ∅

private def archiving (tx : Bool) (workspaceId : Nat) : Bool × Action Nat :=
  (tx, .begin (.archiveWorkspace workspaceId 1 ⟨5, "tenant_admin"⟩ (.str "no longer used") false))

private def proceeding (tx : Bool) (statements : Nat) : List (Bool × Action Nat) :=
  List.replicate statements (tx, .proceed 3 0)

/-- Both archivals lock their workspaces before either of them counts. -/
private def bothArchive : List (Bool × Action Nat) :=
  [archiving false 10, archiving true 11] ++ proceeding false 1 ++ proceeding true 1 ++
    proceeding false 5 ++ proceeding true 2

/-- Of two concurrent archivals of the last two active workspaces, one remains. -/
theorem one_of_two_remains :
    ∃ final : World Bool Nat,
      run (World.step plainSettings) (World.start twoWorkspaces oneTenant []) bothArchive =
        some final ∧
      ∃ workspaceId row, final.workspaces.committed.lookup workspaceId = some row ∧
        row.tenantId = 1 ∧ row.status = .active := by
  have ran : ∃ final : World Bool Nat, run (World.step plainSettings)
      (World.start twoWorkspaces oneTenant []) bothArchive = some final := ⟨_, rfl⟩
  obtain ⟨final, ran⟩ := ran
  refine ⟨final, ran, active_workspace_remains ⟨10, _, rfl, rfl, rfl⟩ ?_ ran⟩
  intro tx call listed
  simp [bothArchive, archiving, proceeding] at listed
  rcases listed with ⟨-, rfl⟩ | ⟨-, rfl⟩ <;> rfl

end Schedules

end CogniDQ.Tenancy
