import CogniDQ.Database.ReadCommitted
import CogniDQ.Workspaces.Roles

/-!
# Concurrent role changes

The statements of the role operations, one step each, as transactions under READ COMMITTED
interleave them. The row lock of `get_admin_count` is taken row by row, and each row is looked at
again once it is locked.
-/

set_option autoImplicit false

namespace CogniDQ.Workspaces

open CogniDQ.Database

inductive Call (Uuid : Type) where
  | assignRole (workspaceId userId : Uuid) (roleName : String) (grantedBy : Uuid)
  | revokeRole (workspaceId userId : Uuid)
  | grantWorkspaceAdmin (workspaceId actorId : Uuid)

def Call.member {Uuid : Type} : Call Uuid → Uuid × Uuid
  | .assignRole workspaceId userId _ _ => (workspaceId, userId)
  | .revokeRole workspaceId userId => (workspaceId, userId)
  | .grantWorkspaceAdmin workspaceId actorId => (workspaceId, actorId)

inductive Phase (Uuid Moment : Type) where
  | ready
  | reading (call : Call Uuid)
  | guarding (call : Call Uuid)
  /-- The rows of the administrator count still to be locked, with the identity the scan saw. -/
  | counting (call : Call Uuid) (remaining : List ((Uuid × Uuid) × Uuid))
      (locked : List (Uuid × Uuid))
  /-- `counted` when the call has passed the administrator count. -/
  | writing (call : Call Uuid) (counted : Bool)
  /-- The row a `DELETE` has found. -/
  | deleting (call : Call Uuid) (counted : Bool) (target : Option Uuid)
  | closed

/-- A transaction's remaining calls and its place in the current one. -/
structure Session (Uuid Moment : Type) where
  calls : List (Call Uuid)
  phase : Phase Uuid Moment

structure World (Tx Uuid Moment : Type) where
  table : Table Tx (Uuid × Uuid) (Assignment Uuid Moment)
  sessions : Tx → Session Uuid Moment

inductive Action (Uuid Moment : Type) where
  /-- The next call; for a custom role name, whether its lookup finds the role. -/
  | call (roleExists : Bool)
  | readMember
  | scanAdmins
  | lockRow (row : (Uuid × Uuid) × Uuid)
  | returnCount
  | write (generatedId : Uuid) (now : Moment)
  | findRow
  | deleteRow
  | commit
  | rollback

section Steps

variable {Tx Uuid Moment : Type} [DecidableEq Tx] [DecidableEq Uuid]

namespace World

/-- Transactions that have not begun, over committed assignments. -/
def start (committed : Assignments Uuid Moment) (calls : Tx → List (Call Uuid)) :
    World Tx Uuid Moment :=
  { table := Table.quiet committed
    sessions := fun tx => { calls := calls tx, phase := .ready } }

def goto (world : World Tx Uuid Moment) (tx : Tx) (phase : Phase Uuid Moment) :
    World Tx Uuid Moment :=
  { world with sessions := Function.update world.sessions tx { world.sessions tx with phase } }

/-- The row of a member, as the transaction's statements see it. -/
def seen (world : World Tx Uuid Moment) (tx : Tx) (key : Uuid × Uuid) :
    Option (Assignment Uuid Moment) :=
  getMemberRole key.1 key.2 (world.table.view tx)

/-- The first statement of a call, after the role name of an assignment is checked. -/
def beginCall (world : World Tx Uuid Moment) (tx : Tx) (roleExists : Bool) (call : Call Uuid)
    (rest : List (Call Uuid)) : World Tx Uuid Moment :=
  let session : Session Uuid Moment :=
    match call with
    | .assignRole _ _ roleName _ =>
      if decide (roleName ∈ validRoleNames) || roleExists then
        { calls := rest, phase := .reading call }
      else { calls := rest, phase := .ready }
    | .revokeRole _ _ => { calls := rest, phase := .reading call }
    | .grantWorkspaceAdmin _ _ => { calls := rest, phase := .writing call false }
  { world with sessions := Function.update world.sessions tx session }

/-- `existing = self.get_member_role(…)` and the branches that follow it. -/
def afterRead (existing : Option (Assignment Uuid Moment)) (call : Call Uuid) :
    Phase Uuid Moment :=
  match call, existing with
  | .assignRole _ _ roleName _, existing =>
    if existing.any (·.isAdmin) && roleName != workspaceAdminRole then .guarding call
    else if existing.any (·.roleName == roleName) then .ready
    else .writing call false
  | .revokeRole _ _, none => .ready
  | .revokeRole _ _, some row => if row.isAdmin then .guarding call else .writing call false
  | .grantWorkspaceAdmin _ _, _ => .writing call false

/-- The snapshot of the `FOR UPDATE` scan. -/
def adminSnapshot (world : World Tx Uuid Moment) (tx : Tx) (workspaceId : Uuid) :
    List ((Uuid × Uuid) × Uuid) :=
  ((world.table.view tx).entries.filter fun entry =>
    entry.1.1 == workspaceId && entry.2.isAdmin).map fun entry => (entry.1, entry.2.id)

/-- A row of the scan is locked and looked at again: it counts if it is still the same row and
still an administrator's. -/
def lockScanned (world : World Tx Uuid Moment) (tx : Tx) (call : Call Uuid)
    (remaining : List ((Uuid × Uuid) × Uuid)) (locked : List (Uuid × Uuid))
    (row : (Uuid × Uuid) × Uuid) : Option (World Tx Uuid Moment) :=
  if row ∈ remaining then
    if world.table.free tx row.1 then
      match (world.seen tx row.1).filter (·.id == row.2) with
      | none => some (world.goto tx (.counting call (remaining.erase row) locked))
      | some current =>
        let locked := if current.isAdmin then row.1 :: locked else locked
        some (({ world with table := world.table.lock tx row.1 }).goto tx
          (.counting call (remaining.erase row) locked))
    else none
  else none

/-- The `INSERT … ON CONFLICT` of an assignment or a grant; none while it waits. -/
def writeRow (world : World Tx Uuid Moment) (tx : Tx) (generatedId : Uuid) (now : Moment) :
    Call Uuid → Option (World Tx Uuid Moment)
  | .assignRole workspaceId userId roleName grantedBy =>
    let key := (workspaceId, userId)
    if world.table.free tx key then
      let row := replacedRow (world.seen tx key) generatedId roleName grantedBy now
      some (({ world with table := world.table.write tx key (some row) }).goto tx .ready)
    else none
  | .grantWorkspaceAdmin workspaceId actorId =>
    let key := (workspaceId, actorId)
    -- `DO NOTHING` waits for a row being written, not for one that is only locked.
    if (world.table.holder key).any fun other =>
        other != tx && ((world.table.pending other).lookup key).isSome then none
    else if (world.seen tx key).isSome then some (world.goto tx .ready)
    else if world.table.free tx key then
      some (({ world with
        table := world.table.write tx key (some (administratorRow generatedId now)) }).goto tx .ready)
    else none
  | .revokeRole _ _ => none

/-- The `DELETE` removes the row it has found, unless it is gone by the time it is locked. -/
def deleteFound (world : World Tx Uuid Moment) (tx : Tx) (key : Uuid × Uuid)
    (target : Option Uuid) : Option (World Tx Uuid Moment) :=
  match target with
  | none => some (world.goto tx .ready)
  | some id =>
    if world.table.free tx key then
      if (world.seen tx key).any (·.id == id) then
        some (({ world with table := world.table.write tx key none }).goto tx .ready)
      else some (world.goto tx .ready)
    else none

/-- One step of a transaction; none when it has to wait or has nothing of the kind to do. A call
that raises ends; whether its caller then commits or rolls back is left open. -/
def step (world : World Tx Uuid Moment) (tx : Tx) (action : Action Uuid Moment) :
    Option (World Tx Uuid Moment) :=
  let session := world.sessions tx
  match action, session.phase with
  | .call roleExists, .ready =>
    match session.calls with
    | [] => none
    | call :: rest => some (world.beginCall tx roleExists call rest)
  | .readMember, .reading call => some (world.goto tx (afterRead (world.seen tx call.member) call))
  | .scanAdmins, .guarding call =>
    some (world.goto tx (.counting call (world.adminSnapshot tx call.member.1) []))
  | .lockRow row, .counting call remaining locked =>
    world.lockScanned tx call remaining locked row
  | .returnCount, .counting call [] locked =>
    some (world.goto tx (if locked.length ≤ 1 then .ready else .writing call true))
  | .write generatedId now, .writing call _ => world.writeRow tx generatedId now call
  | .findRow, .writing (.revokeRole workspaceId userId) counted =>
    let call := Call.revokeRole workspaceId userId
    some (world.goto tx (.deleting call counted ((world.seen tx call.member).map (·.id))))
  | .deleteRow, .deleting call _ target => world.deleteFound tx call.member target
  | .commit, .ready =>
    some (({ world with table := world.table.commit tx }).goto tx .closed)
  | .rollback, .closed => none
  | .rollback, _ => some (({ world with table := world.table.release tx }).goto tx .closed)
  | _, _ => none

def run (world : World Tx Uuid Moment) : List (Tx × Action Uuid Moment) → Option (World Tx Uuid Moment)
  | [] => some world
  | (tx, action) :: rest => (world.step tx action).bind fun next => next.run rest

/-- An `UPSERT` or a `DELETE` takes the role from an administrator only if its call has read that
role and has passed the administrator count. -/
def informed (world : World Tx Uuid Moment) (tx : Tx) (action : Action Uuid Moment) : Bool :=
  match action, (world.sessions tx).phase with
  | .write _ _, .writing (.assignRole workspaceId userId roleName _) counted =>
    counted || roleName == workspaceAdminRole ||
      !(world.seen tx (workspaceId, userId)).any (·.isAdmin)
  | .deleteRow, .deleting call counted _ => counted || !(world.seen tx call.member).any (·.isAdmin)
  | _, _ => true

def informedRun (world : World Tx Uuid Moment) : List (Tx × Action Uuid Moment) → Bool
  | [] => true
  | (tx, action) :: rest =>
    world.informed tx action && (world.step tx action).all fun next => next.informedRun rest

end World

end Steps

end CogniDQ.Workspaces

/-!
## The last administrator

Which interleavings keep an administrator in a workspace. A transaction that has counted the
administrators holds one that it does not demote; a transaction that has not may only write over
members that are no administrators by then.
-/

namespace CogniDQ.Workspaces

open CogniDQ.Database

section Invariant

variable {Tx Uuid Moment : Type} [DecidableEq Uuid]

def administers (workspaceId : Uuid) (key : Uuid × Uuid) (row : Assignment Uuid Moment) : Prop :=
  key.1 = workspaceId ∧ row.roleName = workspaceAdminRole

/-- The call holds an administrator other than its member. -/
def spares (workspaceId : Uuid) (table : Table Tx (Uuid × Uuid) (Assignment Uuid Moment)) (tx : Tx)
    (call : Call Uuid) : Prop :=
  ∃ key, key ≠ call.member ∧ table.Holds tx (administers workspaceId) key

/-- What the administrator count of a call has locked so far. -/
structure CountSound (workspaceId : Uuid)
    (table : Table Tx (Uuid × Uuid) (Assignment Uuid Moment)) (tx : Tx)
    (remaining : List ((Uuid × Uuid) × Uuid)) (locked : List (Uuid × Uuid)) : Prop where
  holds : ∀ key ∈ locked, table.Holds tx (administers workspaceId) key
  inWorkspace : ∀ row ∈ remaining, row.1.1 = workspaceId
  distinct : (locked ++ remaining.map (·.1)).Nodup

def PhaseSound (workspaceId : Uuid) (table : Table Tx (Uuid × Uuid) (Assignment Uuid Moment))
    (tx : Tx) : Phase Uuid Moment → Prop
  | .counting call remaining locked =>
    call.member.1 = workspaceId → CountSound workspaceId table tx remaining locked
  | .writing call counted =>
    call.member.1 = workspaceId → counted = true → spares workspaceId table tx call
  | .deleting call counted _ =>
    call.member.1 = workspaceId → counted = true → spares workspaceId table tx call
  | _ => True

structure World.Sound (workspaceId : Uuid) (world : World Tx Uuid Moment) : Prop where
  owned : world.table.Owned
  present : world.table.Present (administers workspaceId)
  safe : ∀ tx, world.table.Safe tx (administers workspaceId)
  phase : ∀ tx, PhaseSound workspaceId world.table tx (world.sessions tx).phase

private theorem spares.frame {workspaceId : Uuid}
    {before after : Table Tx (Uuid × Uuid) (Assignment Uuid Moment)} {tx : Tx} {call : Call Uuid}
    (spared : spares workspaceId before tx call) (frame : before.Frame after tx) :
    spares workspaceId after tx call := by
  obtain ⟨key, apart, holds⟩ := spared
  exact ⟨key, apart, holds.frame frame⟩

private theorem PhaseSound.frame {workspaceId : Uuid}
    {before after : Table Tx (Uuid × Uuid) (Assignment Uuid Moment)} {tx : Tx}
    {phase : Phase Uuid Moment} (sound : PhaseSound workspaceId before tx phase)
    (frame : before.Frame after tx) : PhaseSound workspaceId after tx phase := by
  cases phase with
  | counting call remaining locked =>
    intro here
    obtain ⟨holds, inWorkspace, distinct⟩ := sound here
    exact ⟨fun key member => (holds key member).frame frame, inWorkspace, distinct⟩
  | writing call counted =>
    intro here passed
    exact (sound here passed).frame frame
  | deleting call counted target =>
    intro here passed
    exact (sound here passed).frame frame
  | _ => trivial

variable {workspaceId : Uuid} {world : World Tx Uuid Moment} {tx : Tx}

theorem World.sound_start (committed : Assignments Uuid Moment) (calls : Tx → List (Call Uuid))
    (administered : ∃ userId row, committed.lookup (workspaceId, userId) = some row ∧
      row.roleName = workspaceAdminRole) :
    (World.start committed calls : World Tx Uuid Moment).Sound workspaceId where
  owned := Table.owned_quiet committed
  present := by
    obtain ⟨userId, row, found, admin⟩ := administered
    exact ⟨(workspaceId, userId), row, found, rfl, admin⟩
  safe tx := Table.safe_of_idle rfl
  phase tx := trivial

private theorem phaseSound_afterRead (table : Table Tx (Uuid × Uuid) (Assignment Uuid Moment))
    (existing : Option (Assignment Uuid Moment)) (call : Call Uuid) :
    PhaseSound workspaceId table tx (World.afterRead existing call) := by
  have uncounted : PhaseSound workspaceId table tx (.writing call false) := by
    intro _ counted
    cases counted
  cases call with
  | assignRole =>
    unfold World.afterRead
    dsimp only
    split_ifs
    · trivial
    · trivial
    · exact uncounted
  | revokeRole =>
    cases existing with
    | none => trivial
    | some row =>
      unfold World.afterRead
      dsimp only
      split_ifs
      · trivial
      · exact uncounted
  | grantWorkspaceAdmin => exact uncounted

theorem mem_adminSnapshot {row : (Uuid × Uuid) × Uuid} (member : row ∈ world.adminSnapshot tx workspaceId) :
    row.1.1 = workspaceId := by
  obtain ⟨entry, selected, rfl⟩ := List.mem_map.mp member
  have matched := (List.mem_filter.mp selected).2
  simp only [Bool.and_eq_true, beq_iff_eq] at matched
  exact matched.1

theorem adminSnapshot_distinct : ((world.adminSnapshot tx workspaceId).map (·.1)).Nodup := by
  unfold World.adminSnapshot
  rw [List.map_map]
  exact (world.table.view tx).keys_nodup.sublist (List.filter_sublist.map _)

private theorem CountSound.spares {call : Call Uuid} {locked : List (Uuid × Uuid)}
    (sound : CountSound workspaceId world.table tx [] locked) (several : ¬locked.length ≤ 1) :
    spares workspaceId world.table tx call := by
  cases locked with
  | nil => exact absurd (Nat.zero_le 1) several
  | cons first others =>
    cases others with
    | nil => exact absurd le_rfl several
    | cons second rest =>
      have apart : first ≠ second := by
        have distinct := sound.distinct
        simp only [List.map_nil, List.append_nil, List.nodup_cons, List.mem_cons] at distinct
        exact fun same => distinct.1 (.inl same)
      by_cases isMember : first = call.member
      · refine ⟨second, fun same => apart (isMember.trans same.symm), sound.holds second ?_⟩
        exact List.mem_cons_of_mem _ List.mem_cons_self
      · exact ⟨first, isMember, sound.holds first List.mem_cons_self⟩

variable [DecidableEq Tx]

theorem World.Sound.advance (sound : world.Sound workspaceId)
    {table : Table Tx (Uuid × Uuid) (Assignment Uuid Moment)} {session : Session Uuid Moment}
    (owned : table.Owned) (frame : ∀ other, other ≠ tx → world.table.Frame table other)
    (present : table.Present (administers workspaceId))
    (safe : table.Safe tx (administers workspaceId))
    (phase : PhaseSound workspaceId table tx session.phase) :
    World.Sound workspaceId { table, sessions := Function.update world.sessions tx session } where
  owned := owned
  present := present
  safe other := by
    by_cases same : other = tx
    · subst same
      exact safe
    · exact (sound.safe other).frame sound.owned (frame other same)
  phase other := by
    by_cases same : other = tx
    · subst same
      change PhaseSound workspaceId table other (Function.update world.sessions other session other).phase
      rw [Function.update_self]
      exact phase
    · change PhaseSound workspaceId table other (Function.update world.sessions tx session other).phase
      rw [Function.update_of_ne same]
      exact (sound.phase other).frame (frame other same)

theorem World.Sound.read (sound : world.Sound workspaceId) {session : Session Uuid Moment}
    (phase : PhaseSound workspaceId world.table tx session.phase) :
    World.Sound workspaceId
      { world with sessions := Function.update world.sessions tx session } :=
  sound.advance sound.owned (fun other _ => .refl _ other) sound.present (sound.safe tx) phase

private theorem World.Sound.beginCall (sound : world.Sound workspaceId) (roleExists : Bool)
    (call : Call Uuid) (rest : List (Call Uuid)) :
    (world.beginCall tx roleExists call rest).Sound workspaceId := by
  refine sound.read ?_
  cases call with
  | assignRole =>
    dsimp only
    split <;> trivial
  | revokeRole => trivial
  | grantWorkspaceAdmin =>
    intro _ counted
    cases counted

private theorem World.Sound.scanAdmins (sound : world.Sound workspaceId) (call : Call Uuid) :
    (world.goto tx (.counting call (world.adminSnapshot tx call.member.1) [])).Sound
      workspaceId := by
  refine sound.read ?_
  intro here
  rw [here]
  refine ⟨fun key member => (List.not_mem_nil member).elim, fun row => mem_adminSnapshot, ?_⟩
  exact adminSnapshot_distinct

private theorem World.Sound.lockScanned (sound : world.Sound workspaceId) {call : Call Uuid}
    {remaining : List ((Uuid × Uuid) × Uuid)} {locked : List (Uuid × Uuid)}
    {row : (Uuid × Uuid) × Uuid} {next : World Tx Uuid Moment}
    (counting : (world.sessions tx).phase = .counting call remaining locked)
    (taken : world.lockScanned tx call remaining locked row = some next) :
    next.Sound workspaceId := by
  have before := sound.phase tx
  rw [counting] at before
  unfold World.lockScanned at taken
  split_ifs at taken with member available
  have rest : (remaining.erase row).Sublist remaining := List.erase_sublist
  split at taken
  · cases taken
    refine sound.read fun here => ?_
    obtain ⟨holds, inWorkspace, distinct⟩ := before here
    exact ⟨holds, fun other kept => inWorkspace other (rest.subset kept),
      distinct.sublist ((List.Sublist.refl _).append (rest.map _))⟩
  · next current found =>
    cases taken
    have seen : world.seen tx row.1 = some current := (Option.filter_eq_some_iff.mp found).1
    refine sound.advance (sound.owned.lock available)
      (fun other apart => Table.frame_lock available apart) sound.present
      ((sound.safe tx).lock row.1) fun here => ?_
    obtain ⟨holds, inWorkspace, distinct⟩ := before here
    have still : ∀ key ∈ locked, (world.table.lock tx row.1).Holds tx (administers workspaceId) key :=
      fun key older => (holds key older).lock row.1
    refine ⟨fun key listed => ?_, fun other kept => inWorkspace other (rest.subset kept), ?_⟩
    · split_ifs at listed with admin
      · rcases List.mem_cons.mp listed with rfl | older
        · exact Table.holds_of_lock seen
            ⟨inWorkspace row member, Assignment.isAdmin_iff.mp admin⟩
        · exact still key older
      · exact still key listed
    · have perm : (locked ++ remaining.map (·.1)).Perm
          (row.1 :: (locked ++ (remaining.erase row).map (·.1))) := by
        have moved : (remaining.map (·.1)).Perm (row.1 :: (remaining.erase row).map (·.1)) :=
          (List.perm_cons_erase member).map (·.1)
        exact (moved.append_left locked).trans List.perm_middle
      have counted := perm.nodup_iff.mp distinct
      split_ifs
      · exact counted
      · exact counted.of_cons

theorem World.Sound.writeMember (sound : world.Sound workspaceId) (call : Call Uuid)
    {value : Option (Assignment Uuid Moment)} (available : world.table.free tx call.member)
    (allowed : (∃ row, value = some row ∧ row.roleName = workspaceAdminRole) ∨
      (call.member.1 = workspaceId → spares workspaceId world.table tx call) ∨
      (world.seen tx call.member).any (·.isAdmin) = false) :
    (({ world with table := world.table.write tx call.member value }).goto tx .ready).Sound
      workspaceId := by
  refine sound.advance (sound.owned.write available value)
    (fun other apart => Table.frame_write available value apart) sound.present ?_ trivial
  have written (kept : ∀ row, (world.table.view tx).lookup call.member = some row →
      ¬administers workspaceId call.member row) :
      (world.table.write tx call.member value).Safe tx (administers workspaceId) :=
    (sound.safe tx).write (.inr kept)
  by_cases here : call.member.1 = workspaceId
  · rcases allowed with ⟨row, rfl, admin⟩ | spared | other
    · exact (sound.safe tx).write (.inl ⟨row, rfl, here, admin⟩)
    · obtain ⟨key, apart, holds⟩ := spared here
      exact .inr ⟨key, holds.write apart value⟩
    · refine written fun row found administered => ?_
      have seen : world.seen tx call.member = some row := found
      simp [seen, Assignment.isAdmin, administered.2] at other
  · exact written fun row _ administered => here administered.1

private theorem World.Sound.returnCount (sound : world.Sound workspaceId) {call : Call Uuid}
    {locked : List (Uuid × Uuid)} (counting : (world.sessions tx).phase = .counting call [] locked) :
    (world.goto tx (if locked.length ≤ 1 then .ready else .writing call true)).Sound
      workspaceId := by
  have before := sound.phase tx
  rw [counting] at before
  refine sound.read ?_
  dsimp only
  split_ifs with few
  · trivial
  · exact fun here _ => (before here).spares few

theorem World.Sound.writeRow (sound : world.Sound workspaceId) {call : Call Uuid} {counted : Bool}
    {generatedId : Uuid} {now : Moment} {next : World Tx Uuid Moment}
    (writing : (world.sessions tx).phase = .writing call counted)
    (informed : world.informed tx (.write generatedId now) = true)
    (written : world.writeRow tx generatedId now call = some next) : next.Sound workspaceId := by
  have before := sound.phase tx
  rw [writing] at before
  cases call with
  | assignRole workspace userId roleName grantedBy =>
    simp only [World.informed, writing, Bool.or_eq_true, beq_iff_eq, Bool.not_eq_true'] at informed
    unfold World.writeRow at written
    dsimp only at written
    split_ifs at written with available
    cases written
    refine sound.writeMember (.assignRole workspace userId roleName grantedBy) available ?_
    rcases informed with (passed | promoted) | other
    · exact .inr (.inl fun here => before here passed)
    · exact .inl ⟨_, rfl, (replacedRow_roleName ..).trans promoted⟩
    · exact .inr (.inr other)
  | revokeRole => cases written
  | grantWorkspaceAdmin workspace actorId =>
    unfold World.writeRow at written
    dsimp only at written
    split_ifs at written with waits exists_ available
    · cases written
      exact sound.read trivial
    · cases written
      exact sound.writeMember (.grantWorkspaceAdmin workspace actorId) available
        (.inl ⟨_, rfl, rfl⟩)

private theorem World.Sound.deleteFound (sound : world.Sound workspaceId) {call : Call Uuid}
    {counted : Bool} {target : Option Uuid} {next : World Tx Uuid Moment}
    (deleting : (world.sessions tx).phase = .deleting call counted target)
    (informed : world.informed tx .deleteRow = true)
    (deleted : world.deleteFound tx call.member target = some next) : next.Sound workspaceId := by
  have before := sound.phase tx
  rw [deleting] at before
  simp only [World.informed, deleting, Bool.or_eq_true, Bool.not_eq_true'] at informed
  unfold World.deleteFound at deleted
  cases target with
  | none =>
    cases deleted
    exact sound.read trivial
  | some id =>
    dsimp only at deleted
    split_ifs at deleted with available present
    · cases deleted
      refine sound.writeMember _ available ?_
      rcases informed with passed | other
      · exact .inr (.inl fun here => before here passed)
      · exact .inr (.inr other)
    · cases deleted
      exact sound.read trivial

private theorem World.Sound.commit (sound : world.Sound workspaceId) :
    (({ world with table := world.table.commit tx }).goto tx .closed).Sound workspaceId :=
  sound.advance (sound.owned.release tx) (fun _ apart => Table.frame_commit sound.owned apart)
    (sound.present.commit (sound.safe tx)) (Table.safe_of_idle (Function.update_self ..)) trivial

private theorem World.Sound.rollback (sound : world.Sound workspaceId) :
    (({ world with table := world.table.release tx }).goto tx .closed).Sound workspaceId :=
  sound.advance (sound.owned.release tx) (fun _ apart => Table.frame_release apart) sound.present
    (Table.safe_of_idle (Function.update_self ..)) trivial

private theorem World.Sound.step (sound : world.Sound workspaceId) {action : Action Uuid Moment}
    {next : World Tx Uuid Moment} (informed : world.informed tx action = true)
    (stepped : world.step tx action = some next) : next.Sound workspaceId := by
  unfold World.step at stepped
  dsimp only at stepped
  split at stepped
  · split at stepped
    · cases stepped
    · cases stepped
      exact sound.beginCall ..
  · cases stepped
    exact sound.read (phaseSound_afterRead ..)
  · cases stepped
    exact sound.scanAdmins _
  · next counting => exact sound.lockScanned counting stepped
  · next counting =>
    cases stepped
    exact sound.returnCount counting
  · next writing => exact sound.writeRow writing informed stepped
  · next writing =>
    have before := sound.phase tx
    rw [writing] at before
    cases stepped
    exact sound.read before
  · next deleting => exact sound.deleteFound deleting informed stepped
  · cases stepped
    exact sound.commit
  · cases stepped
  · cases stepped
    exact sound.rollback
  · cases stepped

private theorem World.Sound.run (sound : world.Sound workspaceId)
    {schedule : List (Tx × Action Uuid Moment)} {final : World Tx Uuid Moment}
    (informed : world.informedRun schedule = true) (ran : world.run schedule = some final) :
    final.Sound workspaceId := by
  induction schedule generalizing world with
  | nil =>
    cases ran
    exact sound
  | cons entry rest ih =>
    obtain ⟨tx, action⟩ := entry
    obtain ⟨next, stepped, continued⟩ := Option.bind_eq_some_iff.mp ran
    simp only [World.informedRun, stepped, Option.all_some, Bool.and_eq_true] at informed
    exact ih (sound.step informed.1 stepped) informed.2 continued

/-- In every interleaving in which no write takes the role from an administrator that its call has
not counted, a workspace that had an administrator has one in every committed state. -/
theorem administrator_remains {committed : Assignments Uuid Moment} {calls : Tx → List (Call Uuid)}
    {schedule : List (Tx × Action Uuid Moment)} {final : World Tx Uuid Moment}
    (administered : ∃ userId row, committed.lookup (workspaceId, userId) = some row ∧
      row.roleName = workspaceAdminRole)
    (informed : (World.start committed calls).informedRun schedule = true)
    (ran : (World.start committed calls).run schedule = some final) :
    ∃ userId row, final.table.committed.lookup (workspaceId, userId) = some row ∧
      row.roleName = workspaceAdminRole := by
  have sound := (World.sound_start committed calls administered).run informed ran
  obtain ⟨⟨_, userId⟩, row, found, rfl, admin⟩ := sound.present
  exact ⟨userId, row, found, admin⟩

end Invariant

section Schedules

private def twoMembers : Assignments Nat Nat :=
  AList.insert (0, 1) ⟨101, "workspace_administrator", none, 0⟩
    (AList.insert (0, 2) ⟨102, "data_steward", some 1, 0⟩ ∅)

/-- One transaction promotes 2, one demotes 1, one revokes the role of 2. -/
private def threeCalls : Nat → List (Call Nat)
  | 0 => [.assignRole 0 2 "workspace_administrator" 1]
  | 1 => [.assignRole 0 1 "data_engineer" 2]
  | 2 => [.revokeRole 0 2]
  | _ => []

private def promotion : List (Nat × Action Nat Nat) :=
  [(0, .call false), (0, .readMember), (0, .write 103 1), (0, .commit)]

private def demotion : List (Nat × Action Nat Nat) :=
  [(1, .call false), (1, .readMember), (1, .scanAdmins), (1, .lockRow ((0, 2), 102)),
    (1, .lockRow ((0, 1), 101)), (1, .returnCount), (1, .write 104 2), (1, .commit)]

/-- After a promotion, one of two administrators can be demoted. -/
theorem administrator_remains_after_demotion :
    ∃ final, (World.start twoMembers threeCalls).run (promotion ++ demotion) = some final ∧
      ∃ userId row, final.table.committed.lookup (0, userId) = some row ∧
        row.roleName = workspaceAdminRole := by
  have ran : ∃ final, (World.start twoMembers threeCalls).run (promotion ++ demotion) =
      some final := ⟨_, rfl⟩
  obtain ⟨final, ran⟩ := ran
  refine ⟨final, ran, administrator_remains ⟨1, _, rfl, rfl⟩ ?_ ran⟩
  decide +kernel

/-- A revocation that has read a steward's role deletes the row of the administrator the member
has become, after the other administrator has stepped down. -/
theorem last_administrator_revoked :
    getAdminCount 0 twoMembers = 1 ∧
      ∃ final, (World.start twoMembers threeCalls).run
        ([(2, .call false), (2, .readMember)] ++ promotion ++ demotion ++
          [(2, .findRow), (2, .deleteRow), (2, .commit)]) = some final ∧
        getAdminCount 0 final.table.committed = 0 := by
  refine ⟨by decide +kernel, _, rfl, ?_⟩
  decide +kernel

end Schedules

end CogniDQ.Workspaces
