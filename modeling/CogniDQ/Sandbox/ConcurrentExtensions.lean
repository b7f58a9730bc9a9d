import CogniDQ.Database.ReadCommitted
import CogniDQ.Protocol.Runs
import CogniDQ.Sandbox.ExpiredSandboxes
import Mathlib.Tactic.Ring

/-!
# Concurrent extensions

`extend` checks the limit and computes the new expiry from a row that it has read without a lock. The
count is incremented in the database, but of two extensions that read the same row one is lost in
the expiry.
-/

set_option autoImplicit false

namespace CogniDQ.Sandbox

open CogniDQ.Database CogniDQ.Protocol CogniDQ.Python

structure ExtendCall (Uuid : Type) where
  sandboxId : Uuid
  note : String
  adminId : Option Uuid
  extraDays : Int

/-- How far a call of `extend` has come, with the row that it has read. -/
inductive ExtendPhase (Uuid : Type) where
  | idle
  | called (call : ExtendCall Uuid)
  | validated (row : SandboxEnvironment Uuid) (extension : SandboxExtension Uuid)
  | recorded (row : SandboxEnvironment Uuid) (extension : SandboxExtension Uuid)
  | updated (extension : SandboxExtension Uuid)

structure ExtensionWorld (Tx Uuid : Type) where
  environments : Table Tx Uuid (SandboxEnvironment Uuid)
  extensions : List (SandboxExtension Uuid)
  phase : Tx → ExtendPhase Uuid

inductive ExtendAction (Uuid : Type) where
  | begin (call : ExtendCall Uuid)
  /-- The row is read and the request validated. -/
  | read (now : Int)
  | record
  | update
  | commit
  | rollback

section Steps

variable {Tx Uuid : Type} [DecidableEq Tx] [DecidableEq Uuid]

def ExtendCall.extension (call : ExtendCall Uuid) (row : SandboxEnvironment Uuid) (now : Int) :
    SandboxExtension Uuid where
  sandboxId := call.sandboxId
  extendedBy := call.adminId
  extensionDays := call.extraDays
  note := call.note
  previousExpiresAt := row.expiresAt.getD now
  newExpiresAt := row.expiresAt.getD now + days call.extraDays

namespace ExtensionWorld

variable (runtime : Runtime) (schema : Schema Uuid) (world : ExtensionWorld Tx Uuid) (tx : Tx)

def goto (phase : ExtendPhase Uuid) : ExtensionWorld Tx Uuid :=
  { world with phase := Function.update world.phase tx phase }

def abort : ExtensionWorld Tx Uuid :=
  { world with
    environments := world.environments.release tx
    phase := Function.update world.phase tx .idle }

def read (call : ExtendCall Uuid) (now : Int) : ExtensionWorld Tx Uuid :=
  match (world.environments.view tx).lookup call.sandboxId with
  | none => world.abort tx
  | some row =>
    match validateExtension runtime call.note row.extensionCount with
    | _ :: _ => world.abort tx
    | [] => world.goto tx (.validated row (call.extension row now))

def record (row : SandboxEnvironment Uuid) (extension : SandboxExtension Uuid) :
    ExtensionWorld Tx Uuid :=
  match createExtension schema extension (world.environments.view tx) world.extensions with
  | .ok _ => world.goto tx (.recorded row extension)
  | .error _ => world.abort tx

/-- `_INCREMENT_EXTENSION_SQL`, which waits for the row and takes its count from it. -/
def update (extension : SandboxExtension Uuid) : Option (ExtensionWorld Tx Uuid) :=
  if world.environments.free tx extension.sandboxId then
    match (world.environments.view tx).lookup extension.sandboxId with
    | none => some (world.abort tx)
    | some current =>
      if (current.extended extension.newExpiresAt).meets schema then
        some
          { world with
            environments := world.environments.write tx extension.sandboxId
              (some (current.extended extension.newExpiresAt))
            phase := Function.update world.phase tx (.updated extension) }
      else some (world.abort tx)
  else none

def commit (extension : SandboxExtension Uuid) : ExtensionWorld Tx Uuid :=
  { environments := world.environments.commit tx
    extensions := world.extensions ++ [extension]
    phase := Function.update world.phase tx .idle }

def step : Tx × ExtendAction Uuid → Option (ExtensionWorld Tx Uuid)
  | (tx, .begin call) =>
    match world.phase tx with
    | .idle => some (world.goto tx (.called call))
    | _ => none
  | (tx, .read now) =>
    match world.phase tx with
    | .called call => some (world.read runtime tx call now)
    | _ => none
  | (tx, .record) =>
    match world.phase tx with
    | .validated row extension => some (world.record schema tx row extension)
    | _ => none
  | (tx, .update) =>
    match world.phase tx with
    | .recorded _ extension => world.update schema tx extension
    | _ => none
  | (tx, .commit) =>
    match world.phase tx with
    | .updated extension => some (world.commit tx extension)
    | _ => none
  | (tx, .rollback) => some (world.abort tx)

end ExtensionWorld

end Steps

section Law

variable {Tx Uuid : Type} [DecidableEq Uuid]

def recordsOf (extensions : List (SandboxExtension Uuid)) (sandboxId : Uuid) :
    List (SandboxExtension Uuid) :=
  extensions.filter fun extension => decide (extension.sandboxId = sandboxId)

def recordedDays (extensions : List (SandboxExtension Uuid)) (sandboxId : Uuid) : Int :=
  ((recordsOf extensions sandboxId).map (·.extensionDays)).sum

/-- The limit is kept, every extension is counted, and none is lost in the expiry. -/
structure SandboxEnvironment.Accounted (row : SandboxEnvironment Uuid) (expiry : Option Int)
    (extensions : List (SandboxExtension Uuid)) (sandboxId : Uuid) : Prop where
  within : row.extensionCount ≤ maxExtensions
  counted : row.extensionCount = (recordsOf extensions sandboxId).length
  expires : ∀ expiresAt, expiry = some expiresAt →
    row.expiresAt = some (expiresAt + days (recordedDays extensions sandboxId))

namespace ExtensionWorld

/-- Every committed row is accounted for, from its initial expiry on. -/
def Accounted (initial : Uuid → Option Int) (world : ExtensionWorld Tx Uuid) : Prop :=
  ∀ sandboxId row, world.environments.committed.lookup sandboxId = some row →
    row.Accounted (initial sandboxId) world.extensions sandboxId

def careful (world : ExtensionWorld Tx Uuid) : Tx × ExtendAction Uuid → Bool
  | (tx, .update) =>
    match world.phase tx with
    | .recorded row extension =>
      decide ((world.environments.view tx).lookup extension.sandboxId = some row)
    | _ => true
  | _ => true

end ExtensionWorld

/-- The extension was computed from the row, below the limit. -/
def SandboxExtension.Extends (extension : SandboxExtension Uuid) (row : SandboxEnvironment Uuid) :
    Prop :=
  row.extensionCount < maxExtensions ∧ ∀ expiresAt, row.expiresAt = some expiresAt →
    extension.newExpiresAt = expiresAt + days extension.extensionDays

/-- What is known of a transaction in each phase. -/
def ExtendPhase.Knows (environments : Table Tx Uuid (SandboxEnvironment Uuid)) (tx : Tx) :
    ExtendPhase Uuid → Prop
  | .idle => environments.pending tx = ∅
  | .called _ => environments.pending tx = ∅
  | .validated row extension => environments.pending tx = ∅ ∧ extension.Extends row
  | .recorded row extension => environments.pending tx = ∅ ∧ extension.Extends row
  | .updated extension => ∃ current,
      environments.committed.lookup extension.sandboxId = some current ∧
      environments.Wrote tx extension.sandboxId (current.extended extension.newExpiresAt) ∧
      extension.Extends current

structure ExtensionWorld.Sound (initial : Uuid → Option Int) (world : ExtensionWorld Tx Uuid) :
    Prop where
  owned : world.environments.Owned
  knows : ∀ tx, (world.phase tx).Knows world.environments tx
  accounted : world.Accounted initial

variable {environments after : Table Tx Uuid (SandboxEnvironment Uuid)} {tx : Tx}
  {extensions : List (SandboxExtension Uuid)} {extension : SandboxExtension Uuid}
  {row : SandboxEnvironment Uuid} {sandboxId : Uuid} {expiry : Option Int}

private theorem recordsOf_append_self : recordsOf (extensions ++ [extension]) extension.sandboxId =
    recordsOf extensions extension.sandboxId ++ [extension] := by
  unfold recordsOf
  rw [List.filter_append]
  simp only [List.filter_cons, decide_true, if_true, List.filter_nil]

private theorem recordsOf_append_of_ne (apart : sandboxId ≠ extension.sandboxId) :
    recordsOf (extensions ++ [extension]) sandboxId = recordsOf extensions sandboxId := by
  unfold recordsOf
  rw [List.filter_append]
  simp only [List.filter_cons, apart.symm, decide_false, Bool.false_eq_true, if_false,
    List.filter_nil, List.append_nil]

private theorem SandboxEnvironment.Accounted.extended
    (accounted : row.Accounted expiry extensions extension.sandboxId)
    (extends_ : extension.Extends row) :
    (row.extended extension.newExpiresAt).Accounted expiry (extensions ++ [extension])
      extension.sandboxId := by
  obtain ⟨below, computed⟩ := extends_
  constructor
  · exact below
  · rw [recordsOf_append_self, List.length_append, ← accounted.counted]
    rfl
  · intro expiresAt initially
    have current := accounted.expires expiresAt initially
    change some extension.newExpiresAt = _
    rw [computed _ current]
    unfold recordedDays days
    rw [recordsOf_append_self, List.map_append, List.sum_append, List.map_cons, List.map_nil,
      List.sum_singleton]
    congr 1
    ring

theorem ExtendPhase.Knows.frame {phase : ExtendPhase Uuid} (knows : phase.Knows environments tx)
    (owned : environments.Owned) (frame : environments.Frame after tx) : phase.Knows after tx := by
  cases phase with
  | idle => exact frame.pending.trans knows
  | called => exact frame.pending.trans knows
  | validated => exact ⟨frame.pending.trans knows.1, knows.2⟩
  | recorded => exact ⟨frame.pending.trans knows.1, knows.2⟩
  | updated extension =>
    obtain ⟨current, committed, wrote, extends_⟩ := knows
    exact ⟨current, (frame.committed _ (wrote.held owned)).trans committed, wrote.frame frame,
      extends_⟩

variable [DecidableEq Tx] {initial : Uuid → Option Int} {world next : ExtensionWorld Tx Uuid}
  {runtime : Runtime} {schema : Schema Uuid}

namespace ExtensionWorld

theorem Sound.advance (sound : world.Sound initial)
    {environments : Table Tx Uuid (SandboxEnvironment Uuid)}
    {extensions : List (SandboxExtension Uuid)} {phase : ExtendPhase Uuid}
    (owned : environments.Owned)
    (frames : ∀ other, other ≠ tx → world.environments.Frame environments other)
    (knows : phase.Knows environments tx)
    (accounted : ({ environments, extensions, phase := world.phase } :
      ExtensionWorld Tx Uuid).Accounted initial) :
    ({ environments, extensions, phase := Function.update world.phase tx phase } :
      ExtensionWorld Tx Uuid).Sound initial := by
  refine ⟨owned, fun other => ?_, accounted⟩
  dsimp only
  by_cases same : other = tx
  · subst same
    rw [Function.update_self]
    exact knows
  · rw [Function.update_of_ne same]
    exact (sound.knows other).frame sound.owned (frames other same)

theorem Sound.goto (sound : world.Sound initial) {phase : ExtendPhase Uuid}
    (knows : phase.Knows world.environments tx) : (world.goto tx phase).Sound initial :=
  sound.advance sound.owned (fun _ _ => Table.Frame.refl _ _) knows sound.accounted

theorem Sound.abort (sound : world.Sound initial) : (world.abort tx).Sound initial :=
  sound.advance (sound.owned.release tx) (fun _ apart => Table.frame_release apart)
    (Function.update_self ..) sound.accounted

omit [DecidableEq Uuid] [DecidableEq Tx] in
private theorem extends_of_validated {call : ExtendCall Uuid} {now : Int}
    (validated : validateExtension runtime call.note row.extensionCount = []) :
    (call.extension row now).Extends row := by
  constructor
  · by_contra reached
    unfold validateExtension at validated
    rw [if_pos (Nat.le_of_not_lt reached)] at validated
    exact absurd (List.append_eq_nil_iff.mp validated).2 (List.cons_ne_nil _ _)
  · intro expiresAt expires
    change row.expiresAt.getD now + days call.extraDays = _
    rw [expires]
    rfl

private theorem Sound.read (sound : world.Sound initial) (quiet : world.environments.pending tx = ∅)
    (call : ExtendCall Uuid) (now : Int) : (world.read runtime tx call now).Sound initial := by
  unfold ExtensionWorld.read
  split
  · exact sound.abort
  · split
    · exact sound.abort
    · rename_i validated
      exact sound.goto ⟨quiet, extends_of_validated validated⟩

theorem Sound.record (sound : world.Sound initial) (quiet : world.environments.pending tx = ∅)
    (extends_ : extension.Extends row) : (world.record schema tx row extension).Sound initial := by
  unfold ExtensionWorld.record
  split
  · exact sound.goto ⟨quiet, extends_⟩
  · exact sound.abort

theorem Sound.update (sound : world.Sound initial) (quiet : world.environments.pending tx = ∅)
    (extends_ : extension.Extends row)
    (same : (world.environments.view tx).lookup extension.sandboxId = some row)
    (updated : world.update schema tx extension = some next) : next.Sound initial := by
  unfold ExtensionWorld.update at updated
  split_ifs at updated with free
  rw [same] at updated
  dsimp only at updated
  split_ifs at updated with met
  · obtain rfl := Option.some.inj updated
    have committed : world.environments.committed.lookup extension.sandboxId = some row := by
      rw [← Table.view_of_quiet quiet]
      exact same
    exact sound.advance (sound.owned.write free _)
      (fun _ apart => Table.frame_write free _ apart)
      ⟨row, committed, Table.wrote_of_quiet quiet rfl, extends_⟩ sound.accounted
  · obtain rfl := Option.some.inj updated
    exact sound.abort

private theorem Sound.commit (sound : world.Sound initial)
    (knows : (ExtendPhase.updated extension).Knows world.environments tx) :
    (world.commit tx extension).Sound initial := by
  obtain ⟨current, committed, wrote, extends_⟩ := knows
  refine sound.advance (sound.owned.release tx)
    (fun _ apart => Table.frame_commit sound.owned apart) (Function.update_self ..) ?_
  intro sandboxId row found
  change (world.environments.view tx).lookup sandboxId = some row at found
  by_cases same : sandboxId = extension.sandboxId
  · subst same
    obtain rfl := Option.some.inj (wrote.view_self.symm.trans found)
    exact (sound.accounted _ _ committed).extended extends_
  · rw [wrote.view_other same] at found
    have accounted := sound.accounted sandboxId row found
    constructor
    · exact accounted.within
    · rw [recordsOf_append_of_ne same]
      exact accounted.counted
    · unfold recordedDays
      rw [recordsOf_append_of_ne same]
      exact accounted.expires

private theorem Sound.step (sound : world.Sound initial) {action : Tx × ExtendAction Uuid}
    (careful : world.careful action = true)
    (stepped : world.step runtime schema action = some next) : next.Sound initial := by
  obtain ⟨tx, action⟩ := action
  have knows := sound.knows tx
  cases action with
  | begin call =>
    dsimp only [ExtensionWorld.step] at stepped
    split at stepped
    · rename_i at_
      obtain rfl := Option.some.inj stepped
      rw [at_] at knows
      exact sound.goto knows
    · cases stepped
  | read now =>
    dsimp only [ExtensionWorld.step] at stepped
    split at stepped
    · rename_i call at_
      obtain rfl := Option.some.inj stepped
      rw [at_] at knows
      exact sound.read knows call now
    · cases stepped
  | record =>
    dsimp only [ExtensionWorld.step] at stepped
    split at stepped
    · rename_i row extension at_
      obtain rfl := Option.some.inj stepped
      rw [at_] at knows
      exact sound.record knows.1 knows.2
    · cases stepped
  | update =>
    dsimp only [ExtensionWorld.step] at stepped
    dsimp only [ExtensionWorld.careful] at careful
    split at stepped
    · rename_i row extension at_
      rw [at_] at knows careful
      exact sound.update knows.1 knows.2 (of_decide_eq_true careful) stepped
    · cases stepped
  | commit =>
    dsimp only [ExtensionWorld.step] at stepped
    split at stepped
    · rename_i extension at_
      obtain rfl := Option.some.inj stepped
      rw [at_] at knows
      exact sound.commit knows
    · cases stepped
  | rollback =>
    obtain rfl := Option.some.inj stepped
    exact sound.abort

def quiet (environments : Rows Uuid (SandboxEnvironment Uuid))
    (extensions : List (SandboxExtension Uuid)) : ExtensionWorld Tx Uuid where
  environments := Table.quiet environments
  extensions
  phase _ := .idle

/-- As long as each update finds the row that its call has read, extensions are neither lost nor
exceeded. -/
theorem extensions_accounted {environments : Rows Uuid (SandboxEnvironment Uuid)}
    {extensions : List (SandboxExtension Uuid)} {schedule : List (Tx × ExtendAction Uuid)}
    {reached : ExtensionWorld Tx Uuid}
    (accounted : (quiet environments extensions : ExtensionWorld Tx Uuid).Accounted initial)
    (careful : RunMeets (step runtime schema) (fun world action => world.careful action = true)
      (quiet environments extensions) schedule)
    (ran : run (step runtime schema) (quiet environments extensions) schedule = some reached) :
    reached.Accounted initial := by
  have begun : (quiet environments extensions : ExtensionWorld Tx Uuid).Sound initial :=
    ⟨Table.owned_quiet environments, fun _ => rfl, accounted⟩
  have sound : reached.Sound initial :=
    run_preserves (fun _ _ _ (sound : Sound ..) careful stepped => sound.step careful stepped)
      begun careful ran
  exact sound.accounted

end ExtensionWorld

end Law

/-! Two extensions by three days of a sandbox that expires at the end of the first day. -/

private def extensionStart : ExtensionWorld Nat Nat :=
  .quiet (oneSandbox demoEnvironment).environments []

private def threeDays : ExtendCall Nat where
  sandboxId := 1
  note := "three more days"
  adminId := some 99
  extraDays := 3

private def extendFully (tx : Nat) : List (Nat × ExtendAction Nat) :=
  [(tx, .begin threeDays), (tx, .read 0), (tx, .record), (tx, .update), (tx, .commit)]

/-- Three calls at once: the second reads the row once the first has committed, and the third, which
has read it before, is rolled back. -/
private def overlappingExtensions : List (Nat × ExtendAction Nat) :=
  [(1, .begin threeDays), (2, .begin threeDays), (3, .begin threeDays), (1, .read 0), (3, .read 0),
    (1, .record), (3, .record), (1, .update), (3, .rollback), (1, .commit), (2, .read 0), (2, .record),
    (2, .update), (2, .commit)]

theorem later_extensions_accounted :
    ∃ reached, run (ExtensionWorld.step .ascii (migration040 Nat)) extensionStart
        overlappingExtensions = some reached ∧
      (reached.environments.committed.lookup 1).map (·.expiresAt) = some (some (days 7)) ∧
      reached.Accounted fun _ => some (days 1) := by
  have accounted : extensionStart.Accounted fun _ => some (days 1) := by
    intro sandboxId row found
    obtain rfl := oneSandbox_eq found
    refine ⟨by decide, rfl, fun expiresAt initially => ?_⟩
    obtain rfl := Option.some.inj initially
    rfl
  have careful : RunMeets (ExtensionWorld.step .ascii (migration040 Nat))
      (fun world action => world.careful action = true) extensionStart overlappingExtensions := by
    decide +kernel
  exact ⟨_, rfl, rfl, ExtensionWorld.extensions_accounted accounted careful rfl⟩

/-- Both calls read the row before the first one commits: two extensions are recorded and counted,
and the expiry is three days later only. -/
theorem extension_lost :
    ∃ reached, run (ExtensionWorld.step .ascii (migration040 Nat)) extensionStart
        ([(2, .begin threeDays), (2, .read 0)] ++ extendFully 1 ++
          [(2, .record), (2, .update), (2, .commit)]) = some reached ∧
      (recordsOf reached.extensions 1).length = 2 ∧
      (reached.environments.committed.lookup 1).map (·.expiresAt) = some (some (days 4)) ∧
      ¬reached.Accounted fun _ => some (days 1) := by
  refine ⟨_, rfl, rfl, rfl, fun accounted => ?_⟩
  have expires := (accounted 1 _ rfl).expires (days 1) rfl
  exact absurd (Option.some.inj expires) (by decide)

end CogniDQ.Sandbox
