import CogniDQ.Sandbox.SandboxService

/-!
# The expiry of sandboxes

A scan expires every sandbox that is due, if its updates are accepted; the cleanup selects archived
sandboxes only, of which it archives none; and no call brings back a sandbox that was archived or
deleted.
-/

set_option autoImplicit false

namespace CogniDQ.Sandbox

open CogniDQ.Database CogniDQ.Python SandboxService

section Moves

variable {Uuid : Type}

def EnvironmentStatus.leadsTo (status : EnvironmentStatus) : EnvironmentStatus → Bool
  | .suspended => !([.suspended, .archived, .deleted].contains status)
  | .archived => !([.active, .provisioning, .archived, .deleted].contains status)
  | .deleted => decide (status ≠ .deleted)
  | _ => false

def SandboxEnvironment.expire (row : SandboxEnvironment Uuid) : SandboxEnvironment Uuid :=
  { row with status := .expired }

inductive SandboxEnvironment.Moves (schema : Schema Uuid) (row : SandboxEnvironment Uuid) :
    SandboxEnvironment Uuid → Prop where
  | same : Moves schema row row
  | extended {newExpiresAt : Int} : (row.extended newExpiresAt).meets schema = true →
      Moves schema row (row.extended newExpiresAt)
  | updated {update : StatusUpdate} {now : Int} : row.status.leadsTo update.status = true →
      (row.updateStatus update now).meets schema = true →
      Moves schema row (row.updateStatus update now)
  | expired : row.status = .active → Moves schema row row.expire

def EnvironmentStatus.final (status : EnvironmentStatus) : Bool :=
  decide (status = .archived) || decide (status = .deleted)

/-- What a sandbox in a final status may be later. -/
def EnvironmentStatus.staysFinal (before after : EnvironmentStatus) : Prop :=
  after = before ∨ after = .deleted

variable {schema : Schema Uuid} {row after : SandboxEnvironment Uuid}

private theorem SandboxEnvironment.Moves.meets (moves : row.Moves schema after)
    (met : row.meets schema = true) : after.meets schema = true := by
  cases moves with
  | same => exact met
  | extended metAfter => exact metAfter
  | updated _ metAfter => exact metAfter
  | expired => exact met

private theorem SandboxEnvironment.Moves.staysFinal (moves : row.Moves schema after)
    (final : row.status.final = true) :
    after.status.final = true ∧ row.status.staysFinal after.status := by
  cases moves with
  | same => exact ⟨final, .inl rfl⟩
  | extended => exact ⟨final, .inl rfl⟩
  | @updated update _ leads =>
    obtain ⟨status, _⟩ := update
    change row.status.leadsTo status = true at leads
    change status.final = true ∧ row.status.staysFinal status
    generalize row.status = before at leads final ⊢
    cases before <;> cases final <;> cases status <;> cases leads
    all_goals exact ⟨rfl, .inr rfl⟩
  | expired active =>
    rw [active] at final
    cases final

/-- Every row moves as a call may move it, and no row comes or goes. -/
def Sandboxes.Follows (schema : Schema Uuid) [DecidableEq Uuid] (before after : Sandboxes Uuid) :
    Prop :=
  ∀ sandboxId, Option.Rel (fun row next => row.Moves schema next)
    (before.environments.lookup sandboxId) (after.environments.lookup sandboxId)

end Moves

section Calls

variable {Uuid : Type} [DecidableEq Uuid] {schema : Schema Uuid} {sandboxes next : Sandboxes Uuid}
  {environments updated : Rows Uuid (SandboxEnvironment Uuid)} {sandboxId : Uuid}
  {row moved : SandboxEnvironment Uuid} {now : Int}

/-- The stored rows meet the constraints of the table. -/
def Sandboxes.Valid (schema : Schema Uuid) (sandboxes : Sandboxes Uuid) : Prop :=
  ∀ sandboxId row, sandboxes.environments.lookup sandboxId = some row → row.meets schema = true

theorem relates_refl (environments : Rows Uuid (SandboxEnvironment Uuid)) (sandboxId : Uuid) :
    Option.Rel (fun row next => row.Moves schema next) (environments.lookup sandboxId)
      (environments.lookup sandboxId) := by
  cases environments.lookup sandboxId with
  | none => exact .none
  | some row => exact .some .same

theorem relates_insert (found : environments.lookup sandboxId = some row)
    (moves : row.Moves schema moved) (other : Uuid) :
    Option.Rel (fun row next => row.Moves schema next) (environments.lookup other)
      ((environments.insert sandboxId moved).lookup other) := by
  by_cases same : other = sandboxId
  · subst same
    rw [AList.lookup_insert, found]
    exact .some moves
  · rw [AList.lookup_insert_ne same]
    exact relates_refl environments other

private theorem relates_updateStatus {update : StatusUpdate}
    (found : environments.lookup sandboxId = some row)
    (leads : row.status.leadsTo update.status = true)
    (written : updateStatus schema sandboxId update now environments = .ok updated)
    (other : Uuid) : Option.Rel (fun row next => row.Moves schema next)
      (environments.lookup other) (updated.lookup other) := by
  obtain ⟨-, ⟨absent, -⟩ | ⟨version, present, rfl, met⟩⟩ := updateStatus_ok written
  · exact nomatch absent.symm.trans found
  · obtain rfl := Option.some.inj (found.symm.trans present)
    exact relates_insert found (.updated leads met) other

theorem mem_environmentRows {entry : EnvironmentRow Uuid} :
    entry ∈ environmentRows environments ↔ environments.lookup entry.1 = some entry.2 := by
  unfold environmentRows
  rw [List.mem_map]
  constructor
  · intro listed
    obtain ⟨stored, member, rfl⟩ := listed
    exact AList.mem_lookup_iff.mpr member
  · intro found
    exact ⟨⟨entry.1, entry.2⟩, AList.mem_lookup_iff.mp found, rfl⟩

/-! ### The scan -/

theorem expireAll_lookup {due : List (EnvironmentRow Uuid)}
    (expired : expireAll schema now environments due = .ok updated) (sandboxId : Uuid) :
    updated.lookup sandboxId = if sandboxId ∈ due.map (·.1)
      then (environments.lookup sandboxId).map SandboxEnvironment.expire
      else environments.lookup sandboxId := by
  induction due generalizing environments with
  | nil =>
    obtain rfl : environments = updated := Except.ok.inj expired
    rfl
  | cons head rest ih =>
    obtain ⟨next, first, further⟩ := bind_eq_ok expired
    rw [ih further]
    have stepped : next.lookup sandboxId = if sandboxId = head.1
        then (environments.lookup sandboxId).map SandboxEnvironment.expire
        else environments.lookup sandboxId := by
      obtain ⟨-, ⟨absent, rfl⟩ | ⟨row, found, rfl, -⟩⟩ := updateStatus_ok first
      · split_ifs with same
        · rw [same, absent]
          rfl
        · rfl
      · split_ifs with same
        · rw [same, AList.lookup_insert, found]
          rfl
        · rw [AList.lookup_insert_ne same]
    rw [stepped, List.map_cons]
    by_cases same : sandboxId = head.1
    · rw [if_pos same, if_pos (List.mem_cons.mpr (.inl same)), Option.map_map]
      exact ite_self _
    · rw [if_neg same]
      simp only [List.mem_cons, same, false_or]

theorem expireAll_succeeds (columns : schema.updatesStatus = true) (due : List (EnvironmentRow Uuid))
    (valid : ∀ sandboxId row, environments.lookup sandboxId = some row → row.meets schema = true) :
    ∃ updated, expireAll schema now environments due = .ok updated := by
  induction due generalizing environments with
  | nil => exact ⟨environments, rfl⟩
  | cons head rest ih =>
    have written : ∃ next, updateStatus schema head.1 { status := .expired } now environments =
        .ok next ∧ ∀ sandboxId row, next.lookup sandboxId = some row → row.meets schema = true := by
      unfold updateStatus
      rw [if_pos columns]
      cases found : environments.lookup head.1 with
      | none => exact ⟨environments, rfl, valid⟩
      | some row =>
        have met : row.meets schema = true := valid head.1 row found
        refine ⟨_, if_pos met, fun other version present => ?_⟩
        rcases Rows.lookup_insert_cases present with ⟨-, rfl⟩ | ⟨-, before⟩
        · exact met
        · exact valid other version before
    obtain ⟨next, first, validNext⟩ := written
    obtain ⟨updated, further⟩ := ih validNext
    refine ⟨updated, ?_⟩
    unfold expireAll
    rw [List.foldlM_cons, first]
    exact further

private theorem expireAll_refused (columns : schema.updatesStatus = false)
    {due : List (EnvironmentRow Uuid)} (listed : due ≠ []) :
    ∃ message, expireAll schema now environments due = .error message := by
  cases due with
  | nil => exact absurd rfl listed
  | cons head rest =>
    refine ⟨"column last_error of relation sandbox_environments does not exist", ?_⟩
    unfold expireAll
    rw [List.foldlM_cons]
    unfold updateStatus
    rw [columns]
    rfl

variable (byExpiry : ByExpiry Uuid) (byArchival : ByArchival Uuid)

theorem mem_due {graceCutoff : Int} {entry : EnvironmentRow Uuid} :
    entry ∈ (listExpiring byExpiry environments graceCutoff).filter (expirable graceCutoff) ↔
      environments.lookup entry.1 = some entry.2 ∧ entry.2.status = .active ∧
        ∃ expiresAt, entry.2.expiresAt = some expiresAt ∧ expiresAt ≤ graceCutoff := by
  unfold listExpiring expirable
  rw [List.mem_filter, (byExpiry.perm _).mem_iff, List.mem_filter, mem_environmentRows]
  cases entry.2.expiresAt with
  | none => simp
  | some expiresAt =>
    simp only [Option.any_some, Bool.and_eq_true, Bool.or_eq_true, decide_eq_true_eq,
      Option.some.injEq, exists_eq_left']
    constructor
    · intro listed
      exact ⟨listed.1.1, listed.2⟩
    · intro due
      exact ⟨⟨due.1, .inl due.2.1, due.2.2⟩, due.2⟩

theorem cleanupExpired_idle (graceDays : Int) (batchLimit : Nat) (dbNow : Int) :
    cleanupExpired byArchival schema sandboxes graceDays batchLimit now dbNow =
      ({ archived := 0, processedAt := now }, sandboxes) := by
  have skipped : ∀ candidates : List (EnvironmentRow Uuid),
      (∀ candidate ∈ candidates, candidate.2.status = .archived) → ∀ state,
      candidates.foldl (cleanupRow schema dbNow) state = state := by
    intro candidates archived
    induction candidates with
    | nil => exact fun _ => rfl
    | cons head rest ih =>
      intro state
      have first : cleanupRow schema dbNow state head = state := by
        unfold cleanupRow cleanable
        rw [archived head List.mem_cons_self]
        rfl
      rw [List.foldl_cons, first]
      exact ih (fun candidate listed => archived candidate (List.mem_cons_of_mem _ listed)) state
  have archived : ∀ candidate ∈ listReadyForCleanup byArchival sandboxes.environments
      (now - days graceDays) batchLimit, candidate.2.status = .archived := by
    intro candidate listed
    have selected := (byArchival.perm _).mem_iff.mp (List.mem_of_mem_take listed)
    have condition := (List.mem_filter.mp selected).2
    exact of_decide_eq_true (Bool.and_eq_true_iff.mp condition).1
  unfold cleanupExpired
  simp only [skipped _ archived]
  rfl

def Sandboxes.Due (sandboxes : Sandboxes Uuid) (graceHours now : Int) : Prop :=
  ∃ sandboxId row expiresAt, sandboxes.environments.lookup sandboxId = some row ∧
    row.status = .active ∧ row.expiresAt = some expiresAt ∧ expiresAt + hours graceHours ≤ now

variable {graceHours dbNow : Int}

def dueRows (environments : Rows Uuid (SandboxEnvironment Uuid)) (graceHours now : Int) :
    List (EnvironmentRow Uuid) :=
  (listExpiring byExpiry environments (now - hours graceHours)).filter
    (expirable (now - hours graceHours))

private theorem dueRows_ne_nil_iff :
    dueRows byExpiry sandboxes.environments graceHours now ≠ [] ↔ sandboxes.Due graceHours now := by
  constructor
  · intro listed
    obtain ⟨entry, member⟩ := List.exists_mem_of_ne_nil _ listed
    obtain ⟨found, active, expiresAt, expires, due⟩ := (mem_due byExpiry).mp member
    exact ⟨entry.1, entry.2, expiresAt, found, active, expires, by omega⟩
  · intro due
    obtain ⟨sandboxId, row, expiresAt, found, active, expires, passed⟩ := due
    exact List.ne_nil_of_mem (a := (sandboxId, row)) ((mem_due byExpiry).mpr
      ⟨found, active, expiresAt, expires, by omega⟩)

private theorem not_due_of_expireAll (expired : expireAll schema dbNow sandboxes.environments
      (dueRows byExpiry sandboxes.environments graceHours now) = .ok updated) :
    ¬({ sandboxes with environments := updated } : Sandboxes Uuid).Due graceHours now := by
  intro due
  obtain ⟨sandboxId, row, expiresAt, found, active, expires, passed⟩ := due
  change updated.lookup sandboxId = some row at found
  rw [expireAll_lookup expired] at found
  split_ifs at found with selected
  · obtain ⟨_, _, rfl⟩ := Option.map_eq_some_iff.mp found
    cases active
  · apply selected
    exact List.mem_map_of_mem (f := (·.1)) (a := (sandboxId, row))
      ((mem_due byExpiry).mpr ⟨found, active, expiresAt, expires, by omega⟩)

/-! ### What a call does -/

theorem follows_refl (sandboxes : Sandboxes Uuid) : sandboxes.Follows schema sandboxes :=
  relates_refl sandboxes.environments

theorem orDatabaseError_ok {α : Type} {result : Except String α} {value : α}
    (ok : orDatabaseError result = .ok value) : result = .ok value := by
  cases result with
  | error => cases ok
  | ok => exact congrArg _ (Except.ok.inj ok)

private theorem follows_scanExpiring {windows : List Int} {summary : ScanSummary}
    (scanned : scanExpiring byExpiry schema sandboxes windows graceHours now dbNow =
      .ok (summary, next)) : sandboxes.Follows schema next := by
  obtain ⟨updated, expired, rest⟩ := bind_eq_ok scanned
  obtain ⟨-, rfl⟩ := Prod.mk.inj (Except.ok.inj rest)
  have looked := expireAll_lookup (orDatabaseError_ok expired)
  intro sandboxId
  change Option.Rel _ _ (updated.lookup sandboxId)
  rw [looked sandboxId]
  split_ifs with selected
  · obtain ⟨entry, member, rfl⟩ := List.mem_map.mp selected
    obtain ⟨found, active, -⟩ := (mem_due byExpiry).mp member
    rw [found]
    exact .some (.expired active)
  · exact relates_refl _ _

theorem requireSandbox_ok [ToString Uuid] (required : requireSandbox sandboxes sandboxId = .ok row) :
    sandboxes.environments.lookup sandboxId = some row := by
  unfold requireSandbox at required
  split at required
  · rename_i found
    exact found.trans (congrArg some (Except.ok.inj required))
  · cases required

theorem follows_updateStatus {update : StatusUpdate}
    (found : sandboxes.environments.lookup sandboxId = some row)
    (written : (do
      let environments ← orDatabaseError (updateStatus schema sandboxId update now
        sandboxes.environments)
      .ok { sandboxes with environments } : Except SandboxError (Sandboxes Uuid)) = .ok next)
    (leads : row.status.leadsTo update.status = true) :
    sandboxes.Follows schema next := by
  obtain ⟨updated, accepted, rest⟩ := bind_eq_ok written
  obtain rfl := Except.ok.inj rest
  exact relates_updateStatus found leads (orDatabaseError_ok accepted)

variable [ToString Uuid] {runtime : Runtime}

private theorem follows_extend {note : String} {adminId : Option Uuid} {extraDays : Int}
    (extended : extend schema sandboxes runtime sandboxId note adminId extraDays now = .ok next) :
    sandboxes.Follows schema next := by
  obtain ⟨row, required, rest⟩ := bind_eq_ok extended
  have found := requireSandbox_ok required
  split at rest
  · cases rest
  · obtain ⟨extensions, _, rest⟩ := bind_eq_ok rest
    obtain ⟨updated, accepted, rest⟩ := bind_eq_ok rest
    obtain rfl := Except.ok.inj rest
    rcases incrementExtension_ok (orDatabaseError_ok accepted) with
      ⟨absent, -⟩ | ⟨version, present, rfl, met⟩
    · exact nomatch absent.symm.trans found
    · obtain rfl := Option.some.inj (found.symm.trans present)
      exact relates_insert found (.extended met)

private theorem follows_suspend (suspended : suspend schema sandboxes sandboxId now = .ok next) :
    sandboxes.Follows schema next := by
  obtain ⟨row, required, rest⟩ := bind_eq_ok suspended
  have found := requireSandbox_ok required
  split_ifs at rest with refused
  refine follows_updateStatus found rest ?_
  exact (Bool.not_eq_true' _).mpr (eq_false_of_ne_true refused)

private theorem follows_archive (archived : archive schema sandboxes sandboxId now = .ok next) :
    sandboxes.Follows schema next := by
  obtain ⟨row, required, rest⟩ := bind_eq_ok archived
  have found := requireSandbox_ok required
  split_ifs at rest with live final
  refine follows_updateStatus found rest ?_
  change (!([.active, .provisioning, .archived, .deleted].contains row.status)) = true
  generalize row.status = status at live final
  cases status <;> first | rfl | exact absurd rfl live | exact absurd rfl final

private theorem follows_delete {force : Bool}
    (deleted : delete schema sandboxes sandboxId force now = .ok next) :
    sandboxes.Follows schema next := by
  obtain ⟨row, required, rest⟩ := bind_eq_ok deleted
  have found := requireSandbox_ok required
  split_ifs at rest with already unarchived
  exact follows_updateStatus found rest (decide_eq_true already)

private theorem follows_perform {call : Call Uuid}
    (performed : call.perform byExpiry byArchival runtime schema sandboxes = .ok next) :
    sandboxes.Follows schema next := by
  unfold Call.perform at performed
  cases call with
  | extend => exact follows_extend performed
  | suspend => exact follows_suspend performed
  | archive => exact follows_archive performed
  | delete => exact follows_delete performed
  | scanExpiring windows graceHours now dbNow =>
    dsimp only at performed
    cases scanned : scanExpiring byExpiry schema sandboxes windows graceHours now dbNow with
    | error => exact nomatch (scanned ▸ performed)
    | ok result =>
      rw [scanned] at performed
      obtain rfl := Except.ok.inj performed
      exact follows_scanExpiring byExpiry scanned
  | cleanupExpired =>
    dsimp only at performed
    rw [cleanupExpired_idle] at performed
    obtain rfl := Except.ok.inj performed
    exact follows_refl sandboxes

theorem follows_after (call : Call Uuid) :
    sandboxes.Follows schema (call.after byExpiry byArchival runtime schema sandboxes) := by
  unfold Call.after
  split
  · rename_i next performed
    exact follows_perform byExpiry byArchival performed
  · exact follows_refl sandboxes

/-! ### Runs of calls -/

omit [ToString Uuid] in
private theorem Sandboxes.Valid.follows (valid : sandboxes.Valid schema)
    (follows : sandboxes.Follows schema next) : next.Valid schema := by
  intro sandboxId row found
  have relates := follows sandboxId
  rw [found] at relates
  cases before : sandboxes.environments.lookup sandboxId with
  | none =>
    rw [before] at relates
    cases relates
  | some earlier =>
    rw [before] at relates
    cases relates with
    | some moves => exact moves.meets (valid sandboxId earlier before)

theorem Sandboxes.Valid.reached (valid : sandboxes.Valid schema) (calls : List (Call Uuid)) :
    (sandboxes.reached byExpiry byArchival runtime schema calls).Valid schema := by
  induction calls generalizing sandboxes with
  | nil => exact valid
  | cons call rest ih => exact ih (valid.follows (follows_after byExpiry byArchival call))

private theorem stays_final (found : sandboxes.environments.lookup sandboxId = some row)
    (final : row.status.final = true) (calls : List (Call Uuid)) :
    ∃ later, (sandboxes.reached byExpiry byArchival runtime schema calls).environments.lookup
      sandboxId = some later ∧ row.status.staysFinal later.status := by
  induction calls generalizing sandboxes row with
  | nil => exact ⟨row, found, .inl rfl⟩
  | cons call rest ih =>
    have follows : sandboxes.Follows schema
        (call.after byExpiry byArchival runtime schema sandboxes) :=
      follows_after byExpiry byArchival call
    have relates := follows sandboxId
    rw [found] at relates
    cases after : (call.after byExpiry byArchival runtime schema sandboxes).environments.lookup
        sandboxId with
    | none =>
      rw [after] at relates
      cases relates
    | some next =>
      rw [after] at relates
      cases relates with
      | some moves =>
        obtain ⟨finalNext, first⟩ := moves.staysFinal final
        obtain ⟨later, reached, second⟩ := ih after finalNext
        refine ⟨later, reached, ?_⟩
        rcases second with same | deleted
        · rcases first with unchanged | deletedNext
          · exact .inl (same.trans unchanged)
          · exact .inr (same.trans deletedNext)
        · exact .inr deleted

/-- Expired or suspended for longer than the grace period. An expired sandbox is so since its
expiry. -/
def SandboxEnvironment.Overdue (row : SandboxEnvironment Uuid) (graceDays now : Int) : Prop :=
  (row.status = .suspended ∧ ∃ since, row.suspendedAt = some since ∧ since + days graceDays < now) ∨
    row.status = .expired ∧ ∃ since, row.expiresAt = some since ∧ since + days graceDays < now

structure CleanupRun where
  batchLimit : Nat
  now : Int
  dbNow : Int

variable (runtime : Runtime) (schema : Schema Uuid)

/-- The sandboxes after repeated runs of `cleanup_expired`. -/
def Sandboxes.cleaned (sandboxes : Sandboxes Uuid) (graceDays : Int) (runs : List CleanupRun) :
    Sandboxes Uuid :=
  sandboxes.reached byExpiry byArchival runtime schema
    (runs.map fun run => .cleanupExpired graceDays run.batchLimit run.now run.dbNow)

/-- No sandbox is due after a scan, some number of cleanup runs archives every overdue sandbox, and
a final status is final. -/
structure Sandboxes.ReallyExpire (sandboxes : Sandboxes Uuid) (graceHours graceDays now : Int) :
    Prop where
  scanned : ∀ windows dbNow,
    ¬((Call.scanExpiring windows graceHours now dbNow).after byExpiry byArchival runtime schema
      sandboxes).Due graceHours now
  cleaned : ∃ runs, ∀ sandboxId row, sandboxes.environments.lookup sandboxId = some row →
    row.Overdue graceDays now →
    ∃ later, (sandboxes.cleaned byExpiry byArchival runtime schema graceDays
      runs).environments.lookup sandboxId = some later ∧ later.status = .archived
  final : ∀ calls sandboxId row, sandboxes.environments.lookup sandboxId = some row →
    row.status.final = true →
    ∃ later, (sandboxes.reached byExpiry byArchival runtime schema calls).environments.lookup
      sandboxId = some later ∧ row.status.staysFinal later.status

theorem cleaned_eq (graceDays : Int) (runs : List CleanupRun) :
    sandboxes.cleaned byExpiry byArchival runtime schema graceDays runs = sandboxes := by
  induction runs with
  | nil => rfl
  | cons run rest ih =>
    have first : (Call.cleanupExpired graceDays run.batchLimit run.now run.dbNow).after byExpiry
        byArchival runtime schema sandboxes = sandboxes := by
      unfold Call.after Call.perform
      dsimp only
      rw [cleanupExpired_idle]
    unfold Sandboxes.cleaned Sandboxes.reached at ih ⊢
    rw [List.map_cons, List.foldl_cons, first]
    exact ih

omit [DecidableEq Uuid] [ToString Uuid] in
private theorem not_overdue_of_archived (archived : row.status = .archived) (graceDays now : Int) :
    ¬row.Overdue graceDays now := by
  intro overdue
  rcases overdue with ⟨suspended, -⟩ | ⟨expired, -⟩
  · cases archived.symm.trans suspended
  · cases archived.symm.trans expired

private theorem after_scanExpiring (windows : List Int) :
    (Call.scanExpiring windows graceHours now dbNow).after byExpiry byArchival runtime schema
      sandboxes =
    match expireAll schema dbNow sandboxes.environments
        (dueRows byExpiry sandboxes.environments graceHours now) with
    | .ok updated => { sandboxes with environments := updated }
    | .error _ => sandboxes := by
  cases expired : expireAll schema dbNow sandboxes.environments
      (dueRows byExpiry sandboxes.environments graceHours now) with
  | ok | error =>
    unfold dueRows at expired
    unfold Call.after Call.perform scanExpiring
    simp only [expired]
    rfl

private theorem scanned_iff (valid : sandboxes.Valid schema) (windows : List Int) :
    ¬((Call.scanExpiring windows graceHours now dbNow).after byExpiry byArchival runtime schema
      sandboxes).Due graceHours now ↔
    schema.updatesStatus = true ∨ ¬sandboxes.Due graceHours now := by
  rw [after_scanExpiring]
  cases columns : schema.updatesStatus with
  | true =>
    have accepted : ∃ updated, expireAll schema dbNow sandboxes.environments
        (dueRows byExpiry sandboxes.environments graceHours now) = .ok updated :=
      expireAll_succeeds columns _ valid
    obtain ⟨updated, expired⟩ := accepted
    rw [expired]
    exact iff_of_true (not_due_of_expireAll byExpiry expired) (.inl rfl)
  | false =>
    have unchanged : ¬sandboxes.Due graceHours now → ∀ updated,
        expireAll schema dbNow sandboxes.environments
          (dueRows byExpiry sandboxes.environments graceHours now) = .ok updated →
        updated = sandboxes.environments := by
      intro idle updated expired
      rw [not_ne_iff.mp (mt (dueRows_ne_nil_iff byExpiry).mp idle)] at expired
      exact (Except.ok.inj expired).symm
    by_cases due : sandboxes.Due graceHours now
    · have rejected : ∃ message, expireAll schema dbNow sandboxes.environments
          (dueRows byExpiry sandboxes.environments graceHours now) = .error message :=
        expireAll_refused columns ((dueRows_ne_nil_iff byExpiry).mpr due)
      obtain ⟨message, refused⟩ := rejected
      rw [refused]
      exact iff_of_false (fun idle => idle due) (by simpa using due)
    · refine iff_of_true ?_ (.inr due)
      split
      · rename_i updated expired
        rw [unchanged due updated expired]
        exact due
      · exact due

/-- Sandboxes really expire exactly if the scan's updates are accepted, or none is due, and no
sandbox is overdue. -/
theorem sandboxes_expire_iff {start : Sandboxes Uuid} (valid : start.Valid schema)
    (calls : List (Call Uuid)) (graceHours graceDays now : Int) :
    (start.reached byExpiry byArchival runtime schema calls).ReallyExpire byExpiry byArchival
      runtime schema graceHours graceDays now ↔
    (schema.updatesStatus = true ∨
      ¬(start.reached byExpiry byArchival runtime schema calls).Due graceHours now) ∧
    ∀ sandboxId row, (start.reached byExpiry byArchival runtime schema calls).environments.lookup
      sandboxId = some row → ¬row.Overdue graceDays now := by
  have validReached : (start.reached byExpiry byArchival runtime schema calls).Valid schema :=
    valid.reached byExpiry byArchival calls
  constructor
  · intro expire
    refine ⟨(scanned_iff byExpiry byArchival runtime schema validReached []).mp
      (expire.scanned [] now), ?_⟩
    intro sandboxId row found overdue
    obtain ⟨runs, archives⟩ := expire.cleaned
    obtain ⟨later, stored, archived⟩ := archives sandboxId row found overdue
    rw [cleaned_eq, found] at stored
    obtain rfl := Option.some.inj stored
    exact not_overdue_of_archived archived graceDays now overdue
  · intro condition
    obtain ⟨scans, clean⟩ := condition
    exact
      { scanned := fun windows _ =>
          (scanned_iff byExpiry byArchival runtime schema validReached windows).mpr scans
        cleaned := ⟨[], fun sandboxId row found overdue =>
          absurd overdue (clean sandboxId row found)⟩
        final := fun calls _ _ found final => stays_final byExpiry byArchival found final calls }

end Calls

/-! One sandbox, which expires at the end of the first day. -/

def demoEnvironment : SandboxEnvironment Nat where
  demoRequestId := 10
  tenantId := 20
  workspaceId := 30
  templateId := "general_dq"
  accessProfileId := 40
  status := .active
  provisionedAt := some 0
  expiresAt := some (days 1)
  suspendedAt := none
  archivedAt := none
  deletedAt := none
  extensionCount := 0

def oneSandbox (row : SandboxEnvironment Nat) : Sandboxes Nat where
  environments := (∅ : Rows Nat (SandboxEnvironment Nat)).insert 1 row
  extensions := []

theorem oneSandbox_eq {row found : SandboxEnvironment Nat} {sandboxId : Nat}
    (present : (oneSandbox row).environments.lookup sandboxId = some found) : found = row := by
  rcases Rows.lookup_insert_cases present with ⟨-, same⟩ | ⟨-, absent⟩
  · exact same
  · cases absent

/-- Expired by a scan on the second day, after an extension that the table refuses. -/
private def demoCalls : List (Call Nat) :=
  [.extend 1 "one more week of evaluation" none 7 0, .scanExpiring [48, 24] 0 (days 2) (days 2)]

theorem demo_sandbox_expires :
    ((oneSandbox demoEnvironment).reached (OrderBy.stable _) (OrderBy.stable _) .ascii
      (withLastError Nat) demoCalls).ReallyExpire (OrderBy.stable _) (OrderBy.stable _) .ascii
      (withLastError Nat) 0 14 (days 2) := by
  have valid : (oneSandbox demoEnvironment).Valid (withLastError Nat) := by
    intro sandboxId row found
    rw [oneSandbox_eq found]
    decide
  refine (sandboxes_expire_iff _ _ _ _ valid demoCalls 0 14 (days 2)).mpr ⟨.inl (by decide), ?_⟩
  intro sandboxId row found
  have expired : row = demoEnvironment.expire := oneSandbox_eq found
  rw [expired]
  intro overdue
  rcases overdue with ⟨suspended, -⟩ | ⟨-, since, expires, late⟩
  · cases suspended
  · obtain rfl := Option.some.inj expires
    exact absurd late (by decide)

/-- Suspended for twenty days, the sandbox is archived by no number of cleanup runs; and the scan
fails on the tables of the migration. -/
theorem sandbox_never_archived :
    ¬(oneSandbox { demoEnvironment with status := .suspended, suspendedAt := some 0 }).ReallyExpire
      (OrderBy.stable _) (OrderBy.stable _) .ascii (withLastError Nat) 0 14 (days 20) ∧
    ¬(oneSandbox demoEnvironment).ReallyExpire (OrderBy.stable _) (OrderBy.stable _) .ascii
      (migration040 Nat) 0 14 (days 2) := by
  constructor
  · intro expire
    obtain ⟨runs, archives⟩ := expire.cleaned
    obtain ⟨later, stored, archived⟩ := archives 1 _ (AList.lookup_insert _)
      (.inl ⟨rfl, 0, rfl, by decide⟩)
    rw [cleaned_eq] at stored
    rw [oneSandbox_eq stored] at archived
    cases archived
  · intro expire
    refine expire.scanned [] (days 2) ?_
    exact ⟨1, demoEnvironment, days 1, rfl, rfl, rfl, by decide⟩

end CogniDQ.Sandbox
