import CogniDQ.Ingestion.BatchIngestion
import Mathlib.Data.Fintype.Basic
import Mathlib.Tactic.SplitIfs

/-!
# The lifecycle of an ingestion job

Which interleavings of workers and cancellations keep to one lifecycle. What a completed and a
failed job have stored holds in all of them: no commit takes a value away again.
-/

set_option autoImplicit false

namespace CogniDQ.Ingestion

open CogniDQ.Protocol

section Columns

variable {Moment Metadata : Type}

/-- The job has the values that the other version has. -/
structure IngestionJob.Covers (job other : IngestionJob Moment Metadata) : Prop where
  totalRows : other.totalRows.isSome → job.totalRows.isSome
  processedRows : other.processedRows.isSome → job.processedRows.isSome
  errorMessage : other.errorMessage.isSome → job.errorMessage.isSome

theorem IngestionJob.Covers.refl (job : IngestionJob Moment Metadata) : job.Covers job where
  totalRows present := present
  processedRows present := present
  errorMessage present := present

theorem IngestionJob.Covers.trans {first second third : IngestionJob Moment Metadata}
    (left : first.Covers second) (right : second.Covers third) : first.Covers third where
  totalRows present := left.totalRows (right.totalRows present)
  processedRows present := left.processedRows (right.processedRows present)
  errorMessage present := left.errorMessage (right.errorMessage present)

structure IngestionJob.Explained (job : IngestionJob Moment Metadata) : Prop where
  completed : job.status = .completed → job.totalRows.isSome ∧ job.processedRows.isSome
  failed : job.status = .failed → job.errorMessage.isSome

theorem IngestionJob.Explained.of_covers {after job : IngestionJob Moment Metadata}
    (explained : job.Explained) (covers : after.Covers job)
    (completed : after.status = .completed →
      job.status = .completed ∨ after.totalRows.isSome ∧ after.processedRows.isSome)
    (failed : after.status = .failed → job.status = .failed ∨ after.errorMessage.isSome) :
    after.Explained where
  completed reached := by
    rcases completed reached with before | stored
    · obtain ⟨total, processed⟩ := explained.completed before
      exact ⟨covers.totalRows total, covers.processedRows processed⟩
    · exact stored
  failed reached := by
    rcases failed reached with before | stored
    · exact covers.errorMessage (explained.failed before)
    · exact stored

theorem saved_eq_or {α : Type} [DecidableEq α] (known : Option α) (stored assigned : α) :
    saved known stored assigned = stored ∨ saved known stored assigned = assigned := by
  unfold saved
  split
  · exact .inl rfl
  · exact .inr rfl

private theorem saved_of_ne {α : Type} [DecidableEq α] {known stored assigned : α}
    (different : known ≠ assigned) : saved (some known) stored assigned = assigned :=
  if_neg fun same => different (Option.some.inj same)

theorem stored_of_saved_eq {α : Type} [DecidableEq α] {known : Option α}
    {stored assigned value : α} (reached : saved known stored assigned = value)
    (other : assigned ≠ value) : stored = value := by
  rcases saved_eq_or known stored assigned with same | same
  · exact same.symm.trans reached
  · exact absurd (same.symm.trans reached) other

theorem isSome_saved_of_stored {α : Type} [DecidableEq α] {known : Option (Option α)}
    {stored : Option α} {assigned : α} (present : stored.isSome) :
    (saved known stored (some assigned)).isSome := by
  rcases saved_eq_or known stored (some assigned) with same | same
  · rwa [same]
  · rw [same]
    rfl

theorem isSome_saved {α : Type} [DecidableEq α] {known : Option (Option α)} {stored : Option α}
    {assigned : α} (covered : ∀ value, known = some value → value.isSome → stored.isSome) :
    (saved known stored (some assigned)).isSome := by
  unfold saved
  split
  · next same => exact covered _ same rfl
  · rfl

/-- What a session knows of the job is covered by what is stored. -/
def Known (memory : Option (IngestionJob Moment Metadata)) (job : IngestionJob Moment Metadata) :
    Prop :=
  ∀ known, memory = some known → job.Covers known

theorem Known.later {memory : Option (IngestionJob Moment Metadata)}
    {job after : IngestionJob Moment Metadata} (known : Known memory job)
    (covers : after.Covers job) : Known memory after :=
  fun version same => covers.trans (known version same)

variable [DecidableEq Moment] {memory : Option (IngestionJob Moment Metadata)}
  {job : IngestionJob Moment Metadata} {now : Moment} {metaData : Metadata} {rowCount : Int}
  {message : String} {assigned : Option Int}

theorem covers_saveRunning : (saveRunning memory now job).Covers job where
  totalRows present := present
  processedRows present := present
  errorMessage present := present

private theorem explained_saveRunning (explained : job.Explained) :
    (saveRunning memory now job).Explained :=
  explained.of_covers covers_saveRunning
    (fun reached => .inl (stored_of_saved_eq reached (by decide)))
    (fun reached => .inl (stored_of_saved_eq reached (by decide)))

theorem covers_saveCancelled : (saveCancelled memory now job).Covers job where
  totalRows present := present
  processedRows present := present
  errorMessage present := present

private theorem explained_saveCancelled (explained : job.Explained) :
    (saveCancelled memory now job).Explained :=
  explained.of_covers covers_saveCancelled
    (fun reached => .inl (stored_of_saved_eq reached (by decide)))
    (fun reached => .inl (stored_of_saved_eq reached (by decide)))

omit [DecidableEq Moment] in
private theorem covers_saveAssigned : (saveAssigned memory assigned job).Covers job := by
  cases assigned with
  | none => exact .refl job
  | some rowCount =>
    exact ⟨isSome_saved_of_stored, isSome_saved_of_stored, fun present => present⟩

omit [DecidableEq Moment] in
private theorem status_saveAssigned : (saveAssigned memory assigned job).status = job.status := by
  cases assigned <;> rfl

theorem covers_saveFailed : (saveFailed memory message now job).Covers job where
  totalRows present := present
  processedRows present := present
  errorMessage := isSome_saved_of_stored

private theorem explained_saveFailed (explained : job.Explained) (known : Known memory job) :
    (saveFailed memory message now job).Explained := by
  refine explained.of_covers covers_saveFailed
    (fun reached => .inl (stored_of_saved_eq reached (by decide))) fun _ => .inr ?_
  refine isSome_saved fun value same present => ?_
  obtain ⟨version, remembered, rfl⟩ := Option.map_eq_some_iff.mp same
  exact (known version remembered).errorMessage present

variable [DecidableEq Metadata]

theorem covers_saveCompleted : (saveCompleted memory rowCount metaData now job).Covers job where
  totalRows := isSome_saved_of_stored
  processedRows := isSome_saved_of_stored
  errorMessage present := present

private theorem explained_saveCompleted (explained : job.Explained) (known : Known memory job) :
    (saveCompleted memory rowCount metaData now job).Explained := by
  refine explained.of_covers covers_saveCompleted (fun _ => .inr ⟨?_, ?_⟩)
    (fun reached => .inl (stored_of_saved_eq reached (by decide)))
  · refine isSome_saved fun value same present => ?_
    obtain ⟨version, remembered, rfl⟩ := Option.map_eq_some_iff.mp same
    exact (known version remembered).totalRows present
  · refine isSome_saved fun value same present => ?_
    obtain ⟨version, remembered, rfl⟩ := Option.map_eq_some_iff.mp same
    exact (known version remembered).processedRows present

end Columns

section Invariant

variable {Worker Moment Metadata : Type}

namespace Phase

def memory : Phase Moment Metadata → Option (IngestionJob Moment Metadata)
  | .selected memory => some memory
  | .running memory => memory
  | .parsing memory => memory
  | _ => none

def isRunning : Phase Moment Metadata → Bool
  | .running _ => true
  | _ => false

end Phase

structure World.Coherent (world : World Worker Moment Metadata) : Prop where
  explained : world.job.Explained
  known : ∀ worker, Known (world.phase worker).memory world.job

/-- A cancellation has read a job that can be cancelled, and its job is cancelled once it has
returned. -/
def Cancelling (job : IngestionJob Moment Metadata) (call : Call) : Phase Moment Metadata → Prop
  | .selected memory => call = .cancelJob → memory.status ∈ [.pending, .running]
  | .returned _ => call = .cancelJob → job.status = .cancelled
  | _ => True

structure World.Orderly (world : World Worker Moment Metadata) : Prop where
  cancelling : ∀ worker, Cancelling world.job (world.request worker).call (world.phase worker)
  alone : ∀ first second, (world.phase first).isRunning = true →
    (world.phase second).isRunning = true → first = second
  parses : world.parses = 0 ∨
    world.parses = 1 ∧ ∀ worker, (world.phase worker).isRunning = false

/-- A call marks the job as running when no other one has got to its file, and commits before any
other call has ended the job. -/
def Undisturbed (world : World Worker Moment Metadata) : Worker × Action Moment Metadata → Prop
  | (_, .markRunning _) =>
    world.job.status.terminal = false ∧ world.parses = 0 ∧
      ∀ other, (world.phase other).isRunning = false
  | (_, .complete ..) => world.job.status.terminal = false
  | (_, .fail ..) => world.job.status.terminal = false
  | (_, .cancel _) => world.job.status ≠ .completed ∧ world.job.status ≠ .failed
  | _ => True

instance decidableUndisturbed [Fintype Worker] (world : World Worker Moment Metadata)
    (action : Worker × Action Moment Metadata) : Decidable (Undisturbed world action) := by
  obtain ⟨worker, _ | _ | _ | _ | _ | _ | _⟩ := action
  all_goals
    unfold Undisturbed
    infer_instance

variable [DecidableEq Worker] {world next : World Worker Moment Metadata} {worker : Worker}

theorem World.Coherent.advance (coherent : world.Coherent) {job : IngestionJob Moment Metadata}
    {parses : Nat} {phase : Phase Moment Metadata} (explained : job.Explained)
    (covers : job.Covers world.job) (known : Known phase.memory job) :
    World.Coherent ({ world with job, parses }.goto worker phase) where
  explained := explained
  known other := by
    change Known (Function.update world.phase worker phase other).memory job
    by_cases same : other = worker
    · subst same
      rw [Function.update_self]
      exact known
    · rw [Function.update_of_ne same]
      exact (coherent.known other).later covers

private theorem World.Coherent.move (coherent : world.Coherent) {parses : Nat}
    {phase : Phase Moment Metadata} (known : Known phase.memory world.job) :
    World.Coherent ({ world with parses }.goto worker phase) :=
  coherent.advance coherent.explained (.refl world.job) known

theorem known_none (job : IngestionJob Moment Metadata) : Known none job :=
  fun _ same => nomatch same

private theorem memory_selectJob {request : Request} {job : IngestionJob Moment Metadata} :
    Known (selectJob request job).memory job := by
  have selected : Known (Phase.selected job).memory job := by
    intro version same
    cases same
    exact .refl job
  unfold selectJob
  split
  · split
    · exact selected
    · split
      · exact selected
      · exact known_none job
  · exact known_none job

omit [DecidableEq Worker] in
private theorem memory_returning (assigned : IngestionJob Moment Metadata) :
    (world.returning assigned).memory = none := by
  unfold World.returning
  split <;> rfl

variable [DecidableEq Moment]

omit [DecidableEq Worker] in
private theorem known_remembered {memory : IngestionJob Moment Metadata} {now : Moment}
    (known : Known (some memory) world.job) :
    Known (world.remembered { memory with status := .running, startedAt := some now })
      (saveRunning (some memory) now world.job) := by
  have covers := known memory rfl
  intro version same
  unfold World.remembered at same
  split_ifs at same
  cases same
  exact ⟨covers.totalRows, covers.processedRows, covers.errorMessage⟩

private theorem World.Coherent.failJob (coherent : world.Coherent)
    {memory : Option (IngestionJob Moment Metadata)} (known : Known memory world.job)
    (expired : Bool) (assigned : Option Int) (message : String) (now : Moment) :
    (world.failJob worker memory expired assigned message now).Coherent := by
  have knownAfter : Known (if expired then none else memory)
      (saveAssigned (if expired then none else memory) assigned world.job) := by
    split
    · exact known_none _
    · exact known.later covers_saveAssigned
  have explained : (saveAssigned (if expired then none else memory) assigned world.job).Explained :=
    coherent.explained.of_covers covers_saveAssigned
      (fun reached => .inl (status_saveAssigned.symm.trans reached))
      (fun reached => .inl (status_saveAssigned.symm.trans reached))
  exact coherent.advance (explained_saveFailed explained knownAfter)
    (covers_saveFailed.trans covers_saveAssigned) (known_none _)

variable [DecidableEq Metadata]

theorem World.Coherent.step (coherent : world.Coherent) {action : Worker × Action Moment Metadata}
    (stepped : world.step action = some next) : next.Coherent := by
  obtain ⟨worker, action⟩ := action
  have before := coherent.known worker
  dsimp only [World.step] at stepped
  split at stepped
  · cases stepped
    exact coherent.move memory_selectJob
  · next selected =>
    rw [selected] at before
    cases stepped
    exact coherent.advance (explained_saveRunning coherent.explained) covers_saveRunning
      (known_remembered before)
  · next running =>
    rw [running] at before
    cases stepped
    exact coherent.move before
  · next parsing =>
    rw [parsing] at before
    cases stepped
    refine coherent.advance (explained_saveCompleted coherent.explained before)
      covers_saveCompleted ?_
    rw [memory_returning]
    exact known_none _
  · next selected =>
    rw [selected] at before
    cases stepped
    exact coherent.failJob before ..
  · next running =>
    rw [running] at before
    cases stepped
    exact coherent.failJob before ..
  · next parsing =>
    rw [parsing] at before
    cases stepped
    exact coherent.failJob before ..
  · cases stepped
    refine coherent.advance (explained_saveCancelled coherent.explained) covers_saveCancelled ?_
    rw [memory_returning]
    exact known_none _
  · cases stepped
  · cases stepped
  · cases stepped
    exact coherent.move (known_none _)
  · cases stepped

omit [DecidableEq Worker] [DecidableEq Moment] [DecidableEq Metadata] in
theorem World.coherent_start (expireOnCommit : Bool) (request : Worker → Request)
    (id workspaceId : String) :
    (World.start expireOnCommit request id workspaceId :
      World Worker Moment Metadata).Coherent where
  explained := ⟨fun completed => (nomatch completed), fun failed => (nomatch failed)⟩
  known _ := known_none _

theorem World.status_of_terminal {action : Worker × Action Moment Metadata}
    (undisturbed : Undisturbed world action) (stepped : world.step action = some next)
    (ended : world.job.status.terminal = true) : next.job.status = world.job.status := by
  obtain ⟨worker, action⟩ := action
  have ongoing (disturbs : world.job.status.terminal = false) {p : Prop} : p := by
    rw [ended] at disturbs
    cases disturbs
  dsimp only [World.step] at stepped
  split at stepped
  · cases stepped
    rfl
  · exact ongoing undisturbed.1
  · cases stepped
    rfl
  · exact ongoing undisturbed
  · exact ongoing undisturbed
  · exact ongoing undisturbed
  · exact ongoing undisturbed
  · next now memory _ _ =>
    cases stepped
    have cancelled : world.job.status = .cancelled := by
      obtain ⟨uncompleted, unfailed⟩ := undisturbed
      cases status : world.job.status with
      | cancelled => rfl
      | completed => exact absurd status uncompleted
      | failed => exact absurd status unfailed
      | _ => simp [status, IngestionJobStatus.terminal] at ended
    rcases saved_eq_or (some memory.status) world.job.status .cancelled with same | same
    · exact same
    · exact same.trans cancelled.symm
  · cases stepped
  · cases stepped
  · cases stepped
    rfl
  · cases stepped

omit [DecidableEq Worker] [DecidableEq Moment] [DecidableEq Metadata] in
private theorem Cancelling.later {job after : IngestionJob Moment Metadata} {call : Call}
    {phase : Phase Moment Metadata} (cancelling : Cancelling job call phase)
    (kept : job.status = .cancelled → after.status = .cancelled) : Cancelling after call phase := by
  cases phase with
  | selected memory => exact cancelling
  | returned result => exact fun isCancel => kept (cancelling isCancel)
  | _ => trivial

omit [DecidableEq Moment] [DecidableEq Metadata] in
theorem World.Orderly.advance (orderly : world.Orderly) {job : IngestionJob Moment Metadata}
    {parses : Nat} {phase : Phase Moment Metadata}
    (kept : world.job.status = .cancelled → job.status = .cancelled)
    (cancelling : Cancelling job (world.request worker).call phase)
    (alone : phase.isRunning = true → ∀ other, other ≠ worker →
      (world.phase other).isRunning = false)
    (counted : parses = 0 ∨ parses = 1 ∧ phase.isRunning = false ∧
      ∀ other, other ≠ worker → (world.phase other).isRunning = false) :
    World.Orderly ({ world with job, parses }.goto worker phase) where
  cancelling other := by
    change Cancelling job (world.request other).call (Function.update world.phase worker phase other)
    by_cases same : other = worker
    · subst same
      rw [Function.update_self]
      exact cancelling
    · rw [Function.update_of_ne same]
      exact (orderly.cancelling other).later kept
  alone first second firstRuns secondRuns := by
    change (Function.update world.phase worker phase first).isRunning = true at firstRuns
    change (Function.update world.phase worker phase second).isRunning = true at secondRuns
    by_cases isFirst : first = worker
    · subst isFirst
      rw [Function.update_self] at firstRuns
      by_contra apart
      rw [Function.update_of_ne (Ne.symm apart), alone firstRuns second (Ne.symm apart)] at secondRuns
      cases secondRuns
    · rw [Function.update_of_ne isFirst] at firstRuns
      by_cases isSecond : second = worker
      · subst isSecond
        rw [Function.update_self] at secondRuns
        rw [alone secondRuns first isFirst] at firstRuns
        cases firstRuns
      · rw [Function.update_of_ne isSecond] at secondRuns
        exact orderly.alone first second firstRuns secondRuns
  parses := by
    rcases counted with none | ⟨one, stopped, others⟩
    · exact .inl none
    · refine .inr ⟨one, fun other => ?_⟩
      change (Function.update world.phase worker phase other).isRunning = false
      by_cases same : other = worker
      · subst same
        rw [Function.update_self]
        exact stopped
      · rw [Function.update_of_ne same]
        exact others other same

omit [DecidableEq Moment] [DecidableEq Metadata] in
private theorem World.Orderly.move (orderly : world.Orderly) {job : IngestionJob Moment Metadata}
    {phase : Phase Moment Metadata}
    (kept : world.job.status = .cancelled → job.status = .cancelled)
    (cancelling : Cancelling job (world.request worker).call phase)
    (stopped : phase.isRunning = false) :
    World.Orderly ({ world with job }.goto worker phase) := by
  refine orderly.advance kept cancelling (fun runs => ?_) ?_
  · rw [stopped] at runs
    cases runs
  · rcases orderly.parses with none | ⟨one, idle⟩
    · exact .inl none
    · exact .inr ⟨one, stopped, fun other _ => idle other⟩

omit [DecidableEq Worker] [DecidableEq Moment] [DecidableEq Metadata] in
private theorem cancelling_selectJob {request : Request} {job : IngestionJob Moment Metadata} :
    Cancelling job request.call (selectJob request job) ∧
      (selectJob request job).isRunning = false := by
  unfold selectJob
  split
  · cases request.call with
    | processJob => exact ⟨fun isCancel => (nomatch isCancel), rfl⟩
    | cancelJob =>
      dsimp only
      split
      · next allowed => exact ⟨fun _ => allowed, rfl⟩
      · exact ⟨trivial, rfl⟩
  · exact ⟨trivial, rfl⟩

omit [DecidableEq Worker] [DecidableEq Moment] [DecidableEq Metadata] in
private theorem isRunning_returning (assigned : IngestionJob Moment Metadata) :
    (world.returning assigned).isRunning = false := by
  unfold World.returning
  split <;> rfl

omit [DecidableEq Worker] [DecidableEq Moment] [DecidableEq Metadata] in
private theorem cancelling_returning {job : IngestionJob Moment Metadata} {call : Call}
    (assigned : IngestionJob Moment Metadata)
    (cancelled : call = .cancelJob → job.status = .cancelled) :
    Cancelling job call (world.returning assigned) := by
  unfold World.returning
  split
  · trivial
  · exact cancelled

theorem World.Orderly.step (orderly : world.Orderly) {action : Worker × Action Moment Metadata}
    (undisturbed : Undisturbed world action) (stepped : world.step action = some next) :
    next.Orderly := by
  have kept : world.job.status = .cancelled → next.job.status = .cancelled := by
    intro cancelled
    have ended : world.job.status.terminal = true := by
      rw [cancelled]
      rfl
    exact (World.status_of_terminal undisturbed stepped ended).trans cancelled
  obtain ⟨worker, action⟩ := action
  have before := orderly.cancelling worker
  dsimp only [World.step] at stepped
  split at stepped
  · cases stepped
    exact orderly.move kept cancelling_selectJob.1 cancelling_selectJob.2
  · cases stepped
    obtain ⟨-, unparsed, idle⟩ := undisturbed
    exact orderly.advance kept trivial (fun _ other _ => idle other) (.inl unparsed)
  · next running =>
    cases stepped
    have runs : (world.phase worker).isRunning = true := by
      rw [running]
      rfl
    have others : ∀ other, other ≠ worker → (world.phase other).isRunning = false := by
      intro other apart
      by_contra alsoRuns
      exact apart (orderly.alone other worker (Bool.eq_true_of_not_eq_false alsoRuns) runs)
    refine orderly.advance kept trivial (fun stillRuns => (nomatch stillRuns)) (.inr ⟨?_, rfl, others⟩)
    rcases orderly.parses with none | ⟨-, idle⟩
    · rw [none]
    · rw [idle worker] at runs
      cases runs
  · next called _ =>
    cases stepped
    refine orderly.move kept (cancelling_returning _ fun isCancel => ?_) (isRunning_returning _)
    rw [called] at isCancel
    cases isCancel
  · cases stepped
    exact orderly.move kept trivial rfl
  · cases stepped
    exact orderly.move kept trivial rfl
  · cases stepped
    exact orderly.move kept trivial rfl
  · next called selected =>
    rw [selected] at before
    cases stepped
    refine orderly.move kept (cancelling_returning _ fun isCancel => ?_) (isRunning_returning _)
    refine saved_of_ne fun same => ?_
    have allowed := before isCancel
    simp only [same] at allowed
    revert allowed
    decide
  · cases stepped
  · cases stepped
  · cases stepped
    exact orderly.move kept trivial rfl
  · cases stepped

omit [DecidableEq Worker] [DecidableEq Moment] [DecidableEq Metadata] in
private theorem World.orderly_start (expireOnCommit : Bool) (request : Worker → Request)
    (id workspaceId : String) :
    (World.start expireOnCommit request id workspaceId :
      World Worker Moment Metadata).Orderly where
  cancelling _ := trivial
  alone _ _ runs := nomatch runs
  parses := .inl rfl

variable {start middle final : World Worker Moment Metadata}
  {earlier later : List (Worker × Action Moment Metadata)}

theorem World.status_of_terminal_run (undisturbed : RunMeets World.step Undisturbed middle later)
    (ran : run World.step middle later = some final) (ended : middle.job.status.terminal = true) :
    final.job.status = middle.job.status := by
  have preserved : ∀ (state : World Worker Moment Metadata) action next,
      state.job.status = middle.job.status → Undisturbed state action →
      state.step action = some next → next.job.status = middle.job.status := by
    intro state action next same undisturbedOne stepped
    rw [← same] at ended
    exact (World.status_of_terminal undisturbedOne stepped ended).trans same
  have kept := run_preserves preserved rfl undisturbed ran
  exact kept

/-- What a completed and a failed job have stored, in every interleaving. -/
theorem job_explained {expireOnCommit : Bool} {request : Worker → Request}
    {id workspaceId : String}
    (ran : run World.step (World.start expireOnCommit request id workspaceId) later = some final) :
    final.job.Explained := by
  have always : RunMeets World.step (fun _ _ => True)
      (World.start expireOnCommit request id workspaceId : World Worker Moment Metadata) later :=
    runMeets_of_forall fun _ _ => trivial
  have coherent : final.Coherent :=
    run_preserves (fun _ _ _ kept _ stepped => World.Coherent.step kept stepped)
      (World.coherent_start ..) always ran
  exact coherent.explained

/-- In every interleaving in which no call disturbs another one, a job that has ended keeps its
status, one whose cancellation has returned is cancelled, it is parsed at most once, and it has what
its status promises. -/
theorem job_follows_lifecycle {expireOnCommit : Bool} {request : Worker → Request}
    {id workspaceId : String}
    (undisturbed : RunMeets World.step Undisturbed
      (World.start expireOnCommit request id workspaceId) (earlier ++ later))
    (reached : run World.step (World.start expireOnCommit request id workspaceId) earlier =
      some middle)
    (ran : run World.step middle later = some final) :
    (middle.job.status.terminal = true → final.job.status = middle.job.status) ∧
      (∀ worker result, (final.request worker).call = .cancelJob →
        final.phase worker = .returned result → final.job.status = .cancelled) ∧
      final.parses ≤ 1 ∧
      (final.job.status = .completed →
        final.job.totalRows.isSome ∧ final.job.processedRows.isSome) ∧
      (final.job.status = .failed → final.job.errorMessage.isSome) := by
  obtain ⟨undisturbedEarlier, undisturbedLater⟩ := runMeets_append undisturbed reached
  have orderly : final.Orderly := by
    have halfway : middle.Orderly :=
      run_preserves (fun _ _ _ kept one stepped => World.Orderly.step kept one stepped)
        (World.orderly_start ..) undisturbedEarlier reached
    exact run_preserves (fun _ _ _ kept one stepped => World.Orderly.step kept one stepped)
      halfway undisturbedLater ran
  have coherent : final.Coherent := by
    have halfway : middle.Coherent :=
      run_preserves (fun _ _ _ kept _ stepped => World.Coherent.step kept stepped)
        (World.coherent_start ..) undisturbedEarlier reached
    exact run_preserves (fun _ _ _ kept _ stepped => World.Coherent.step kept stepped) halfway
      undisturbedLater ran
  refine ⟨World.status_of_terminal_run undisturbedLater ran, ?_, ?_, coherent.explained.completed,
    coherent.explained.failed⟩
  · intro worker result isCancel returned
    have cancelling := orderly.cancelling worker
    rw [returned] at cancelling
    exact cancelling isCancel
  · rcases orderly.parses with none | ⟨one, -⟩
    · exact none.le.trans (Nat.zero_le 1)
    · exact one.le

end Invariant

section Schedules

private def requests : Fin 3 → Request
  | 0 => ⟨.processJob, "job", "workspace"⟩
  | 1 => ⟨.processJob, "job", "workspace"⟩
  | 2 => ⟨.cancelJob, "job", "workspace"⟩

private def newJob : World (Fin 3) Nat String := World.start false requests "job" "workspace"

/-- Two workers and the cancellation read the job before one of them marks it as running. -/
private def cancelledMeanwhile : List (Fin 3 × Action Nat String) :=
  [(0, .select), (1, .select), (2, .select), (0, .markRunning 1), (0, .parse), (2, .cancel 2)]

/-- The worker that parses a job that is cancelled meanwhile, and the one that comes too late, end
before they write. -/
theorem cancelled_meanwhile_stays_cancelled :
    ∃ middle final,
      run World.step newJob cancelledMeanwhile = some middle ∧
      run World.step middle [(1, .stop), (0, .stop)] = some final ∧
      middle.job.status = .cancelled ∧
      (middle.job.status.terminal = true → final.job.status = middle.job.status) ∧
      (∀ worker result, (final.request worker).call = .cancelJob →
        final.phase worker = .returned result → final.job.status = .cancelled) ∧
      final.parses ≤ 1 ∧
      (final.job.status = .completed →
        final.job.totalRows.isSome ∧ final.job.processedRows.isSome) ∧
      (final.job.status = .failed → final.job.errorMessage.isSome) := by
  have reached : ∃ middle, run World.step newJob cancelledMeanwhile = some middle ∧
      middle.job.status = .cancelled ∧
        ∃ final, run World.step middle [(1, .stop), (0, .stop)] = some final := ⟨_, rfl, rfl, _, rfl⟩
  obtain ⟨middle, reached, cancelled, final, ran⟩ := reached
  refine ⟨middle, final, reached, ran, cancelled, job_follows_lifecycle ?_ reached ran⟩
  decide +kernel

/-- Both workers parse the file, and the one that completes the job overwrites a cancellation that
has returned. -/
theorem cancelled_job_completed :
    ∃ final, run World.step newJob
        [(0, .select), (1, .select), (0, .markRunning 1), (1, .markRunning 2), (0, .parse),
          (1, .parse), (2, .select), (2, .cancel 3), (0, .complete 5 "profile" 4)] = some final ∧
      (∃ result, final.phase 2 = .returned result ∧ result.status = .cancelled) ∧
      final.job.status = .completed ∧ final.parses = 2 := by
  refine ⟨_, rfl, ⟨_, rfl, ?_⟩, ?_, ?_⟩
  · decide
  · decide
  · decide

/-- Also the job that two workers have parsed and a cancellation has crossed. -/
theorem crossed_job_explained :
    ∃ final, run World.step newJob
        [(0, .select), (1, .select), (0, .markRunning 1), (1, .markRunning 2), (0, .parse),
          (1, .parse), (2, .select), (2, .cancel 3), (0, .complete 5 "profile" 4)] = some final ∧
      final.job.Explained := by
  have ran : ∃ final, run World.step newJob
      [(0, .select), (1, .select), (0, .markRunning 1), (1, .markRunning 2), (0, .parse),
        (1, .parse), (2, .select), (2, .cancel 3), (0, .complete 5 "profile" 4)] = some final :=
    ⟨_, rfl⟩
  obtain ⟨final, ran⟩ := ran
  exact ⟨final, ran, job_explained ran⟩

end Schedules

end CogniDQ.Ingestion
