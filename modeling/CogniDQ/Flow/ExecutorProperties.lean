import CogniDQ.Flow.Acceptance
import CogniDQ.Flow.Executor

/-!
# Cancelling and completing an execution

The run writes its status unconditionally, so a cancel that commits before the
last of these writes is lost. When every cancel commits after it, a cancelled
record stays cancelled and a completed one has executed all of its nodes.
-/

set_option autoImplicit false

namespace CogniDQ.Flow.FlowExecutor

open CogniDQ.Python

/-! ## The ledger of a run -/

/-- A node whose result row says that its handler ran without failing. -/
def Executed (rows : List NodeResult) (id : String) : Prop :=
  ∃ row ∈ rows, row.nodeId = id ∧ (row.status = .completed ∨ row.status = .warning)

def AllExecuted (flow : FlowDefinition) (rows : List NodeResult) : Prop :=
  (∀ node ∈ flow.nodes, Executed rows node.id) ∧ ∀ row ∈ rows, row.status ≠ .failed

/-- What the results, the current tasks and the levels ahead account for. -/
structure Ledger (flow : FlowDefinition) (rows : List NodeResult)
    (nodeResults : List (String × NodeStatus)) (tasks : List Task) (ahead : List String) :
    Prop where
  nodup : (nodeResults.map Prod.fst ++ (tasks.map (·.nodeId) ++ ahead)).Nodup
  covers : ∀ id ∈ flow.nodeIds,
    id ∈ nodeResults.map Prod.fst ++ (tasks.map (·.nodeId) ++ ahead)
  results : ∀ result ∈ nodeResults, result.2 = .failed ∨ Executed rows result.1
  started : ∀ task ∈ tasks, task.progress = .started →
    ∃ row ∈ rows, row.nodeId = task.nodeId ∧
      row.executionOrder = task.executionOrder ∧ row.status = .running
  finished : ∀ task ∈ tasks, ∀ status, task.progress = .finished status →
    status = .failed ∨ Executed rows task.nodeId
  failures : ∀ row ∈ rows, row.status = .failed →
    (row.nodeId, NodeStatus.failed) ∈ nodeResults ∨
      ∃ task ∈ tasks, task.nodeId = row.nodeId ∧ task.progress = .finished .failed

section Ledger

variable {flow : FlowDefinition} {rows newRows : List NodeResult}
  {nodeResults : List (String × NodeStatus)} {tasks : List Task} {task : Task}
  {ahead : List String}

theorem Executed.mono {id : String} (executed : Executed rows id)
    (kept : ∀ row ∈ rows, row.status ≠ .running → row ∈ newRows) : Executed newRows id := by
  obtain ⟨row, member, sameId, passed⟩ := executed
  refine ⟨row, kept row member ?_, sameId, passed⟩
  rintro running
  rcases passed with completed | warning
  · simp [running] at completed
  · simp [running] at warning

private theorem Ledger.task_unique (ledger : Ledger flow rows nodeResults tasks ahead)
    {other : Task} (member : task ∈ tasks) (otherMember : other ∈ tasks)
    (same : other.nodeId = task.nodeId) : other = task := by
  have unique : (tasks.map (·.nodeId)).Nodup :=
    (List.nodup_append.mp (List.nodup_append.mp ledger.nodup).2.1).1
  exact List.inj_on_of_nodup_map unique otherMember member same

@[simp] theorem map_nodeId_setProgress (id : String) (progress : Progress) (tasks : List Task) :
    (setProgress id progress tasks).map (·.nodeId) = tasks.map (·.nodeId) := by
  simp only [setProgress, List.map_map]
  refine List.map_congr_left fun task _ => ?_
  simp only [Function.comp]
  split <;> rfl

theorem mem_setProgress {id : String} {progress : Progress} {other : Task} :
    other ∈ setProgress id progress tasks ↔
      (∃ old ∈ tasks, old.nodeId = id ∧ other = { old with progress }) ∨
        (other ∈ tasks ∧ other.nodeId ≠ id) := by
  simp only [setProgress, List.mem_map]
  constructor
  · rintro ⟨old, member, rfl⟩
    by_cases same : old.nodeId = id
    · exact .inl ⟨old, member, same, by simp [same]⟩
    · exact .inr ⟨by simpa [same] using member, by simp [same]⟩
  · rintro (⟨old, member, same, rfl⟩ | ⟨member, different⟩)
    · exact ⟨old, member, by simp [same]⟩
    · exact ⟨other, member, by simp [different]⟩

theorem Ledger.advance (ledger : Ledger flow rows nodeResults tasks ahead) {progress : Progress}
    (member : task ∈ tasks) (pending : task.progress ≠ .finished .failed)
    (kept : ∀ row ∈ rows, row.status ≠ .running ∨ row.nodeId ≠ task.nodeId → row ∈ newRows)
    (started : progress = .started → ∃ row ∈ newRows, row.nodeId = task.nodeId ∧
      row.executionOrder = task.executionOrder ∧ row.status = .running)
    (finished : ∀ status, progress = .finished status →
      status = .failed ∨ Executed newRows task.nodeId)
    (failures : ∀ row ∈ newRows, row.status = .failed →
      row ∈ rows ∨ row.nodeId = task.nodeId ∧ progress = .finished .failed) :
    Ledger flow newRows nodeResults (setProgress task.nodeId progress tasks) ahead where
  nodup := by simpa using ledger.nodup
  covers := by simpa using ledger.covers
  results := by
    intro result inResults
    exact (ledger.results result inResults).imp_right
      fun executed => executed.mono fun row member passed => kept row member (.inl passed)
  started := by
    intro other inTasks isStarted
    rcases mem_setProgress.mp inTasks with ⟨old, oldMember, same, rfl⟩ | ⟨oldMember, different⟩
    · have := ledger.task_unique member oldMember same
      subst this
      exact started isStarted
    · obtain ⟨row, rowMember, sameId, rest⟩ := ledger.started other oldMember isStarted
      exact ⟨row, kept row rowMember (.inr (sameId ▸ different)), sameId, rest⟩
  finished := by
    intro other inTasks status isFinished
    rcases mem_setProgress.mp inTasks with ⟨old, oldMember, same, rfl⟩ | ⟨oldMember, _⟩
    · exact same ▸ finished status isFinished
    · exact (ledger.finished other oldMember status isFinished).imp_right
        fun executed => executed.mono fun row member passed => kept row member (.inl passed)
  failures := by
    intro row rowMember failed
    rcases failures row rowMember failed with old | ⟨same, isFailed⟩
    · refine (ledger.failures row old failed).imp_right ?_
      rintro ⟨other, otherMember, sameId, otherFailed⟩
      refine ⟨other, mem_setProgress.mpr (.inr ⟨otherMember, ?_⟩), sameId, otherFailed⟩
      intro same
      exact pending (ledger.task_unique member otherMember same ▸ otherFailed)
    · exact .inr ⟨{ task with progress },
        mem_setProgress.mpr (.inl ⟨task, member, rfl, rfl⟩), same.symm, isFailed⟩

private theorem Ledger.startNode (ledger : Ledger flow rows nodeResults tasks ahead)
    (member : task ∈ tasks) (waiting : task.progress = .waiting) (handled : Bool) :
    Ledger flow
      (rows ++ [{ nodeId := task.nodeId
                  status := if handled then .running else .failed
                  executionOrder := task.executionOrder }])
      nodeResults
      (setProgress task.nodeId (if handled then .started else .finished .failed) tasks)
      ahead := by
  refine ledger.advance member (by simp [waiting]) (fun row old _ => List.mem_append_left _ old)
    ?_ ?_ ?_
  · cases handled <;> simp
  · cases handled <;> simp
  · intro row rowMember failed
    rcases List.mem_append.mp rowMember with old | new
    · exact .inl old
    · obtain rfl := List.mem_singleton.mp new
      cases handled <;> simp at failed ⊢

private theorem Ledger.finishNode (ledger : Ledger flow rows nodeResults tasks ahead)
    (member : task ∈ tasks) (started : task.progress = .started) (outcome : Outcome) :
    Ledger flow (settleRow task outcome.status rows) nodeResults
      (setProgress task.nodeId (.finished outcome.status) tasks) ahead := by
  obtain ⟨row, rowMember, sameId, sameOrder, running⟩ := ledger.started task member started
  refine ledger.advance member (by simp [started]) ?_ (by simp) ?_ ?_
  · intro other otherMember untouched
    refine List.mem_map.mpr ⟨other, otherMember, if_neg ?_⟩
    rintro ⟨id, _, isRunning⟩
    rcases untouched with notRunning | otherId
    · exact notRunning isRunning
    · exact otherId id
  · intro status finishedAs
    simp only [Progress.finished.injEq] at finishedAs
    subst finishedAs
    have settled : { row with status := outcome.status } ∈ settleRow task outcome.status rows :=
      List.mem_map.mpr ⟨row, rowMember, if_pos ⟨sameId, sameOrder, running⟩⟩
    cases outcome with
    | completed => exact .inr ⟨_, settled, sameId, .inl rfl⟩
    | warning => exact .inr ⟨_, settled, sameId, .inr rfl⟩
    | failed => exact .inl rfl
    | raised => exact .inl rfl
  · intro other otherMember failed
    obtain ⟨old, oldMember, rfl⟩ := List.mem_map.mp otherMember
    split at failed
    · rename_i touched
      exact .inr ⟨by simp [touched], by simpa using failed⟩
    · rename_i untouched
      exact .inl (by simpa [untouched] using oldMember)

private theorem Ledger.crashNode (ledger : Ledger flow rows nodeResults tasks ahead)
    (member : task ∈ tasks) (pending : task.isOver = false) :
    Ledger flow rows nodeResults (setProgress task.nodeId .crashed tasks) ahead := by
  refine ledger.advance member ?_ (fun _ old _ => old) (by simp) (by simp)
    fun _ old _ => .inl old
  intro failed
  simp [Task.isOver, failed] at pending

theorem setResult_fresh {id : String} {status : NodeStatus}
    (fresh : id ∉ nodeResults.map Prod.fst) :
    setResult nodeResults id status = nodeResults ++ [(id, status)] :=
  if_neg fresh

private theorem Ledger.record (ledger : Ledger flow rows nodeResults (task :: tasks) ahead)
    {status : NodeStatus} (kept : ∀ row ∈ rows, row ∈ newRows)
    (executed : status = .failed ∨ Executed newRows task.nodeId)
    (failures : ∀ row ∈ newRows, row.status = .failed →
      row ∈ rows ∨ row.nodeId = task.nodeId ∧ status = .failed)
    (agrees : task.progress = .finished .failed → status = .failed) :
    Ledger flow newRows (setResult nodeResults task.nodeId status) tasks ahead := by
  have fresh : task.nodeId ∉ nodeResults.map Prod.fst := by
    intro inResults
    exact (List.nodup_append.mp ledger.nodup).2.2 _ inResults _ (by simp) rfl
  rw [setResult_fresh fresh]
  constructor
  · simpa using ledger.nodup
  · simpa using ledger.covers
  · intro result inResults
    rcases List.mem_append.mp inResults with old | new
    · exact (ledger.results result old).imp_right
        fun executed => executed.mono fun row member _ => kept row member
    · obtain rfl := List.mem_singleton.mp new
      exact executed
  · intro other member isStarted
    obtain ⟨row, rowMember, rest⟩ := ledger.started other (List.mem_cons_of_mem _ member) isStarted
    exact ⟨row, kept row rowMember, rest⟩
  · intro other member otherStatus isFinished
    exact (ledger.finished other (List.mem_cons_of_mem _ member) otherStatus isFinished).imp_right
      fun executed => executed.mono fun row member _ => kept row member
  · intro row rowMember failed
    rcases failures row rowMember failed with old | ⟨same, isFailed⟩
    · rcases ledger.failures row old failed with inResults | ⟨other, member, sameId, otherFailed⟩
      · exact .inl (List.mem_append_left _ inResults)
      · rcases List.mem_cons.mp member with rfl | member
        · exact .inl (List.mem_append_right _ (by simp [sameId, agrees otherFailed]))
        · exact .inr ⟨other, member, sameId, otherFailed⟩
    · exact .inl (List.mem_append_right _ (by simp [same, isFailed]))

@[simp] theorem map_nodeId_levelTasks (orderIdx : Nat) (level : List String) :
    (levelTasks orderIdx level).map (·.nodeId) = level := by
  induction level generalizing orderIdx with
  | nil => rfl
  | cons id rest ih => simp [levelTasks, ih]

theorem levelTasks_waiting {orderIdx : Nat} {level : List String}
    (member : task ∈ levelTasks orderIdx level) : task.progress = .waiting := by
  induction level generalizing orderIdx with
  | nil => simp [levelTasks] at member
  | cons id rest ih =>
      rcases List.mem_cons.mp member with rfl | member
      · rfl
      · exact ih member

private theorem Ledger.enterLevel {level : List String} {levels : List (List String)}
    (ledger : Ledger flow rows nodeResults [] (level :: levels).flatten) (orderIdx : Nat) :
    Ledger flow rows nodeResults (levelTasks orderIdx level) levels.flatten where
  nodup := by simpa using ledger.nodup
  covers := by simpa using ledger.covers
  results := ledger.results
  started := fun task member started => by simp [levelTasks_waiting member] at started
  finished := fun task member status finished => by simp [levelTasks_waiting member] at finished
  failures := fun row member failed => (ledger.failures row member failed).imp_right (by simp)

theorem aggregateResults_allPassed :
    (aggregateResults nodeResults).allPassed = true ↔
      ∀ result ∈ nodeResults, result.2 ≠ .failed := by
  simp [aggregateResults, List.countP_eq_zero]

private theorem Ledger.allExecuted (ledger : Ledger flow rows nodeResults [] [])
    (passed : (aggregateResults nodeResults).allPassed = true) : AllExecuted flow rows := by
  rw [aggregateResults_allPassed] at passed
  constructor
  · intro node member
    have covered := ledger.covers node.id (List.mem_map_of_mem member)
    simp only [List.map_nil, List.append_nil] at covered
    obtain ⟨result, inResults, sameId⟩ := List.mem_map.mp covered
    exact sameId ▸ (ledger.results result inResults).resolve_left (passed result inResults)
  · intro row member failed
    rcases ledger.failures row member failed with inResults | ⟨task, none, _⟩
    · exact passed _ inResults rfl
    · simp at none

end Ledger

/-! ## One step, and every run -/

def HasFailure (execution : Execution) : Prop :=
  ∃ result ∈ execution.nodeResults, result.2 = .failed

/-- What holds at each point of a run that no cancel has interrupted. -/
def Accounted (flow : FlowDefinition) (execution : Execution) : Prop :=
  match execution.phase with
  | .starting => execution.rows = [] ∧ execution.nodeResults = []
  | .boundary levels =>
      Ledger flow execution.rows execution.nodeResults [] levels.flatten
  | .running tasks levels =>
      Ledger flow execution.rows execution.nodeResults tasks levels.flatten
  | .processing tasks hasFailure levels =>
      Ledger flow execution.rows execution.nodeResults tasks levels.flatten ∧
        (hasFailure = true → HasFailure execution)
  | .skipping _ => HasFailure execution
  | .aggregating =>
      Ledger flow execution.rows execution.nodeResults [] [] ∨ HasFailure execution
  | .returning | .done => execution.status = .completed → AllExecuted flow execution.rows
  | .raising => True

/-- The record of a run between its first and its last status write is not
cancelled, and no cancel has returned before the run is over. -/
structure Invariant (flow : FlowDefinition) (execution : Execution) : Prop where
  accounted : Accounted flow execution
  uncancelled : execution.phase = .starting ∨ execution.phase = .done ∨
    execution.status ≠ .cancelled
  returned : execution.cancelReturned = true →
    execution.phase = .done ∧ execution.status = .cancelled

private theorem HasFailure.not_allPassed {execution : Execution} (failure : HasFailure execution) :
    (aggregateResults execution.nodeResults).allPassed = false := by
  rw [← Bool.not_eq_true, aggregateResults_allPassed]
  obtain ⟨result, member, failed⟩ := failure
  exact fun passed => passed result member failed

private theorem hasFailure_record {nodeResults : List (String × NodeStatus)} {id : String}
    {status : NodeStatus} (fresh : id ∉ nodeResults.map Prod.fst)
    (failure : (∃ result ∈ nodeResults, result.2 = .failed) ∨ status = .failed) :
    ∃ result ∈ setResult nodeResults id status, result.2 = .failed := by
  rw [setResult_fresh fresh]
  rcases failure with ⟨result, member, failed⟩ | rfl
  · exact ⟨result, List.mem_append_left _ member, failed⟩
  · exact ⟨_, List.mem_append_right _ (List.mem_singleton.mpr rfl), rfl⟩

theorem levels_cover {order : SetOrder String} {flow : FlowDefinition}
    {response : FlowValidationResponse} {levels : List (List String)}
    (validated : FlowValidator.validateFlow order flow true = .ok response)
    (accepted : response.isValid = true)
    (scheduled : FlowValidator.getExecutionLevels order flow.nodes flow.connections = .ok levels) :
    levels.flatten.Nodup ∧ ∀ id ∈ flow.nodeIds, id ∈ levels.flatten := by
  by_cases nonempty : flow.nodes = []
  · rw [nonempty] at scheduled
    cases connections : flow.connections with
    | nil =>
        simp only [FlowValidator.getExecutionLevels, connections, FlowValidator.inDegrees, bind,
          Except.bind, List.map_nil, List.eraseDups_nil, List.filter_nil,
          FlowValidator.levelsLoop] at scheduled
        obtain rfl : [] = levels := by simpa using scheduled
        simp [FlowDefinition.nodeIds, nonempty]
    | cons connection rest =>
        simp [FlowValidator.getExecutionLevels, FlowValidator.inDegrees, connections, bind,
          Except.bind] at scheduled
  · obtain ⟨planned, perm, outcome⟩ :=
      FlowValidator.accepted_levels order nonempty validated accepted
    rw [outcome] at scheduled
    split at scheduled
    · obtain rfl := Except.ok.inj scheduled
      refine ⟨perm.nodup_iff.mpr (Grouping.nodup_eraseDups _), fun id member => ?_⟩
      exact perm.mem_iff.mpr (List.mem_eraseDups.mpr member)
    · cases scheduled

/-- A cancel commits only when the run has written its status for the last time. -/
def LateCancel (execution : Execution) (action : Action) : Prop :=
  action = .commitCancel → execution.phase = .done

private theorem Invariant.initial (flow : FlowDefinition) (status : ExecutionStatus) :
    Invariant flow (.initial status) where
  accounted := ⟨rfl, rfl⟩
  uncancelled := .inl rfl
  returned := by simp [Execution.initial]

private theorem start_preserves_invariant {request : Request} {before after : Execution}
    (invariant : Invariant request.flow before) (starting : before.phase = .starting)
    (moved : start request before = some after) : Invariant request.flow after := by
  have notReturned : before.cancelReturned ≠ true := by
    intro returned
    have ended := (invariant.returned returned).1
    simp [starting] at ended
  have untouched : before.rows = [] ∧ before.nodeResults = [] := by
    simpa [Accounted, starting] using invariant.accounted
  unfold start at moved
  split at moved
  · cases moved
  · rename_i response validated
    split at moved
    · rename_i accepted
      obtain rfl := Option.some.inj moved
      refine ⟨?_, .inr (.inr (by simp)), fun returned => absurd returned notReturned⟩
      cases scheduled : FlowValidator.getExecutionLevels request.order request.flow.nodes
          request.flow.connections with
      | error error => trivial
      | ok levels =>
          obtain ⟨unique, covers⟩ := levels_cover validated accepted scheduled
          simp only [Accounted, untouched]
          exact ⟨by simpa using unique, by simpa using covers, by simp, by simp, by simp, by simp⟩
    · obtain rfl := Option.some.inj moved
      refine ⟨?_, .inr (.inl rfl), fun returned => absurd returned notReturned⟩
      simp [Accounted]

theorem Invariant.underWay {flow : FlowDefinition} {execution : Execution}
    (invariant : Invariant flow execution) (started : execution.phase ≠ .starting)
    (unfinished : execution.phase ≠ .done) :
    execution.status ≠ .cancelled ∧ ¬ execution.cancelReturned = true := by
  refine ⟨?_, fun returned => unfinished (invariant.returned returned).1⟩
  rcases invariant.uncancelled with starting | done | uncancelled
  · exact absurd starting started
  · exact absurd done unfinished
  · exact uncancelled

private theorem enterLevel_accounted {flow : FlowDefinition} {before : Execution}
    {levels : List (List String)} (uncancelled : before.status ≠ .cancelled)
    (ledger : Ledger flow before.rows before.nodeResults [] levels.flatten) :
    Accounted flow (enterLevel before levels) := by
  cases levels with
  | nil => exact .inl ledger
  | cons level rest =>
      simp only [enterLevel, uncancelled, if_false]
      exact ledger.enterLevel _

theorem startNode_accounted {request : Request} {before after : Execution} {tasks : List Task}
    {levels : List (List String)} {task : Task}
    (ledger : Ledger request.flow before.rows before.nodeResults tasks levels.flatten)
    (member : task ∈ tasks) (waiting : task.progress = .waiting)
    (moved : startNode request before tasks levels task = some after) :
    Accounted request.flow after ∧ after.status = before.status ∧
      after.cancelReturned = before.cancelReturned := by
  unfold startNode at moved
  cases found : nodeDict request.flow.nodes task.nodeId with
  | none => simp [found] at moved
  | some node =>
      simp only [found, Option.bind_eq_bind, Option.bind_some, Option.pure_def,
        Option.some.injEq] at moved
      subst moved
      exact ⟨ledger.startNode member waiting _, rfl, rfl⟩

theorem processResult_accounted {flow : FlowDefinition} {before after : Execution} {task : Task}
    {tasks : List Task} {hasFailure : Bool} {levels : List (List String)}
    (ledger : Ledger flow before.rows before.nodeResults (task :: tasks) levels.flatten)
    (recorded : hasFailure = true → HasFailure before)
    (moved : processResult before task tasks hasFailure levels = some after) :
    Accounted flow after ∧ after.status = before.status ∧
      after.cancelReturned = before.cancelReturned := by
  have fresh : task.nodeId ∉ before.nodeResults.map Prod.fst := by
    intro inResults
    exact (List.nodup_append.mp ledger.nodup).2.2 _ inResults _ (by simp) rfl
  unfold processResult at moved
  split at moved
  · rename_i crashed
    obtain rfl := Option.some.inj moved
    refine ⟨⟨ledger.record (fun row old => List.mem_append_left _ old) (.inl rfl) ?_
      (fun _ => rfl), fun _ => hasFailure_record fresh (.inr rfl)⟩, rfl, rfl⟩
    intro row member _
    rcases List.mem_append.mp member with old | new
    · exact .inl old
    · exact .inr ⟨by rw [List.mem_singleton.mp new], rfl⟩
  · rename_i status finished
    obtain rfl := Option.some.inj moved
    refine ⟨⟨ledger.record (fun _ old => old)
      (ledger.finished task List.mem_cons_self status finished)
      (fun row old _ => .inl old) ?_, fun failed => ?_⟩, rfl, rfl⟩
    · intro failed
      simpa [finished] using failed
    · simp only [Bool.or_eq_true, decide_eq_true_eq] at failed
      exact hasFailure_record fresh (failed.imp_left recorded)
  · cases moved
  · cases moved

private theorem finish_accounted {flow : FlowDefinition} {before : Execution}
    (account : Ledger flow before.rows before.nodeResults [] [] ∨ HasFailure before) :
    Accounted flow (finish before) ∧ (finish before).status ≠ .cancelled := by
  simp only [finish, Accounted]
  cases passed : (aggregateResults before.nodeResults).allPassed with
  | false => simp
  | true =>
      rcases account with ledger | failure
      · exact ⟨fun _ => ledger.allExecuted passed, by simp⟩
      · simp [failure.not_allPassed] at passed

theorem Invariant.moved {flow : FlowDefinition} {before after : Execution}
    (invariant : Invariant flow before) (started : before.phase ≠ .starting)
    (unfinished : before.phase ≠ .done) (accounted : Accounted flow after)
    (status : before.status ≠ .cancelled → after.phase = .done ∨ after.status ≠ .cancelled)
    (returned : after.cancelReturned = before.cancelReturned) : Invariant flow after where
  accounted := accounted
  uncancelled := .inr (status (invariant.underWay started unfinished).1)
  returned := fun has =>
    absurd (returned ▸ has) (invariant.underWay started unfinished).2

/-- What a step does, for each way it can go. -/
inductive Step (request : Request) (before : Execution) : Action → Execution → Prop where
  | start {after : Execution} (phase : before.phase = .starting)
      (started : FlowExecutor.start request before = some after) : Step request before .start after
  | enterLevel {levels : List (List String)} (phase : before.phase = .boundary levels) :
      Step request before .enterLevel (FlowExecutor.enterLevel before levels)
  | startNode {tasks : List Task} {levels : List (List String)} {task : Task} {after : Execution}
      (id : String) (phase : before.phase = .running tasks levels) (member : task ∈ tasks)
      (waiting : task.progress = .waiting)
      (started : FlowExecutor.startNode request before tasks levels task = some after) :
      Step request before (.startNode id) after
  | finishNode {tasks : List Task} {levels : List (List String)} {task : Task} (id : String)
      (outcome : Outcome) (phase : before.phase = .running tasks levels) (member : task ∈ tasks)
      (started : task.progress = .started) :
      Step request before (.finishNode id outcome)
        (FlowExecutor.finishNode before tasks levels task outcome)
  | crashNode {tasks : List Task} {levels : List (List String)} {task : Task} (id : String)
      (phase : before.phase = .running tasks levels) (member : task ∈ tasks)
      (pending : task.isOver = false) :
      Step request before (.crashNode id)
        { before with phase := .running (setProgress task.nodeId .crashed tasks) levels }
  | gather {tasks : List Task} {levels : List (List String)}
      (phase : before.phase = .running tasks levels) :
      Step request before .gather { before with phase := .processing tasks false levels }
  | processResult {task : Task} {tasks : List Task} {hasFailure : Bool}
      {levels : List (List String)} {after : Execution}
      (phase : before.phase = .processing (task :: tasks) hasFailure levels)
      (processed : FlowExecutor.processResult before task tasks hasFailure levels = some after) :
      Step request before .processResult after
  | stopLevel {hasFailure : Bool} {levels : List (List String)}
      (phase : before.phase = .processing [] hasFailure levels) (failed : hasFailure = true)
      (stops : request.continueOnError = false) :
      Step request before .endLevel { before with phase := .skipping levels.flatten }
  | endLevel {hasFailure : Bool} {levels : List (List String)}
      (phase : before.phase = .processing [] hasFailure levels)
      (continues : hasFailure = true → request.continueOnError = true) :
      Step request before .endLevel { before with phase := .boundary levels }
  | endSkipping (phase : before.phase = .skipping []) :
      Step request before .skipNode { before with phase := .aggregating }
  | skipNode {id : String} {rest : List String} (phase : before.phase = .skipping (id :: rest)) :
      Step request before .skipNode
        { before with
          rows := before.rows ++
            [{ nodeId := id, status := .skipped, executionOrder := before.orderIdx }]
          orderIdx := before.orderIdx + 1
          phase := .skipping rest }
  | finish (phase : before.phase = .aggregating) :
      Step request before .finish (FlowExecutor.finish before)
  | returnResult (phase : before.phase = .returning) :
      Step request before .returnResult { before with phase := .done }
  | raise (inTry : before.phase.inTry = true) :
      Step request before .raise { before with phase := .raising }
  | fail (phase : before.phase = .raising) :
      Step request before .fail { before with status := .failed, phase := .done }
  | readRunning : Step request before .readStatus { before with cancelling := before.cancelling + 1 }
  | readOther : Step request before .readStatus before
  | commitCancel :
      Step request before .commitCancel
        { before with
          status := .cancelled
          cancelling := before.cancelling - 1
          cancelReturned := true }

theorem Step.of_step {request : Request} {before after : Execution} {action : Action}
    (moved : step request before action = some after) : Step request before action after := by
  cases action with
  | start =>
      simp only [step] at moved
      split at moved
      · next phase => exact .start phase moved
      · cases moved
  | enterLevel =>
      simp only [step] at moved
      split at moved
      · next levels phase =>
        cases moved
        exact .enterLevel phase
      · cases moved
  | startNode id =>
      simp only [step] at moved
      split at moved
      · next tasks levels phase =>
        obtain ⟨task, found, moved⟩ := Option.bind_eq_some_iff.mp moved
        have tested := List.find?_some found
        have waiting := of_decide_eq_true tested
        exact .startNode id phase (List.mem_of_find?_eq_some found) waiting.2 moved
      · cases moved
  | finishNode id outcome =>
      simp only [step] at moved
      split at moved
      · next tasks levels phase =>
        obtain ⟨task, found, moved⟩ := Option.bind_eq_some_iff.mp moved
        have tested := List.find?_some found
        have started := of_decide_eq_true tested
        cases moved
        exact .finishNode id outcome phase (List.mem_of_find?_eq_some found) started.2
      · cases moved
  | crashNode id =>
      simp only [step] at moved
      split at moved
      · next tasks levels phase =>
        obtain ⟨task, found, moved⟩ := Option.bind_eq_some_iff.mp moved
        have tested := List.find?_some found
        have pending := of_decide_eq_true tested
        cases moved
        exact .crashNode id phase (List.mem_of_find?_eq_some found)
          (Bool.not_eq_true' _ ▸ pending.2)
      · cases moved
  | gather =>
      simp only [step] at moved
      split at moved
      · next tasks levels phase =>
        split at moved <;> cases moved
        exact .gather phase
      · cases moved
  | processResult =>
      simp only [step] at moved
      split at moved
      · next phase => exact .processResult phase moved
      · cases moved
  | endLevel =>
      simp only [step] at moved
      split at moved
      · next hasFailure levels phase =>
        split at moved
        · next stops =>
          simp only [Bool.and_eq_true, Bool.not_eq_true'] at stops
          cases moved
          exact .stopLevel phase stops.1 stops.2
        · next continues =>
          cases moved
          refine .endLevel phase fun failed => ?_
          simpa [failed] using continues
      · cases moved
  | skipNode =>
      simp only [step] at moved
      split at moved
      · next phase =>
        cases moved
        exact .endSkipping phase
      · next phase =>
        cases moved
        exact .skipNode phase
      · cases moved
  | finish =>
      simp only [step] at moved
      split at moved
      · next phase =>
        cases moved
        exact .finish phase
      · cases moved
  | returnResult =>
      simp only [step] at moved
      split at moved
      · next phase =>
        cases moved
        exact .returnResult phase
      · cases moved
  | raise =>
      simp only [step] at moved
      split at moved
      · next inTry =>
        cases moved
        exact .raise inTry
      · cases moved
  | fail =>
      simp only [step] at moved
      split at moved
      · next phase =>
        cases moved
        exact .fail phase
      · cases moved
  | readStatus =>
      simp only [step] at moved
      split at moved
      · cases moved
        exact .readRunning
      · cases moved
        exact .readOther
  | commitCancel =>
      simp only [step] at moved
      split at moved
      · cases moved
      · cases moved
        exact .commitCancel

private theorem enterLevel_preserves_invariant {flow : FlowDefinition} {before : Execution}
    {levels : List (List String)} (invariant : Invariant flow before)
    (phase : before.phase = .boundary levels) : Invariant flow (enterLevel before levels) := by
  have account := invariant.accounted
  simp only [Accounted, phase] at account
  have underWay := invariant.underWay (by simp [phase]) (by simp [phase])
  refine invariant.moved (by simp [phase]) (by simp [phase])
    (enterLevel_accounted underWay.1 account) (fun _ => .inr ?_) ?_
  · cases levels <;> simp [enterLevel, underWay.1]
  · cases levels <;> simp [enterLevel, underWay.1]

private theorem raise_preserves_invariant {flow : FlowDefinition} {before : Execution}
    (invariant : Invariant flow before) (inTry : before.phase.inTry = true) :
    Invariant flow { before with phase := .raising } := by
  refine invariant.moved ?_ ?_ trivial .inr rfl
  · intro phase
    simp [phase, Phase.inTry] at inTry
  · intro phase
    simp [phase, Phase.inTry] at inTry

private theorem step_preserves_invariant {request : Request} {before after : Execution}
    {action : Action} (invariant : Invariant request.flow before)
    (late : LateCancel before action) (moved : step request before action = some after) :
    Invariant request.flow after := by
  have account := invariant.accounted
  cases Step.of_step moved with
  | start phase started => exact start_preserves_invariant invariant phase started
  | enterLevel phase => exact enterLevel_preserves_invariant invariant phase
  | startNode id phase member waiting started =>
      simp only [Accounted, phase] at account
      obtain ⟨accounted, status, returned⟩ := startNode_accounted account member waiting started
      exact invariant.moved (by simp [phase]) (by simp [phase]) accounted
        (fun kept => .inr (status ▸ kept)) returned
  | finishNode id outcome phase member started =>
      simp only [Accounted, phase] at account
      exact invariant.moved (by simp [phase]) (by simp [phase])
        (account.finishNode member started outcome) .inr rfl
  | crashNode id phase member pending =>
      simp only [Accounted, phase] at account
      exact invariant.moved (by simp [phase]) (by simp [phase])
        (account.crashNode member pending) .inr rfl
  | gather phase =>
      simp only [Accounted, phase] at account
      exact invariant.moved (by simp [phase]) (by simp [phase]) ⟨account, by simp⟩ .inr rfl
  | processResult phase processed =>
      simp only [Accounted, phase] at account
      obtain ⟨accounted, status, returned⟩ :=
        processResult_accounted account.1 account.2 processed
      exact invariant.moved (by simp [phase]) (by simp [phase]) accounted
        (fun kept => .inr (status ▸ kept)) returned
  | stopLevel phase failed stops =>
      simp only [Accounted, phase] at account
      exact invariant.moved (by simp [phase]) (by simp [phase]) (account.2 failed) .inr rfl
  | endLevel phase =>
      simp only [Accounted, phase] at account
      exact invariant.moved (by simp [phase]) (by simp [phase]) account.1 .inr rfl
  | endSkipping phase =>
      simp only [Accounted, phase] at account
      exact invariant.moved (by simp [phase]) (by simp [phase]) (.inr account) .inr rfl
  | skipNode phase | returnResult phase =>
      simp only [Accounted, phase] at account
      exact invariant.moved (by simp [phase]) (by simp [phase]) account .inr rfl
  | finish phase =>
      simp only [Accounted, phase] at account
      obtain ⟨accounted, status⟩ := finish_accounted account
      exact invariant.moved (by simp [phase]) (by simp [phase]) accounted
        (fun _ => .inr status) rfl
  | raise inTry => exact raise_preserves_invariant invariant inTry
  | fail phase =>
      exact invariant.moved (by simp [phase]) (by simp [phase]) (by simp [Accounted])
        (fun _ => .inl rfl) rfl
  | readRunning => exact ⟨account, invariant.uncancelled, invariant.returned⟩
  | readOther => exact invariant
  | commitCancel =>
      have done := late rfl
      exact ⟨by simp [Accounted, done], .inr (.inl done), fun _ => ⟨done, rfl⟩⟩

theorem Reachable.run {request : Request} {admits : Execution → Action → Prop}
    {actions : List Action} {before after : Execution} (reached : Reachable request admits before)
    (admitted : ∀ execution, ∀ action ∈ actions, admits execution action)
    (moved : FlowExecutor.run request before actions = some after) :
    Reachable request admits after := by
  induction actions generalizing before with
  | nil =>
      obtain rfl : before = after := by simpa [FlowExecutor.run] using moved
      exact reached
  | cons action rest ih =>
      simp only [FlowExecutor.run, List.foldlM_cons] at moved
      obtain ⟨middle, first, moved⟩ := Option.bind_eq_some_iff.mp moved
      have admittedRest : ∀ execution, ∀ action ∈ rest, admits execution action :=
        fun execution other member => admitted execution other (List.mem_cons_of_mem _ member)
      exact ih (reached.step (admitted before action List.mem_cons_self) first) admittedRest moved

private theorem reachable_invariant {request : Request} {execution : Execution}
    (reached : Reachable request LateCancel execution) : Invariant request.flow execution := by
  induction reached with
  | initial status => exact .initial _ status
  | step _ late moved ih => exact step_preserves_invariant ih late moved

/-- When every cancel that commits does so after the last status write of the
run, a cancel that returned `True` is never overwritten, and a record that ends
completed has executed every node and failed none. -/
theorem lateCancel_respected (request : Request) (execution : Execution)
    (reached : Reachable request LateCancel execution) :
    (execution.cancelReturned = true → execution.status = .cancelled) ∧
      (execution.phase = .done → execution.status = .completed →
        AllExecuted request.flow execution.rows) := by
  have invariant := reachable_invariant reached
  refine ⟨fun returned => (invariant.returned returned).2, fun done => ?_⟩
  have account := invariant.accounted
  simpa only [Accounted, done] using account

/-- A source and a check that reads it, stopping at the first failure. -/
def sourceThenCheckRequest : Request where
  flow := FlowValidator.sourceThenCheck
  continueOnError := false
  order := .insertion

def undisturbedRun : List Action :=
  [.start, .enterLevel, .startNode "src", .finishNode "src" .completed, .gather, .processResult,
    .endLevel, .enterLevel, .startNode "chk", .finishNode "chk" .warning, .gather,
    .processResult, .endLevel, .enterLevel, .finish, .returnResult]

theorem undisturbedRun_allExecuted :
    ∃ execution, run sourceThenCheckRequest (.initial .pending) undisturbedRun = some execution ∧
      execution.status = .completed ∧
      AllExecuted sourceThenCheckRequest.flow execution.rows := by
  refine ⟨_, rfl, rfl, ?_⟩
  refine (lateCancel_respected sourceThenCheckRequest _ ?_).2 rfl rfl
  refine @Reachable.run _ _ undisturbedRun _ _ (.initial .pending) ?_ rfl
  rintro execution action member rfl
  simp [undisturbedRun] at member

/-- A cancel that commits while the source runs: the check is skipped. -/
private def cancelledRun : List Action :=
  [.start, .enterLevel, .startNode "src", .readStatus, .commitCancel,
    .finishNode "src" .completed, .gather, .processResult, .endLevel, .enterLevel, .skipNode,
    .skipNode, .finish, .returnResult]

/-- The cancel returned `True`, yet the record ends completed with a skipped node. -/
theorem cancelledRun_ends_completed :
    ∃ execution, Reachable sourceThenCheckRequest (fun _ _ => True) execution ∧
      execution.phase = .done ∧ execution.cancelReturned = true ∧
      execution.status = .completed ∧
      ¬ Executed execution.rows "chk" := by
  refine ⟨_, @Reachable.run _ _ cancelledRun _ _ (.initial .pending) (by simp) rfl, rfl, rfl,
    rfl, ?_⟩
  rintro ⟨row, member, sameId, passed⟩
  revert sameId passed
  revert row
  decide

end CogniDQ.Flow.FlowExecutor
