import CogniDQ.Flow.ExecutorProperties
import CogniDQ.Flow.LevelProperties
import CogniDQ.Protocol.Runs

/-!
# The accounts of a run

Every node gets one record, numbered in the order of the levels. The counters of the execution are
those of the results in memory, where no skipped node is, and a node that warned counts as neither
passed nor failed.
-/

set_option autoImplicit false

namespace CogniDQ.Flow.FlowExecutor

open CogniDQ.Graph CogniDQ.Protocol CogniDQ.Python

/-- No exception but those of the handlers: what is written succeeds. -/
def Action.Undisturbed : Action → Prop
  | .crashNode _ => False
  | .raise => False
  | _ => True

instance : DecidablePred Action.Undisturbed := by
  intro action
  unfold Action.Undisturbed
  split <;> infer_instance

/-- No handler warns, and no node is left to be skipped. -/
def Unexceptional (request : Request) (execution : Execution) : Action → Prop
  | .finishNode _ outcome => outcome ≠ .warning
  | .enterLevel =>
    match execution.phase with
    | .boundary levels => execution.status = .cancelled → levels.flatten = []
    | _ => True
  | .endLevel =>
    match execution.phase with
    | .processing _ hasFailure levels =>
      hasFailure = true → request.continueOnError = true ∨ levels.flatten = []
    | _ => True
  | _ => True

instance (request : Request) (execution : Execution) :
    DecidablePred (Unexceptional request execution) := by
  intro action
  unfold Unexceptional
  split
  · infer_instance
  · split <;> infer_instance
  · split <;> infer_instance
  · infer_instance

/-- The counters of the record; they are zero until a run writes them. -/
def Execution.counters (execution : Execution) : Summary :=
  execution.summary.getD
    { nodesExecuted := 0, nodesPassed := 0, nodesFailed := 0, nodesSkipped := 0, allPassed := true }

/-- One record for each node, numbered from 0 along the connections. -/
structure Recorded (flow : FlowDefinition) (rows : List NodeResult) : Prop where
  once : (rows.map (·.nodeId)).Perm flow.nodeIds
  numbered : (rows.map (·.executionOrder)).Perm (List.range flow.nodes.length)
  ordered : ∀ connection ∈ flow.connections, ∀ source ∈ rows, ∀ target ∈ rows,
    source.nodeId = connection.source → target.nodeId = connection.target →
      source.executionOrder < target.executionOrder

structure Counted (flow : FlowDefinition) (execution : Execution) : Prop where
  executed : execution.counters.nodesExecuted =
    execution.rows.countP (·.status ≠ .skipped)
  passed : execution.counters.nodesPassed =
    execution.rows.countP fun row => row.status = .completed ∨ row.status = .warning
  failed : execution.counters.nodesFailed = execution.rows.countP (·.status = .failed)
  skipped : execution.counters.nodesSkipped = execution.rows.countP (·.status = .skipped)
  total : execution.counters.nodesPassed + execution.counters.nodesFailed +
    execution.counters.nodesSkipped = flow.nodes.length

/-! ## The books -/

def Over (status : NodeStatus) : Prop :=
  status = .completed ∨ status = .warning ∨ status = .failed

private theorem Outcome.ended (outcome : Outcome) : Over outcome.status := by
  cases outcome with
  | completed => exact .inl rfl
  | warning => exact .inr (.inl rfl)
  | failed | raised => exact .inr (.inr rfl)

def Task.row (task : Task) : Option NodeResult :=
  match task.progress with
  | .waiting => none
  | .started => some ⟨task.nodeId, .running, task.executionOrder⟩
  | .finished status => some ⟨task.nodeId, status, task.executionOrder⟩
  | .crashed => none

def Task.Sane (task : Task) : Prop :=
  task.progress ≠ .crashed ∧ ∀ status, task.progress = .finished status → Over status

/-- The plan is the ids in the order of the levels: those with results, those skipped, those of the
current level and those ahead. -/
structure Book (plan : List String) (execution : Execution) (settled skipped : List NodeResult)
    (tasks : List Task) (ahead : List String) : Prop where
  planned : settled.map (·.nodeId) ++ skipped.map (·.nodeId) ++ tasks.map (·.nodeId) ++ ahead = plan
  numbered : settled.map (·.executionOrder) ++ skipped.map (·.executionOrder) ++
    tasks.map (·.executionOrder) = List.range execution.orderIdx
  rows : execution.rows.Perm (settled ++ skipped ++ tasks.filterMap Task.row)
  results : execution.nodeResults = settled.map fun row => (row.nodeId, row.status)
  ended : ∀ row ∈ settled, Over row.status
  skips : ∀ row ∈ skipped, row.status = .skipped
  sane : ∀ task ∈ tasks, task.Sane

/-- The books at each point of a run. -/
def Booked (flow : FlowDefinition) (plan : List String) (execution : Execution) : Prop :=
  match execution.phase with
  | .starting => execution.rows = [] ∧ execution.nodeResults = [] ∧ execution.orderIdx = 0 ∧
      execution.summary = none
  | .boundary levels => ∃ settled, Book plan execution settled [] [] levels.flatten
  | .running tasks levels => ∃ settled, Book plan execution settled [] tasks levels.flatten
  | .processing tasks _ levels => ∃ settled, Book plan execution settled [] tasks levels.flatten
  | .skipping ids => ∃ settled skipped, Book plan execution settled skipped [] ids
  | .aggregating => ∃ settled skipped, Book plan execution settled skipped [] []
  | .returning => ∃ settled skipped, Book plan execution settled skipped [] [] ∧
      execution.summary = some (aggregateResults execution.nodeResults)
  | .raising => flow.nodes = [] ∧ execution.rows = [] ∧ execution.summary = none
  | .done =>
      (∃ settled skipped, Book plan execution settled skipped [] [] ∧
        execution.summary = some (aggregateResults execution.nodeResults)) ∨
      flow.nodes = [] ∧ execution.rows = [] ∧ execution.summary = none

section Book

variable {plan ahead : List String} {execution after : Execution}
  {settled skipped : List NodeResult} {tasks : List Task} {task : Task}

theorem Book.congr (book : Book plan execution settled skipped tasks ahead)
    (rows : after.rows = execution.rows) (results : after.nodeResults = execution.nodeResults)
    (index : after.orderIdx = execution.orderIdx) :
    Book plan after settled skipped tasks ahead where
  planned := book.planned
  numbered := by
    rw [index]
    exact book.numbered
  rows := by
    rw [rows]
    exact book.rows
  results := by
    rw [results]
    exact book.results
  ended := book.ended
  skips := book.skips
  sane := book.sane

theorem Book.unique_tasks (book : Book plan execution settled skipped tasks ahead)
    (unique : plan.Nodup) : (tasks.map (·.nodeId)).Nodup := by
  rw [← book.planned] at unique
  exact (List.nodup_append.mp (List.nodup_append.mp unique).1).2.1

theorem setProgress_split (unique : (tasks.map (·.nodeId)).Nodup) (member : task ∈ tasks) :
    ∃ earlier later, tasks = earlier ++ task :: later ∧
      (∀ progress, setProgress task.nodeId progress tasks =
        earlier ++ { task with progress } :: later) ∧
      ∀ other ∈ earlier ++ later, other.nodeId ≠ task.nodeId := by
  obtain ⟨earlier, later, rfl⟩ := List.append_of_mem member
  have apart : ∀ other ∈ earlier ++ later, other.nodeId ≠ task.nodeId := by
    intro other listed same
    rw [List.map_append, List.map_cons] at unique
    rcases List.mem_append.mp listed with inEarlier | inLater
    · exact (List.nodup_append.mp unique).2.2 _ (List.mem_map_of_mem inEarlier) _
        List.mem_cons_self same
    · have fresh := (List.nodup_cons.mp (List.nodup_append.mp unique).2.1).1
      exact fresh (same ▸ List.mem_map_of_mem inLater)
  refine ⟨earlier, later, rfl, fun progress => ?_, apart⟩
  have kept : ∀ part : List Task, (∀ other ∈ part, other ∈ earlier ++ later) →
      (part.map fun other => if other.nodeId = task.nodeId then { other with progress } else other) =
        part := by
    intro part inside
    calc
      _ = part.map id := List.map_congr_left fun other listed =>
        if_neg (apart other (inside other listed))
      _ = part := List.map_id part
  unfold setProgress
  rw [List.map_append, List.map_cons, if_pos rfl,
    kept earlier fun _ listed => List.mem_append_left _ listed,
    kept later fun _ listed => List.mem_append_right _ listed]

theorem Book.retask {newRows : List NodeResult}
    (book : Book plan execution settled skipped tasks ahead) {progress : Progress}
    (sane : ({ task with progress } : Task).Sane)
    (rows : newRows.Perm
      (settled ++ skipped ++ (setProgress task.nodeId progress tasks).filterMap Task.row))
    (afterRows : after.rows = newRows) (results : after.nodeResults = execution.nodeResults)
    (index : after.orderIdx = execution.orderIdx) :
    Book plan after settled skipped (setProgress task.nodeId progress tasks) ahead where
  planned := by
    rw [map_nodeId_setProgress]
    exact book.planned
  numbered := by
    have same : (setProgress task.nodeId progress tasks).map (·.executionOrder) =
        tasks.map (·.executionOrder) := by
      unfold setProgress
      rw [List.map_map]
      refine List.map_congr_left fun other _ => ?_
      dsimp only [Function.comp]
      split <;> rfl
    rw [same, index]
    exact book.numbered
  rows := by
    rw [afterRows]
    exact rows
  results := by
    rw [results]
    exact book.results
  ended := book.ended
  skips := book.skips
  sane := by
    intro other listed
    rcases mem_setProgress.mp listed with ⟨old, member, same, rfl⟩ | ⟨member, _⟩
    · exact sane
    · exact book.sane other member

private theorem Book.startNode (book : Book plan execution settled skipped tasks ahead)
    (unique : plan.Nodup) (member : task ∈ tasks) (waiting : task.progress = .waiting)
    (handled : Bool)
    (rows : after.rows = execution.rows ++ [⟨task.nodeId, if handled then .running else .failed,
      task.executionOrder⟩])
    (results : after.nodeResults = execution.nodeResults)
    (index : after.orderIdx = execution.orderIdx) :
    Book plan after settled skipped
      (setProgress task.nodeId (if handled then .started else .finished .failed) tasks) ahead := by
  obtain ⟨earlier, later, split, updated, -⟩ := setProgress_split (book.unique_tasks unique) member
  have created : ({ task with progress := if handled then .started else .finished .failed } :
      Task).row = some ⟨task.nodeId, if handled then .running else .failed, task.executionOrder⟩ := by
    cases handled <;> rfl
  have absent : task.row = none := by
    unfold Task.row
    rw [waiting]
  have before := book.rows
  rw [split, List.filterMap_append, List.filterMap_cons_none absent] at before
  refine book.retask ?_ ?_ rows results index
  · cases handled with
    | true => exact ⟨nofun, nofun⟩
    | false =>
        refine ⟨nofun, fun status same => ?_⟩
        cases same
        exact .inr (.inr rfl)
  · rw [updated, List.filterMap_append, List.filterMap_cons_some created, ← List.append_assoc]
    refine (before.append_right _).trans ?_
    rw [← List.append_assoc, List.append_assoc]
    exact (List.perm_append_singleton _ _).append_left _

private theorem Book.finishNode (book : Book plan execution settled skipped tasks ahead)
    (unique : plan.Nodup) (member : task ∈ tasks) (started : task.progress = .started)
    (outcome : Outcome) (rows : after.rows = settleRow task outcome.status execution.rows)
    (results : after.nodeResults = execution.nodeResults)
    (index : after.orderIdx = execution.orderIdx) :
    Book plan after settled skipped (setProgress task.nodeId (.finished outcome.status) tasks)
      ahead := by
  obtain ⟨earlier, later, split, updated, apart⟩ :=
    setProgress_split (book.unique_tasks unique) member
  have running : task.row = some ⟨task.nodeId, .running, task.executionOrder⟩ := by
    unfold Task.row
    rw [started]
  have settles : ∀ part : List NodeResult, (∀ row ∈ part, row.status ≠ .running ∨
      row.nodeId ≠ task.nodeId) → settleRow task outcome.status part = part := by
    intro part untouched
    unfold settleRow
    calc
      _ = part.map id := List.map_congr_left fun row listed => if_neg fun touched =>
        (untouched row listed).elim (absurd touched.2.2) (absurd touched.1)
      _ = part := List.map_id part
  have others : ∀ part : List Task, (∀ other ∈ part, other ∈ earlier ++ later) →
      settleRow task outcome.status (part.filterMap Task.row) = part.filterMap Task.row := by
    intro part inside
    refine settles _ fun row listed => .inr ?_
    obtain ⟨other, inPart, made⟩ := List.mem_filterMap.mp listed
    have same : row.nodeId = other.nodeId := by
      unfold Task.row at made
      split at made <;> cases made <;> rfl
    rw [same]
    exact apart other (inside other inPart)
  have before := book.rows.map fun row => if row.nodeId = task.nodeId ∧
    row.executionOrder = task.executionOrder ∧ row.status = .running then
      { row with status := outcome.status } else row
  refine book.retask ⟨nofun, fun status same => ?_⟩ ?_ rows results index
  · cases same
    exact outcome.ended
  · refine before.trans (.of_eq ?_)
    have mapped : ∀ part : List NodeResult, (part.map fun row => if row.nodeId = task.nodeId ∧
        row.executionOrder = task.executionOrder ∧ row.status = .running then
          { row with status := outcome.status } else row) = settleRow task outcome.status part :=
      fun _ => rfl
    have finished : ({ task with progress := .finished outcome.status } : Task).row =
      some ⟨task.nodeId, outcome.status, task.executionOrder⟩ := rfl
    have settledKept : settleRow task outcome.status settled = settled := by
      refine settles settled fun row listed => .inl fun same => ?_
      rcases book.ended row listed with ended | ended | ended <;> rw [same] at ended <;> cases ended
    have skippedKept : settleRow task outcome.status skipped = skipped := by
      refine settles skipped fun row listed => .inl fun same => ?_
      have skips := book.skips row listed
      rw [same] at skips
      cases skips
    have here : settleRow task outcome.status [⟨task.nodeId, .running, task.executionOrder⟩] =
        [⟨task.nodeId, outcome.status, task.executionOrder⟩] :=
      congrArg (fun row => [row]) (if_pos ⟨rfl, rfl, rfl⟩)
    rw [updated, split, List.filterMap_append, List.filterMap_cons_some running,
      List.filterMap_append, List.filterMap_cons_some finished, List.map_append, List.map_append,
      List.map_append, mapped settled, mapped skipped, mapped (earlier.filterMap Task.row),
      ← List.singleton_append, List.map_append, mapped [_], mapped (later.filterMap Task.row), here,
      settledKept, skippedKept, others earlier fun _ listed => List.mem_append_left _ listed,
      others later fun _ listed => List.mem_append_right _ listed]
    rfl

private theorem Book.processResult (book : Book plan execution settled [] (task :: tasks) ahead)
    (unique : plan.Nodup) {status : NodeStatus} (finished : task.progress = .finished status)
    (rows : after.rows = execution.rows)
    (results : after.nodeResults = setResult execution.nodeResults task.nodeId status)
    (index : after.orderIdx = execution.orderIdx) :
    Book plan after (settled ++ [⟨task.nodeId, status, task.executionOrder⟩]) [] tasks ahead := by
  have made : task.row = some ⟨task.nodeId, status, task.executionOrder⟩ := by
    unfold Task.row
    rw [finished]
  have fresh : task.nodeId ∉ execution.nodeResults.map Prod.fst := by
    rw [book.results, List.map_map]
    intro listed
    rw [← book.planned, List.map_nil, List.append_nil, List.append_assoc] at unique
    exact (List.nodup_append.mp unique).2.2 _ listed _ (List.mem_append_left _ List.mem_cons_self)
      rfl
  constructor
  · rw [← book.planned]
    simp
  · rw [index, ← book.numbered]
    simp
  · rw [rows]
    have before := book.rows
    rw [List.filterMap_cons_some made] at before
    simpa using before
  · rw [results, setResult_fresh fresh, book.results, List.map_append]
    rfl
  · intro row listed
    rcases List.mem_append.mp listed with old | new
    · exact book.ended row old
    · rw [List.mem_singleton.mp new]
      exact (book.sane task List.mem_cons_self).2 status finished
  · exact book.skips
  · exact fun other listed => book.sane other (List.mem_cons_of_mem _ listed)

private theorem Book.enterLevel {level : List String} {levels : List (List String)}
    (book : Book plan execution settled [] [] (level :: levels).flatten)
    (rows : after.rows = execution.rows) (results : after.nodeResults = execution.nodeResults)
    (index : after.orderIdx = execution.orderIdx + level.length) :
    Book plan after settled [] (levelTasks execution.orderIdx level) levels.flatten := by
  have numbers : ∀ (orderIdx : Nat) (ids : List String),
      (levelTasks orderIdx ids).map (·.executionOrder) = List.range' orderIdx ids.length := by
    intro orderIdx ids
    induction ids generalizing orderIdx with
    | nil => rfl
    | cons id rest ih =>
        rw [List.length_cons, List.range'_succ, ← ih]
        rfl
  have waiting : (levelTasks execution.orderIdx level).filterMap Task.row = [] := by
    refine List.filterMap_eq_nil_iff.mpr fun task listed => ?_
    unfold Task.row
    rw [levelTasks_waiting listed]
  constructor
  · rw [← book.planned, map_nodeId_levelTasks]
    simp
  · have before := book.numbered
    simp only [List.map_nil, List.append_nil] at before ⊢
    rw [index, before, numbers, List.range_eq_range', List.range_eq_range', ← List.range'_append_1,
      Nat.zero_add]
  · rw [rows, waiting]
    exact book.rows
  · rw [results]
    exact book.results
  · exact book.ended
  · exact book.skips
  · intro task listed
    have now := levelTasks_waiting listed
    refine ⟨fun crashed => ?_, fun status finished => ?_⟩
    · rw [now] at crashed
      cases crashed
    · rw [now] at finished
      cases finished

private theorem Book.skipNode {id : String} {ids : List String}
    (book : Book plan execution settled skipped [] (id :: ids))
    (rows : after.rows = execution.rows ++ [⟨id, .skipped, execution.orderIdx⟩])
    (results : after.nodeResults = execution.nodeResults)
    (index : after.orderIdx = execution.orderIdx + 1) :
    Book plan after settled (skipped ++ [⟨id, .skipped, execution.orderIdx⟩]) [] ids := by
  constructor
  · rw [← book.planned]
    simp
  · rw [index, List.range_succ, ← book.numbered]
    simp
  · rw [rows]
    have before := book.rows.append_right [⟨id, .skipped, execution.orderIdx⟩]
    simpa using before
  · rw [results]
    exact book.results
  · exact book.ended
  · intro row listed
    rcases List.mem_append.mp listed with old | new
    · exact book.skips row old
    · rw [List.mem_singleton.mp new]
  · exact book.sane

private theorem Booked.congr {flow : FlowDefinition} (booked : Booked flow plan execution)
    (phase : after.phase = execution.phase) (rows : after.rows = execution.rows)
    (results : after.nodeResults = execution.nodeResults)
    (index : after.orderIdx = execution.orderIdx) (summary : after.summary = execution.summary) :
    Booked flow plan after := by
  have moves : ∀ {settled skipped tasks ahead}, Book plan execution settled skipped tasks ahead →
      Book plan after settled skipped tasks ahead := fun book => book.congr rows results index
  unfold Booked at booked ⊢
  rw [phase, rows, results, index, summary]
  split at booked
  · exact booked
  · exact booked.imp fun _ => moves
  · exact booked.imp fun _ => moves
  · exact booked.imp fun _ => moves
  · exact booked.imp fun _ => Exists.imp fun _ => moves
  · exact booked.imp fun _ => Exists.imp fun _ => moves
  · exact booked.imp fun _ => Exists.imp fun _ => And.imp_left moves
  · exact booked
  · exact booked.imp_left (Exists.imp fun _ => Exists.imp fun _ => And.imp_left moves)

end Book

/-! ## Every step keeps them -/

/-- The order in which a valid flow is gone through. -/
structure Plan (request : Request) (plan : List String) : Prop where
  valid : ∃ response, FlowValidator.validateFlow request.order request.flow true = .ok response ∧
    response.isValid = true
  unique : plan.Nodup
  levels : ∀ levels, FlowValidator.getExecutionLevels request.order request.flow.nodes
    request.flow.connections = .ok levels → levels.flatten = plan
  scheduled : ∀ error, FlowValidator.getExecutionLevels request.order request.flow.nodes
    request.flow.connections = .error error → request.flow.nodes = []
  covers : plan.Perm request.flow.nodeIds
  forward : plan.Pairwise fun earlier later => ¬Edge (edgesOf request.flow.connections) later earlier
  loopless : Acyclic (edgesOf request.flow.connections) ∨ request.flow.nodes = []

section Steps

variable {request : Request} {plan : List String} {before after : Execution}

private theorem start_booked (planned : Plan request plan) (phase : before.phase = .starting)
    (booked : Booked request.flow plan before)
    (moved : FlowExecutor.start request before = some after) :
    Booked request.flow plan after := by
  unfold Booked at booked
  rw [phase] at booked
  obtain ⟨rows, results, index, summary⟩ := booked
  obtain ⟨response, validated, accepted⟩ := planned.valid
  unfold FlowExecutor.start at moved
  rw [validated] at moved
  dsimp only at moved
  rw [if_pos accepted] at moved
  cases Option.some.inj moved
  cases scheduled : FlowValidator.getExecutionLevels request.order request.flow.nodes
      request.flow.connections with
  | ok levels =>
      refine ⟨[], ?_⟩
      constructor
      · exact planned.levels levels scheduled
      · rw [show before.orderIdx = 0 from index]
        rfl
      · exact .of_eq rows
      · exact results
      · exact fun _ listed => nomatch listed
      · exact fun _ listed => nomatch listed
      · exact fun _ listed => nomatch listed
  | error error => exact ⟨planned.scheduled error scheduled, rows, summary⟩

private theorem enterLevel_booked {levels : List (List String)} {settled : List NodeResult}
    (book : Book plan before settled [] [] levels.flatten) :
    Booked request.flow plan (FlowExecutor.enterLevel before levels) := by
  cases levels with
  | nil => exact ⟨settled, [], book.congr rfl rfl rfl⟩
  | cons level rest =>
      unfold FlowExecutor.enterLevel
      dsimp only
      split
      · exact ⟨settled, [], book.congr rfl rfl rfl⟩
      · exact ⟨settled, book.enterLevel rfl rfl rfl⟩

private theorem startNode_booked {tasks : List Task} {levels : List (List String)} {task : Task}
    {settled : List NodeResult} (unique : plan.Nodup)
    (book : Book plan before settled [] tasks levels.flatten) (member : task ∈ tasks)
    (waiting : task.progress = .waiting)
    (moved : FlowExecutor.startNode request before tasks levels task = some after) :
    Booked request.flow plan after := by
  obtain ⟨node, _, moved⟩ := Option.bind_eq_some_iff.mp moved
  cases Option.some.inj moved
  exact ⟨settled, book.startNode unique member waiting (nodeHandlers node.type) rfl rfl rfl⟩

private theorem processResult_booked {tasks : List Task} {levels : List (List String)} {task : Task}
    {settled : List NodeResult} {hasFailure : Bool} (unique : plan.Nodup)
    (book : Book plan before settled [] (task :: tasks) levels.flatten)
    (moved : FlowExecutor.processResult before task tasks hasFailure levels = some after) :
    Booked request.flow plan after := by
  unfold FlowExecutor.processResult at moved
  split at moved
  · next crashed => exact absurd crashed (book.sane task List.mem_cons_self).1
  · next status finished =>
    cases Option.some.inj moved
    exact ⟨_, book.processResult unique finished rfl rfl rfl⟩
  · cases moved
  · cases moved

private theorem step_booked (planned : Plan request plan) {action : Action}
    (undisturbed : action.Undisturbed) (booked : Booked request.flow plan before)
    (moved : step request before action = some after) : Booked request.flow plan after := by
  cases Step.of_step moved with
  | start phase started => exact start_booked planned phase booked started
  | enterLevel phase =>
      rw [Booked, phase] at booked
      obtain ⟨settled, book⟩ := booked
      exact enterLevel_booked book
  | startNode id phase member waiting started =>
      rw [Booked, phase] at booked
      obtain ⟨settled, book⟩ := booked
      exact startNode_booked planned.unique book member waiting started
  | finishNode id outcome phase member started =>
      rw [Booked, phase] at booked
      obtain ⟨settled, book⟩ := booked
      exact ⟨settled, book.finishNode planned.unique member started outcome rfl rfl rfl⟩
  | crashNode | raise => exact undisturbed.elim
  | gather phase =>
      rw [Booked, phase] at booked
      obtain ⟨settled, book⟩ := booked
      exact ⟨settled, book.congr rfl rfl rfl⟩
  | processResult phase processed =>
      rw [Booked, phase] at booked
      obtain ⟨settled, book⟩ := booked
      exact processResult_booked planned.unique book processed
  | stopLevel phase =>
      rw [Booked, phase] at booked
      obtain ⟨settled, book⟩ := booked
      exact ⟨settled, [], book.congr rfl rfl rfl⟩
  | endLevel phase =>
      rw [Booked, phase] at booked
      obtain ⟨settled, book⟩ := booked
      exact ⟨settled, book.congr rfl rfl rfl⟩
  | endSkipping phase =>
      rw [Booked, phase] at booked
      obtain ⟨settled, skipped, book⟩ := booked
      exact ⟨settled, skipped, book.congr rfl rfl rfl⟩
  | skipNode phase =>
      rw [Booked, phase] at booked
      obtain ⟨settled, skipped, book⟩ := booked
      exact ⟨settled, _, book.skipNode rfl rfl rfl⟩
  | finish phase =>
      rw [Booked, phase] at booked
      obtain ⟨settled, skipped, book⟩ := booked
      exact ⟨settled, skipped, book.congr rfl rfl rfl, rfl⟩
  | returnResult phase =>
      rw [Booked, phase] at booked
      obtain ⟨settled, skipped, book, summary⟩ := booked
      exact .inl ⟨settled, skipped, book.congr rfl rfl rfl, summary⟩
  | fail phase =>
      rw [Booked, phase] at booked
      exact .inr booked
  | readRunning | commitCancel => exact booked.congr rfl rfl rfl rfl rfl
  | readOther => exact booked

/-! ## What spoils the counters -/

/-- A record that the counters leave out, or will. -/
def Spoiled (execution : Execution) : Prop :=
  (∃ row ∈ execution.rows, row.status = .warning ∨ row.status = .skipped) ∨
    ∃ id rest, execution.phase = .skipping (id :: rest)

/-- What a step does to the records: a request to cancel does nothing, a skipped node adds its record,
and any other step adds or settles the record of a handler. Only an exceptional step leaves nodes to
be skipped. -/
structure Works (request : Request) (before : Execution) (action : Action) (after : Execution) :
    Prop where
  idle : ∀ id rest, before.phase ≠ .skipping (id :: rest)
  rows : (∃ new, after.rows = before.rows ++ new ∧
      ∀ row ∈ new, row.status = .running ∨ row.status = .failed) ∨
    ∃ id outcome task, action = .finishNode id outcome ∧
      after.rows = settleRow task outcome.status before.rows
  skips : ∀ id rest, after.phase = .skipping (id :: rest) → ¬Unexceptional request before action

theorem Works.of_unchanged {action : Action} (rows : after.rows = before.rows)
    (idle : ∀ id rest, before.phase ≠ .skipping (id :: rest))
    (skips : ∀ id rest, after.phase = .skipping (id :: rest) → ¬Unexceptional request before action) :
    Works request before action after :=
  ⟨idle, .inl ⟨[], by rw [rows, List.append_nil], fun _ listed => absurd listed List.not_mem_nil⟩,
    skips⟩

private theorem start_works (phase : before.phase = .starting)
    (started : FlowExecutor.start request before = some after) :
    Works request before .start after := by
  have idle : ∀ id rest, before.phase ≠ .skipping (id :: rest) :=
    fun id rest skipping => (by cases phase.symm.trans skipping)
  unfold FlowExecutor.start at started
  split at started
  · cases started
  · split at started
    · cases Option.some.inj started
      refine .of_unchanged rfl idle fun id rest skipping => ?_
      dsimp only at skipping
      split at skipping <;> cases skipping
    · cases Option.some.inj started
      exact .of_unchanged rfl idle fun _ _ skipping => (by cases skipping)

theorem enterLevel_works {levels : List (List String)} (phase : before.phase = .boundary levels) :
    Works request before .enterLevel (FlowExecutor.enterLevel before levels) := by
  have idle : ∀ id rest, before.phase ≠ .skipping (id :: rest) :=
    fun id rest skipping => (by cases phase.symm.trans skipping)
  unfold FlowExecutor.enterLevel
  split
  · exact .of_unchanged rfl idle fun _ _ skipping => (by cases skipping)
  · split
    · next cancelled =>
      refine .of_unchanged rfl idle fun id rest skipping => ?_
      have listed := Phase.skipping.inj skipping
      simp only [Unexceptional, phase]
      intro harmless
      rw [harmless cancelled] at listed
      cases listed
    · exact .of_unchanged rfl idle fun _ _ skipping => (by cases skipping)

private theorem processResult_works {task : Task} {tasks : List Task} {hasFailure : Bool}
    {levels : List (List String)} (phase : before.phase = .processing (task :: tasks) hasFailure levels)
    (processed : FlowExecutor.processResult before task tasks hasFailure levels = some after) :
    Works request before .processResult after := by
  have idle : ∀ id rest, before.phase ≠ .skipping (id :: rest) :=
    fun id rest skipping => (by cases phase.symm.trans skipping)
  unfold FlowExecutor.processResult at processed
  split at processed
  · cases Option.some.inj processed
    refine ⟨idle, .inl ⟨_, rfl, ?_⟩, fun _ _ skipping => (by cases skipping)⟩
    intro row listed
    rw [List.mem_singleton.mp listed]
    exact .inr rfl
  · cases Option.some.inj processed
    exact .of_unchanged rfl idle fun _ _ skipping => (by cases skipping)
  · cases processed
  · cases processed

private theorem stopLevel_works {hasFailure : Bool} {levels : List (List String)}
    (phase : before.phase = .processing [] hasFailure levels) (failed : hasFailure = true)
    (stops : request.continueOnError = false) :
    Works request before .endLevel { before with phase := .skipping levels.flatten } := by
  refine .of_unchanged rfl (fun id rest skipping => (by cases phase.symm.trans skipping)) ?_
  intro id rest skipping
  have listed := Phase.skipping.inj skipping
  simp only [Unexceptional, phase]
  intro harmless
  rcases harmless failed with continues | none
  · rw [stops] at continues
    cases continues
  · rw [none] at listed
    cases listed

theorem step_cases {action : Action} (undisturbed : action.Undisturbed)
    (moved : step request before action = some after) :
    after.rows = before.rows ∧ after.phase = before.phase ∨
      (∃ row : NodeResult, row.status = .skipped ∧ after.rows = before.rows ++ [row] ∧
        ∃ id rest, before.phase = .skipping (id :: rest)) ∨
      Works request before action after := by
  cases Step.of_step moved with
  | start phase started => exact .inr (.inr (start_works phase started))
  | enterLevel phase => exact .inr (.inr (enterLevel_works phase))
  | startNode id phase member waiting started =>
      obtain ⟨node, _, started⟩ := Option.bind_eq_some_iff.mp started
      cases Option.some.inj started
      refine .inr (.inr ⟨fun id rest skipping => (by cases phase.symm.trans skipping),
        .inl ⟨_, rfl, ?_⟩, fun _ _ skipping => (by cases skipping)⟩)
      intro row listed
      rw [List.mem_singleton.mp listed]
      cases nodeHandlers node.type with
      | true => exact .inl rfl
      | false => exact .inr rfl
  | finishNode id outcome phase =>
      exact .inr (.inr ⟨fun id rest skipping => (by cases phase.symm.trans skipping),
        .inr ⟨id, outcome, _, rfl, rfl⟩, fun _ _ skipping => (by cases skipping)⟩)
  | crashNode | raise => exact undisturbed.elim
  | processResult phase processed => exact .inr (.inr (processResult_works phase processed))
  | stopLevel phase failed stops => exact .inr (.inr (stopLevel_works phase failed stops))
  | skipNode phase => exact .inr (.inl ⟨_, rfl, rfl, _, _, phase⟩)
  | gather phase | endLevel phase | endSkipping phase | finish phase | returnResult phase
  | fail phase =>
      exact .inr (.inr (.of_unchanged rfl
        (fun id rest skipping => (by cases phase.symm.trans skipping))
        fun _ _ skipping => (by cases skipping)))
  | readRunning | readOther | commitCancel => exact .inl ⟨rfl, rfl⟩

private theorem spoiled_step {action : Action} (undisturbed : action.Undisturbed)
    (spoiled : Spoiled before) (moved : step request before action = some after) :
    Spoiled after := by
  rcases step_cases undisturbed moved with ⟨rows, phase⟩ | ⟨row, skipped, rows, -⟩ | works
  · unfold Spoiled
    rw [rows, phase]
    exact spoiled
  · refine .inl ⟨row, ?_, .inr skipped⟩
    rw [rows]
    exact List.mem_append_right _ List.mem_cons_self
  · rcases spoiled with ⟨row, listed, left⟩ | ⟨id, rest, phase⟩
    · refine .inl ⟨row, ?_, left⟩
      rcases works.rows with ⟨new, rows, -⟩ | ⟨_, outcome, task, -, rows⟩
      · rw [rows]
        exact List.mem_append_left _ listed
      · rw [rows]
        refine List.mem_map.mpr ⟨row, listed, if_neg fun touched => ?_⟩
        rcases left with warned | skipped
        · rw [touched.2.2] at warned
          cases warned
        · rw [touched.2.2] at skipped
          cases skipped
    · exact absurd phase (works.idle id rest)

private theorem unspoiled_step {action : Action} (undisturbed : action.Undisturbed)
    (unexceptional : Unexceptional request before action) (unspoiled : ¬Spoiled before)
    (moved : step request before action = some after) : ¬Spoiled after := by
  intro spoiled
  rcases step_cases undisturbed moved with ⟨rows, phase⟩ | ⟨_, -, -, skipping⟩ | works
  · unfold Spoiled at spoiled
    rw [rows, phase] at spoiled
    exact unspoiled spoiled
  · exact unspoiled (.inr skipping)
  · rcases spoiled with ⟨row, listed, left⟩ | ⟨id, rest, phase⟩
    · rcases works.rows with ⟨new, rows, handled⟩ | ⟨_, outcome, task, rfl, rows⟩
      · rw [rows] at listed
        rcases List.mem_append.mp listed with old | added
        · exact unspoiled (.inl ⟨row, old, left⟩)
        · rcases handled row added with running | failed <;> rcases left with warned | skipped
          · exact nomatch running.symm.trans warned
          · exact nomatch running.symm.trans skipped
          · exact nomatch failed.symm.trans warned
          · exact nomatch failed.symm.trans skipped
      · rw [rows] at listed
        obtain ⟨old, member, same⟩ := List.mem_map.mp listed
        split at same
        · cases same
          cases outcome with
          | warning => exact unexceptional rfl
          | completed | failed | raised => rcases left with left | left <;> cases left
        · rw [same] at member
          exact unspoiled (.inl ⟨row, member, left⟩)
    · exact works.skips id rest phase unexceptional

/-- An exceptional step spoils the counters: a handler that warns leaves its record, and nodes that
are left are going to be skipped. -/
theorem exceptional_step {action : Action} (booked : Booked request.flow plan before)
    (exceptional : ¬Unexceptional request before action)
    (moved : step request before action = some after) : Spoiled after := by
  cases Step.of_step moved with
  | @finishNode tasks levels task id outcome phase member started =>
      have warns : outcome = .warning := not_not.mp exceptional
      rw [Booked, phase] at booked
      obtain ⟨settled, book⟩ := booked
      have running : task.row = some ⟨task.nodeId, .running, task.executionOrder⟩ := by
        unfold Task.row
        rw [started]
      have recorded : ⟨task.nodeId, .running, task.executionOrder⟩ ∈ before.rows := by
        refine book.rows.mem_iff.mpr (List.mem_append_right _ ?_)
        exact List.mem_filterMap.mpr ⟨task, member, running⟩
      refine .inl ⟨⟨task.nodeId, .warning, task.executionOrder⟩, ?_, .inl rfl⟩
      refine List.mem_map.mpr ⟨_, recorded, ?_⟩
      rw [if_pos ⟨rfl, rfl, rfl⟩, warns]
      rfl
  | @enterLevel levels phase =>
      simp only [Unexceptional, phase] at exceptional
      push Not at exceptional
      obtain ⟨cancelled, left⟩ := exceptional
      cases levels with
      | nil => exact absurd rfl left
      | cons level rest =>
          obtain ⟨id, others, ahead⟩ := List.exists_cons_of_ne_nil left
          refine .inr ⟨id, others, ?_⟩
          unfold FlowExecutor.enterLevel
          dsimp only
          rw [if_pos cancelled, ahead]
  | stopLevel phase failed stops =>
      simp only [Unexceptional, phase] at exceptional
      push Not at exceptional
      obtain ⟨-, -, left⟩ := exceptional
      obtain ⟨id, others, ahead⟩ := List.exists_cons_of_ne_nil left
      refine .inr ⟨id, others, ?_⟩
      rw [← ahead]
  | endLevel phase continues =>
      simp only [Unexceptional, phase] at exceptional
      push Not at exceptional
      obtain ⟨failed, stops, -⟩ := exceptional
      exact absurd (continues failed) stops
  | _ => exact absurd trivial exceptional

end Steps

/-! ## The end of a run -/

section End

variable {plan : List String} {execution : Execution} {settled skipped : List NodeResult}

theorem Book.countP (book : Book plan execution settled skipped [] [])
    (status : NodeStatus → Bool) :
    execution.rows.countP (fun row => status row.status) =
      settled.countP (fun row => status row.status) +
        skipped.countP (fun row => status row.status) := by
  rw [book.rows.countP_eq, List.filterMap_nil, List.append_nil, List.countP_append]

private theorem Book.countP_with_skipped (book : Book plan execution settled skipped [] [])
    (status : NodeStatus → Bool) (counts : status .skipped = true) :
    execution.rows.countP (fun row => status row.status) =
      settled.countP (fun row => status row.status) + skipped.length := by
  have all : skipped.countP (fun row => status row.status) = skipped.length := by
    refine List.countP_eq_length.mpr fun row listed => ?_
    rw [book.skips row listed, counts]
  rw [book.countP status, all]

private theorem Book.countP_without_skipped (book : Book plan execution settled skipped [] [])
    (status : NodeStatus → Bool) (ignores : status .skipped = false) :
    execution.rows.countP (fun row => status row.status) =
      settled.countP (fun row => status row.status) := by
  have none : skipped.countP (fun row => status row.status) = 0 := by
    refine List.countP_eq_zero.mpr fun row listed => ?_
    rw [book.skips row listed, ignores]
    exact Bool.false_ne_true
  rw [book.countP status, none, Nat.add_zero]

private theorem Book.countP_results (book : Book plan execution settled skipped [] [])
    (status : NodeStatus) :
    execution.nodeResults.countP (fun result => result.2 = status) =
      settled.countP fun row => row.status = status := by
  rw [book.results, List.countP_map]
  rfl

theorem Book.length (book : Book plan execution settled skipped [] []) :
    settled.length + skipped.length = plan.length := by
  rw [← book.planned]
  simp

private theorem order_lt_of_edge {edges : List (String × String)} {rows : List NodeResult}
    (forward : (rows.map (·.nodeId)).Pairwise fun earlier later => ¬Edge edges later earlier)
    (numbered : rows.map (·.executionOrder) = List.range rows.length) (acyclic : Acyclic edges)
    {source target : NodeResult} (sourceListed : source ∈ rows) (targetListed : target ∈ rows)
    (edge : Edge edges source.nodeId target.nodeId) :
    source.executionOrder < target.executionOrder := by
  have order : ∀ (index : Nat) (bound : index < rows.length),
      (rows[index]).executionOrder = index := by
    intro index bound
    have at_ := congrArg (·[index]?) numbered
    simpa [bound] using at_
  obtain ⟨first, firstBound, rfl⟩ := List.mem_iff_getElem.mp sourceListed
  obtain ⟨second, secondBound, rfl⟩ := List.mem_iff_getElem.mp targetListed
  rw [order first firstBound, order second secondBound]
  rcases Nat.lt_trichotomy first second with below | same | above
  · exact below
  · subst same
    exact absurd (.single edge) (acyclic _)
  · rw [List.pairwise_map, List.pairwise_iff_getElem] at forward
    exact absurd edge (forward second first secondBound firstBound above)

private theorem Book.recorded {request : Request} (planned : Plan request plan)
    (book : Book plan execution settled skipped [] []) :
    Recorded request.flow execution.rows := by
  have rows : execution.rows.Perm (settled ++ skipped) := by
    have same := book.rows
    rw [List.filterMap_nil, List.append_nil] at same
    exact same
  have ids : (settled ++ skipped).map (·.nodeId) = plan := by
    have same := book.planned
    simp only [List.map_nil, List.append_nil] at same
    rw [List.map_append]
    exact same
  have total : plan.length = request.flow.nodes.length := by
    rw [planned.covers.length_eq, FlowDefinition.nodeIds, List.length_map]
  have numbers : (settled ++ skipped).map (·.executionOrder) =
      List.range (settled ++ skipped).length := by
    have same := book.numbered
    simp only [List.map_nil, List.append_nil] at same
    rw [List.map_append, same]
    congr 1
    have lengths := congrArg List.length same
    rw [List.length_append, List.length_map, List.length_map, List.length_range] at lengths
    rw [List.length_append, lengths]
  constructor
  · refine (rows.map _).trans ?_
    rw [ids]
    exact planned.covers
  · refine (rows.map _).trans ?_
    rw [numbers, ← total, ← book.length, List.length_append]
  · intro connection member source sourceListed target targetListed sourceId targetId
    rcases planned.loopless with acyclic | empty
    · have edge : Edge (edgesOf request.flow.connections) source.nodeId target.nodeId := by
        rw [sourceId, targetId]
        exact List.mem_map_of_mem member
      refine order_lt_of_edge ?_ numbers acyclic (rows.mem_iff.mp sourceListed)
        (rows.mem_iff.mp targetListed) edge
      rw [ids]
      exact planned.forward
    · rw [empty, List.length_nil, ← book.length, Nat.add_eq_zero_iff] at total
      have none := rows.length_eq
      rw [List.length_append, total.1, total.2] at none
      rw [List.length_eq_zero_iff.mp none] at sourceListed
      cases sourceListed

private theorem countP_ended (ended : ∀ row ∈ settled, Over row.status) :
    settled.length = settled.countP (fun row => decide (row.status = .completed)) +
        settled.countP (fun row => decide (row.status = .warning)) +
        settled.countP (fun row => decide (row.status = .failed)) ∧
      settled.countP (fun row => decide (row.status = .completed ∨ row.status = .warning)) =
        settled.countP (fun row => decide (row.status = .completed)) +
          settled.countP (fun row => decide (row.status = .warning)) ∧
      settled.countP (fun row => decide (row.status ≠ .skipped)) = settled.length ∧
      settled.countP (fun row => decide (row.status = .skipped)) = 0 := by
  induction settled with
  | nil => exact ⟨rfl, rfl, rfl, rfl⟩
  | cons row rest ih =>
      obtain ⟨lengths, passed, executed, skips⟩ :=
        ih fun other listed => ended other (List.mem_cons_of_mem _ listed)
      simp only [List.length_cons, List.countP_cons, skips, executed, passed]
      rcases ended row List.mem_cons_self with completed | warned | failed
      · rw [completed]
        refine ⟨?_, ?_, rfl, rfl⟩
        · simp
          omega
        · simp
          omega
      · rw [warned]
        refine ⟨?_, ?_, rfl, rfl⟩
        · simp
          omega
        · simp
          omega
      · rw [failed]
        refine ⟨?_, ?_, rfl, rfl⟩
        · simp
          omega
        · simp

private theorem Book.counted_iff {request : Request} (planned : Plan request plan)
    (book : Book plan execution settled skipped [] [])
    (summary : execution.summary = some (aggregateResults execution.nodeResults))
    (phase : execution.phase = .done) :
    Counted request.flow execution ↔ ¬Spoiled execution := by
  have total : plan.length = request.flow.nodes.length := by
    rw [planned.covers.length_eq, FlowDefinition.nodeIds, List.length_map]
  have counters : execution.counters = aggregateResults execution.nodeResults := by
    unfold Execution.counters
    rw [summary]
    rfl
  have unspoiled : ¬Spoiled execution ↔
      execution.rows.countP (fun row => decide (row.status = .warning)) = 0 ∧
        execution.rows.countP (fun row => decide (row.status = .skipped)) = 0 := by
    unfold Spoiled
    rw [phase]
    simp only [List.countP_eq_zero, decide_eq_true_eq]
    constructor
    · intro clean
      exact ⟨fun row listed warned => clean (.inl ⟨row, listed, .inl warned⟩),
        fun row listed skips => clean (.inl ⟨row, listed, .inr skips⟩)⟩
    · rintro ⟨noWarning, noSkip⟩ (⟨row, listed, warned | skips⟩ | ⟨_, _, same⟩)
      · exact noWarning row listed warned
      · exact noSkip row listed skips
      · cases same
  obtain ⟨lengths, passed, executed, skips⟩ := countP_ended book.ended
  have executedRows := book.countP_without_skipped (fun status => decide (status ≠ .skipped)) rfl
  have passedRows := book.countP_without_skipped
    (fun status => decide (status = .completed ∨ status = .warning)) rfl
  have failedRows := book.countP_without_skipped (fun status => decide (status = .failed)) rfl
  have skippedRows := book.countP_with_skipped (fun status => decide (status = .skipped)) rfl
  have warnedRows := book.countP_without_skipped (fun status => decide (status = .warning)) rfl
  have passedResults := book.countP_results .completed
  have failedResults := book.countP_results .failed
  have skippedResults := book.countP_results .skipped
  have results : execution.nodeResults.length = settled.length := by
    rw [book.results, List.length_map]
  have sums := book.length
  rw [unspoiled]
  constructor
  · intro counted
    have same := counted.passed
    have sameSkipped := counted.skipped
    rw [counters] at same sameSkipped
    dsimp only [aggregateResults] at same sameSkipped
    constructor
    · omega
    · omega
  · rintro ⟨noWarning, noSkip⟩
    constructor
    all_goals rw [counters]
    all_goals dsimp only [aggregateResults]
    all_goals omega

private theorem plan_of_valid {request : Request} {response : FlowValidationResponse}
    (validated : FlowValidator.validateFlow request.order request.flow true = .ok response)
    (accepted : response.isValid = true) (distinct : request.flow.nodeIds.Nodup) :
    ∃ plan, Plan request plan := by
  by_cases empty : request.flow.nodes = []
  · refine ⟨[], ⟨response, validated, accepted⟩, List.nodup_nil, ?_, fun _ _ => empty, ?_,
      List.Pairwise.nil, .inr empty⟩
    · intro levels scheduled
      obtain ⟨inDegree, _, scheduled⟩ := bind_eq_ok scheduled
      obtain ⟨reached, _, scheduled⟩ := bind_eq_ok scheduled
      split at scheduled
      · cases scheduled
      · next total =>
        cases Except.ok.inj scheduled
        rw [empty, List.length_nil, not_not] at total
        rw [← List.length_eq_zero_iff, List.length_flatten]
        exact total
    · rw [FlowDefinition.nodeIds, empty]
      exact .nil
  · obtain ⟨endpoints, acyclic⟩ := FlowValidator.accepted_sound empty validated accepted
    obtain ⟨levels, scheduled, covers, -, depths, -, independent⟩ :=
      FlowValidator.executionLevels_longest request.order distinct endpoints acyclic
    refine ⟨levels.flatten, ⟨response, validated, accepted⟩, covers.nodup_iff.mpr distinct, ?_, ?_,
      covers, ?_, .inl acyclic⟩
    · intro others same
      rw [Except.ok.inj (same.symm.trans scheduled)]
    · intro error failed
      cases failed.symm.trans scheduled
    · rw [List.pairwise_flatten]
      constructor
      · intro level listed
        refine List.pairwise_of_forall_mem_list fun earlier inLevel later otherInLevel edge => ?_
        exact independent level listed later otherInLevel earlier inLevel (.single edge)
      · rw [List.pairwise_iff_getElem]
        intro first second firstBound secondBound below earlier inFirst later inSecond edge
        have deeper := (depths second _ (List.getElem?_eq_getElem secondBound) later inSecond).lt
          (depths first _ (List.getElem?_eq_getElem firstBound) earlier inFirst) (.single edge)
        exact lt_asymm below deeper

private theorem unspoiled_initial (status : ExecutionStatus) : ¬Spoiled (.initial status) := by
  rintro (⟨_, listed, _⟩ | ⟨_, _, same⟩)
  · cases listed
  · cases same

/-- At the end of a run of a valid flow every node has one record, numbered from 0 along the
connections. The counters are the numbers of those records if and only if no handler warned and no
node was left to be skipped. -/
theorem run_counted_iff {request : Request} {response : FlowValidationResponse}
    {status : ExecutionStatus} {actions : List Action} {final : Execution}
    (validated : FlowValidator.validateFlow request.order request.flow true = .ok response)
    (accepted : response.isValid = true) (distinct : request.flow.nodeIds.Nodup)
    (undisturbed : ∀ action ∈ actions, action.Undisturbed)
    (ran : Protocol.run (step request) (.initial status) actions = some final)
    (ended : final.phase = .done) :
    Recorded request.flow final.rows ∧
      (Counted request.flow final ↔
        RunMeets (step request) (Unexceptional request) (.initial status) actions) := by
  obtain ⟨plan, planned⟩ := plan_of_valid validated accepted distinct
  have admitted : RunMeets (step request) (fun _ action => action.Undisturbed) (.initial status)
      actions := runMeets_of_mem fun _ => undisturbed
  have begun : Booked request.flow plan (.initial status) := ⟨rfl, rfl, rfl, rfl⟩
  have kept : ∀ (before : Execution) (action : Action) (after : Execution),
      Booked request.flow plan before → action.Undisturbed → step request before action = some after →
        Booked request.flow plan after :=
    fun _ _ _ booked calm moved => step_booked planned calm booked moved
  have unspoiledIff : ¬Spoiled final ↔
      RunMeets (step request) (Unexceptional request) (.initial status) actions := by
    constructor
    · refine runMeets_of_unspoiled kept ?_ ?_ begun admitted ran
      · exact fun _ _ _ spoiled calm moved => spoiled_step calm spoiled moved
      · exact fun _ _ _ booked _ exceptional moved => exceptional_step booked exceptional moved
    · intro meets
      have clean : ∀ (before : Execution) (action : Action) (after : Execution),
          ¬Spoiled before → action.Undisturbed ∧ Unexceptional request before action →
            step request before action = some after → ¬Spoiled after :=
        fun _ _ _ unspoiled calm moved => unspoiled_step calm.1 calm.2 unspoiled moved
      exact @run_preserves Execution Action (step request) (.initial status) final actions
        (fun execution => ¬Spoiled execution) _ clean (unspoiled_initial status)
        (runMeets_and admitted meets) ran
  have booked := run_preserves kept begun admitted ran
  unfold Booked at booked
  rw [ended] at booked
  rcases booked with ⟨settled, skipped, book, summary⟩ | ⟨empty, rows, summary⟩
  · exact ⟨book.recorded planned, (book.counted_iff planned summary ended).trans unspoiledIff⟩
  · have counters : final.counters = ⟨0, 0, 0, 0, true⟩ := by
      unfold Execution.counters
      rw [summary]
      rfl
    have counted : Counted request.flow final := by
      constructor
      all_goals rw [counters]
      all_goals simp [rows, empty]
    have unspoiled : ¬Spoiled final := by
      unfold Spoiled
      rw [rows, ended]
      rintro (⟨_, listed, _⟩ | ⟨_, _, same⟩)
      · cases listed
      · cases same
    refine ⟨⟨?_, ?_, ?_⟩, iff_of_true counted (unspoiledIff.mp unspoiled)⟩
    · rw [rows, FlowDefinition.nodeIds, empty]
      exact .nil
    · rw [rows, empty]
      exact .nil
    · intro connection _ source listed
      rw [rows] at listed
      cases listed

end End

section Demo

/-- Both nodes complete; a request to cancel comes when the last level has begun. -/
private def completedRun : List Action :=
  [.start, .enterLevel, .startNode "src", .finishNode "src" .completed, .gather, .processResult,
    .endLevel, .enterLevel, .startNode "chk", .readStatus, .commitCancel,
    .finishNode "chk" .completed, .gather, .processResult, .endLevel, .enterLevel, .finish,
    .returnResult]

private def stoppedRun : List Action :=
  [.start, .enterLevel, .startNode "src", .finishNode "src" .failed, .gather, .processResult,
    .endLevel, .skipNode, .skipNode, .finish, .returnResult]

theorem completedRun_counted :
    ∃ final, Protocol.run (step sourceThenCheckRequest) (.initial .pending) completedRun =
        some final ∧
      Recorded sourceThenCheckRequest.flow final.rows ∧
        Counted sourceThenCheckRequest.flow final := by
  obtain ⟨final, ran⟩ : ∃ final, Protocol.run (step sourceThenCheckRequest) (.initial .pending)
      completedRun = some final := Option.isSome_iff_exists.mp (by decide)
  have ended : ∀ reached ∈ Protocol.run (step sourceThenCheckRequest) (.initial .pending)
      completedRun, reached.phase = .done := by
    decide
  obtain ⟨response, validated, accepted⟩ : ∃ response, FlowValidator.validateFlow
      sourceThenCheckRequest.order sourceThenCheckRequest.flow true = .ok response ∧
        response.isValid = true := ⟨_, rfl, by decide⟩
  obtain ⟨recorded, counted⟩ := run_counted_iff validated accepted (by decide) (by decide) ran
    (ended final ran)
  exact ⟨final, ran, recorded, counted.mpr (by decide)⟩

/-- A check that warns is counted as neither passed nor failed, and a skipped one not at all. -/
theorem warned_and_skipped_uncounted :
    (∃ final, Protocol.run (step sourceThenCheckRequest) (.initial .pending) undisturbedRun =
        some final ∧ final.phase = .done ∧ final.counters.nodesPassed = 1 ∧
      ¬Counted sourceThenCheckRequest.flow final) ∧
    ∃ final, Protocol.run (step sourceThenCheckRequest) (.initial .pending) stoppedRun =
        some final ∧ final.phase = .done ∧ final.counters.nodesSkipped = 0 ∧
      ¬Counted sourceThenCheckRequest.flow final := by
  refine ⟨⟨_, rfl, rfl, rfl, fun counted => ?_⟩, ⟨_, rfl, rfl, rfl, fun counted => ?_⟩⟩
  · have passed := counted.passed
    revert passed
    decide
  · have skipped := counted.skipped
    revert skipped
    decide

end Demo

end CogniDQ.Flow.FlowExecutor
