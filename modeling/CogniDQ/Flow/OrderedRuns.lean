import CogniDQ.Flow.ExecutorProperties

/-!
# The order of a run

No node of a run starts before the nodes that feed it have their results, whatever is cancelled or
raised on the way.
-/

set_option autoImplicit false

namespace CogniDQ.Flow.FlowExecutor

open CogniDQ.Graph CogniDQ.Python

/-- Every node that feeds the given one is done. -/
def Fed (flow : FlowDefinition) (done : List String) (id : String) : Prop :=
  ∀ connection ∈ flow.connections, connection.target = id → connection.source ∈ done

def Staged (flow : FlowDefinition) (done : List String) (levels : List (List String)) : Prop :=
  ∀ earlier level later, levels = earlier ++ level :: later →
    ∀ id ∈ level, Fed flow (done ++ earlier.flatten) id

def Execution.resultIds (execution : Execution) : List String :=
  execution.nodeResults.map Prod.fst

/-- What the current tasks and the levels ahead wait for. -/
def Awaited (flow : FlowDefinition) (done : List String) : Phase → Prop
  | .boundary levels => Staged flow done levels
  | .running tasks levels | .processing tasks _ levels =>
      (∀ task ∈ tasks, Fed flow done task.nodeId) ∧
        Staged flow (done ++ tasks.map (·.nodeId)) levels
  | _ => True

/-- A node that is not skipped has been started after the nodes that feed it were done. -/
structure Execution.Ordered (flow : FlowDefinition) (execution : Execution) : Prop where
  started : ∀ row ∈ execution.rows, row.status ≠ .skipped →
    Fed flow execution.resultIds row.nodeId
  awaited : Awaited flow execution.resultIds execution.phase

variable {flow : FlowDefinition} {done more : List String} {levels : List (List String)}
  {before after : Execution} {request : Request}

theorem Fed.mono {id : String} (fed : Fed flow done id) (kept : done ⊆ more) : Fed flow more id :=
  fun connection listed same => kept (fed connection listed same)

theorem Staged.mono (staged : Staged flow done levels) (kept : done ⊆ more) :
    Staged flow more levels :=
  fun earlier level later same id member =>
    (staged earlier level later same id member).mono fun _ listed =>
      List.mem_append.mpr ((List.mem_append.mp listed).imp_left fun found => kept found)

private theorem Staged.first {level : List String} (staged : Staged flow done (level :: levels)) :
    ∀ id ∈ level, Fed flow done id := by
  intro id member
  have fed := staged [] level levels rfl id member
  rwa [List.flatten_nil, List.append_nil] at fed

private theorem Staged.rest {level : List String} (staged : Staged flow done (level :: levels)) :
    Staged flow (done ++ level) levels := by
  intro earlier next later same id member
  have fed := staged (level :: earlier) next later (by rw [same, List.cons_append]) id member
  rwa [List.flatten_cons, ← List.append_assoc] at fed

theorem mem_setResult_ids {nodeResults : List (String × NodeStatus)} {id other : String}
    {status : NodeStatus} :
    other ∈ (setResult nodeResults id status).map Prod.fst ↔
      other = id ∨ other ∈ nodeResults.map Prod.fst := by
  unfold setResult
  split
  · next present =>
    have same : (nodeResults.map fun result =>
        if result.1 = id then (id, status) else result).map Prod.fst =
          nodeResults.map Prod.fst := by
      rw [List.map_map]
      refine List.map_congr_left fun result _ => ?_
      by_cases named : result.1 = id <;> simp [named]
    rw [same]
    exact ⟨.inr, fun either => either.elim (fun named => named ▸ present) fun listed => listed⟩
  · simp [or_comm]

/-- The levels of a flow that strict validation accepts are fed one by the other. -/
theorem staged_of_accepted {order : SetOrder String} {response : FlowValidationResponse}
    (validated : FlowValidator.validateFlow order flow true = .ok response)
    (accepted : response.isValid = true)
    (scheduled : FlowValidator.getExecutionLevels order flow.nodes flow.connections = .ok levels) :
    Staged flow [] levels := by
  have endpoints : ∀ connection ∈ flow.connections,
      connection.source ∈ flow.nodeIds ∧ connection.target ∈ flow.nodeIds := by
    by_cases nonempty : flow.nodes = []
    · rw [nonempty] at scheduled
      cases connections : flow.connections with
      | nil => exact fun _ listed => absurd listed List.not_mem_nil
      | cons connection rest =>
          simp [FlowValidator.getExecutionLevels, FlowValidator.inDegrees, connections, bind,
            Except.bind] at scheduled
    · exact (FlowValidator.accepted_sound nonempty validated accepted).1
  obtain ⟨-, covered⟩ := levels_cover validated accepted scheduled
  obtain ⟨-, depths⟩ := FlowValidator.getExecutionLevels_depths endpoints scheduled
  intro earlier level later split id member connection listed target
  obtain ⟨other, otherListed, inOther⟩ :=
    List.mem_flatten.mp (covered _ (endpoints connection listed).1)
  obtain ⟨index, found⟩ := List.mem_iff_getElem?.mp otherListed
  have own : levels[earlier.length]? = some level := by rw [split]; simp
  have edge : Edge (edgesOf flow.connections) connection.source id :=
    target ▸ List.mem_map.mpr ⟨connection, listed, rfl⟩
  have sooner : index < earlier.length :=
    Depth.lt (depths index other found _ inOther) (depths _ level own id member) (.single edge)
  rw [split, List.getElem?_append_left sooner] at found
  exact List.mem_flatten.mpr ⟨other, List.mem_of_getElem? found, inOther⟩

theorem Execution.Ordered.advance (kept : before.resultIds ⊆ after.resultIds)
    (rows : ∀ row ∈ after.rows, row.status ≠ .skipped → Fed flow before.resultIds row.nodeId)
    (awaited : Awaited flow after.resultIds after.phase) : after.Ordered flow where
  started row listed run := (rows row listed run).mono kept
  awaited := awaited

theorem Execution.Ordered.goto (ordered : before.Ordered flow) (rows : after.rows = before.rows)
    (results : after.nodeResults = before.nodeResults)
    (awaited : Awaited flow before.resultIds after.phase) : after.Ordered flow := by
  have same : after.resultIds = before.resultIds := congrArg (List.map Prod.fst) results
  have kept : before.resultIds ⊆ after.resultIds := by
    rw [same]
    exact List.Subset.refl _
  refine .advance kept ?_ (same ▸ awaited)
  rw [rows]
  exact ordered.started

theorem Awaited.setProgress {tasks : List Task} (waits : Awaited flow done (.running tasks levels))
    (id : String) (progress : Progress) :
    Awaited flow done (.running (setProgress id progress tasks) levels) := by
  refine ⟨fun task listed => ?_, ?_⟩
  · rcases mem_setProgress.mp listed with ⟨old, member, -, rfl⟩ | ⟨member, -⟩
    · exact waits.1 old member
    · exact waits.1 task member
  · rw [map_nodeId_setProgress]
    exact waits.2

private theorem Awaited.record {task : Task} {tasks : List Task} {failure : Bool}
    {nodeResults : List (String × NodeStatus)} {status : NodeStatus}
    (waits : Awaited flow (nodeResults.map Prod.fst) (.processing (task :: tasks) failure levels)) :
    Awaited flow ((setResult nodeResults task.nodeId status).map Prod.fst)
      (.processing tasks failure levels) := by
  refine ⟨fun other listed => (waits.1 other (List.mem_cons_of_mem task listed)).mono ?_,
    waits.2.mono fun id member => ?_⟩
  · exact fun id member => mem_setResult_ids.mpr (.inr member)
  · rw [List.mem_append, mem_setResult_ids]
    rw [List.mem_append, List.map_cons, List.mem_cons] at member
    rcases member with finished | own | ahead
    · exact .inl (.inr finished)
    · exact .inl (.inl own)
    · exact .inr ahead

private theorem start_ordered (ordered : before.Ordered request.flow)
    (started : start request before = some after) : after.Ordered request.flow := by
  unfold start at started
  split at started
  · cases started
  · next response validated =>
    split at started
    · next accepted =>
      cases started
      refine ordered.goto rfl rfl ?_
      dsimp only
      split
      · next levels scheduled =>
        exact (staged_of_accepted validated accepted scheduled).mono (List.nil_subset _)
      · trivial
    · cases started
      exact ordered.goto rfl rfl trivial

private theorem enterLevel_ordered (ordered : before.Ordered flow)
    (phase : before.phase = .boundary levels) : (enterLevel before levels).Ordered flow := by
  have waits := ordered.awaited
  rw [phase] at waits
  cases levels with
  | nil => exact ordered.goto rfl rfl trivial
  | cons level rest =>
      simp only [enterLevel]
      split
      · exact ordered.goto rfl rfl trivial
      · refine ordered.goto rfl rfl ⟨fun task listed => waits.first task.nodeId ?_, ?_⟩
        · rw [← map_nodeId_levelTasks before.orderIdx level]
          exact List.mem_map_of_mem listed
        · rw [map_nodeId_levelTasks]
          exact waits.rest

/-- A record is added for a node that is fed, or that is skipped. -/
theorem Execution.Ordered.addRow (ordered : before.Ordered flow) (row : NodeResult)
    (kept : before.resultIds ⊆ after.resultIds) (rows : after.rows = before.rows ++ [row])
    (fed : row.status ≠ .skipped → Fed flow before.resultIds row.nodeId)
    (awaited : Awaited flow after.resultIds after.phase) : after.Ordered flow := by
  refine .advance kept (fun other listed run => ?_) awaited
  rw [rows] at listed
  rcases List.mem_append.mp listed with old | new
  · exact ordered.started other old run
  · obtain rfl := List.mem_singleton.mp new
    exact fed run

private theorem finishNode_ordered {tasks : List Task} {task : Task} (ordered : before.Ordered flow)
    (phase : before.phase = .running tasks levels) (outcome : Outcome) :
    (finishNode before tasks levels task outcome).Ordered flow := by
  have waits := ordered.awaited
  rw [phase] at waits
  refine .advance (List.Subset.refl _) (fun row listed run => ?_) (waits.setProgress _ _)
  obtain ⟨old, member, rfl⟩ := List.mem_map.mp listed
  split at run
  · next settled =>
    rw [if_pos settled]
    exact ordered.started old member (by rw [settled.2.2]; decide)
  · next untouched =>
    rw [if_neg untouched]
    exact ordered.started old member run

private theorem processResult_ordered {task : Task} {tasks : List Task} {hasFailure : Bool}
    (ordered : before.Ordered flow)
    (phase : before.phase = .processing (task :: tasks) hasFailure levels)
    (processed : processResult before task tasks hasFailure levels = some after) :
    after.Ordered flow := by
  have waits := ordered.awaited
  rw [phase] at waits
  have more : ∀ status, before.resultIds ⊆
      (setResult before.nodeResults task.nodeId status).map Prod.fst :=
    fun status id member => mem_setResult_ids.mpr (.inr member)
  unfold processResult at processed
  split at processed
  · cases processed
    exact ordered.addRow _ (more _) rfl (fun _ => waits.1 task List.mem_cons_self) waits.record
  · cases processed
    exact .advance (more _) ordered.started waits.record
  · cases processed
  · cases processed

private theorem step_ordered {action : Action} (ordered : before.Ordered request.flow)
    (moved : step request before action = some after) : after.Ordered request.flow := by
  have waits := ordered.awaited
  cases Step.of_step moved with
  | start _ started => exact start_ordered ordered started
  | enterLevel phase => exact enterLevel_ordered ordered phase
  | startNode id phase member waiting started =>
      rw [phase] at waits
      obtain ⟨node, -, started⟩ := Option.bind_eq_some_iff.mp started
      cases started
      exact ordered.addRow _ (List.Subset.refl _) rfl (fun _ => waits.1 _ member)
        (waits.setProgress _ _)
  | finishNode id outcome phase => exact finishNode_ordered ordered phase outcome
  | crashNode id phase =>
      rw [phase] at waits
      exact ordered.goto rfl rfl (waits.setProgress _ _)
  | gather phase =>
      rw [phase] at waits
      exact ordered.goto rfl rfl waits
  | processResult phase processed => exact processResult_ordered ordered phase processed
  | endLevel phase =>
      rw [phase] at waits
      exact ordered.goto rfl rfl (waits.2.mono (by simp))
  | skipNode =>
      exact ordered.addRow _ (List.Subset.refl _) rfl (fun run => absurd rfl run) trivial
  | stopLevel | endSkipping | finish | returnResult | raise | fail =>
      exact ordered.goto rfl rfl trivial
  | readRunning | commitCancel => exact ordered.goto rfl rfl waits
  | readOther => exact ordered

private theorem reachable_ordered {admits : Execution → Action → Prop} {execution : Execution}
    (reached : Reachable request admits execution) : execution.Ordered request.flow := by
  induction reached with
  | initial status => exact ⟨fun _ listed => absurd listed List.not_mem_nil, trivial⟩
  | step _ _ moved ih => exact step_ordered ih moved

/-- In every interleaving with cancellations and exceptions, what feeds a node that has been started
has its result. -/
theorem started_after_sources {admits : Execution → Action → Prop} {execution : Execution}
    (reached : Reachable request admits execution) {row : NodeResult} {connection : FlowConnection}
    (recorded : row ∈ execution.rows) (started : row.status ≠ .skipped)
    (listed : connection ∈ request.flow.connections) (target : connection.target = row.nodeId) :
    connection.source ∈ execution.nodeResults.map Prod.fst :=
  (reachable_ordered reached).started row recorded started connection listed target

theorem check_started_after_source :
    ∃ execution, Reachable sourceThenCheckRequest (fun _ _ => True) execution ∧
      ∃ row ∈ execution.rows, row.nodeId = "chk" ∧ row.status = .warning ∧
        "src" ∈ execution.nodeResults.map Prod.fst := by
  have ran : ∃ execution, run sourceThenCheckRequest (.initial .pending) undisturbedRun =
      some execution ∧ ∃ row ∈ execution.rows, row.nodeId = "chk" ∧ row.status = .warning :=
    ⟨_, rfl, _, List.mem_cons_of_mem _ List.mem_cons_self, rfl, rfl⟩
  obtain ⟨execution, ran, row, recorded, named, status⟩ := ran
  have reached : Reachable sourceThenCheckRequest (fun _ _ => True) execution :=
    (Reachable.initial .pending).run (fun _ _ _ => trivial) ran
  obtain ⟨connection, listed, target, source⟩ : ∃ connection ∈
      sourceThenCheckRequest.flow.connections, connection.target = "chk" ∧
        connection.source = "src" := by decide
  refine ⟨execution, reached, row, recorded, named, status, ?_⟩
  rw [← source]
  exact started_after_sources reached recorded (by rw [status]; decide) listed
    (target.trans named.symm)

end CogniDQ.Flow.FlowExecutor
