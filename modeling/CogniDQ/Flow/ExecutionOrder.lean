import CogniDQ.Flow.LevelProperties
import CogniDQ.Graph.Frontier
import Mathlib.Data.List.TFAE
import Mathlib.Tactic.TFAE

/-!
# Execution order

`getExecutionOrder` sorts the nodes with a queue: a node is put in when the last connection into it
is taken away. Nodes on a cycle, and what depends on them, are never put in.
-/

set_option autoImplicit false

namespace CogniDQ.Flow.FlowValidator

open CogniDQ.Python CogniDQ.Graph

structure Sorting where
  inDegree : String → Int
  queue : List String

def enqueue (state : Sorting) (neighbor : String) : Sorting :=
  let degree := state.inDegree neighbor - 1
  { inDegree := fun id => if id = neighbor then degree else state.inDegree id
    queue := if degree = 0 then state.queue ++ [neighbor] else state.queue }

/-- `while queue: …`, bounded by `fuel` nodes. -/
def orderLoop (connections : List FlowConnection) :
    Nat → (String → Int) → List String → Except Exn (List String)
  | _, _, [] => .ok []
  | 0, _, _ => .error .outOfFuel
  | fuel + 1, inDegree, id :: queue => do
      let sorted := (graph connections id).foldl enqueue { inDegree, queue }
      let rest ← orderLoop connections fuel sorted.inDegree sorted.queue
      .ok (id :: rest)

def getExecutionOrder (nodes : List FlowNode) (connections : List FlowConnection) :
    Except Exn (List String) := do
  let inDegree ← inDegrees nodes connections fun _ => 0
  let queue := (nodes.map (·.id)).eraseDups.filter fun id => inDegree id = 0
  let executionOrder ← orderLoop connections (nodes.length + 1) inDegree queue
  if executionOrder.length ≠ nodes.length then
    .error (.valueError "Cannot create execution order: circular dependency detected")
  else .ok executionOrder

section Enqueue

variable {neighbors : List String} {state : Sorting} {id : String}

private theorem enqueue_foldl_inDegree :
    (neighbors.foldl enqueue state).inDegree id = state.inDegree id - neighbors.count id := by
  induction neighbors generalizing state with
  | nil => simp
  | cons neighbor rest ih =>
      rw [List.foldl_cons, ih, List.count_cons]
      by_cases same : id = neighbor
      · simp [enqueue, same]
        omega
      · simp [enqueue, same, Ne.symm same]

private theorem enqueue_foldl_queue :
    ∃ added, (neighbors.foldl enqueue state).queue = state.queue ++ added ∧ added.Nodup ∧
      ∀ id, id ∈ added ↔ 0 < state.inDegree id ∧ state.inDegree id ≤ neighbors.count id := by
  induction neighbors generalizing state with
  | nil =>
      refine ⟨[], (List.append_nil _).symm, List.nodup_nil, fun id => ?_⟩
      simp
  | cons neighbor rest ih =>
      obtain ⟨added, queue, unique, exact⟩ := @ih (enqueue state neighbor)
      have counted : ∀ id, ((neighbor :: rest).count id : Int) =
          rest.count id + if id = neighbor then 1 else 0 := by
        intro id
        rw [List.count_cons]
        by_cases same : id = neighbor
        · simp [same]
        · simp [same, Ne.symm same]
      have degree : ∀ id, (enqueue state neighbor).inDegree id =
          state.inDegree id - if id = neighbor then 1 else 0 := by
        intro id
        by_cases same : id = neighbor
        · simp [enqueue, same]
        · simp [enqueue, same]
      by_cases last : state.inDegree neighbor = 1
      · refine ⟨neighbor :: added, ?_, List.nodup_cons.mpr ⟨?_, unique⟩, fun id => ?_⟩
        · rw [List.foldl_cons, queue]
          simp [enqueue, last]
        · rw [exact, degree, if_pos rfl, last]
          omega
        · rw [List.mem_cons, exact, counted, degree]
          by_cases same : id = neighbor
          · rw [if_pos same, same, last]
            exact iff_of_true (.inl rfl) ⟨by omega, by omega⟩
          · simp [same]
      · refine ⟨added, ?_, unique, fun id => ?_⟩
        · rw [List.foldl_cons, queue]
          have more : ¬state.inDegree neighbor - 1 = 0 := by omega
          simp [enqueue, more]
        · rw [exact, counted, degree]
          by_cases same : id = neighbor
          · rw [if_pos same, same]
            omega
          · rw [if_neg same]
            omega

end Enqueue

section Loop

variable {connections : List FlowConnection} {ids : List String}

private theorem orderLoop_frontier
    (targets : ∀ source target, Edge (edgesOf connections) source target → target ∈ ids)
    (fuel : Nat) :
    ∀ (inDegree : String → Int) (done queue : List String),
      Frontier (edgesOf connections) ids done queue → Counts connections done inDegree →
      (∀ id ∈ done ++ queue, ¬Relation.TransGen (Edge (edgesOf connections)) id id) →
      ids.length < done.length + fuel →
      ∃ sorted, orderLoop connections fuel inDegree queue = .ok sorted ∧
        Frontier (edgesOf connections) ids (done ++ sorted) [] ∧
        ∀ id ∈ done ++ sorted, ¬Relation.TransGen (Edge (edgesOf connections)) id id := by
  induction fuel with
  | zero =>
      intro inDegree done queue frontier _ _ bound
      have fits := frontier.length_le
      rw [List.length_append] at fits
      omega
  | succ fuel ih =>
      intro inDegree done queue frontier counts loopless bound
      cases queue with
      | nil => exact ⟨[], rfl, by simpa using frontier, by simpa using loopless⟩
      | cons first queue =>
          obtain ⟨added, queued, unique, exact⟩ :=
            @enqueue_foldl_queue (graph connections first) { inDegree, queue }
          have arrived : ∀ id, (graph connections first).count id =
              arriving (edgesOf connections) [first] id := by
            intro id
            have counted := count_flatMap_graph connections (List.nodup_singleton first) id
            simpa using counted
          have split : ∀ id, remaining (edgesOf connections) done id =
              remaining (edgesOf connections) (done ++ [first]) id +
                arriving (edgesOf connections) [first] id := by
            intro id
            refine remaining_append fun value isFirst inDone => ?_
            rw [List.mem_singleton.mp isFirst] at inDone
            exact (List.nodup_append.mp frontier.nodup).2.2 first inDone first
              List.mem_cons_self rfl
          have next : Frontier (edgesOf connections) ids (done ++ [first]) (queue ++ added) := by
            refine Frontier.advanceFront frontier targets unique fun id => ?_
            have waiting := counts id
            have fewer := split id
            rw [exact, arrived]
            dsimp only
            omega
          have countsNext : Counts connections (done ++ [first])
              ((graph connections first).foldl enqueue { inDegree, queue }).inDegree := by
            intro id
            have waiting := counts id
            have fewer := split id
            rw [enqueue_foldl_inDegree, arrived]
            dsimp only
            omega
          have earlier : ∀ id ∈ done ++ [first],
              ¬Relation.TransGen (Edge (edgesOf connections)) id id := by
            intro id member
            refine loopless id ?_
            rcases List.mem_append.mp member with old | new
            · exact List.mem_append_left _ old
            · rw [List.mem_singleton.mp new]
              exact List.mem_append_right _ List.mem_cons_self
          obtain ⟨sorted, result, final, free⟩ := ih _ (done ++ [first]) (queue ++ added) next
            countsNext (next.loopless_advance earlier)
            (by simp only [List.length_append, List.length_singleton]; omega)
          refine ⟨first :: sorted, ?_, ?_, ?_⟩
          · rw [← queued] at result
            simp only [orderLoop, result, bind, Except.bind]
          · simpa using final
          · simpa using free

end Loop

section Flow

variable {nodes : List FlowNode} {connections : List FlowConnection}

theorem covers_of_length {done : List String}
    (frontier : Frontier (edgesOf connections) (nodes.map (·.id)) done [])
    (all : done.length = nodes.length) : ∀ id ∈ nodes.map (·.id), id ∈ done := by
  have ready := frontier.ready
  have unique := frontier.nodup
  rw [List.append_nil] at ready unique
  have subperm : done.Subperm (nodes.map (·.id)) :=
    List.subperm_of_subset unique fun id member => ((ready id).mp member).1
  intro id member
  refine (subperm.perm_of_length_le ?_).mem_iff.mpr member
  rw [List.length_map, all]

theorem getExecutionOrder_spec (distinct : (nodes.map (·.id)).Nodup)
    (endpoints : ∀ connection ∈ connections,
      connection.source ∈ nodes.map (·.id) ∧ connection.target ∈ nodes.map (·.id)) :
    Acyclic (edgesOf connections) ∧ (∃ sorted, getExecutionOrder nodes connections = .ok sorted) ∨
      ¬Acyclic (edgesOf connections) ∧ getExecutionOrder nodes connections =
        .error (.valueError "Cannot create execution order: circular dependency detected") := by
  obtain ⟨inDegree, counted, counts⟩ := @inDegrees_ok nodes connections (fun _ => 0)
    fun connection member => (endpoints connection member).2
  simp only [Int.zero_add] at counts
  have start := @frontier_start nodes connections inDegree counts
  have loopless : ∀ id ∈ ([] : List String) ++
      (nodes.map (·.id)).eraseDups.filter (fun id => inDegree id = 0),
      ¬Relation.TransGen (Edge (edgesOf connections)) id id := by
    intro id member
    exact loopless_of_remaining (fun _ earlier => absurd earlier List.not_mem_nil)
      ((start.ready id).mp member).2
  obtain ⟨sorted, looped, final, free⟩ := orderLoop_frontier
    (fun _ _ edge => (edge_endpoints endpoints edge).2) (nodes.length + 1) inDegree [] _ start
    counts loopless (by rw [List.length_map, List.length_nil]; omega)
  rw [List.nil_append] at final free
  have result : getExecutionOrder nodes connections =
      if sorted.length ≠ nodes.length then
        .error (.valueError "Cannot create execution order: circular dependency detected")
      else .ok sorted := by
    unfold getExecutionOrder
    rw [counted]
    exact congrArg (· >>= fun order : List String => if order.length ≠ nodes.length then
      .error (.valueError "Cannot create execution order: circular dependency detected")
      else .ok order) looped
  by_cases all : sorted.length = nodes.length
  · refine .inl ⟨acyclic_of_loopless (fun _ _ edge => (edge_endpoints endpoints edge).1)
      fun id member => free id (covers_of_length final all id member), sorted, ?_⟩
    rw [result, if_neg (not_not.mpr all)]
  · refine .inr ⟨fun acyclic => all ?_, by rw [result, if_pos all]⟩
    have covers := final.covers acyclic fun _ _ edge => (edge_endpoints endpoints edge).1
    have unique := final.nodup
    rw [List.append_nil] at unique
    have perm := (List.perm_ext_iff_of_nodup unique distinct).mpr covers
    rw [perm.length_eq, List.length_map]

theorem getExecutionLevels_spec (order : SetOrder String) (distinct : (nodes.map (·.id)).Nodup)
    (endpoints : ∀ connection ∈ connections,
      connection.source ∈ nodes.map (·.id) ∧ connection.target ∈ nodes.map (·.id)) :
    Acyclic (edgesOf connections) ∧
        (∃ levels, getExecutionLevels order nodes connections = .ok levels) ∨
      ¬Acyclic (edgesOf connections) ∧ getExecutionLevels order nodes connections =
        .error (.valueError "Cannot create execution levels: circular dependency detected") := by
  by_cases acyclic : Acyclic (edgesOf connections)
  · obtain ⟨levels, result, -⟩ := executionLevels_longest order distinct endpoints acyclic
    exact .inl ⟨acyclic, levels, result⟩
  · refine .inr ⟨acyclic, ?_⟩
    obtain ⟨inDegree, counted, counts⟩ := @inDegrees_ok nodes connections (fun _ => 0)
      fun connection member => (endpoints connection member).2
    simp only [Int.zero_add] at counts
    obtain ⟨levels, looped, final⟩ := levelsLoop_frontier order
      (fun _ _ edge => (edge_endpoints endpoints edge).2) (nodes.length + 1) inDegree [] _
      (frontier_start counts) counts (by rw [List.length_map, List.length_nil]; omega)
    rw [List.nil_append] at final
    have result : getExecutionLevels order nodes connections =
        if (levels.map List.length).sum ≠ nodes.length then
          .error (.valueError "Cannot create execution levels: circular dependency detected")
        else .ok levels := by
      unfold getExecutionLevels
      rw [counted]
      exact congrArg (· >>= fun levels : List (List String) =>
        if (levels.map List.length).sum ≠ nodes.length then
          .error (.valueError "Cannot create execution levels: circular dependency detected")
        else .ok levels) looped
    rw [result, if_pos]
    intro total
    rw [if_neg (not_not.mpr total)] at result
    have depths := (getExecutionLevels_depths endpoints result).2
    refine acyclic (acyclic_of_loopless (fun _ _ edge => (edge_endpoints endpoints edge).1) ?_)
    intro id member
    rw [← List.length_flatten] at total
    obtain ⟨level, inLevels, inLevel⟩ :=
      List.mem_flatten.mp (covers_of_length final total id member)
    obtain ⟨index, found⟩ := List.mem_iff_getElem?.mp inLevels
    exact (depths index level found id inLevel).no_loop

end Flow

end CogniDQ.Flow.FlowValidator

/-!
## The cycle that is reported

While the search has found nothing, the nodes it is visiting are on its path, and the path is one of
connections. So a node that is met again closes a walk.
-/

namespace CogniDQ.Flow.FlowValidator

open CogniDQ.Python CogniDQ.Graph

section Search

variable {connections : List FlowConnection} {before after : Search} {id : String}
  {found : Bool}

/-- The path leads to a node, holds what is being visited, and no cycle has been reported. -/
structure Walking (connections : List FlowConnection) (id : String) (search : Search) : Prop where
  chain : (search.path ++ [id]).IsChain (Edge (edgesOf connections))
  visiting : ∀ other, search.visitState other = some .visiting → other ∈ search.path
  unreported : search.cycleNodes = []

def Reports (connections : List FlowConnection) (found : Bool) (search : Search) : Prop :=
  if found then ClosedWalk (edgesOf connections) search.cycleNodes else search.cycleNodes = []

private theorem Walking.next {next : String} (walking : Walking connections id before)
    (explored : Explored connections before after) (unreported : after.cycleNodes = [])
    (chain : (before.path ++ [next]).IsChain (Edge (edgesOf connections))) :
    Walking connections next after where
  chain := by
    rw [explored.path]
    exact chain
  visiting := by
    intro other now
    rw [explored.path]
    exact walking.visiting other ((explored.visiting other).mp now)
  unreported := unreported

private theorem dfsNeighbors_reports {visit : String → Search → Except Exn (Bool × Search)}
    (visitSpec : ∀ id before after found, Walking connections id before →
      visit id before = .ok (found, after) → Reports connections found after)
    (exploredSpec : ∀ id before after, visit id before = .ok (false, after) →
      Explored connections before after ∧ after.visitState id = some .visited) :
    ∀ neighbors before after found, before.cycleNodes = [] →
      (∀ neighbor ∈ neighbors, Walking connections neighbor before) →
      dfsNeighbors visit neighbors before = .ok (found, after) →
      Reports connections found after := by
  intro neighbors
  induction neighbors with
  | nil =>
      intro before after found unreported _ result
      cases result
      exact unreported
  | cons neighbor rest ih =>
      intro before after found unreported walking result
      obtain ⟨⟨here, middle⟩, first, result⟩ := bind_eq_ok result
      have reported := visitSpec _ _ _ _ (walking neighbor List.mem_cons_self) first
      cases here with
      | true =>
          cases result
          exact reported
      | false =>
          have explored := (exploredSpec _ _ _ first).1
          refine ih middle after found reported ?_ result
          intro other member
          have known := walking other (List.mem_cons_of_mem _ member)
          exact known.next explored reported known.chain

private theorem dfs_reports (fuel : Nat) :
    ∀ id before after found, Walking connections id before →
      dfs connections fuel id before = .ok (found, after) →
      Reports connections found after := by
  induction fuel with
  | zero =>
      intro id before after found _ result
      cases result
  | succ fuel ih =>
      intro id before after found walking result
      unfold dfs at result
      split at result
      · cases result
      · next visiting =>
        cases result
        have onPath := walking.visiting id visiting
        unfold Reports
        rw [if_pos rfl, walking.unreported, List.nil_append]
        exact closedWalk_drop walking.chain onPath
      · cases result
        exact walking.unreported
      · next unvisited =>
        obtain ⟨⟨here, middle⟩, searched, result⟩ := bind_eq_ok result
        have entered : ∀ neighbor ∈ graph connections id, Walking connections neighbor
            { before.mark id .visiting with path := before.path ++ [id] } := by
          intro neighbor member
          constructor
          · have step : ([id] ++ [neighbor]).IsChain (Edge (edgesOf connections)) :=
              List.isChain_pair.mpr (mem_graph.mp member)
            exact walking.chain.append_overlap step (List.cons_ne_nil _ _)
          · intro other visiting
            by_cases same : other = id
            · rw [same]
              exact List.mem_append_right _ List.mem_cons_self
            · refine List.mem_append_left _ (walking.visiting other ?_)
              simpa [Search.mark, same] using visiting
          · exact walking.unreported
        have unreported : ({ before.mark id .visiting with path := before.path ++ [id] } :
            Search).cycleNodes = [] := walking.unreported
        have reported := dfsNeighbors_reports ih (dfs_explored fuel) _ _ _ _ unreported entered
          searched
        cases here with
        | true =>
            cases result
            exact reported
        | false =>
            cases result
            exact reported

private theorem searchAll_reports {fuel : Nat} {cycle : List String} :
    ∀ (nodes : List FlowNode) (before : Search), before.cycleNodes = [] →
      (∀ id, before.visitState id ≠ some .visiting) →
      searchAll connections fuel nodes before = .ok (true, cycle) →
      ClosedWalk (edgesOf connections) cycle := by
  intro nodes
  induction nodes with
  | nil =>
      intro before _ _ result
      cases result
  | cons node rest ih =>
      intro before unreported idle result
      unfold searchAll at result
      split at result
      · obtain ⟨⟨here, middle⟩, searched, result⟩ := bind_eq_ok result
        have walking : Walking connections node.id { before with path := [] } :=
          ⟨List.isChain_singleton _, fun other visiting => absurd visiting (idle other), unreported⟩
        have reported := dfs_reports fuel _ _ _ _ walking searched
        cases here with
        | true =>
            cases result
            exact reported
        | false =>
            have explored := (dfs_explored fuel _ _ _ searched).1
            refine ih middle reported ?_ result
            intro id visiting
            exact idle id ((explored.visiting id).mp visiting)
      · exact ih before unreported idle result

private theorem detectCircularDependenciesWithin_closed {frames : Nat} {nodes : List FlowNode}
    {cycle : List String}
    (result : detectCircularDependenciesWithin frames nodes connections = .ok (true, cycle)) :
    ClosedWalk (edgesOf connections) cycle := by
  refine searchAll_reports nodes _ rfl ?_ result
  intro id visiting
  unfold Search.initial at visiting
  dsimp only at visiting
  split at visiting <;> cases visiting

end Search

section Agreement

variable {nodes : List FlowNode} {connections : List FlowConnection}

/-- The search reports a cycle, the sort and the levels raise, and the connections form a cycle: all
of it or nothing. A reported cycle is one of the connections. -/
def Agree (frames : Nat) (order : SetOrder String) (nodes : List FlowNode)
    (connections : List FlowConnection) : Prop :=
  List.TFAE
    [∃ cycle, detectCircularDependenciesWithin frames nodes connections = .ok (true, cycle),
      ∃ message, getExecutionOrder nodes connections = .error (.valueError message),
      ∃ message, getExecutionLevels order nodes connections = .error (.valueError message),
      ∃ id, Relation.TransGen (Edge (edgesOf connections)) id id] ∧
    ∀ cycle, detectCircularDependenciesWithin frames nodes connections = .ok (true, cycle) →
      ClosedWalk (edgesOf connections) cycle

theorem agree_iff_search {frames : Nat} {order : SetOrder String}
    (distinct : (nodes.map (·.id)).Nodup)
    (endpoints : ∀ connection ∈ connections,
      connection.source ∈ nodes.map (·.id) ∧ connection.target ∈ nodes.map (·.id)) :
    Agree frames order nodes connections ↔
      (¬Acyclic (edgesOf connections) →
        ∃ cycle, detectCircularDependenciesWithin frames nodes connections = .ok (true, cycle)) := by
  have cyclic : (∃ id, Relation.TransGen (Edge (edgesOf connections)) id id) ↔
      ¬Acyclic (edgesOf connections) := by
    unfold Acyclic
    push Not
    rfl
  have sorted : (∃ message, getExecutionOrder nodes connections = .error (.valueError message)) ↔
      ¬Acyclic (edgesOf connections) := by
    rcases getExecutionOrder_spec distinct endpoints with ⟨acyclic, _, result⟩ | ⟨notAcyclic, result⟩
    · rw [result]
      exact iff_of_false nofun (not_not.mpr acyclic)
    · exact iff_of_true ⟨_, result⟩ notAcyclic
  have levelled : (∃ message,
      getExecutionLevels order nodes connections = .error (.valueError message)) ↔
        ¬Acyclic (edgesOf connections) := by
    rcases getExecutionLevels_spec order distinct endpoints with
      ⟨acyclic, _, result⟩ | ⟨notAcyclic, result⟩
    · rw [result]
      exact iff_of_false nofun (not_not.mpr acyclic)
    · exact iff_of_true ⟨_, result⟩ notAcyclic
  constructor
  · intro agree notAcyclic
    have same := agree.1.out 0 3
    exact same.mpr (cyclic.mpr notAcyclic)
  · intro finds
    have searched : (∃ cycle,
        detectCircularDependenciesWithin frames nodes connections = .ok (true, cycle)) ↔
          ¬Acyclic (edgesOf connections) := by
      refine ⟨?_, finds⟩
      rintro ⟨cycle, result⟩
      exact (detectCircularDependenciesWithin_closed result).not_acyclic
    refine ⟨?_, fun cycle result => detectCircularDependenciesWithin_closed result⟩
    rw [searched, sorted, levelled, cyclic]
    tfae_finish

/-- They agree unless the search of a cyclic flow runs out of the frames that the recursion limit
leaves. -/
theorem cycle_detection_agrees_iff (frames : Nat) (order : SetOrder String)
    (distinct : (nodes.map (·.id)).Nodup)
    (endpoints : ∀ connection ∈ connections,
      connection.source ∈ nodes.map (·.id) ∧ connection.target ∈ nodes.map (·.id)) :
    Agree frames order nodes connections ↔
      Acyclic (edgesOf connections) ∨ searchDepth nodes connections ≤ frames := by
  have answers := (@detectCircularDependenciesWithin_of_depth connections frames nodes
    fun _ _ edge => (edge_endpoints endpoints edge).2).1
  rw [agree_iff_search distinct endpoints, ← or_iff_not_imp_left]
  refine or_congr_right' fun notAcyclic => ?_
  by_cases fits : searchDepth nodes connections ≤ frames
  · rw [if_pos fits] at answers
    refine iff_of_true ?_ fits
    obtain ⟨⟨found, cycle⟩, result⟩ := answers
    cases found with
    | true => exact ⟨cycle, result⟩
    | false =>
        exact absurd (detectCircularDependenciesWithin_acyclic
          (fun _ _ edge => (edge_endpoints endpoints edge).1) result) notAcyclic
  · rw [if_neg fits] at answers
    refine iff_of_false ?_ fits
    rintro ⟨cycle, result⟩
    rw [answers] at result
    cases result

end Agreement

section Demo

/-- Two nodes that depend on each other, and a third before them. -/
private def loopAfterSource : FlowDefinition where
  nodes := ["a", "b", "c"].map demoNode
  connections :=
    [demoConnection "1" "a" "b", demoConnection "2" "b" "c", demoConnection "3" "c" "b"]

theorem loopAfterSource_agrees :
    Agree 4 .insertion loopAfterSource.nodes loopAfterSource.connections ∧
      detectCircularDependenciesWithin 4 loopAfterSource.nodes loopAfterSource.connections =
        .ok (true, ["b", "c"]) :=
  ⟨(@cycle_detection_agrees_iff loopAfterSource.nodes loopAfterSource.connections 4 .insertion
    (by decide) (by decide)).mpr (.inr (by decide)), by decide⟩

end Demo

/-! ## A ring deeper than the recursion limit -/

section Ring

/-- The id of a node of a ring. -/
private def ringId (index : Nat) : String := String.ofList (List.replicate index 'n')

private def ring (size : Nat) : FlowDefinition where
  nodes := (List.range size).map fun index => demoNode (ringId index)
  connections := (List.range size).map fun index =>
    demoConnection (ringId index) (ringId index) (ringId ((index + 1) % size))

variable {size : Nat}

private theorem ringId_injective : Function.Injective ringId := by
  intro left right same
  have lengths := congrArg (fun id => id.toList.length) same
  simpa [ringId] using lengths

private theorem ring_ids : (ring size).nodes.map (·.id) = (List.range size).map ringId := by
  simp [ring, demoNode, Function.comp_def]

private theorem graph_ring {index : Nat} (inside : index < size) :
    graph (ring size).connections (ringId index) = [ringId ((index + 1) % size)] := by
  have self : (List.range size).filter (fun other => decide (ringId other = ringId index)) =
      [index] := by
    simp only [ringId_injective.eq_iff]
    rw [List.filter_eq, List.count_eq_one_of_mem List.nodup_range (List.mem_range.mpr inside)]
    rfl
  simp only [graph, ring, demoConnection, List.filter_map, List.map_map, Function.comp_def, self]
  rfl

private theorem dfs_ring {frames : Nat} : ∀ (index : Nat) (search : Search), index + frames ≤ size →
    (∀ later, index ≤ later → later < size →
      search.visitState (ringId later) = some .unvisited) →
    dfs (ring size).connections frames (ringId index) search = .error .recursionError := by
  induction frames with
  | zero => exact fun _ _ _ _ => rfl
  | succ frames ih =>
      intro index search room open'
      have inside : index < size := by omega
      unfold dfs
      rw [open' index (Nat.le_refl _) inside, graph_ring inside]
      have stuck : ∀ entered : Search, (∀ later, index < later → later < size →
          entered.visitState (ringId later) = some .unvisited) →
          dfs (ring size).connections frames (ringId ((index + 1) % size)) entered =
            .error .recursionError := by
        intro entered unvisited
        cases frames with
        | zero => rfl
        | succ frames =>
            rw [Nat.mod_eq_of_lt (by omega)]
            exact ih (index + 1) entered (by omega) fun later after => unvisited later after
      simp only [dfsNeighbors, bind, Except.bind]
      rw [stuck]
      intro later after small
      have other : ringId later ≠ ringId index := fun same => by
        have equal := ringId_injective same
        omega
      simpa [other] using open' later (Nat.le_of_lt after) small

private theorem ring_cycle {last : Nat} (inside : last < size) (positive : 0 < last) :
    Relation.TransGen (Edge (edgesOf (ring size).connections)) (ringId 0) (ringId last) := by
  have step : ∀ index, index < size → Edge (edgesOf (ring size).connections) (ringId index)
      (ringId ((index + 1) % size)) := by
    intro index small
    rw [← mem_graph, graph_ring small]
    exact List.mem_cons_self
  induction last with
  | zero => omega
  | succ last ih =>
      have edge := step last (by omega)
      rw [Nat.mod_eq_of_lt inside] at edge
      cases last with
      | zero => exact .single edge
      | succ last => exact (ih (by omega) (by omega)).tail edge

private theorem ring_distinct : ((ring size).nodes.map (·.id)).Nodup := by
  rw [ring_ids]
  exact List.nodup_range.map ringId_injective

private theorem ring_endpoints : ∀ connection ∈ (ring size).connections,
    connection.source ∈ (ring size).nodes.map (·.id) ∧
      connection.target ∈ (ring size).nodes.map (·.id) := by
  intro connection member
  obtain ⟨index, inRange, rfl⟩ := List.mem_map.mp member
  have small := List.mem_range.mp inRange
  rw [ring_ids]
  exact ⟨List.mem_map_of_mem inRange,
    List.mem_map_of_mem (List.mem_range.mpr (Nat.mod_lt _ (by omega)))⟩

private theorem search_ring (size : Nat) :
    detectCircularDependenciesWithin (size + 1) (ring (size + 1)).nodes
      (ring (size + 1)).connections = .error .recursionError := by
  have unvisited : ∀ later, later < size + 1 →
      (Search.initial (ring (size + 1)).nodes).visitState (ringId later) = some .unvisited := by
    intro later small
    have known : ringId later ∈ (ring (size + 1)).nodes.map (·.id) := by
      rw [ring_ids]
      exact List.mem_map_of_mem (List.mem_range.mpr small)
    exact if_pos known
  obtain ⟨rest, first⟩ : ∃ rest, (ring (size + 1)).nodes = demoNode (ringId 0) :: rest := by
    unfold ring
    rw [List.range_succ_eq_map]
    exact ⟨_, rfl⟩
  unfold detectCircularDependenciesWithin
  generalize Search.initial (ring (size + 1)).nodes = search at unvisited ⊢
  rw [first]
  unfold searchAll
  have here : search.visitState (demoNode (ringId 0)).id = some .unvisited :=
    unvisited 0 (Nat.succ_pos _)
  have stuck : dfs (ring (size + 1)).connections (size + 1) (demoNode (ringId 0)).id
      { search with path := [] } = .error .recursionError :=
    dfs_ring 0 _ (by omega) fun later _ small => unvisited later small
  rw [if_pos here, stuck]
  rfl

private theorem ring_cyclic (size : Nat) : ¬Acyclic (edgesOf (ring (size + 1)).connections) := by
  intro acyclic
  refine acyclic (ringId 0) ?_
  have back : Edge (edgesOf (ring (size + 1)).connections) (ringId size) (ringId 0) := by
    rw [← mem_graph, graph_ring (Nat.lt_succ_self _), Nat.mod_self]
    exact List.mem_cons_self
  cases size with
  | zero => exact .single back
  | succ size => exact (ring_cycle (Nat.lt_succ_self _) (Nat.succ_pos _)).tail back

/-- A thousand nodes in a ring, where the recursion limit is a thousand calls. -/
theorem ring_overflows :
    ((ring 1000).nodes.map (·.id)).Nodup ∧
    (∀ connection ∈ (ring 1000).connections, connection.source ∈ (ring 1000).nodes.map (·.id) ∧
      connection.target ∈ (ring 1000).nodes.map (·.id)) ∧
    detectCircularDependenciesWithin 1000 (ring 1000).nodes (ring 1000).connections =
      .error .recursionError ∧
    (∃ message, getExecutionOrder (ring 1000).nodes (ring 1000).connections =
      .error (.valueError message)) ∧
    ¬Agree 1000 .insertion (ring 1000).nodes (ring 1000).connections := by
  refine ⟨ring_distinct, ring_endpoints, search_ring 999, ?_, ?_⟩
  · rcases getExecutionOrder_spec (@ring_distinct 1000) ring_endpoints with
      ⟨acyclic, _⟩ | ⟨_, raised⟩
    · exact absurd acyclic (ring_cyclic 999)
    · exact ⟨_, raised⟩
  · rw [agree_iff_search ring_distinct ring_endpoints, search_ring 999]
    intro finds
    obtain ⟨_, result⟩ := finds (ring_cyclic 999)
    cases result

end Ring

end CogniDQ.Flow.FlowValidator
