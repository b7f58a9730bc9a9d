import CogniDQ.Flow.ValidatorProperties
import CogniDQ.Graph.Frontier
import CogniDQ.Python.Grouping

/-!
# Execution levels

The level loop keeps the in-degrees equal to the edges from nodes that are not
scheduled yet, so its levels are the successive frontiers of the graph.
-/

set_option autoImplicit false

namespace CogniDQ.Flow.FlowValidator

open CogniDQ.Python CogniDQ.Graph

/-! ## Relaxing the edges out of a level -/

private theorem relax_foldl_inDegree (neighbors : List String) (state : Relaxation) (id : String) :
    (neighbors.foldl relax state).inDegree id = state.inDegree id - neighbors.count id := by
  induction neighbors generalizing state with
  | nil => simp
  | cons neighbor rest ih =>
      rw [List.foldl_cons, ih, List.count_cons]
      by_cases same : id = neighbor
      · simp [relax, same]
        omega
      · simp [relax, same, Ne.symm same]

private theorem mem_relax_foldl (neighbors : List String) (state : Relaxation) (id : String) :
    id ∈ (neighbors.foldl relax state).nextLevel ↔
      id ∈ state.nextLevel ∨
        (0 < state.inDegree id ∧ state.inDegree id ≤ neighbors.count id) := by
  induction neighbors generalizing state with
  | nil =>
      simp
  | cons neighbor rest ih =>
      rw [List.foldl_cons, ih, List.count_cons]
      by_cases same : id = neighbor
      · subst same
        by_cases last : state.inDegree id = 1
        · have arrived : 0 < state.inDegree id ∧
              state.inDegree id ≤ ((rest.count id + 1 : Nat) : Int) := by omega
          simpa [relax, last] using Or.inr arrived
        · have more : ¬ state.inDegree id - 1 = 0 := by omega
          simp only [relax, more, if_false, if_true, beq_self_eq_true, Int.natCast_add, Int.natCast_one]
          refine or_congr_right ?_
          omega
      · have other : id ∈ (relax state neighbor).nextLevel ↔ id ∈ state.nextLevel := by
          simp only [relax]
          split
          · simp [same]
          · rfl
        rw [other]
        simp [relax, same, Ne.symm same]

private theorem relax_foldl_nodup (neighbors : List String) (state : Relaxation)
    (unique : state.nextLevel.Nodup) : (neighbors.foldl relax state).nextLevel.Nodup := by
  induction neighbors generalizing state with
  | nil => exact unique
  | cons neighbor rest ih =>
      apply ih
      simp only [relax]
      split
      · exact unique.insert
      · exact unique

theorem relaxLevel_eq (connections : List FlowConnection) (inDegree : String → Int)
    (level : List String) :
    relaxLevel connections inDegree level =
      (level.flatMap (graph connections)).foldl relax { inDegree, nextLevel := [] } := by
  rw [relaxLevel, List.foldl_flatMap]

theorem relaxLevel_nodup (connections : List FlowConnection) (inDegree : String → Int)
    (level : List String) : (relaxLevel connections inDegree level).nextLevel.Nodup := by
  rw [relaxLevel_eq]
  exact relax_foldl_nodup _ _ List.nodup_nil

theorem count_flatMap_graph (connections : List FlowConnection) {level : List String}
    (unique : level.Nodup) (id : String) :
    (level.flatMap (graph connections)).count id =
      arriving (edgesOf connections) level id := by
  have targets : graph connections = fun source =>
      ((edgesOf connections).filter fun edge => edge.1 = source).map Prod.snd :=
    funext (graph_eq_targets connections)
  rw [targets]
  exact count_targets unique

/-! ## The level loop -/

section Loop

variable {connections : List FlowConnection} {ids done current : List String}
  {inDegree : String → Int}

def Counts (connections : List FlowConnection) (done : List String)
    (inDegree : String → Int) : Prop :=
  ∀ id, inDegree id = remaining (edgesOf connections) done id

theorem relaxLevel_counts (frontier : Frontier (edgesOf connections) ids done current)
    (counts : Counts connections done inDegree) :
    Counts connections (done ++ current) (relaxLevel connections inDegree current).inDegree := by
  intro id
  have split := frontier.remaining_advance id
  have arrived := count_flatMap_graph connections frontier.nodup_current id
  have waiting := counts id
  rw [relaxLevel_eq, relax_foldl_inDegree, arrived]
  dsimp only
  omega

theorem mem_relaxLevel (frontier : Frontier (edgesOf connections) ids done current)
    (counts : Counts connections done inDegree) (id : String) :
    id ∈ (relaxLevel connections inDegree current).nextLevel ↔
      remaining (edgesOf connections) done id ≠ 0 ∧
        remaining (edgesOf connections) (done ++ current) id = 0 := by
  have split := frontier.remaining_advance id
  have arrived := count_flatMap_graph connections frontier.nodup_current id
  have waiting := counts id
  rw [relaxLevel_eq, mem_relax_foldl, arrived]
  simp only [List.not_mem_nil, false_or]
  omega

theorem levelsLoop_frontier (order : SetOrder String)
    (targets : ∀ source target, Edge (edgesOf connections) source target → target ∈ ids)
    (fuel : Nat) :
    ∀ (inDegree : String → Int) (done current : List String),
      Frontier (edgesOf connections) ids done current → Counts connections done inDegree →
      ids.length < done.length + fuel →
      ∃ levels, levelsLoop order connections fuel inDegree current = .ok levels ∧
        Frontier (edgesOf connections) ids (done ++ levels.flatten) [] := by
  induction fuel with
  | zero =>
      intro inDegree done current frontier _ bound
      have fits := frontier.length_le
      simp only [List.length_append] at fits
      omega
  | succ fuel ih =>
      intro inDegree done current frontier counts bound
      cases current with
      | nil => exact ⟨[], by simp [levelsLoop], by simpa using frontier⟩
      | cons first others =>
          let relaxed := relaxLevel connections inDegree (first :: others)
          have next : Frontier (edgesOf connections) ids (done ++ first :: others)
              (order.toList relaxed.nextLevel) := by
            refine frontier.advance targets ?_ ?_
            · rw [SetOrder.nodup_toList]
              exact relaxLevel_nodup connections inDegree _
            · intro id
              rw [SetOrder.mem_toList]
              exact mem_relaxLevel frontier counts id
          obtain ⟨levels, result, final⟩ :=
            ih relaxed.inDegree _ _ next (relaxLevel_counts frontier counts)
              (by simp only [List.length_append, List.length_cons]; omega)
          refine ⟨(first :: others) :: levels, ?_, ?_⟩
          · simp only [levelsLoop]
            change (levelsLoop order connections fuel relaxed.inDegree
              (order.toList relaxed.nextLevel) >>= _) = _
            rw [result]
            rfl
          · simpa using final

end Loop

/-! ## From the definition to the levels -/

theorem inDegrees_ok {nodes : List FlowNode} :
    ∀ {connections : List FlowConnection} {inDegree : String → Int},
      (∀ connection ∈ connections, connection.target ∈ nodes.map (·.id)) →
      ∃ counted, inDegrees nodes connections inDegree = .ok counted ∧
        ∀ id, counted id = inDegree id + remaining (edgesOf connections) [] id := by
  intro connections
  induction connections with
  | nil => exact fun _ => ⟨_, rfl, by simp [remaining, edgesOf]⟩
  | cons connection rest ih =>
      intro inDegree targets
      have here := targets connection List.mem_cons_self
      obtain ⟨counted, result, counts⟩ :=
        @ih (fun id => if id = connection.target then inDegree id + 1 else inDegree id)
          (fun other member => targets other (List.mem_cons_of_mem _ member))
      refine ⟨counted, by simp only [inDegrees, here, if_true, result], ?_⟩
      intro id
      rw [counts]
      simp only [remaining, edgesOf, List.map_cons, List.countP_cons]
      by_cases same : id = connection.target
      · simp [same]
        omega
      · simp [same, Ne.symm same]

/-- The levels hold each id of an acyclic flow once; their sizes add up to the
number of nodes exactly when no id is repeated. -/
theorem getExecutionLevels_of_acyclic (order : SetOrder String) {nodes : List FlowNode}
    {connections : List FlowConnection}
    (endpoints : ∀ connection ∈ connections,
      connection.source ∈ nodes.map (·.id) ∧ connection.target ∈ nodes.map (·.id))
    (acyclic : Acyclic (edgesOf connections)) :
    ∃ levels : List (List String), levels.flatten.Perm (nodes.map (·.id)).eraseDups ∧
      getExecutionLevels order nodes connections =
        if levels.flatten.length = nodes.length then .ok levels
        else .error
          (.valueError "Cannot create execution levels: circular dependency detected") := by
  obtain ⟨inDegree, counted, counts⟩ := @inDegrees_ok nodes connections (fun _ => 0)
    fun connection member => (endpoints connection member).2
  simp only [Int.zero_add] at counts
  have edgeEnds : ∀ source target, Edge (edgesOf connections) source target →
      source ∈ nodes.map (·.id) ∧ target ∈ nodes.map (·.id) := by
    intro source target edge
    obtain ⟨connection, member, equal⟩ := List.mem_map.mp edge
    obtain ⟨rfl, rfl⟩ := Prod.mk.inj equal
    exact endpoints connection member
  have start : Frontier (edgesOf connections) (nodes.map (·.id)) []
      ((nodes.map (·.id)).eraseDups.filter fun id => inDegree id = 0) := by
    constructor
    · simpa using (Grouping.nodup_eraseDups _).filter _
    · intro id
      simp only [List.nil_append, List.mem_filter, List.mem_eraseDups, decide_eq_true_eq, counts,
        Int.natCast_eq_zero]
  obtain ⟨levels, result, final⟩ := levelsLoop_frontier order (fun _ _ edge => (edgeEnds _ _ edge).2)
    (nodes.length + 1) inDegree [] _ start counts (by simp)
  simp only [List.nil_append] at final
  refine ⟨levels, ?_, ?_⟩
  · rw [List.perm_ext_iff_of_nodup (by simpa using final.nodup) (Grouping.nodup_eraseDups _)]
    intro id
    rw [List.mem_eraseDups]
    exact final.covers acyclic (fun _ _ edge => (edgeEnds _ _ edge).1) id
  · simp only [getExecutionLevels, counted, bind, Except.bind, result, List.length_flatten]
    by_cases total : (levels.map List.length).sum = nodes.length
    · simp [total]
    · simp [total]

end CogniDQ.Flow.FlowValidator

/-!
## Levels are depths

The level of a node is the length of the longest path of connections that ends at it: when the loop
has done its levels so far, the nodes that are left are those with a path of that many edges.
-/

namespace CogniDQ.Flow.FlowValidator

open CogniDQ.Python CogniDQ.Graph

section Loop

variable {connections : List FlowConnection} {ids done current : List String}
  {inDegree : String → Int}

private theorem levelsLoop_depths (order : SetOrder String)
    (sources : ∀ source target, Edge (edgesOf connections) source target → source ∈ ids)
    (targets : ∀ source target, Edge (edgesOf connections) source target → target ∈ ids)
    (fuel : Nat) :
    ∀ (inDegree : String → Int) (done current : List String) (depth : Nat)
      (levels : List (List String)),
      Frontier (edgesOf connections) ids done current → Counts connections done inDegree →
      (∀ id ∈ ids, id ∈ done ↔ ¬PathTo (edgesOf connections) depth id) →
      levelsLoop order connections fuel inDegree current = .ok levels →
      [] ∉ levels ∧ ∀ index level, levels[index]? = some level →
        ∀ id ∈ level, Depth (edgesOf connections) id (depth + index) := by
  induction fuel with
  | zero =>
      intro inDegree done current depth levels _ _ _ result
      cases current with
      | nil =>
          cases result
          exact ⟨List.not_mem_nil, fun _ _ found => nomatch found⟩
      | cons first others => cases result
  | succ fuel ih =>
      intro inDegree done current depth levels frontier counts reached result
      cases current with
      | nil =>
          cases result
          exact ⟨List.not_mem_nil, fun _ _ found => nomatch found⟩
      | cons first others =>
          obtain ⟨rest, continued, result⟩ := bind_eq_ok result
          cases result
          have next : Frontier (edgesOf connections) ids (done ++ first :: others)
              (order.toList (relaxLevel connections inDegree (first :: others)).nextLevel) := by
            refine frontier.advance targets ?_ ?_
            · rw [SetOrder.nodup_toList]
              exact relaxLevel_nodup connections inDegree _
            · intro id
              rw [SetOrder.mem_toList]
              exact mem_relaxLevel frontier counts id
          obtain ⟨nonempty, depths⟩ := ih _ _ _ (depth + 1) rest next
            (relaxLevel_counts frontier counts)
            (fun id member => frontier.mem_reached sources reached member) continued
          constructor
          · intro listed
            rcases List.mem_cons.mp listed with empty | later
            · cases empty
            · exact nonempty later
          · intro index level found id member
            cases index with
            | zero =>
                cases found
                exact frontier.depth_of_mem sources reached member
            | succ index =>
                have deeper := depths index level found id member
                rwa [Nat.add_assoc, Nat.add_comm 1 index] at deeper

end Loop

section Flow

variable {order : SetOrder String} {nodes : List FlowNode} {connections : List FlowConnection}
  {levels : List (List String)}

theorem edge_endpoints
    (endpoints : ∀ connection ∈ connections,
      connection.source ∈ nodes.map (·.id) ∧ connection.target ∈ nodes.map (·.id))
    {source target : String} (edge : Edge (edgesOf connections) source target) :
    source ∈ nodes.map (·.id) ∧ target ∈ nodes.map (·.id) := by
  obtain ⟨connection, member, same⟩ := List.mem_map.mp edge
  obtain ⟨rfl, rfl⟩ := Prod.mk.inj same
  exact endpoints connection member

private theorem perm_eraseDups (distinct : (nodes.map (·.id)).Nodup) :
    (nodes.map (·.id)).eraseDups.Perm (nodes.map (·.id)) :=
  (List.perm_ext_iff_of_nodup (Grouping.nodup_eraseDups _) distinct).mpr fun _ => List.mem_eraseDups

theorem frontier_start {inDegree : String → Int} (counts : Counts connections [] inDegree) :
    Frontier (edgesOf connections) (nodes.map (·.id)) []
      ((nodes.map (·.id)).eraseDups.filter fun id => inDegree id = 0) := by
  constructor
  · exact (Grouping.nodup_eraseDups _).filter _
  · intro id
    rw [List.nil_append, List.mem_filter, List.mem_eraseDups, decide_eq_true_eq, counts id,
      Int.natCast_eq_zero]

theorem getExecutionLevels_depths
    (endpoints : ∀ connection ∈ connections,
      connection.source ∈ nodes.map (·.id) ∧ connection.target ∈ nodes.map (·.id))
    (result : getExecutionLevels order nodes connections = .ok levels) :
    [] ∉ levels ∧ ∀ index level, levels[index]? = some level →
      ∀ id ∈ level, Depth (edgesOf connections) id index := by
  obtain ⟨inDegree, counted, counts⟩ := @inDegrees_ok nodes connections (fun _ => 0)
    fun connection member => (endpoints connection member).2
  simp only [Int.zero_add] at counts
  obtain ⟨_, counted', result⟩ := bind_eq_ok result
  cases Except.ok.inj (counted.symm.trans counted')
  obtain ⟨reached, looped, result⟩ := bind_eq_ok result
  have same : reached = levels := by
    split at result
    · cases result
    · exact Except.ok.inj result
  rw [same] at looped
  have depths := levelsLoop_depths order (fun _ _ edge => (edge_endpoints endpoints edge).1)
    (fun _ _ edge => (edge_endpoints endpoints edge).2) _ inDegree [] _ 0 levels
    (frontier_start counts) counts (fun id _ => iff_of_false List.not_mem_nil (not_not.mpr .start))
    looped
  simpa only [Nat.zero_add] using depths

/-- The levels of an acyclic flow are its nodes by the lengths of the longest paths to them: a
connection goes to a later level, and no two nodes of a level depend on each other. -/
theorem executionLevels_longest (order : SetOrder String)
    (distinct : (nodes.map (·.id)).Nodup)
    (endpoints : ∀ connection ∈ connections,
      connection.source ∈ nodes.map (·.id) ∧ connection.target ∈ nodes.map (·.id))
    (acyclic : Acyclic (edgesOf connections)) :
    ∃ levels, getExecutionLevels order nodes connections = .ok levels ∧
      levels.flatten.Perm (nodes.map (·.id)) ∧ [] ∉ levels ∧
      (∀ index level, levels[index]? = some level →
        ∀ id ∈ level, Depth (edgesOf connections) id index) ∧
      (∀ connection ∈ connections, ∀ (earlier later : Nat) (first second : List String),
        levels[earlier]? = some first → levels[later]? = some second →
          connection.source ∈ first → connection.target ∈ second → earlier < later) ∧
      ∀ level ∈ levels, ∀ id ∈ level, ∀ other ∈ level,
        ¬Relation.TransGen (Edge (edgesOf connections)) id other := by
  obtain ⟨levels, kept, result⟩ := getExecutionLevels_of_acyclic order endpoints acyclic
  have covers : levels.flatten.Perm (nodes.map (·.id)) := kept.trans (perm_eraseDups distinct)
  have total : levels.flatten.length = nodes.length := by
    rw [covers.length_eq, List.length_map]
  rw [if_pos total] at result
  obtain ⟨nonempty, depths⟩ := getExecutionLevels_depths endpoints result
  refine ⟨levels, result, covers, nonempty, depths, ?_, ?_⟩
  · intro connection member earlier later first second foundFirst foundSecond source target
    have edge : Edge (edgesOf connections) connection.source connection.target :=
      List.mem_map_of_mem member
    exact (depths earlier first foundFirst _ source).lt (depths later second foundSecond _ target)
      (.single edge)
  · intro level member id inLevel other otherInLevel depends
    obtain ⟨index, found⟩ := List.mem_iff_getElem?.mp member
    have below := (depths index level found id inLevel).lt
      (depths index level found other otherInLevel) depends
    exact lt_irrefl index below

end Flow

section Demo

def demoNode (id : String) : FlowNode where
  id := id
  type := .transform
  config := []
  checkType := none

def demoConnection (id source target : String) : FlowConnection where
  id := id
  source := source
  target := target
  sourcePort := some "output"
  targetPort := some "input"
  label := none

/-- A connection beside a path of two, whose first step is there twice. -/
private def shortcut : FlowDefinition where
  nodes := ["a", "b", "c"].map demoNode
  connections :=
    [demoConnection "1" "a" "c", demoConnection "2" "a" "b", demoConnection "3" "a" "b",
      demoConnection "4" "b" "c"]

theorem shortcut_longest :
    ∃ levels, getExecutionLevels .insertion shortcut.nodes shortcut.connections = .ok levels ∧
      levels.flatten.Perm ["a", "b", "c"] ∧
      ∀ index level, levels[index]? = some level →
        ∀ id ∈ level, Depth (edgesOf shortcut.connections) id index := by
  have endpoints : ∀ connection ∈ shortcut.connections,
      connection.source ∈ shortcut.nodes.map (·.id) ∧
        connection.target ∈ shortcut.nodes.map (·.id) := by
    decide
  have acyclic : Acyclic (edgesOf shortcut.connections) :=
    detectCircularDependenciesWithin_acyclic (fun _ _ edge => (edge_endpoints endpoints edge).1)
      (by decide : detectCircularDependencies shortcut.nodes shortcut.connections = .ok (false, []))
  obtain ⟨levels, result, covers, _, depths, _⟩ :=
    executionLevels_longest .insertion (by decide) endpoints acyclic
  exact ⟨levels, result, covers, depths⟩

end Demo

end CogniDQ.Flow.FlowValidator
