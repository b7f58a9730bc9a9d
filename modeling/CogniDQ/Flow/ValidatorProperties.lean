import CogniDQ.Flow.Validator
import CogniDQ.Graph.Acyclic
import Mathlib.Data.List.Nodup
import Mathlib.Data.List.Perm.Subperm

/-!
# Validated flows can be scheduled

The depth-first search of the validator settles the nodes it leaves: their
successors are settled and none is on a cycle. The level loop of the scheduler
keeps the in-degrees equal to the edges from nodes not yet scheduled. Together:
which accepted flows the scheduler can run.
-/

set_option autoImplicit false

namespace CogniDQ.Flow.FlowValidator

open CogniDQ.Python CogniDQ.Graph

@[simp] theorem nodeDict_isSome {nodes : List FlowNode} {id : String} :
    (nodeDict nodes id).isSome = true ↔ id ∈ nodes.map (·.id) := by
  simp [nodeDict, List.find?_isSome]

theorem mem_graph {connections : List FlowConnection} {source target : String} :
    target ∈ graph connections source ↔ Edge (edgesOf connections) source target := by
  simp only [graph, Edge, edgesOf, List.mem_map, List.mem_filter, decide_eq_true_eq,
    Prod.mk.injEq]
  constructor
  · rintro ⟨connection, ⟨member, rfl⟩, rfl⟩
    exact ⟨connection, member, rfl, rfl⟩
  · rintro ⟨connection, member, rfl, rfl⟩
    exact ⟨connection, ⟨member, rfl⟩, rfl⟩

theorem graph_eq_targets (connections : List FlowConnection) (source : String) :
    graph connections source =
      ((edgesOf connections).filter fun edge => edge.1 = source).map Prod.snd := by
  simp only [graph, edgesOf, List.filter_map, List.map_map]
  rfl

/-! ## The depth-first search -/

section Search

variable {connections : List FlowConnection}

/-- The visited nodes: closed under successors, and none on a cycle. -/
structure Settled (connections : List FlowConnection) (search : Search) : Prop where
  forward : ∀ source target, search.visitState source = some .visited →
    Edge (edgesOf connections) source target → search.visitState target = some .visited
  acyclic : ∀ id, search.visitState id = some .visited →
    ¬ Relation.TransGen (Edge (edgesOf connections)) id id

/-- What a part of the search that found no cycle leaves behind. -/
structure Explored (connections : List FlowConnection) (before after : Search) : Prop where
  path : after.path = before.path
  known : ∀ id, (after.visitState id).isSome = (before.visitState id).isSome
  visiting : ∀ id, after.visitState id = some .visiting ↔ before.visitState id = some .visiting
  visited : ∀ id, before.visitState id = some .visited → after.visitState id = some .visited
  settled : Settled connections before → Settled connections after

theorem Explored.refl (search : Search) : Explored connections search search :=
  ⟨rfl, fun _ => rfl, fun _ => Iff.rfl, fun _ => id, id⟩

private theorem Explored.trans {first second third : Search}
    (left : Explored connections first second) (right : Explored connections second third) :
    Explored connections first third where
  path := right.path.trans left.path
  known := fun id => (right.known id).trans (left.known id)
  visiting := fun id => (right.visiting id).trans (left.visiting id)
  visited := fun id held => right.visited id (left.visited id held)
  settled := right.settled ∘ left.settled

private theorem dfsNeighbors_explored {visit : String → Search → Except Exn (Bool × Search)}
    (visitSpec : ∀ id before after, visit id before = .ok (false, after) →
      Explored connections before after ∧ after.visitState id = some .visited) :
    ∀ neighbors before after, dfsNeighbors visit neighbors before = .ok (false, after) →
      Explored connections before after ∧
        ∀ neighbor ∈ neighbors, after.visitState neighbor = some .visited := by
  intro neighbors
  induction neighbors with
  | nil =>
      intro before after result
      simp only [dfsNeighbors, Except.ok.injEq, Prod.mk.injEq, true_and] at result
      subst result
      exact ⟨.refl _, by simp⟩
  | cons neighbor rest ih =>
      intro before after result
      obtain ⟨⟨found, middle⟩, first, result⟩ := bind_eq_ok result
      cases found with
      | true => simp at result
      | false =>
          obtain ⟨exploredFirst, visitedFirst⟩ := visitSpec _ _ _ first
          obtain ⟨exploredRest, visitedRest⟩ := ih _ _ result
          refine ⟨exploredFirst.trans exploredRest, ?_⟩
          intro other member
          rcases List.mem_cons.mp member with rfl | member
          · exact exploredRest.visited _ visitedFirst
          · exact visitedRest other member

@[simp] theorem mark_visitState_self (search : Search) (id : String) (visit : Visit) :
    (search.mark id visit).visitState id = some visit := by
  simp [Search.mark]

@[simp] theorem mark_visitState_other (search : Search) {id other : String} (visit : Visit)
    (different : other ≠ id) :
    (search.mark id visit).visitState other = search.visitState other := by
  simp [Search.mark, different]

private theorem Settled.enter {search : Search} {id : String} {path : List String}
    (settled : Settled connections search) (unvisited : search.visitState id = some .unvisited) :
    Settled connections { search.mark id .visiting with path } := by
  constructor
  · intro source target visited edge
    have sourceOther : source ≠ id := by
      rintro rfl
      simp at visited
    simp only [ne_eq, sourceOther, not_false_eq_true, mark_visitState_other] at visited
    have reached := settled.forward _ _ visited edge
    have targetOther : target ≠ id := by
      rintro rfl
      simp [unvisited] at reached
    simpa [targetOther] using reached
  · intro other visited
    have different : other ≠ id := by
      rintro rfl
      simp at visited
    simp only [ne_eq, different, not_false_eq_true, mark_visitState_other] at visited
    exact settled.acyclic other visited

private theorem Settled.leave {search : Search} {id : String} {path : List String}
    (settled : Settled connections search) (visiting : search.visitState id = some .visiting)
    (successors : ∀ target ∈ graph connections id, search.visitState target = some .visited) :
    Settled connections { search.mark id .visited with path } := by
  have fresh : search.visitState id ≠ some .visited := by simp [visiting]
  have noLoop := acyclic_part_insert
    settled.forward fresh (fun target edge => successors target (mem_graph.mpr edge))
  constructor
  · intro source target visited edge
    by_cases sameTarget : target = id
    · simp [sameTarget]
    by_cases sameSource : source = id
    · subst sameSource
      simpa [sameTarget] using successors target (mem_graph.mpr edge)
    · simp only [ne_eq, sameSource, sameTarget, not_false_eq_true, mark_visitState_other]
        at visited ⊢
      exact settled.forward _ _ visited edge
  · intro other visited
    by_cases same : other = id
    · exact same ▸ noLoop
    · simp only [ne_eq, same, not_false_eq_true, mark_visitState_other] at visited
      exact settled.acyclic other visited

theorem dfs_explored (fuel : Nat) :
    ∀ id before after, dfs connections fuel id before = .ok (false, after) →
      Explored connections before after ∧ after.visitState id = some .visited := by
  induction fuel with
  | zero =>
      intro id before after result
      simp [dfs] at result
  | succ fuel ih =>
      intro id before after result
      unfold dfs at result
      split at result
      · simp at result
      · simp at result
      · rename_i visited
        simp only [Except.ok.injEq, Prod.mk.injEq, true_and] at result
        subst result
        exact ⟨.refl _, visited⟩
      · rename_i unvisited
        obtain ⟨⟨found, middle⟩, neighborsResult, result⟩ := bind_eq_ok result
        cases found with
        | true => simp at result
        | false =>
            obtain ⟨explored, successors⟩ := dfsNeighbors_explored ih _ _ _ neighborsResult
            simp only [Bool.false_eq_true, if_false, Except.ok.injEq, Prod.mk.injEq,
              true_and] at result
            subst result
            have visiting : middle.visitState id = some .visiting := by
              rw [explored.visiting]
              simp
            have others : ∀ other, other ≠ id →
                (before.mark id .visiting).visitState other = before.visitState other :=
              fun other different => mark_visitState_other _ _ different
            refine ⟨⟨by simp [explored.path], ?_, ?_, ?_, ?_⟩, by simp⟩
            · intro other
              by_cases same : other = id
              · simp [same, unvisited]
              · have kept := explored.known other
                simpa [same] using kept
            · intro other
              by_cases same : other = id
              · simp [same, unvisited]
              · have kept := explored.visiting other
                simpa [same] using kept
            · intro other held
              by_cases same : other = id
              · simp [same]
              · have kept := explored.visited other
                simp only [others other same] at kept
                simpa [same] using kept held
            · intro settled
              exact (explored.settled (settled.enter unvisited)).leave visiting successors

private theorem searchAll_settled {fuel : Nat} :
    ∀ (nodes : List FlowNode) (before : Search) (cycle : List String),
      searchAll connections fuel nodes before = .ok (false, cycle) →
      Settled connections before →
      (∀ id, before.visitState id ≠ some .visiting) →
      (∀ node ∈ nodes, (before.visitState node.id).isSome) →
      ∃ after, Settled connections after ∧
        (∀ id, before.visitState id = some .visited → after.visitState id = some .visited) ∧
        ∀ node ∈ nodes, after.visitState node.id = some .visited := by
  intro nodes
  induction nodes with
  | nil =>
      intro before cycle _ settled _ _
      exact ⟨before, settled, fun _ => id, by simp⟩
  | cons node rest ih =>
      intro before cycle result settled none known
      have knownRest : ∀ other ∈ rest, (before.visitState other.id).isSome :=
        fun other member => known other (List.mem_cons_of_mem _ member)
      unfold searchAll at result
      split at result
      · obtain ⟨⟨found, middle⟩, first, result⟩ := bind_eq_ok result
        cases found with
        | true => simp at result
        | false =>
            obtain ⟨explored, visited⟩ := dfs_explored fuel _ _ _ first
            have settledMiddle : Settled connections middle :=
              explored.settled ⟨settled.forward, settled.acyclic⟩
            have noneMiddle : ∀ id, middle.visitState id ≠ some .visiting := by
              intro id open'
              exact none id ((explored.visiting id).mp open')
            have knownMiddle : ∀ other ∈ rest, (middle.visitState other.id).isSome := by
              intro other member
              rw [explored.known]
              exact knownRest other member
            obtain ⟨after, settledAfter, keeps, covers⟩ :=
              ih _ _ result settledMiddle noneMiddle knownMiddle
            refine ⟨after, settledAfter, fun id held => keeps _ (explored.visited id held), ?_⟩
            intro other member
            rcases List.mem_cons.mp member with rfl | member
            · exact keeps _ visited
            · exact covers other member
      · rename_i notUnvisited
        obtain ⟨after, settledAfter, keeps, covers⟩ := ih _ _ result settled none knownRest
        have here : before.visitState node.id = some .visited := by
          have some := known node List.mem_cons_self
          cases state : before.visitState node.id with
          | none => simp [state] at some
          | some visit =>
              cases visit with
              | unvisited => exact absurd state notUnvisited
              | visiting => exact absurd state (none node.id)
              | visited => rfl
        refine ⟨after, settledAfter, keeps, ?_⟩
        intro other member
        rcases List.mem_cons.mp member with rfl | member
        · exact keeps _ here
        · exact covers other member

theorem detectCircularDependenciesWithin_acyclic {frames : Nat} {nodes : List FlowNode}
    {cycle : List String}
    (sources : ∀ source target, Edge (edgesOf connections) source target →
      source ∈ nodes.map (·.id))
    (result : detectCircularDependenciesWithin frames nodes connections = .ok (false, cycle)) :
    Acyclic (edgesOf connections) := by
  have initial : Settled connections (.initial nodes) := by
    constructor
    · intro source target visited
      simp [Search.initial] at visited
    · intro id visited
      simp [Search.initial] at visited
  obtain ⟨after, settled, _, covers⟩ := searchAll_settled nodes _ cycle result initial
    (by simp [Search.initial]) fun node member => by simpa [Search.initial] using ⟨node, member, rfl⟩
  intro id loop
  obtain ⟨next, edge⟩ : ∃ next, Edge (edgesOf connections) id next := by
    cases loop using Relation.TransGen.head_induction_on with
    | single edge => exact ⟨_, edge⟩
    | head edge _ => exact ⟨_, edge⟩
  obtain ⟨node, member, rfl⟩ := List.mem_map.mp (sources _ _ edge)
  exact settled.acyclic _ (covers node member) loop

/-! The search always answers: the fuel covers every node that can be entered. -/

/-- How a search may change what it knows: nodes only leave the unvisited state. -/
structure Progress (before after : Search) : Prop where
  known : ∀ id, (after.visitState id).isSome = (before.visitState id).isSome
  unvisited : ∀ id, after.visitState id = some .unvisited →
    before.visitState id = some .unvisited

theorem Progress.refl (search : Search) : Progress search search :=
  ⟨fun _ => rfl, fun _ => id⟩

theorem Progress.trans {first second third : Search} (left : Progress first second)
    (right : Progress second third) : Progress first third :=
  ⟨fun id => (right.known id).trans (left.known id),
    fun id open' => left.unvisited id (right.unvisited id open')⟩

theorem Progress.mark {before after : Search} {id : String} {visit : Visit}
    {path cycleNodes : List String} (progress : Progress before after)
    (known : (before.visitState id).isSome) (moves : visit ≠ .unvisited) :
    Progress before { after.mark id visit with path, cycleNodes } := by
  constructor
  · intro other
    by_cases same : other = id
    · simpa [same] using known.symm
    · simpa [same] using progress.known other
  · intro other open'
    by_cases same : other = id
    · simp [same, moves] at open'
    · simp only [ne_eq, same, not_false_eq_true, mark_visitState_other] at open'
      exact progress.unvisited other open'

def unvisitedCount (ids : List String) (search : Search) : Nat :=
  ids.countP fun id => search.visitState id = some .unvisited

theorem Progress.unvisitedCount_le {before after : Search} (ids : List String)
    (progress : Progress before after) :
    unvisitedCount ids after ≤ unvisitedCount ids before :=
  List.countP_mono_left fun id _ open' => by
    simpa using progress.unvisited id (by simpa using open')

private theorem unvisitedCount_mark_lt {ids : List String} {search : Search} {id : String}
    {path : List String} (member : id ∈ ids) (unvisited : search.visitState id = some .unvisited) :
    unvisitedCount ids { search.mark id .visiting with path } < unvisitedCount ids search := by
  have progress : Progress search { search.mark id .visiting with path } :=
    (Progress.refl search).mark (by simp [unvisited]) (by simp)
  have le := fun rest => progress.unvisitedCount_le rest
  simp only [unvisitedCount] at le ⊢
  induction ids with
  | nil => simp at member
  | cons first rest ih =>
      have leRest := le rest
      by_cases same : first = id
      · simp only [List.countP_cons, same, mark_visitState_self, unvisited]
        simp
        omega
      · have inRest : id ∈ rest := (List.mem_cons.mp member).resolve_left (Ne.symm same)
        have less := ih inRest
        simp only [List.countP_cons, ne_eq, same, not_false_eq_true, mark_visitState_other]
        omega

/-! A search without a limit meets the same nodes. Its depth is the limit that it needs. -/

structure Walk where
  depth : Nat
  found : Bool
  search : Search

/-- What the search comes to where the limit leaves so many frames. -/
def Walk.within (frames : Nat) (walk : Walk) : Except Exn (Bool × Search) :=
  if walk.depth ≤ frames then .ok (walk.found, walk.search) else .error .recursionError

def walkNeighbors (walk : String → Search → Walk) : List String → Search → Walk
  | [], search => ⟨0, false, search⟩
  | neighbor :: rest, search =>
      let here := walk neighbor search
      if here.found then here
      else
        let later := walkNeighbors walk rest here.search
        { later with depth := max here.depth later.depth }

/-- Calls open at once, the one for this node included. `fuel` bounds the nodes not yet entered. -/
def walk (connections : List FlowConnection) : Nat → String → Search → Walk
  | 0, _, search => ⟨0, false, search⟩
  | fuel + 1, id, search =>
      match search.visitState id with
      | some .visiting =>
          let cycle := search.path.drop (search.path.idxOf id)
          ⟨1, true, { search with cycleNodes := search.cycleNodes ++ cycle }⟩
      | some .unvisited =>
          let entered := { search.mark id .visiting with path := search.path ++ [id] }
          let below := walkNeighbors (walk connections fuel) (graph connections id) entered
          let left := { below.search.mark id .visited with path := below.search.path.dropLast }
          ⟨below.depth + 1, below.found, if below.found then below.search else left⟩
      | _ => ⟨1, false, search⟩

def walkAll (connections : List FlowConnection) (fuel : Nat) : List FlowNode → Search → Nat
  | [], _ => 0
  | node :: rest, search =>
      if search.visitState node.id = some .unvisited then
        let here := walk connections fuel node.id { search with path := [] }
        if here.found then here.depth
        else max here.depth (walkAll connections fuel rest here.search)
      else walkAll connections fuel rest search

/-- The nodes that the depth-first search holds on one path at once, and the visit below them, until
it meets a cycle. -/
def searchDepth (nodes : List FlowNode) (connections : List FlowConnection) : Nat :=
  walkAll connections (nodes.length + 1) nodes (.initial nodes)

theorem Walk.within_ok {frames : Nat} {walk : Walk} (fits : walk.depth ≤ frames) :
    walk.within frames = .ok (walk.found, walk.search) := if_pos fits

theorem Walk.within_error {frames : Nat} {walk : Walk} (deep : ¬walk.depth ≤ frames) :
    walk.within frames = .error .recursionError := if_neg deep

private theorem dfsNeighbors_within {ids : List String} {fuel frames : Nat}
    {visit : String → Search → Except Exn (Bool × Search)} {walk : String → Search → Walk}
    (visitSpec : ∀ id before, id ∈ ids → (∀ id ∈ ids, (before.visitState id).isSome) →
      unvisitedCount ids before < fuel →
      visit id before = (walk id before).within frames ∧ Progress before (walk id before).search ∧
        (walk id before).depth ≤ fuel) :
    ∀ neighbors before, (∀ neighbor ∈ neighbors, neighbor ∈ ids) →
      (∀ id ∈ ids, (before.visitState id).isSome) → unvisitedCount ids before < fuel →
      dfsNeighbors visit neighbors before = (walkNeighbors walk neighbors before).within frames ∧
        Progress before (walkNeighbors walk neighbors before).search ∧
        (walkNeighbors walk neighbors before).depth ≤ fuel := by
  intro neighbors
  induction neighbors with
  | nil => exact fun before _ _ _ => ⟨rfl, .refl before, Nat.zero_le _⟩
  | cons neighbor rest ih =>
      intro before members known bound
      obtain ⟨result, progress, shallow⟩ := visitSpec neighbor before
        (members _ List.mem_cons_self) known bound
      obtain ⟨resultRest, progressRest, shallowRest⟩ := ih (walk neighbor before).search
        (fun other member => members other (List.mem_cons_of_mem _ member))
        (fun id member => by rw [progress.known]; exact known id member)
        (lt_of_le_of_lt (progress.unvisitedCount_le ids) bound)
      unfold dfsNeighbors walkNeighbors
      rw [result]
      by_cases met : (walk neighbor before).found
      · rw [if_pos met]
        refine ⟨?_, progress, shallow⟩
        by_cases fits : (walk neighbor before).depth ≤ frames
        · simp [Walk.within_ok fits, met, bind, Except.bind]
        · simp [Walk.within_error fits, bind, Except.bind]
      · rw [if_neg met]
        refine ⟨?_, progress.trans progressRest, max_le shallow shallowRest⟩
        by_cases fits : (walk neighbor before).depth ≤ frames
        · simp [met, bind, Except.bind, resultRest, Walk.within, fits]
        · simp [bind, Except.bind, Walk.within, fits]

private theorem dfs_within {ids : List String}
    (targets : ∀ source target, Edge (edgesOf connections) source target → target ∈ ids)
    (fuel : Nat) :
    ∀ frames id before, id ∈ ids → (∀ id ∈ ids, (before.visitState id).isSome) →
      unvisitedCount ids before < fuel →
      dfs connections frames id before = (walk connections fuel id before).within frames ∧
        Progress before (walk connections fuel id before).search ∧
        (walk connections fuel id before).depth ≤ fuel := by
  induction fuel with
  | zero => exact fun _ id before _ _ bound => absurd bound (Nat.not_lt_zero _)
  | succ fuel ih =>
      intro frames id before member known bound
      have some := known id member
      unfold walk
      dsimp only
      split
      · next visiting =>
        refine ⟨?_, ⟨fun _ => rfl, fun _ held => held⟩, Nat.le_add_left 1 fuel⟩
        cases frames <;> simp [dfs, Walk.within, visiting]
      · next unvisited =>
        have fewer : unvisitedCount ids
            { before.mark id .visiting with path := before.path ++ [id] } < fuel :=
          lt_of_lt_of_le (unvisitedCount_mark_lt member unvisited) (Nat.le_of_lt_succ bound)
        have entered : Progress before
            { before.mark id .visiting with path := before.path ++ [id] } :=
          (Progress.refl before).mark some (by simp)
        have below := fun frames => dfsNeighbors_within (ih frames) (graph connections id) _
          (fun target edge => targets _ _ (mem_graph.mp edge))
          (fun other inIds => by rw [entered.known]; exact known other inIds) fewer
        generalize walkNeighbors (walk connections fuel) (graph connections id) _ = walked
          at below ⊢
        obtain ⟨-, progress, shallow⟩ := below 0
        refine ⟨?_, ?_, Nat.succ_le_succ shallow⟩
        · cases frames with
          | zero => rfl
          | succ frames =>
              unfold dfs
              rw [unvisited]
              dsimp only
              rw [(below frames).1]
              by_cases fits : walked.depth ≤ frames
              · cases met : walked.found <;> simp [Walk.within, fits, met, bind, Except.bind]
              · simp [Walk.within, fits, bind, Except.bind]
        · have total := entered.trans progress
          cases met : walked.found with
          | true => exact total
          | false => exact total.mark some (by simp)
      · next notVisiting notUnvisited =>
        have visited : before.visitState id = Option.some .visited := by
          cases state : before.visitState id with
          | none => simp [state] at some
          | some visit => cases visit <;> simp_all
        refine ⟨?_, .refl before, Nat.le_add_left 1 fuel⟩
        cases frames <;> simp [dfs, Walk.within, visited]

private theorem searchAll_within {ids : List String} {fuel frames : Nat}
    (targets : ∀ source target, Edge (edgesOf connections) source target → target ∈ ids) :
    ∀ (nodes : List FlowNode) (before : Search), (∀ node ∈ nodes, node.id ∈ ids) →
      (∀ id ∈ ids, (before.visitState id).isSome) → unvisitedCount ids before < fuel →
      (if walkAll connections fuel nodes before ≤ frames then
        ∃ answer, searchAll connections frames nodes before = .ok answer
      else searchAll connections frames nodes before = .error .recursionError) ∧
        walkAll connections fuel nodes before ≤ fuel := by
  intro nodes
  induction nodes with
  | nil => exact fun before _ _ _ => ⟨⟨_, rfl⟩, Nat.zero_le _⟩
  | cons node rest ih =>
      intro before members known bound
      have membersRest : ∀ other ∈ rest, other.id ∈ ids :=
        fun other member => members other (List.mem_cons_of_mem _ member)
      unfold searchAll walkAll
      split
      · obtain ⟨result, progress, shallow⟩ := dfs_within targets fuel frames node.id
          { before with path := [] } (members _ List.mem_cons_self) known bound
        obtain ⟨resultRest, shallowRest⟩ := ih (walk connections fuel node.id
            { before with path := [] }).search membersRest
          (fun id member => by rw [progress.known]; exact known id member)
          (lt_of_le_of_lt (progress.unvisitedCount_le ids) bound)
        rw [result]
        generalize walk connections fuel node.id { before with path := [] } = walked at *
        by_cases fits : walked.depth ≤ frames
        · rw [Walk.within_ok fits]
          cases met : walked.found with
          | true => simpa [met, fits, bind, Except.bind] using shallow
          | false => simpa [met, fits, shallow, shallowRest, bind, Except.bind] using resultRest
        · rw [Walk.within_error fits]
          cases met : walked.found with
          | true => simpa [met, fits, bind, Except.bind] using shallow
          | false => simpa [met, fits, shallow, bind, Except.bind] using shallowRest
      · exact ih before membersRest known bound

theorem detectCircularDependenciesWithin_of_depth {frames : Nat} {nodes : List FlowNode}
    (targets : ∀ source target, Edge (edgesOf connections) source target →
      target ∈ nodes.map (·.id)) :
    (if searchDepth nodes connections ≤ frames then
      ∃ answer, detectCircularDependenciesWithin frames nodes connections = .ok answer
    else detectCircularDependenciesWithin frames nodes connections = .error .recursionError) ∧
      searchDepth nodes connections ≤ nodes.length + 1 := by
  refine searchAll_within targets nodes _ (fun node member => List.mem_map_of_mem member)
    (fun id member => by simpa [Search.initial] using member) ?_
  have all := List.countP_le_length
    (p := fun id => decide ((Search.initial nodes).visitState id = some Visit.unvisited))
    (l := nodes.map (·.id))
  simp only [List.length_map] at all
  exact Nat.lt_succ_of_le all

theorem detectCircularDependencies_total {nodes : List FlowNode}
    (targets : ∀ source target, Edge (edgesOf connections) source target →
      target ∈ nodes.map (·.id)) :
    ∃ answer, detectCircularDependencies nodes connections = .ok answer := by
  obtain ⟨answers, shallow⟩ := detectCircularDependenciesWithin_of_depth targets
  rwa [if_pos shallow] at answers

end Search

end CogniDQ.Flow.FlowValidator
