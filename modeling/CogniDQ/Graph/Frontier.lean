import CogniDQ.Graph.Acyclic
import Mathlib.Data.List.Nodup
import Mathlib.Data.List.Perm.Subperm
import Mathlib.Data.List.Chain

/-!
# Frontiers

A graph processed level by level: the vertices done so far and the frontier of
those whose last predecessor is done. Advancing the frontier keeps the two
exact, and a frontier that runs empty on an acyclic graph has reached everything.
-/

set_option autoImplicit false

namespace CogniDQ.Graph

variable {α : Type} [DecidableEq α]

/-- `done` and `current` together are the vertices with no edge from outside `done`. -/
structure Frontier (edges : List (α × α)) (vertices done current : List α) : Prop where
  nodup : (done ++ current).Nodup
  ready : ∀ vertex, vertex ∈ done ++ current ↔
    vertex ∈ vertices ∧ remaining edges done vertex = 0

namespace Frontier

variable {edges : List (α × α)} {vertices done current next : List α}

theorem nodup_current (frontier : Frontier edges vertices done current) : current.Nodup :=
  (List.nodup_append.mp frontier.nodup).2.1

theorem remaining_advance (frontier : Frontier edges vertices done current) (vertex : α) :
    remaining edges done vertex =
      remaining edges (done ++ current) vertex + arriving edges current vertex := by
  have disjoint := (List.nodup_append.mp frontier.nodup).2.2
  exact remaining_append fun value member inDone => disjoint value inDone value member rfl

theorem advance (frontier : Frontier edges vertices done current)
    (targets : ∀ source target, Edge edges source target → target ∈ vertices)
    (unique : next.Nodup)
    (exact : ∀ vertex, vertex ∈ next ↔
      remaining edges done vertex ≠ 0 ∧ remaining edges (done ++ current) vertex = 0) :
    Frontier edges vertices (done ++ current) next := by
  constructor
  · refine List.nodup_append.mpr ⟨frontier.nodup, unique, ?_⟩
    rintro old oldMember new newMember rfl
    exact ((exact old).mp newMember).1 ((frontier.ready old).mp oldMember).2
  · intro vertex
    have split := frontier.remaining_advance vertex
    rw [List.mem_append]
    constructor
    · rintro (old | new)
      · obtain ⟨member, none⟩ := (frontier.ready vertex).mp old
        exact ⟨member, by omega⟩
      · obtain ⟨some, none⟩ := (exact vertex).mp new
        refine ⟨?_, none⟩
        have arrives : arriving edges current vertex ≠ 0 := by omega
        obtain ⟨edge, member, rfl, _⟩ : ∃ edge ∈ edges, edge.2 = vertex ∧ edge.1 ∈ current := by
          by_contra absent
          push Not at absent
          refine arrives (arriving_eq_zero.mpr fun before inCurrent edge => ?_)
          exact absent _ edge rfl inCurrent
        exact targets edge.1 edge.2 member
    · rintro ⟨member, none⟩
      by_cases before : remaining edges done vertex = 0
      · exact .inl ((frontier.ready vertex).mpr ⟨member, before⟩)
      · exact .inr ((exact vertex).mpr ⟨before, none⟩)

theorem length_le (frontier : Frontier edges vertices done current) :
    (done ++ current).length ≤ vertices.length :=
  List.Subperm.length_le <| List.subperm_of_subset frontier.nodup
    fun vertex member => ((frontier.ready vertex).mp member).1

theorem covers (frontier : Frontier edges vertices done []) (acyclic : Acyclic edges)
    (sources : ∀ source target, Edge edges source target → source ∈ vertices) :
    ∀ vertex, vertex ∈ done ↔ vertex ∈ vertices := by
  have ready := frontier.ready
  simp only [List.append_nil] at ready
  intro vertex
  refine ⟨fun member => ((ready vertex).mp member).1, ?_⟩
  refine acyclic.closed_eq_all sources (fun other member predecessors => ?_) vertex
  exact (ready other).mpr ⟨member, remaining_eq_zero.mpr predecessors⟩

end Frontier

end CogniDQ.Graph

/-!
## Depths

How long the paths into a vertex are. The vertices that a graph processed level by level reaches in
one level are those of one depth, and a vertex that has a depth is on no cycle.
-/

namespace CogniDQ.Graph

variable {α : Type} {edges : List (α × α)} {vertex : α} {length : Nat}

inductive PathTo (edges : List (α × α)) : Nat → α → Prop where
  | start {vertex : α} : PathTo edges 0 vertex
  | extend {length : Nat} {before vertex : α} :
      PathTo edges length before → Edge edges before vertex → PathTo edges (length + 1) vertex

/-- The number of edges of the longest path that ends at the vertex. -/
structure Depth (edges : List (α × α)) (vertex : α) (length : Nat) : Prop where
  path : PathTo edges length vertex
  longest : ∀ other, PathTo edges other vertex → other ≤ length

theorem pathTo_succ_iff :
    PathTo edges (length + 1) vertex ↔
      ∃ before, PathTo edges length before ∧ Edge edges before vertex := by
  constructor
  · intro path
    cases path with
    | extend earlier edge => exact ⟨_, earlier, edge⟩
  · rintro ⟨before, earlier, edge⟩
    exact .extend earlier edge

theorem PathTo.tail (path : PathTo edges (length + 1) vertex) : PathTo edges length vertex := by
  induction length generalizing vertex with
  | zero => exact .start
  | succ length ih =>
      obtain ⟨before, earlier, edge⟩ := pathTo_succ_iff.mp path
      exact .extend (ih earlier) edge

theorem PathTo.shorten {shorter : Nat} (path : PathTo edges length vertex)
    (bound : shorter ≤ length) : PathTo edges shorter vertex := by
  induction bound with
  | refl => exact path
  | step _ ih => exact ih path.tail

theorem depth_iff :
    Depth edges vertex length ↔
      PathTo edges length vertex ∧ ¬PathTo edges (length + 1) vertex := by
  constructor
  · intro depth
    refine ⟨depth.path, fun longer => ?_⟩
    have bound := depth.longest _ longer
    omega
  · rintro ⟨path, noLonger⟩
    refine ⟨path, fun other longer => ?_⟩
    by_contra beyond
    exact noLonger (longer.shorten (by omega))

theorem PathTo.trans {target : α} (path : PathTo edges length vertex)
    (reaches : Relation.TransGen (Edge edges) vertex target) :
    ∃ longer, length < longer ∧ PathTo edges longer target := by
  induction reaches with
  | single edge => exact ⟨length + 1, Nat.lt_succ_self _, .extend path edge⟩
  | tail _ edge ih =>
      obtain ⟨reached, bound, earlier⟩ := ih
      exact ⟨reached + 1, Nat.lt_succ_of_lt bound, .extend earlier edge⟩

theorem Depth.lt {target : α} {deeper : Nat} (depth : Depth edges vertex length)
    (targetDepth : Depth edges target deeper)
    (reaches : Relation.TransGen (Edge edges) vertex target) : length < deeper := by
  obtain ⟨longer, bound, path⟩ := depth.path.trans reaches
  exact lt_of_lt_of_le bound (targetDepth.longest longer path)

theorem Depth.no_loop (depth : Depth edges vertex length) :
    ¬Relation.TransGen (Edge edges) vertex vertex :=
  fun loop => lt_irrefl length (depth.lt depth loop)

namespace Frontier

variable [DecidableEq α] {vertices done current : List α}

/-- With a frontier, what is done and what comes next have no longer path to them. -/
theorem mem_reached (frontier : Frontier edges vertices done current)
    (sources : ∀ source target, Edge edges source target → source ∈ vertices)
    (reached : ∀ vertex ∈ vertices, vertex ∈ done ↔ ¬PathTo edges length vertex)
    (member : vertex ∈ vertices) :
    vertex ∈ done ++ current ↔ ¬PathTo edges (length + 1) vertex := by
  rw [frontier.ready, pathTo_succ_iff, remaining_eq_zero]
  constructor
  · rintro ⟨_, predecessors⟩ ⟨before, path, edge⟩
    exact (reached before (sources _ _ edge)).mp (predecessors before edge) path
  · intro none
    refine ⟨member, fun before edge => ?_⟩
    exact (reached before (sources _ _ edge)).mpr fun path => none ⟨before, path, edge⟩

theorem depth_of_mem (frontier : Frontier edges vertices done current)
    (sources : ∀ source target, Edge edges source target → source ∈ vertices)
    (reached : ∀ vertex ∈ vertices, vertex ∈ done ↔ ¬PathTo edges length vertex)
    (member : vertex ∈ current) : Depth edges vertex length := by
  have listed : vertex ∈ done ++ current := List.mem_append_right _ member
  have known : vertex ∈ vertices := ((frontier.ready vertex).mp listed).1
  have fresh : vertex ∉ done := fun earlier =>
    (List.nodup_append.mp frontier.nodup).2.2 vertex earlier vertex member rfl
  refine depth_iff.mpr ⟨?_, (frontier.mem_reached sources reached known).mp listed⟩
  by_contra none
  exact fresh ((reached vertex known).mpr none)

end Frontier

end CogniDQ.Graph

/-!
## Cycles

A closed walk is what a search finds on a graph that is not acyclic. A queue finds out otherwise: it
never reaches a vertex on a cycle, so a queue that reaches every vertex has seen none.
-/

namespace CogniDQ.Graph

variable {α : Type} {edges : List (α × α)}

/-- Each vertex of the walk leads to the next one, and the last to the first. -/
def ClosedWalk (edges : List (α × α)) (walk : List α) : Prop :=
  ∃ first rest, walk = first :: rest ∧ (walk ++ [first]).IsChain (Edge edges)

theorem transGen_of_isChain {relation : α → α → Prop} {first last : α} {middle : List α}
    (chain : (first :: middle ++ [last]).IsChain relation) :
    Relation.TransGen relation first last := by
  induction middle generalizing first with
  | nil => exact .single (List.isChain_cons_cons.mp chain).1
  | cons next middle ih =>
      obtain ⟨edge, rest⟩ := List.isChain_cons_cons.mp chain
      exact .head edge (ih rest)

theorem ClosedWalk.not_acyclic {walk : List α} (closed : ClosedWalk edges walk) :
    ¬Acyclic edges := by
  intro acyclic
  obtain ⟨first, rest, rfl, chain⟩ := closed
  exact acyclic first (transGen_of_isChain chain)

theorem closedWalk_drop [DecidableEq α] {path : List α} {vertex : α}
    (chain : (path ++ [vertex]).IsChain (Edge edges)) (visited : vertex ∈ path) :
    ClosedWalk edges (path.drop (path.idxOf vertex)) := by
  have bound : path.idxOf vertex < path.length := List.idxOf_lt_length_of_mem visited
  have starts : path.drop (path.idxOf vertex) =
      vertex :: path.drop (path.idxOf vertex + 1) := by
    rw [List.drop_eq_getElem_cons bound, List.getElem_idxOf]
  refine ⟨vertex, _, starts, ?_⟩
  rw [← List.take_append_drop (path.idxOf vertex) path, List.append_assoc] at chain
  exact chain.right_of_append

theorem acyclic_of_loopless {vertices : List α}
    (sources : ∀ source target, Edge edges source target → source ∈ vertices)
    (loopless : ∀ vertex ∈ vertices, ¬Relation.TransGen (Edge edges) vertex vertex) :
    Acyclic edges := by
  intro vertex loop
  obtain ⟨next, edge⟩ : ∃ next, Edge edges vertex next := by
    cases loop using Relation.TransGen.head_induction_on with
    | single edge => exact ⟨_, edge⟩
    | head edge _ => exact ⟨_, edge⟩
  exact loopless vertex (sources _ _ edge) loop

section Remaining

variable [DecidableEq α] {part : List α} {vertex : α}

theorem loopless_of_remaining
    (loopless : ∀ before ∈ part, ¬Relation.TransGen (Edge edges) before before)
    (none : remaining edges part vertex = 0) : ¬Relation.TransGen (Edge edges) vertex vertex := by
  intro loop
  obtain ⟨before, reached, edge⟩ := Relation.TransGen.tail'_iff.mp loop
  have earlier : before ∈ part := remaining_eq_zero.mp none before edge
  exact loopless before earlier (Relation.TransGen.head'_iff.mpr ⟨vertex, edge, reached⟩)

end Remaining

namespace Frontier

variable [DecidableEq α] {vertices done front back next : List α}

theorem advanceFront (frontier : Frontier edges vertices done (front ++ back))
    (targets : ∀ source target, Edge edges source target → target ∈ vertices)
    (unique : next.Nodup)
    (exact : ∀ vertex, vertex ∈ next ↔
      remaining edges done vertex ≠ 0 ∧ remaining edges (done ++ front) vertex = 0) :
    Frontier edges vertices (done ++ front) (back ++ next) := by
  have split : ∀ vertex, remaining edges done vertex =
      remaining edges (done ++ front) vertex + arriving edges front vertex := by
    intro vertex
    have disjoint := (List.nodup_append.mp frontier.nodup).2.2
    exact remaining_append fun value inFront inDone =>
      disjoint value inDone value (List.mem_append_left _ inFront) rfl
  have same : (done ++ front) ++ (back ++ next) = (done ++ (front ++ back)) ++ next := by
    simp only [List.append_assoc]
  constructor
  · rw [same]
    refine List.nodup_append.mpr ⟨frontier.nodup, unique, ?_⟩
    rintro old oldMember new newMember rfl
    exact ((exact old).mp newMember).1 ((frontier.ready old).mp oldMember).2
  · intro vertex
    rw [same, List.mem_append]
    have fewer := split vertex
    constructor
    · rintro (old | new)
      · obtain ⟨member, none⟩ := (frontier.ready vertex).mp old
        exact ⟨member, by omega⟩
      · obtain ⟨some, none⟩ := (exact vertex).mp new
        refine ⟨?_, none⟩
        have arrives : arriving edges front vertex ≠ 0 := by omega
        rw [ne_eq, arriving_eq_zero] at arrives
        push Not at arrives
        obtain ⟨before, _, edge⟩ := arrives
        exact targets before vertex edge
    · rintro ⟨member, none⟩
      by_cases before : remaining edges done vertex = 0
      · exact .inl ((frontier.ready vertex).mpr ⟨member, before⟩)
      · exact .inr ((exact vertex).mpr ⟨before, none⟩)

theorem loopless_advance {current : List α}
    (frontier : Frontier edges vertices (done ++ front) current)
    (loopless : ∀ vertex ∈ done ++ front, ¬Relation.TransGen (Edge edges) vertex vertex) :
    ∀ vertex ∈ done ++ front ++ current, ¬Relation.TransGen (Edge edges) vertex vertex :=
  fun vertex member => loopless_of_remaining loopless ((frontier.ready vertex).mp member).2

end Frontier

end CogniDQ.Graph
