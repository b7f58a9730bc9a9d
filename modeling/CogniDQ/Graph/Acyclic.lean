import Mathlib.Data.Fintype.EquivFin
import Mathlib.Data.Set.Finite.Basic
import Mathlib.Data.List.Count
import Mathlib.Logic.Relation
import Mathlib.Order.WellFounded

/-!
# Acyclic finite graphs

A directed multigraph is the list of its edges. The facts here are the ones a
scheduler rests on: a finite acyclic graph has a source in every nonempty set of
vertices, so a set that takes in each vertex whose predecessors it holds is
everything.
-/

set_option autoImplicit false

namespace CogniDQ.Graph

variable {α : Type}

/-- One step along an edge. -/
def Edge (edges : List (α × α)) (source target : α) : Prop := (source, target) ∈ edges

/-- No vertex reaches itself by a nonempty path. -/
def Acyclic (edges : List (α × α)) : Prop :=
  ∀ vertex, ¬ Relation.TransGen (Edge edges) vertex vertex

theorem Acyclic.exists_source {edges : List (α × α)} (acyclic : Acyclic edges)
    {vertices : List α} (nonempty : vertices ≠ []) :
    ∃ vertex ∈ vertices, ∀ before ∈ vertices, ¬ Edge edges before vertex := by
  let Member := { vertex // vertex ∈ vertices }
  let reaches : Member → Member → Prop :=
    fun source target => Relation.TransGen (Edge edges) source.1 target.1
  have : Finite Member := (List.finite_toSet vertices).to_subtype
  have : IsTrans Member reaches := ⟨fun _ _ _ left right => left.trans right⟩
  have : Std.Irrefl reaches := ⟨fun vertex loop => acyclic vertex.1 loop⟩
  have founded : WellFounded reaches := Finite.wellFounded_of_trans_of_irrefl reaches
  obtain ⟨first, firstMember⟩ := List.exists_mem_of_ne_nil vertices nonempty
  obtain ⟨source, _, minimal⟩ :=
    founded.has_min Set.univ ⟨(⟨first, firstMember⟩ : Member), trivial⟩
  refine ⟨source.1, source.2, fun before member edge => ?_⟩
  exact minimal ⟨before, member⟩ trivial (.single edge)

/-- A part of the vertices that contains each vertex whose predecessors all lie
in it contains every vertex. -/
theorem Acyclic.closed_eq_all [DecidableEq α] {edges : List (α × α)}
    (acyclic : Acyclic edges) {vertices part : List α}
    (endpoints : ∀ source target, Edge edges source target → source ∈ vertices)
    (closed : ∀ vertex ∈ vertices,
      (∀ before, Edge edges before vertex → before ∈ part) → vertex ∈ part) :
    ∀ vertex ∈ vertices, vertex ∈ part := by
  by_contra missing
  push Not at missing
  obtain ⟨absent, absentMember, absentOut⟩ := missing
  have nonempty : vertices.filter (· ∉ part) ≠ [] := by
    intro empty
    have excluded := List.filter_eq_nil_iff.mp empty absent absentMember
    simp [absentOut] at excluded
  obtain ⟨source, sourceMember, minimal⟩ := acyclic.exists_source nonempty
  simp only [List.mem_filter, decide_eq_true_eq] at sourceMember minimal
  refine sourceMember.2 (closed source sourceMember.1 fun before edge => ?_)
  by_contra outside
  exact minimal before ⟨endpoints _ _ edge, outside⟩ edge

/-- A set that is closed under successors and holds no vertex on a cycle keeps
both properties when a vertex outside it, whose successors it holds, is added. -/
theorem acyclic_part_insert {edges : List (α × α)} {part : α → Prop} {added : α}
    (forward : ∀ source target, part source → Edge edges source target → part target)
    (fresh : ¬ part added) (successors : ∀ target, Edge edges added target → part target) :
    ¬ Relation.TransGen (Edge edges) added added := by
  intro loop
  have stays : ∀ target, Relation.TransGen (Edge edges) added target → part target := by
    intro target path
    induction path with
    | single edge => exact successors _ edge
    | tail _ edge held => exact forward _ _ held edge
  exact fresh (stays added loop)

def remaining [DecidableEq α] (edges : List (α × α)) (part : List α) (vertex : α) : Nat :=
  edges.countP fun edge => edge.2 = vertex ∧ edge.1 ∉ part

def arriving [DecidableEq α] (edges : List (α × α)) (part : List α) (vertex : α) : Nat :=
  edges.countP fun edge => edge.2 = vertex ∧ edge.1 ∈ part

section Remaining

variable [DecidableEq α] {edges : List (α × α)} {part added : List α} {vertex : α}

theorem remaining_eq_zero :
    remaining edges part vertex = 0 ↔ ∀ before, Edge edges before vertex → before ∈ part := by
  simp only [remaining, List.countP_eq_zero, decide_eq_true_eq, not_and, not_not, Edge]
  constructor
  · intro none before edge
    exact none (before, vertex) edge rfl
  · rintro all ⟨before, target⟩ edge rfl
    exact all before edge

theorem arriving_eq_zero :
    arriving edges part vertex = 0 ↔ ∀ before ∈ part, ¬ Edge edges before vertex := by
  simp only [arriving, List.countP_eq_zero, decide_eq_true_eq, not_and, Edge]
  constructor
  · intro none before member edge
    exact none (before, vertex) edge rfl member
  · rintro all ⟨before, target⟩ edge rfl member
    exact all before member edge

theorem remaining_append (disjoint : ∀ value ∈ added, value ∉ part) :
    remaining edges part vertex =
      remaining edges (part ++ added) vertex + arriving edges added vertex := by
  unfold remaining arriving
  induction edges with
  | nil => rfl
  | cons edge rest ih =>
      simp only [List.countP_cons, ih]
      by_cases target : edge.2 = vertex
      · by_cases inPart : edge.1 ∈ part
        · have outside : edge.1 ∉ added := fun member => disjoint _ member inPart
          simp [target, inPart, outside]
        · by_cases inAdded : edge.1 ∈ added
          · simp [target, inPart, inAdded]
            omega
          · simp [target, inPart, inAdded]
            omega
      · simp [target]

theorem count_targets (unique : added.Nodup) :
    (added.flatMap fun source =>
      (edges.filter fun edge => edge.1 = source).map Prod.snd).count vertex =
      arriving edges added vertex := by
  induction added with
  | nil => simp [arriving]
  | cons source rest ih =>
      obtain ⟨fresh, uniqueRest⟩ := List.nodup_cons.mp unique
      rw [List.flatMap_cons, List.count_append, ih uniqueRest]
      unfold arriving
      have here : ((edges.filter fun edge => edge.1 = source).map Prod.snd).count vertex =
          edges.countP fun edge => edge.2 = vertex ∧ edge.1 = source := by
        rw [List.count, List.countP_map, List.countP_filter]
        congr 1
        funext edge
        simp [Bool.beq_eq_decide_eq]
      rw [here]
      clear ih here
      induction edges with
      | nil => rfl
      | cons edge others ih =>
          simp only [List.countP_cons, List.mem_cons]
          by_cases same : edge.1 = source
          · have outside : edge.1 ∉ rest := same ▸ fresh
            by_cases target : edge.2 = vertex <;> simp [same, fresh, target] at * <;> omega
          · by_cases target : edge.2 = vertex <;> by_cases member : edge.1 ∈ rest <;>
              simp [same, target, member] at * <;> omega

end Remaining

end CogniDQ.Graph
