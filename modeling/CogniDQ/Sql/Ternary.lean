import Mathlib.Algebra.BigOperators.Group.List.Basic
import Mathlib.Data.List.Dedup
import Mathlib.Algebra.GroupWithZero.Nat

/-!
# Three-valued logic and grouping

The truth values of SQL conditions, with nothing for UNKNOWN, and what it takes for
two conditions to divide the rows of a table: over the whole table, and over the
groups of a GROUP BY.
-/

set_option autoImplicit false

namespace CogniDQ.Sql

/-- TRUE, FALSE, or UNKNOWN. -/
abbrev Ternary : Type := Option Bool

namespace Ternary

def not (value : Ternary) : Ternary := value.map (!·)

def and : Ternary → Ternary → Ternary
  | some false, _ => some false
  | _, some false => some false
  | some true, some true => some true
  | _, _ => none

def or (left right : Ternary) : Ternary := (left.not.and right.not).not

def all (values : List Ternary) : Ternary := values.foldr and (some true)

def any (values : List Ternary) : Ternary := values.foldr or (some false)

@[simp] theorem not_not (value : Ternary) : value.not.not = value := by
  rcases value with _ | _ | _ <;> rfl

@[simp] theorem and_true (value : Ternary) : value.and (some true) = value := by
  rcases value with _ | _ | _ <;> rfl

theorem and_eq_true {left right : Ternary} :
    left.and right = some true ↔ left = some true ∧ right = some true := by
  rcases left with _ | _ | _ <;> rcases right with _ | _ | _ <;> simp [and]

theorem or_eq_true {left right : Ternary} :
    left.or right = some true ↔ left = some true ∨ right = some true := by
  rcases left with _ | _ | _ <;> rcases right with _ | _ | _ <;> simp [or, and, not]

theorem all_eq_true {values : List Ternary} :
    all values = some true ↔ ∀ value ∈ values, value = some true := by
  induction values with
  | nil => simp [all]
  | cons value values ih =>
      have tail : all (value :: values) = value.and (all values) := rfl
      simp [tail, and_eq_true, ih]

theorem any_eq_true {values : List Ternary} :
    any values = some true ↔ some true ∈ values := by
  induction values with
  | nil => simp [any]
  | cons value values ih =>
      have tail : any (value :: values) = value.or (any values) := rfl
      rw [tail, or_eq_true, ih, List.mem_cons, eq_comm]

theorem not_all (values : List Ternary) : (all values).not = any (values.map not) := by
  induction values with
  | nil => rfl
  | cons value values ih =>
      have head : all (value :: values) = value.and (all values) := rfl
      have tail : any ((value :: values).map not) = value.not.or (any (values.map not)) := rfl
      rw [head, tail, ← ih]
      simp [or]

/-- A conjunction in which a false condition stands before every unknown one is not
unknown. -/
theorem and_ne_none {left right : Ternary} (definite : left ≠ none)
    (guarded : left = some true → right ≠ none) : left.and right ≠ none := by
  rcases left with _ | _ | _
  · exact absurd rfl definite
  · simp [and]
  · have known := guarded rfl
    rcases right with _ | _ | _ <;> simp_all [and]

theorem isSome_and {left right : Ternary} {known : Bool} (first : left.isSome = known)
    (second : right.isSome = known) : (left.and right).isSome = known := by
  rcases left with _ | _ | _ <;> rcases right with _ | _ | _ <;> simp_all [and]

theorem all_ne_none {values : List Ternary} (definite : ∀ value ∈ values, value ≠ none) :
    all values ≠ none := by
  induction values with
  | nil => simp [all]
  | cons value values ih =>
      exact and_ne_none (definite value List.mem_cons_self) fun _ =>
        ih fun other member => definite other (List.mem_cons_of_mem _ member)

theorem all_map_some {α : Type} (values : List α) (test : α → Bool) :
    all (values.map fun value => some (test value)) = some (values.all test) := by
  induction values with
  | nil => rfl
  | cons value values ih =>
      have head : all ((value :: values).map fun value => some (test value)) =
          and (some (test value)) (all (values.map fun value => some (test value))) := rfl
      rw [head, ih, List.all_cons]
      cases test value <;> cases values.all test <;> rfl

end Ternary

section Grouping

variable {α κ : Type} [DecidableEq κ]

def groupRows (key : α → κ) (rows : List α) : List (List α) :=
  (rows.map key).dedup.map fun k => rows.filter fun row => decide (key row = k)

private theorem sum_indicator {keys : List κ} (unique : keys.Nodup) {k : κ} (member : k ∈ keys)
    (amount : Nat) : (keys.map fun other => if k = other then amount else 0).sum = amount := by
  induction keys with
  | nil => cases member
  | cons first keys ih =>
      obtain ⟨fresh, unique⟩ := List.nodup_cons.mp unique
      rw [List.map_cons, List.sum_cons]
      by_cases same : k = first
      · subst same
        have none : (keys.map fun other => if k = other then amount else 0).sum = 0 := by
          refine List.sum_eq_zero fun value inside => ?_
          obtain ⟨other, later, rfl⟩ := List.mem_map.mp inside
          have different : k ≠ other := fun equal => fresh (equal ▸ later)
          simp [different]
        simp [none]
      · have later := (List.mem_cons.mp member).resolve_left same
        simp [same, ih unique later]

theorem sum_countP_groups (key : α → κ) (p : α → Bool) {rows : List α} {keys : List κ}
    (unique : keys.Nodup) (covers : ∀ row ∈ rows, key row ∈ keys) :
    (keys.map fun k => (rows.filter fun row => decide (key row = k)).countP p).sum =
      rows.countP p := by
  induction rows with
  | nil => simp
  | cons row rows ih =>
      have rest := ih fun other member => covers other (List.mem_cons_of_mem _ member)
      have split : ∀ k, (((row :: rows).filter fun row => decide (key row = k)).countP p) =
          ((rows.filter fun row => decide (key row = k)).countP p) +
            (if key row = k then (if p row then 1 else 0) else 0) := by
        intro k
        by_cases same : key row = k <;> simp [same, List.countP_cons]
      simp only [split, List.sum_map_add, rest,
        sum_indicator unique (covers row List.mem_cons_self), List.countP_cons]

theorem sum_countP_groupRows (key : α → κ) (p : α → Bool) (rows : List α) :
    ((groupRows key rows).map (List.countP p)).sum = rows.countP p := by
  rw [groupRows, List.map_map]
  exact sum_countP_groups key p (List.nodup_dedup _) fun row member =>
    List.mem_dedup.mpr (List.mem_map_of_mem member)

end Grouping

end CogniDQ.Sql
