import CogniDQ.Sql.Predicate

/-!
# Conditions on two sides

A query that counts the rows that meet a comparison and the rows that do not has two
conditions for it. Which rows fall between them depends on what the comparison needs,
and on what stands around it for NULLs.
-/

set_option autoImplicit false

namespace CogniDQ.Sql

/-- What has to be there for a comparison to be known. -/
inductive Need where
  | value (operand : Expr)
  | condition (predicate : Predicate)
deriving DecidableEq, Repr

/-- What the two conditions do where the comparison is unknown: nothing, count the row
as passing, let the NULL of an operand pass, or not depend on it. -/
inductive Cover where
  | plain
  | coalesced
  | guarded (operand : Expr)
  | settled (operand : Expr) (passes : Bool)
deriving DecidableEq, Repr

def Cover.lenient : Cover → Bool
  | .plain => false
  | .coalesced => true
  | .guarded _ => true
  | .settled _ passes => passes

/-- The conditions of the two sides, with what decides between them. -/
structure Sides where
  passing : Predicate
  failing : Predicate
  needs : List Need
  cover : Cover

section Rows

variable {Row V : Type} (engine : Engine Row V) (row : Row)

def Need.met : Need → Bool
  | .value operand => !operand.isNull engine row
  | .condition predicate => (predicate.eval engine row).isSome

def allMet (needs : List Need) : Bool := needs.all (Need.met engine row)

variable (sides : Sides)

def Sides.passes : Bool := sides.passing.holds engine row

def Sides.fails : Bool := sides.failing.holds engine row

def Sides.decided : Bool :=
  match sides.cover with
  | .plain => allMet engine row sides.needs
  | .coalesced => true
  | .guarded operand => operand.isNull engine row || allMet engine row sides.needs
  | .settled _ _ => true

def Sides.lacks : Bool :=
  match sides.cover with
  | .settled operand _ => operand.isNull engine row
  | _ => !allMet engine row sides.needs

end Rows

section Covering

variable {Row V : Type} {engine : Engine Row V}

/-- The two conditions are made of one comparison as the cover says. -/
inductive Sides.Made (engine : Engine Row V) : Sides → Prop where
  | plain {passing failing : Predicate} {needs : List Need} (compared : Row → Ternary)
      (known : ∀ row, (compared row).isSome = allMet engine row needs)
      (passes : ∀ row, passing.eval engine row = compared row)
      (fails : ∀ row, failing.eval engine row = (compared row).not) :
      Made engine ⟨passing, failing, needs, .plain⟩
  | coalesced {passing failing : Predicate} {needs : List Need} (compared : Row → Ternary)
      (known : ∀ row, (compared row).isSome = allMet engine row needs)
      (passes : ∀ row, passing.eval engine row = some ((compared row).getD true))
      (fails : ∀ row, failing.eval engine row = some (!(compared row).getD true)) :
      Made engine ⟨passing, failing, needs, .coalesced⟩
  | guarded {passing failing : Predicate} {needs : List Need} {operand : Expr}
      (compared : Row → Ternary)
      (known : ∀ row, (compared row).isSome = allMet engine row needs)
      (passes : ∀ row, passing.eval engine row =
        Ternary.or (some (operand.isNull engine row)) (compared row))
      (fails : ∀ row, failing.eval engine row =
        Ternary.and (some !operand.isNull engine row) (compared row).not) :
      Made engine ⟨passing, failing, needs, .guarded operand⟩
  | settled {passing failing : Predicate} {needs : List Need} {operand : Expr} {settles : Bool}
      (definite : ∀ row, ∃ verdict,
        passing.eval engine row = some verdict ∧ failing.eval engine row = some !verdict)
      (absent : ∀ row, operand.isNull engine row = true → passing.eval engine row = some settles) :
      Made engine ⟨passing, failing, needs, .settled operand settles⟩

variable {sides : Sides}

theorem Sides.Made.apart (made : sides.Made engine) (row : Row) :
    ¬ (sides.passes engine row = true ∧ sides.fails engine row = true) := by
  unfold passes fails Predicate.holds
  cases made with
  | plain compared known passes fails =>
      rw [passes, fails]
      rcases compared row with _ | _ | _ <;> simp [Ternary.not]
  | coalesced compared known passes fails =>
      rw [passes, fails]
      rcases compared row with _ | _ | _ <;> simp
  | guarded compared known passes fails =>
      rw [passes, fails]
      rename_i operand
      rcases compared row with _ | _ | _ <;> cases operand.isNull engine row <;>
        simp [Ternary.not, Ternary.or, Ternary.and]
  | settled definite absent =>
      obtain ⟨verdict, passes, fails⟩ := definite row
      rw [passes, fails]
      cases verdict <;> simp

theorem Sides.Made.decided_iff (made : sides.Made engine) (row : Row) :
    sides.decided engine row = true ↔ sides.passes engine row = true ∨ sides.fails engine row = true := by
  unfold passes fails Predicate.holds decided
  cases made with
  | plain compared known passes fails =>
      rw [passes, fails]
      dsimp only
      rw [← known]
      rcases compared row with _ | _ | _ <;> simp [Ternary.not]
  | coalesced compared known passes fails =>
      rw [passes, fails]
      rcases compared row with _ | _ | _ <;> simp
  | guarded compared known passes fails =>
      rename_i operand
      rw [passes, fails]
      dsimp only
      rw [← known]
      rcases compared row with _ | _ | _ <;> cases operand.isNull engine row <;>
        simp [Ternary.not, Ternary.or, Ternary.and]
  | settled definite absent =>
      obtain ⟨verdict, passes, fails⟩ := definite row
      rw [passes, fails]
      cases verdict <;> simp

theorem Sides.Made.side_of_lacks (made : sides.Made engine) {row : Row}
    (decided : sides.decided engine row = true) (lacking : sides.lacks engine row = true) :
    (if sides.cover.lenient then sides.passes engine row else sides.fails engine row) = true := by
  unfold Sides.decided at decided
  unfold lacks at lacking
  cases made with
  | plain compared known passes fails =>
      simp only [Bool.not_eq_true'] at lacking
      rw [lacking] at decided
      cases decided
  | coalesced compared known passes fails =>
      simp only [Bool.not_eq_true', ← known] at lacking
      simp only [Cover.lenient, if_true, Sides.passes, Predicate.holds, passes]
      rcases found : compared row with _ | _ | _ <;> simp_all
  | guarded compared known passes fails =>
      simp only [Bool.not_eq_true'] at lacking
      simp only [lacking, Bool.or_false] at decided
      simp only [Cover.lenient, if_true, Sides.passes, Predicate.holds, passes, decided]
      rcases compared row with _ | _ | _ <;> rfl
  | settled definite absent =>
      rename_i operand settles
      obtain ⟨verdict, passes, fails⟩ := definite row
      have settled := absent row lacking
      simp only [Cover.lenient, Sides.passes, Sides.fails, Predicate.holds]
      rw [passes] at settled ⊢
      obtain rfl := Option.some.inj settled
      rw [fails]
      cases verdict <;> rfl

/-- The rows are divided between the sides, those that lack something as they are meant
to be. -/
structure Sides.CountsOnce (engine : Engine Row V) (sides : Sides) (rows : List Row) : Prop where
  once : ∀ row ∈ rows, sides.passes engine row = !sides.fails engine row
  sum : rows.countP (sides.passes engine) + rows.countP (sides.fails engine) = rows.length
  lacking : ∀ row ∈ rows, sides.lacks engine row = true →
    (if sides.cover.lenient then sides.passes engine row else sides.fails engine row) = true

/-- The counts add up exactly if every row is decided, and then each row is counted
where it belongs. -/
theorem Sides.Made.countsOnce_iff (made : sides.Made engine) (rows : List Row) :
    sides.CountsOnce engine rows ↔ ∀ row ∈ rows, sides.decided engine row = true := by
  have summed := countP_add_eq_length_iff fun row (_ : row ∈ rows) => made.apart row
  constructor
  · intro counts row member
    exact (made.decided_iff row).mpr (summed.mp counts.sum row member)
  · intro decided
    refine ⟨fun row member => ?_, summed.mpr fun row member => ?_, fun row member lacking => ?_⟩
    · have apart := made.apart row
      have side := (made.decided_iff row).mp (decided row member)
      cases passes : sides.passes engine row <;> cases fails : sides.fails engine row <;> simp_all
    · exact (made.decided_iff row).mp (decided row member)
    · exact made.side_of_lacks (decided row member) lacking

end Covering

end CogniDQ.Sql
