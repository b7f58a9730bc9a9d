import CogniDQ.Sql.Predicate

/-!
# Figures of a whole table

What a query without GROUP BY makes of its rows by COUNT, MAX and SUM, and the conditions on these.
A MAX over no values and a SUM over no rows are NULL.
-/

set_option autoImplicit false

namespace CogniDQ.Sql

open CogniDQ.Python

inductive Case where
  | predicate (condition : Predicate)
  | between (operand : Expr) (low high : Nat)
  | notBetween (operand : Expr) (low high : Nat)

/-- `COUNT(*)`, or a number. -/
inductive Size where
  | rows
  | constant (value : Nat)

inductive Figure where
  | size (extent : Size)
  | whole (value : Int)
  | greatest (operand : Expr)
  | unary (before after : String) (operand : Figure)

inductive Verdict where
  | compare (comparison : Comparison) (left right : Figure)
  | and (left right : Verdict)
  | or (left right : Verdict)

inductive Count where
  | size (extent : Size)
  | sum (case : Case)
  | choice (verdict : Verdict) (counted : Size)

def betweenPhrase (operand : Expr) (low high : Nat) : Phrase :=
  "(" ++ operand.phrase ++ " BETWEEN " ++ Phrase.ofText (toString low) ++ " AND " ++
    Phrase.ofText (toString high) ++ ")"

def Case.phrase : Case → Phrase
  | .predicate condition => condition.phrase
  | .between operand low high => betweenPhrase operand low high
  | .notBetween operand low high => "NOT " ++ betweenPhrase operand low high

def Size.phrase : Size → Phrase
  | .rows => "COUNT(*)"
  | .constant value => Phrase.ofText (toString value)

def Figure.phrase : Figure → Phrase
  | .size extent => extent.phrase
  | .whole value => Phrase.ofText (toString value)
  | .greatest operand => "MAX(" ++ operand.phrase ++ ")"
  | .unary before after operand => Phrase.ofText before ++ operand.phrase ++ Phrase.ofText after

def Verdict.phrase : Verdict → Phrase
  | .compare comparison left right =>
      left.phrase ++ Phrase.ofText (" " ++ comparison.operator ++ " ") ++ right.phrase
  | .and left right => left.phrase ++ " AND " ++ right.phrase
  | .or left right => left.phrase ++ " OR " ++ right.phrase

def Count.phrase : Count → Phrase
  | .size extent => extent.phrase
  | .sum case => "SUM(CASE WHEN " ++ case.phrase ++ " THEN 1 ELSE 0 END)"
  | .choice verdict counted =>
      "CASE WHEN " ++ verdict.phrase ++ " THEN " ++ counted.phrase ++ " ELSE 0 END"

section Values

variable {Row V : Type} (engine : Engine Row V)

def betweenEval (row : Row) (operand : Expr) (low high : Nat) : Ternary :=
  (Comparison.greaterEqual.eval engine row operand (.whole low)).and
    (Comparison.lessEqual.eval engine row operand (.whole high))

def Case.eval (row : Row) : Case → Ternary
  | .predicate condition => condition.eval engine row
  | .between operand low high => betweenEval engine row operand low high
  | .notBetween operand low high => (betweenEval engine row operand low high).not

def Case.holds (case : Case) (row : Row) : Bool := case.eval engine row == some true

def Size.value (rows : List Row) : Size → Nat
  | .rows => rows.length
  | .constant value => value

def Engine.maximum : List V → Option V
  | [] => none
  | first :: rest =>
      some (rest.foldl (fun best value => if engine.less best value then value else best) first)

def Figure.eval (rows : List Row) : Figure → Option V
  | .size extent => some (engine.whole (extent.value rows))
  | .whole value => some (engine.whole value)
  | .greatest operand => engine.maximum (rows.filterMap (operand.eval engine))
  | .unary before after operand => (operand.eval rows).map (engine.unary before after)

def Verdict.eval (rows : List Row) : Verdict → Ternary
  | .compare comparison left right =>
      (left.eval engine rows).bind fun first =>
        (right.eval engine rows).map fun second => comparison.holds engine first second
  | .and left right => (left.eval rows).and (right.eval rows)
  | .or left right => (left.eval rows).or (right.eval rows)

def Count.value (rows : List Row) : Count → Option Nat
  | .size extent => some (extent.value rows)
  | .sum case => if rows.isEmpty then none else some (rows.countP (case.holds engine))
  | .choice verdict counted =>
      some (if verdict.eval engine rows = some true then counted.value rows else 0)

def Count.counts (row : Row) : Count → Bool
  | .sum case => case.holds engine row
  | _ => false

variable {engine}

theorem Case.holds_between {operand : Expr} {low high : Nat} {row : Row} :
    (Case.between operand low high).holds engine row =
      (betweenEval engine row operand low high == some true) := rfl

theorem Case.holds_notBetween {operand : Expr} {low high : Nat} {row : Row} :
    (Case.notBetween operand low high).holds engine row =
      ((betweenEval engine row operand low high).not == some true) := rfl

theorem betweenEval_of_some {row : Row} {operand : Expr} {low high : Nat} {value : V}
    (found : operand.eval engine row = some value) :
    betweenEval engine row operand low high =
      some (!engine.less value (engine.whole low) && !engine.less (engine.whole high) value) := by
  unfold betweenEval Comparison.eval
  rw [found]
  change Ternary.and (some !engine.less value (engine.whole low))
    (some !engine.less (engine.whole high) value) = _
  cases engine.less value (engine.whole low) <;> cases engine.less (engine.whole high) value <;> rfl

theorem betweenEval_of_none {row : Row} {operand : Expr} {low high : Nat}
    (missing : operand.eval engine row = none) : betweenEval engine row operand low high = none := by
  unfold betweenEval Comparison.eval
  rw [missing]
  rfl

theorem Figure.greatest_isNone {operand : Expr} {rows : List Row} :
    (Figure.greatest operand).eval engine rows = none ↔
      ∀ row ∈ rows, operand.isNull engine row = true := by
  have empty : (Figure.greatest operand).eval engine rows = none ↔
      rows.filterMap (operand.eval engine) = [] := by
    unfold eval Engine.maximum
    split <;> simp [*]
  simp only [empty, List.filterMap_eq_nil_iff, Expr.isNull, Option.isNone_iff_eq_none]

theorem Figure.isNone_unary {before after : String} {operand : Figure} {rows : List Row} :
    (Figure.unary before after operand).eval engine rows = none ↔
      operand.eval engine rows = none :=
  Option.map_eq_none_iff

/-- Two sums over conditions that exclude each other add up to the number of the rows exactly if
there are rows, and each meets one of the conditions. -/
theorem Count.sums_add_up_iff {first second : Case} {rows : List Row}
    (exclusive : ∀ row ∈ rows, ¬(first.holds engine row = true ∧ second.holds engine row = true)) :
    (∃ left right, (Count.sum first).value engine rows = some left ∧
      (Count.sum second).value engine rows = some right ∧ left + right = rows.length) ↔
      rows ≠ [] ∧ ∀ row ∈ rows, first.holds engine row = true ∨ second.holds engine row = true := by
  rw [← countP_add_eq_length_iff exclusive]
  cases rows with
  | nil => simp [value]
  | cons row rows => simp [value]

theorem Verdict.compare_of_none {comparison : Comparison} {left right : Figure} {rows : List Row}
    (missing : left.eval engine rows = none) :
    (Verdict.compare comparison left right).eval engine rows = none := by
  rw [eval, missing]
  rfl

end Values

end CogniDQ.Sql
