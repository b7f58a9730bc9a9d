import CogniDQ.Python.Dynamic
import CogniDQ.Sql.Aggregate
import CogniDQ.Sql.Ternary

/-!
# Conditions on rows

SQL conditions as trees, with the text each is written as and its value on a row: how
NULL goes through expressions, comparisons and connectives. What a query counts is
decided by the conditions its COUNTs are applied to.
-/

set_option autoImplicit false

namespace CogniDQ.Sql

open CogniDQ.Python

/-! ## Expressions -/

/-- A column, behind the name of its relation where that is given. -/
structure ColumnRef where
  qualifier : String
  column : String
deriving DecidableEq, Repr

def ColumnRef.phrase (reference : ColumnRef) : Phrase :=
  if reference.qualifier = "" then name reference.column
  else Phrase.ofText (reference.qualifier ++ ".") ++ name reference.column

/-- A scalar expression. Functions and operators are known by the texts around their
operands. -/
inductive Expr where
  | column (reference : ColumnRef)
  | own (written : String)
  | literal (value written : String)
  | whole (value : Int)
  | raw (written : String)
  | formula (expression spliced : String)
  | paren (operand : Expr)
  | unary (before after : String) (operand : Expr)
  | binary (before between after : String) (left right : Expr)
  | nullIfZero (operand : Expr)
  | textOr (operand : Expr) (value : String)
deriving DecidableEq, Repr

/-- `"column"`, of the only relation. -/
def Expr.cell (column : String) : Expr := .column ⟨"", column⟩

def Expr.phrase : Expr → Phrase
  | .column reference => reference.phrase
  | .own written => Phrase.ofText written
  | .literal value written => Sql.literal value written
  | .whole value => Phrase.ofText (toString value)
  | .raw written => Sql.raw written
  | .formula expression spliced => "(" ++ ⟨[.fragment expression spliced]⟩ ++ ")"
  | .paren operand => "(" ++ operand.phrase ++ ")"
  | .unary before after operand => Phrase.ofText before ++ operand.phrase ++ Phrase.ofText after
  | .binary before between after left right =>
      Phrase.ofText before ++ left.phrase ++ Phrase.ofText between ++ right.phrase ++ Phrase.ofText after
  | .nullIfZero operand => "NULLIF(" ++ operand.phrase ++ ", 0)"
  | .textOr operand value =>
      "COALESCE(" ++ operand.phrase ++ "::text, " ++ Sql.literal value value ++ ")"

@[simp] theorem Expr.phrase_cell (column : String) : (Expr.cell column).phrase = name column := rfl

/-! ## Conditions -/

inductive Comparison where
  | regex
  | notRegex
  | equal
  | notEqual
  | less
  | lessEqual
  | greater
  | greaterEqual
deriving DecidableEq, Repr

namespace Comparison

def operator : Comparison → String
  | .regex => "~"
  | .notRegex => "!~"
  | .equal => "="
  | .notEqual => "!="
  | .less => "<"
  | .lessEqual => "<="
  | .greater => ">"
  | .greaterEqual => ">="

def negation : Comparison → Comparison
  | .regex => .notRegex
  | .notRegex => .regex
  | .equal => .notEqual
  | .notEqual => .equal
  | .less => .greaterEqual
  | .lessEqual => .greater
  | .greater => .lessEqual
  | .greaterEqual => .less

end Comparison

/-- A condition without connectives. The operator of `related` is any the user has
written, that of `chosen` one of a fixed list. -/
inductive Atomic where
  | isNull (operand : Expr)
  | isNotNull (operand : Expr)
  | ownIsNull (written : String)
  | ownIsNotNull (written : String)
  | compare (comparison : Comparison) (left right : Expr)
  | related (operator : String) (left right : Expr)
  | chosen (comparison : Comparison) (left right : Expr)
  | oneOf (operand : Expr) (values : List (String × String))
  | notOneOf (operand : Expr) (values : List (String × String))
  | supplied (expression : String)
deriving DecidableEq, Repr

inductive Predicate where
  | atom (atomic : Atomic)
  | paren (inner : Predicate)
  | not (inner : Predicate)
  | notParen (inner : Predicate)
  | and (left right : Predicate)
  | or (left right : Predicate)
  | eitherNull (left right : Expr)
  | orTrue (inner : Predicate)
  | notOrTrue (inner : Predicate)
  | nullOr (operand : Expr) (inner : Predicate)
  | notNullAnd (operand : Expr) (inner : Predicate)
deriving DecidableEq, Repr

def Predicate.allOf (first : Predicate) : List Predicate → Predicate
  | [] => first
  | next :: rest => .and first (allOf next rest)

def literalList (values : List (String × String)) : Phrase :=
  Phrase.join ", " (values.map fun value => literal value.1 value.2)

def Atomic.phrase : Atomic → Phrase
  | .isNull operand => operand.phrase ++ " IS NULL"
  | .isNotNull operand => operand.phrase ++ " IS NOT NULL"
  | .ownIsNull written => Phrase.ofText (written ++ " IS NULL")
  | .ownIsNotNull written => Phrase.ofText (written ++ " IS NOT NULL")
  | .compare comparison left right =>
      left.phrase ++ Phrase.ofText (" " ++ comparison.operator ++ " ") ++ right.phrase
  | .related operator left right =>
      left.phrase ++ " " ++ fragment operator ++ " " ++ right.phrase
  | .chosen comparison left right =>
      left.phrase ++ " " ++ fragment comparison.operator ++ " " ++ right.phrase
  | .oneOf operand values => operand.phrase ++ " IN (" ++ literalList values ++ ")"
  | .notOneOf operand values => operand.phrase ++ " NOT IN (" ++ literalList values ++ ")"
  | .supplied expression => fragment expression

def Predicate.phrase : Predicate → Phrase
  | .atom atomic => atomic.phrase
  | .paren inner => "(" ++ inner.phrase ++ ")"
  | .not inner => "NOT " ++ inner.phrase
  | .notParen inner => "NOT (" ++ inner.phrase ++ ")"
  | .and left right => left.phrase ++ " AND " ++ right.phrase
  | .or left right => left.phrase ++ " OR " ++ right.phrase
  | .eitherNull left right => "(" ++ left.phrase ++ " IS NULL OR " ++ right.phrase ++ " IS NULL)"
  | .orTrue inner => "COALESCE((" ++ inner.phrase ++ "), TRUE)"
  | .notOrTrue inner => "NOT COALESCE((" ++ inner.phrase ++ "), TRUE)"
  | .nullOr operand inner => "(" ++ operand.phrase ++ " IS NULL OR (" ++ inner.phrase ++ "))"
  | .notNullAnd operand inner => "(" ++ operand.phrase ++ " IS NOT NULL AND " ++ inner.phrase ++ ")"

theorem Predicate.phrase_allOf (first : Predicate) (rest : List Predicate) :
    (allOf first rest).phrase = Phrase.join " AND " ((first :: rest).map phrase) := by
  induction rest generalizing first with
  | nil => rfl
  | cons next rest ih =>
      have joined : (allOf first (next :: rest)).phrase =
          first.phrase ++ " AND " ++ (allOf next rest).phrase := rfl
      rw [joined, ih]
      rfl

/-- None of the columns is NULL: one condition, where there are columns. -/
def presence : List String → List Predicate
  | [] => []
  | first :: rest =>
      [.allOf (.atom (.isNotNull (.cell first))) (rest.map fun column => .atom (.isNotNull (.cell column)))]

theorem phrase_presence (first : String) (rest : List String) :
    (presence (first :: rest)).map Predicate.phrase =
      [Phrase.join " AND " ((first :: rest).map fun column => name column ++ " IS NOT NULL")] := by
  rw [presence, List.map_singleton, Predicate.phrase_allOf, List.map_cons, List.map_map]
  rfl

/-! ## Values -/

/-- What a database knows: the values of columns, constants and supplied expressions in
a row, nothing for NULL, and the functions and comparisons of values that are not. -/
structure Engine (Row V : Type) where
  column : Row → ColumnRef → Option V
  own : Row → String → Option V
  literal : String → V
  whole : Int → V
  raw : Row → String → Option V
  value : Row → String → Option V
  truth : Row → String → Ternary
  related : Row → String → Option V → Option V → Ternary
  unary : String → String → V → V
  binary : String → String → String → V → V → V
  isZero : V → Bool
  regex : V → V → Bool
  equal : V → V → Bool
  less : V → V → Bool

section Values

variable {Row V : Type} (engine : Engine Row V) (row : Row)

def Comparison.holds (left right : V) : Comparison → Bool
  | .regex => engine.regex left right
  | .notRegex => !engine.regex left right
  | .equal => engine.equal left right
  | .notEqual => !engine.equal left right
  | .less => engine.less left right
  | .lessEqual => !engine.less right left
  | .greater => engine.less right left
  | .greaterEqual => !engine.less left right

def Expr.eval : Expr → Option V
  | .column reference => engine.column row reference
  | .own written => engine.own row written
  | .literal value _ => some (engine.literal value)
  | .whole value => some (engine.whole value)
  | .raw written => engine.raw row written
  | .formula _ spliced => engine.value row spliced
  | .paren operand => operand.eval
  | .unary before after operand => operand.eval.map (engine.unary before after)
  | .binary before between after left right =>
      left.eval.bind fun first => right.eval.map (engine.binary before between after first)
  | .nullIfZero operand => operand.eval.filter fun value => !engine.isZero value
  | .textOr operand value =>
      some ((operand.eval.map (engine.unary "" "::text")).getD (engine.literal value))

def Expr.isNull (expr : Expr) : Bool := (expr.eval engine row).isNone

def Comparison.eval (comparison : Comparison) (left right : Expr) : Ternary :=
  (left.eval engine row).bind fun first =>
    (right.eval engine row).map fun second => comparison.holds engine first second

def memberEval (operand : Expr) (values : List (String × String)) : Ternary :=
  (operand.eval engine row).map fun found =>
    values.any fun value => engine.equal found (engine.literal value.1)

def Atomic.eval : Atomic → Ternary
  | .isNull operand => some (operand.isNull engine row)
  | .isNotNull operand => some (!operand.isNull engine row)
  | .ownIsNull written => some (engine.own row written).isNone
  | .ownIsNotNull written => some (engine.own row written).isSome
  | .compare comparison left right => comparison.eval engine row left right
  | .related operator left right =>
      engine.related row operator (left.eval engine row) (right.eval engine row)
  | .chosen comparison left right => comparison.eval engine row left right
  | .oneOf operand values => memberEval engine row operand values
  | .notOneOf operand values => (memberEval engine row operand values).not
  | .supplied expression => engine.truth row expression

def Predicate.eval : Predicate → Ternary
  | .atom atomic => atomic.eval engine row
  | .paren inner => inner.eval
  | .not inner => inner.eval.not
  | .notParen inner => inner.eval.not
  | .and left right => left.eval.and right.eval
  | .or left right => left.eval.or right.eval
  | .eitherNull left right => some (left.isNull engine row || right.isNull engine row)
  | .orTrue inner => some (inner.eval.getD true)
  | .notOrTrue inner => some (!inner.eval.getD true)
  | .nullOr operand inner => Ternary.or (some (operand.isNull engine row)) inner.eval
  | .notNullAnd operand inner => Ternary.and (some (!operand.isNull engine row)) inner.eval

/-- The row meets the condition, as WHERE and CASE WHEN have it. -/
def Predicate.holds (predicate : Predicate) : Bool := predicate.eval engine row == some true

/-- The row meets all conditions of a WHERE clause that joins them by AND. -/
def admits (conditions : List Predicate) : Bool :=
  Ternary.all (conditions.map (Predicate.eval engine row)) == some true

end Values

/-! ## Counts -/

/-- What `COUNT` is applied to. -/
inductive Argument where
  | rows
  | value (operand : Expr)
  | cases (condition : Predicate)
deriving DecidableEq, Repr

def Argument.phrase : Argument → Phrase
  | .rows => "*"
  | .value operand => operand.phrase
  | .cases condition => "CASE WHEN " ++ condition.phrase ++ " THEN 1 END"

section Counts

variable {Row V : Type} (engine : Engine Row V)

def Argument.holds (row : Row) : Argument → Bool
  | .rows => true
  | .value operand => !operand.isNull engine row
  | .cases condition => condition.holds engine row

def Engine.valuation (rows : List Row) : Valuation Argument where
  count argument := rows.countP fun row => argument.holds engine row
  rows _ := 0
  scalar _ := .none

def Engine.selected (conditions : List Predicate) (rows : List Row) : List Row :=
  rows.filter fun row => admits engine row conditions

end Counts

/-- Rows that are the whole numbers they hold, with no functions, and one value in a row
for all conditions of the user. -/
def wholeNumbers (truth : List (String × Int) → Ternary) : Engine (List (String × Int)) Int where
  column row reference := row.lookup reference.column
  own _ _ := none
  literal _ := 0
  whole value := value
  raw _ written := Runtime.ascii.parseInt written.toList
  value _ _ := none
  truth row _ := truth row
  related _ _ _ _ := none
  unary _ _ operand := operand
  binary _ _ _ first _ := first
  isZero value := value == 0
  regex _ _ := false
  equal first second := first == second
  less first second := decide (first < second)

/-! ## NULL in comparisons -/

section Lemmas

variable {Row V : Type} {engine : Engine Row V} {row : Row}

@[simp] theorem Comparison.holds_negation (comparison : Comparison) (left right : V) :
    comparison.negation.holds engine left right = !comparison.holds engine left right := by
  cases comparison <;> simp [negation, holds]

theorem Comparison.eval_isSome (comparison : Comparison) (left right : Expr) :
    (comparison.eval engine row left right).isSome =
      (!left.isNull engine row && !right.isNull engine row) := by
  unfold eval Expr.isNull
  cases left.eval engine row <;> cases right.eval engine row <;> rfl

theorem Comparison.isSome_of_present {comparison : Comparison} {left right : Expr}
    (present : right.isNull engine row = false) :
    (comparison.eval engine row left right).isSome = !left.isNull engine row := by
  rw [eval_isSome, present, Bool.not_false, Bool.and_true]

theorem Comparison.eval_negation (comparison : Comparison) (left right : Expr) :
    comparison.negation.eval engine row left right = (comparison.eval engine row left right).not := by
  unfold eval
  cases left.eval engine row <;> cases right.eval engine row <;> simp [Ternary.not]

theorem memberEval_isSome (operand : Expr) (values : List (String × String)) :
    (memberEval engine row operand values).isSome = !operand.isNull engine row := by
  unfold memberEval Expr.isNull
  cases operand.eval engine row <;> rfl

@[simp] theorem Predicate.holds_and (left right : Predicate) :
    (Predicate.and left right).holds engine row = (left.holds engine row && right.holds engine row) := by
  rw [Bool.eq_iff_iff]
  simp [holds, eval, Ternary.and_eq_true]

@[simp] theorem Predicate.holds_or (left right : Predicate) :
    (Predicate.or left right).holds engine row = (left.holds engine row || right.holds engine row) := by
  rw [Bool.eq_iff_iff]
  simp [holds, eval, Ternary.or_eq_true]

@[simp] theorem Predicate.holds_paren (inner : Predicate) :
    (Predicate.paren inner).holds engine row = inner.holds engine row := rfl

theorem Predicate.holds_of_negation {condition negation : Predicate}
    (negated : negation.eval engine row = (condition.eval engine row).not) :
    negation.holds engine row =
      ((condition.eval engine row).isSome && !condition.holds engine row) := by
  unfold holds
  rw [negated]
  rcases condition.eval engine row with _ | _ | _ <;> rfl

theorem Predicate.holds_of_unknown {condition : Predicate}
    (unknown : (condition.eval engine row).isSome = false) : condition.holds engine row = false := by
  simp [holds, Option.isSome_eq_false_iff.mp unknown |> Option.isNone_iff_eq_none.mp]

theorem Predicate.eval_allOf (first : Predicate) (rest : List Predicate) :
    (allOf first rest).eval engine row =
      Ternary.all ((first :: rest).map (Predicate.eval engine row)) := by
  induction rest generalizing first with
  | nil => exact (Ternary.and_true (first.eval engine row)).symm
  | cons next rest ih =>
      have joined : (allOf first (next :: rest)).eval engine row =
          (first.eval engine row).and ((allOf next rest).eval engine row) := rfl
      rw [joined, ih]
      rfl

theorem Predicate.holds_allOf {first : Predicate} {rest : List Predicate} :
    (allOf first rest).holds engine row = true ↔
      ∀ condition ∈ first :: rest, condition.holds engine row = true := by
  rw [holds, eval_allOf, beq_iff_eq, Ternary.all_eq_true]
  simp [holds]

theorem Predicate.holds_isNull (operand : Expr) :
    (Predicate.atom (.isNull operand)).holds engine row = operand.isNull engine row := by
  simp [holds, eval, Atomic.eval]

@[simp] theorem Predicate.holds_isNotNull (operand : Expr) :
    (Predicate.atom (.isNotNull operand)).holds engine row = !operand.isNull engine row := by
  simp [holds, eval, Atomic.eval]

theorem admits_iff {conditions : List Predicate} :
    admits engine row conditions = true ↔
      ∀ condition ∈ conditions, condition.holds engine row = true := by
  simp [admits, Predicate.holds, Ternary.all_eq_true]

@[simp] theorem admits_presence {columns : List String} :
    admits engine row (presence columns) = true ↔
      ∀ column ∈ columns, (Expr.cell column).isNull engine row = false := by
  cases columns with
  | nil => simp [presence, admits_iff]
  | cons first rest => simp [presence, admits_iff, Predicate.holds_allOf]

theorem admits_append {first second : List Predicate} :
    admits engine row (first ++ second) = (admits engine row first && admits engine row second) := by
  rw [Bool.eq_iff_iff, Bool.and_eq_true, admits_iff, admits_iff, admits_iff]
  simp [or_imp, forall_and]

theorem Predicate.isSome_allOf {first : Predicate} {rest : List Predicate} {known : Bool}
    (each : ∀ condition ∈ first :: rest, (condition.eval engine row).isSome = known) :
    ((allOf first rest).eval engine row).isSome = known := by
  induction rest generalizing first with
  | nil => exact each first List.mem_cons_self
  | cons next rest ih =>
      obtain ⟨here, later⟩ := List.forall_mem_cons.mp each
      exact Ternary.isSome_and here (ih later)

@[simp] theorem Expr.isNull_paren {operand : Expr} :
    (Expr.paren operand).isNull engine row = operand.isNull engine row := rfl

theorem Expr.isNull_binary {before between after : String} {left right : Expr} :
    (Expr.binary before between after left right).isNull engine row =
      (left.isNull engine row || right.isNull engine row) := by
  simp only [isNull, eval]
  cases left.eval engine row <;> cases right.eval engine row <;> rfl

theorem Expr.isNull_unary {before after : String} {operand : Expr} :
    (Expr.unary before after operand).isNull engine row = operand.isNull engine row := by
  simp [Expr.isNull, Expr.eval]

end Lemmas

/-! ## Rows counted on two sides -/

section Sides

variable {α β : Type} {p q : α → Bool} {rows : List α}

theorem countP_or (exclusive : ∀ row ∈ rows, ¬ (p row = true ∧ q row = true)) :
    rows.countP (fun row => p row || q row) = rows.countP p + rows.countP q := by
  induction rows with
  | nil => rfl
  | cons row rows ih =>
      obtain ⟨here, later⟩ := List.forall_mem_cons.mp exclusive
      simp only [List.countP_cons, ih later]
      cases passes : p row <;> cases fails : q row
      · simp
      · simp [Nat.add_assoc]
      · simp [Nat.add_right_comm]
      · exact absurd ⟨passes, fails⟩ here

/-- Two tests that exclude each other count every row between them exactly if each row
meets one of them. -/
theorem countP_add_eq_length_iff (exclusive : ∀ row ∈ rows, ¬ (p row = true ∧ q row = true)) :
    rows.countP p + rows.countP q = rows.length ↔ ∀ row ∈ rows, p row = true ∨ q row = true := by
  rw [← countP_or exclusive, List.countP_eq_length]
  simp

/-- Rows chosen by a wider and a narrower test are the same exactly if every row that
meets the wider one meets the narrower. -/
theorem map_filter_eq_iff {f : α → β} (narrower : ∀ row ∈ rows, p row = true → q row = true) :
    (rows.filter q).map f = (rows.filter p).map f ↔ ∀ row ∈ rows, q row = true → p row = true := by
  constructor
  · intro same
    have lengths := congrArg List.length same
    have counted : rows.countP q = rows.countP p := by
      simpa [List.countP_eq_length_filter] using lengths
    have nested : rows.filter p = (rows.filter q).filter p := by
      rw [List.filter_filter]
      refine List.filter_congr fun row member => ?_
      cases passes : p row
      · rfl
      · simp [narrower row member passes]
    have whole : (rows.filter q).filter p = rows.filter q := by
      refine List.filter_sublist.eq_of_length ?_
      rw [← nested, ← List.countP_eq_length_filter, ← List.countP_eq_length_filter, counted]
    intro row member wide
    exact List.filter_eq_self.mp whole row (List.mem_filter.mpr ⟨member, wide⟩)
  · intro wider
    congr 1
    refine List.filter_congr fun row member => ?_
    rw [Bool.eq_iff_iff]
    exact ⟨wider row member, narrower row member⟩

end Sides

end CogniDQ.Sql
