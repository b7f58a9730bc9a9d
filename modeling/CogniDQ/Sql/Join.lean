import CogniDQ.Sql.Predicate
import CogniDQ.Sql.Grouping
import Mathlib.Data.List.ProdSigma

/-!
# Joins

What an INNER and a LEFT JOIN make of the rows of two tables, how often a row comes out
of them, and how conditions read the rows that come out.
-/

set_option autoImplicit false

namespace CogniDQ.Sql

/-! ## Rows -/

section Rows

variable {L R : Type} (on : L → R → Bool) (right : List R)

def partners (row : L) : List R := right.filter (on row)

def extended (row : L) : List (L × Option R) :=
  match partners on right row with
  | [] => [(row, none)]
  | found => found.map fun partner => (row, some partner)

def leftJoin (left : List L) : List (L × Option R) := left.flatMap (extended on right)

def innerJoin (left : List L) : List (L × Option R) :=
  left.flatMap fun row => (partners on right row).map fun partner => (row, some partner)

end Rows

section Lengths

variable {α : Type} {size : α → Nat} {items : List α}

theorem sum_map_eq_length_iff (positive : ∀ item ∈ items, 1 ≤ size item) :
    (items.map size).sum = items.length ↔ ∀ item ∈ items, size item = 1 := by
  have least : ∀ {items : List α}, (∀ item ∈ items, 1 ≤ size item) →
      items.length ≤ (items.map size).sum := by
    intro items positive
    induction items with
    | nil => exact le_refl 0
    | cons item items ih =>
        obtain ⟨here, later⟩ := List.forall_mem_cons.mp positive
        simpa [Nat.add_comm] using Nat.add_le_add here (ih later)
  induction items with
  | nil => simp
  | cons item items ih =>
      obtain ⟨here, later⟩ := List.forall_mem_cons.mp positive
      have bound := least later
      simp only [List.map_cons, List.sum_cons, List.length_cons, List.forall_mem_cons, ← ih later]
      omega

/-- No more come out than go in exactly if the nothing that becomes of some makes up
for what others become beyond one. -/
theorem sum_map_le_length_iff :
    (items.map size).sum ≤ items.length ↔
      (items.map fun item => size item - 1).sum ≤ items.countP fun item => size item == 0 := by
  have balance : (items.map size).sum + items.countP (fun item => size item == 0) =
      (items.map fun item => size item - 1).sum + items.length := by
    induction items with
    | nil => rfl
    | cons item items ih =>
        simp only [List.map_cons, List.sum_cons, List.countP_cons, List.length_cons, beq_iff_eq] at ih ⊢
        split <;> omega
  omega

theorem countP_sub_countP_not (test : α → Bool) :
    (items.countP (fun _ => true) : Int) - items.countP (fun item => !test item) =
      items.countP test := by
  have whole := @List.length_eq_countP_add_countP _ test items
  have rest : items.countP (fun item => decide ¬ test item = true) =
      items.countP (fun item => !test item) := by simp
  rw [List.countP_true]
  omega

end Lengths

section Joined

variable {L R : Type} {on : L → R → Bool} {right : List R} {row : L}

theorem length_extended : (extended on right row).length = max 1 (partners on right row).length := by
  unfold extended
  split
  · next alone => rw [alone]; rfl
  · next some => 
      rw [List.length_map]
      cases found : partners on right row with
      | nil => exact absurd found (by simpa using some)
      | cons partner rest => simp

theorem fst_of_mem_extended {pair : L × Option R} (member : pair ∈ extended on right row) :
    pair.1 = row := by
  unfold extended at member
  split at member
  · rw [List.mem_singleton.mp member]
  · obtain ⟨partner, _, rfl⟩ := List.mem_map.mp member
    rfl

theorem extended_of_single {partner : R} (single : partners on right row = [partner]) :
    extended on right row = [(row, some partner)] := by
  unfold extended
  rw [single]
  rfl

theorem extended_of_none (alone : partners on right row = []) :
    extended on right row = [(row, none)] := by
  unfold extended
  rw [alone]

theorem filter_leftJoin (test : L → Bool) (left : List L) :
    (leftJoin on right left).filter (fun pair => test pair.1) = leftJoin on right (left.filter test) := by
  induction left with
  | nil => rfl
  | cons row left ih =>
      have head : leftJoin on right (row :: left) = extended on right row ++ leftJoin on right left := rfl
      have same : ∀ pair ∈ extended on right row, test pair.1 = test row := fun pair member =>
        congrArg test (fst_of_mem_extended member)
      rw [head, List.filter_append, ih, List.filter_cons, List.filter_congr same]
      cases test row
      · simp
      · simp [leftJoin]

theorem countP_leftJoin (test : L × Option R → Bool) (left : List L) :
    (leftJoin on right left).countP test =
      (left.map fun row => (extended on right row).countP test).sum :=
  List.countP_flatMap

/-- A LEFT JOIN has as many rows as its left table exactly if no row of that has two
partners. -/
theorem length_leftJoin_eq_iff (left : List L) :
    (leftJoin on right left).length = left.length ↔
      ∀ row ∈ left, (partners on right row).length ≤ 1 := by
  have lengths : (leftJoin on right left).length =
      (left.map fun row => (extended on right row).length).sum := List.length_flatMap
  rw [lengths, sum_map_eq_length_iff fun row _ => by rw [length_extended]; exact le_max_left _ _]
  refine forall₂_congr fun row _ => ?_
  rw [length_extended]
  omega

/-- A LEFT JOIN has a row more than its left table for each partner beyond the first. -/
theorem length_leftJoin (left : List L) :
    (leftJoin on right left).length =
      left.length + (left.map fun row => (partners on right row).length - 1).sum := by
  induction left with
  | nil => rfl
  | cons row left ih =>
      have head : leftJoin on right (row :: left) = extended on right row ++ leftJoin on right left := rfl
      rw [head, List.length_append, ih, length_extended, List.length_cons, List.map_cons, List.sum_cons]
      omega

theorem length_innerJoin (left : List L) :
    (innerJoin on right left).length = (left.map fun row => (partners on right row).length).sum := by
  simp [innerJoin, List.length_flatMap]

end Joined

/-! ## Conditions -/

section Conditions

variable {L R V : Type}

/-- The engine over the rows of a join, in which both relations have names. -/
def Engine.joined (engine : Engine L V) (leftName rightName : String)
    (right : R → String → Option V) : Engine (L × Option R) V where
  column pair reference :=
    if reference.qualifier = leftName then engine.column pair.1 ⟨"", reference.column⟩
    else if reference.qualifier = rightName then
      pair.2.bind fun partner => right partner reference.column
    else none
  own pair := engine.own pair.1
  literal := engine.literal
  whole := engine.whole
  raw pair := engine.raw pair.1
  value pair := engine.value pair.1
  truth pair := engine.truth pair.1
  related pair := engine.related pair.1
  unary := engine.unary
  binary := engine.binary
  isZero := engine.isZero
  regex := engine.regex
  equal := engine.equal
  less := engine.less

def equalKeys (leftName rightName : String) (keys : List String) : List Predicate :=
  keys.map fun key => .atom (.compare .equal (.column ⟨leftName, key⟩) (.column ⟨rightName, key⟩))

/-- The rows of two tables that have the same keys, none of them NULL. -/
def Engine.sameKeys (engine : Engine L V) (right : R → String → Option V) (keys : List String)
    (row : L) (partner : R) : Bool :=
  keys.all fun key =>
    match engine.column row ⟨"", key⟩, right partner key with
    | some first, some second => engine.equal first second
    | _, _ => false

variable {engine : Engine L V} {leftName rightName : String} {right : R → String → Option V}

theorem admits_equalKeys (apart : rightName ≠ leftName) (keys : List String) (row : L) (partner : R) :
    admits (engine.joined leftName rightName right) (row, some partner)
      (equalKeys leftName rightName keys) = engine.sameKeys right keys row partner := by
  have one : ∀ key, (Predicate.atom (.compare .equal (.column ⟨leftName, key⟩)
        (.column ⟨rightName, key⟩))).holds (engine.joined leftName rightName right) (row, some partner) =
      match engine.column row ⟨"", key⟩, right partner key with
      | some first, some second => engine.equal first second
      | _, _ => false := by
    intro key
    simp only [Predicate.holds, Predicate.eval, Atomic.eval, Comparison.eval, Expr.eval,
      Engine.joined, if_true, if_neg apart, Option.bind_some]
    cases engine.column row ⟨"", key⟩ with
    | none => rfl
    | some first =>
        cases right partner key with
        | none => rfl
        | some second => simp [Comparison.holds]
  rw [Bool.eq_iff_iff, admits_iff, Engine.sameKeys, List.all_eq_true]
  simp [equalKeys, one]

theorem isNull_left {reference : String} {pair : L × Option R} :
    (Expr.column ⟨leftName, reference⟩).isNull (engine.joined leftName rightName right) pair =
      (engine.column pair.1 ⟨"", reference⟩).isNone := by
  simp [Expr.isNull, Expr.eval, Engine.joined]

theorem isNull_right_of_none (apart : rightName ≠ leftName) {reference : String} {row : L} :
    (Expr.column ⟨rightName, reference⟩).isNull (engine.joined leftName rightName right) (row, none) =
      true := by
  simp [Expr.isNull, Expr.eval, Engine.joined, apart]

end Conditions

end CogniDQ.Sql

/-!
## Outer joins

What a FULL OUTER JOIN makes of the rows of two tables: the pairs of an INNER JOIN, and alone the rows
of either table that have no partner.
-/

namespace CogniDQ.Sql

section Rows

variable {L R : Type} (on : L → R → Bool) (left : List L) (right : List R)

def antiJoin : List L := left.filter fun row => (partners on right row).isEmpty

def semiJoin : List L := left.filter fun row => !(partners on right row).isEmpty

def turned (partner : R) (row : L) : Bool := on row partner

def fullJoin : List (Option L × Option R) :=
  ((leftJoin on right left).map fun pair => (some pair.1, pair.2)) ++
    (antiJoin (turned on) right left).map fun partner => (none, some partner)

def pairCount : Nat := (left.map fun row => (partners on right row).length).sum

def repeatedPairs : Nat := (left.map fun row => (partners on right row).length - 1).sum

end Rows

section Counts

variable {L R : Type} {on : L → R → Bool} {left : List L} {right : List R}

theorem length_semiJoin_add_antiJoin :
    (semiJoin on left right).length + (antiJoin on left right).length = left.length := by
  unfold semiJoin antiJoin
  induction left with
  | nil => rfl
  | cons row left ih =>
      cases alone : (partners on right row).isEmpty <;> simp [alone] <;> omega

theorem pairCount_eq :
    pairCount on left right = repeatedPairs on left right + (semiJoin on left right).length := by
  unfold pairCount repeatedPairs semiJoin
  induction left with
  | nil => rfl
  | cons row left ih =>
      rw [List.map_cons, List.map_cons, List.sum_cons, List.sum_cons, ih]
      cases found : partners on right row with
      | nil =>
          rw [List.filter_cons_of_neg (by rw [found]; exact Bool.false_ne_true), List.length_nil]
          omega
      | cons partner rest =>
          rw [List.filter_cons_of_pos (by rw [found]; rfl), List.length_cons, List.length_cons]
          omega

theorem pairCount_turned : pairCount (turned on) right left = pairCount on left right := by
  unfold pairCount
  induction left with
  | nil =>
      refine List.sum_eq_zero fun size member => ?_
      obtain ⟨_, _, rfl⟩ := List.mem_map.mp member
      rfl
  | cons row left ih =>
      have split : ∀ others : List R,
          (others.map fun partner => (partners (turned on) (row :: left) partner).length).sum =
            others.countP (on row) +
              (others.map fun partner => (partners (turned on) left partner).length).sum := by
        intro others
        induction others with
        | nil => rfl
        | cons partner rest inner =>
            have head : (partners (turned on) (row :: left) partner).length =
                (if on row partner then 1 else 0) + (partners (turned on) left partner).length := by
              unfold partners turned
              rw [List.filter_cons]
              split
              · rw [List.length_cons, Nat.add_comm]
              · rw [Nat.zero_add]
            rw [List.map_cons, List.map_cons, List.sum_cons, List.sum_cons, List.countP_cons, inner,
              head]
            omega
      rw [split, ih, List.map_cons, List.sum_cons, List.countP_eq_length_filter]
      rfl

theorem countP_leftJoin_split {test : L × Option R → Bool} {paired : Bool} {single : L → Bool}
    (pairs : ∀ row ∈ left, ∀ partner ∈ partners on right row, test (row, some partner) = paired)
    (alone : ∀ row, test (row, none) = single row) :
    (leftJoin on right left).countP test =
      (if paired then pairCount on left right else 0) + (antiJoin on left right).countP single := by
  unfold pairCount antiJoin
  induction left with
  | nil => cases paired <;> rfl
  | cons row left ih =>
      obtain ⟨here, later⟩ := List.forall_mem_cons.mp pairs
      have head : leftJoin on right (row :: left) = extended on right row ++ leftJoin on right left := rfl
      rw [head, List.countP_append, ih later, List.map_cons, List.sum_cons]
      cases found : partners on right row with
      | nil =>
          rw [extended_of_none found, List.filter_cons_of_pos (by rw [found]; rfl),
            List.countP_singleton, List.countP_cons, alone row]
          simp only [List.length_nil, Nat.zero_add]
          omega
      | cons partner rest =>
          have every : ∀ pair ∈ extended on right row, test pair = paired := by
            intro pair member
            unfold extended at member
            rw [found] at member
            obtain ⟨other, inside, rfl⟩ := List.mem_map.mp member
            exact here other (found ▸ inside)
          have counted : (extended on right row).countP test =
              if paired then (extended on right row).length else 0 := by
            cases paired with
            | true => exact List.countP_eq_length.mpr every
            | false => exact List.countP_eq_zero.mpr fun pair member => by simp [every pair member]
          rw [counted, length_extended, found,
            List.filter_cons_of_neg (by rw [found]; exact Bool.false_ne_true)]
          cases paired with
          | true =>
              simp only [if_true, List.length_cons]
              omega
          | false => simp

/-- What a FULL OUTER JOIN counts: its pairs all or none, and the rows that are alone on either
side. -/
theorem countP_fullJoin {test : Option L × Option R → Bool} {paired : Bool} {single : L → Bool}
    {other : R → Bool}
    (pairs : ∀ row ∈ left, ∀ partner ∈ partners on right row, test (some row, some partner) = paired)
    (alone : ∀ row, test (some row, none) = single row)
    (aloneRight : ∀ partner, test (none, some partner) = other partner) :
    (fullJoin on left right).countP test =
      (if paired then pairCount on left right else 0) + (antiJoin on left right).countP single +
        (antiJoin (turned on) right left).countP other := by
  have first := @countP_leftJoin_split _ _ on left right (fun pair => test (some pair.1, pair.2)) paired
    single pairs alone
  unfold fullJoin
  rw [List.countP_append, List.countP_map, List.countP_map]
  refine congrArg₂ _ first (List.countP_congr fun partner _ => ?_)
  rw [← aloneRight partner]
  rfl

end Counts

section Engine

variable {Row V : Type}

/-- The engine over the rows of a FULL OUTER JOIN, in which both tables have names. -/
def Engine.outer (engine : Engine Row V) (leftName rightName : String) :
    Engine (Option Row × Option Row) V where
  column pair reference :=
    if reference.qualifier = leftName then
      pair.1.bind fun row => engine.column row ⟨"", reference.column⟩
    else if reference.qualifier = rightName then
      pair.2.bind fun row => engine.column row ⟨"", reference.column⟩
    else none
  own pair written := pair.1.bind fun row => engine.own row written
  literal := engine.literal
  whole := engine.whole
  raw pair written := pair.1.bind fun row => engine.raw row written
  value pair expression := pair.1.bind fun row => engine.value row expression
  truth pair expression := pair.1.bind fun row => engine.truth row expression
  related pair operator left right := pair.1.bind fun row => engine.related row operator left right
  unary := engine.unary
  binary := engine.binary
  isZero := engine.isZero
  regex := engine.regex
  equal := engine.equal
  less := engine.less

variable {engine : Engine Row V} {row : Row}

theorem Predicate.holds_equal (left right : Expr) :
    (Predicate.atom (.compare .equal left right)).holds engine row =
      match left.eval engine row, right.eval engine row with
      | some first, some second => engine.equal first second
      | _, _ => false := by
  simp only [holds, eval, Atomic.eval, Comparison.eval]
  cases left.eval engine row with
  | none => rfl
  | some first =>
      cases right.eval engine row with
      | none => rfl
      | some second => simp [Comparison.holds]

end Engine

end CogniDQ.Sql

/-!
## Joins of rows of one type

A table joined with another of the same kind of rows, or with itself, and membership of a value among
those that a sub-select returns.
-/

namespace CogniDQ.Sql

section Rows

variable {α : Type}

/-- A table joined with itself. The position of a row stands for its `ctid`. -/
def selfJoin (apart : Nat → Nat → Bool) (rows : List α) : List ((α × Nat) × (α × Nat)) :=
  (rows.zipIdx.product rows.zipIdx).filter fun pair => apart pair.1.2 pair.2.2

variable {apart : Nat → Nat → Bool} {rows : List α}

theorem mem_of_zipIdx {row : α} {index : Nat} (member : (row, index) ∈ rows.zipIdx) :
    rows[index]? = some row :=
  List.mem_zipIdx_iff_getElem?.mp member

theorem getElem?_of_selfJoin {pair : (α × Nat) × (α × Nat)} (member : pair ∈ selfJoin apart rows) :
    rows[pair.1.2]? = some pair.1.1 ∧ rows[pair.2.2]? = some pair.2.1 := by
  obtain ⟨inside, _⟩ := List.mem_filter.mp member
  obtain ⟨first, second⟩ := List.mem_product.mp inside
  exact ⟨mem_of_zipIdx first, mem_of_zipIdx second⟩

end Rows

section Values

variable {Row V : Type}

def Engine.cell (engine : Engine Row V) (row : Row) (column : String) : Option V :=
  engine.column row ⟨"", column⟩

def Engine.paired (engine : Engine Row V) (first second : String) : Engine (Row × Option Row) V :=
  engine.joined first second engine.cell

def Engine.bothEqual (engine : Engine Row V) : Option V → Option V → Bool
  | some left, some right => engine.equal left right
  | _, _ => false

def Engine.isIn (engine : Engine Row V) (value : Option V) (found : List (Option V)) : Ternary :=
  Ternary.any (found.map fun other => value.bind fun left => other.map (engine.equal left))

variable {engine : Engine Row V}

theorem Engine.bothEqual_iff {left right : Option V} :
    engine.bothEqual left right = true ↔
      ∃ first second, left = some first ∧ right = some second ∧ engine.equal first second = true := by
  cases left with
  | none => simp [bothEqual]
  | some left =>
      cases right with
      | none => simp [bothEqual]
      | some right => simp [bothEqual]

theorem Engine.isIn_eq_true {value : Option V} {found : List (Option V)} :
    engine.isIn value found = some true ↔ ∃ other ∈ found, engine.bothEqual value other = true := by
  rw [isIn, Ternary.any_eq_true, List.mem_map]
  refine exists_congr fun other => and_congr_right fun _ => ?_
  cases value with
  | none => simp [bothEqual]
  | some left => cases other <;> simp [bothEqual]

theorem Engine.bothEqual_symm (equating : Equating engine.equal) {left right : Option V}
    (same : engine.bothEqual left right = true) : engine.bothEqual right left = true := by
  obtain ⟨first, second, rfl, rfl, equal⟩ := bothEqual_iff.mp same
  exact equating.symm equal

theorem Engine.bothEqual_trans (equating : Equating engine.equal) {first second third : Option V}
    (left : engine.bothEqual first second = true) (right : engine.bothEqual second third = true) :
    engine.bothEqual first third = true := by
  obtain ⟨_, middle, rfl, rfl, equal⟩ := bothEqual_iff.mp left
  obtain ⟨_, last, same, rfl, next⟩ := bothEqual_iff.mp right
  obtain rfl := Option.some.inj same
  exact equating.trans equal next

end Values

end CogniDQ.Sql
