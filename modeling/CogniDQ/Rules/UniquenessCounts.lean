import CogniDQ.Rules.UniquenessSemantics
import CogniDQ.Sql.Grouping

/-!
# Keys and their encodings

The modes that group rows count those whose encoded keys the database finds equal: NULLs are
written as a text where they are included, and texts lowered where letter case is ignored. The
rule is about the keys themselves.
-/

set_option autoImplicit false

namespace CogniDQ.Rules

open CogniDQ.Python CogniDQ.Sql

def bothOr {V : Type} (same : V → V → Bool) : Option V → Option V → Bool
  | none, none => true
  | some left, some right => same left right
  | _, _ => false

theorem bothOr_equating {V : Type} {same : V → V → Bool} (equating : Equating same) :
    Equating (bothOr same) where
  refl value := by
    cases value with
    | none => rfl
    | some value => exact equating.refl value
  symm := by
    intro left right joined
    cases left <;> cases right <;> first | exact equating.symm joined | exact joined
  trans := by
    intro first second third left right
    cases first <;> cases second <;> cases third <;>
      first | exact equating.trans left right | exact right | exact left | cases left

namespace UniquenessCheck

section Counting

variable {Row V : Type} (runtime : Runtime) (engine : Engine Row V) (check : UniquenessCheck)

/-! ## What the query counts -/

/-- The keys of the groups are equal, as `GROUP BY` compares them. -/
def encodedAlike (row other : Row) : Bool :=
  check.keys.all fun key => bothOr engine.equal (key.eval engine row) (key.eval engine other)

def countedTotal (rows : List Row) : Nat := (engine.selected (check.conditions runtime) rows).length

def countedDuplicates (rows : List Row) : Nat :=
  repeatedCount (check.encodedAlike engine) (engine.selected (check.conditions runtime) rows)

/-! ## What the rule says -/

def lowered (value : V) : V := engine.unary "LOWER(" "::text)" value

/-- The values are equal, or would be without their letter case where that is ignored. -/
def sameValue (value other : V) : Bool :=
  engine.equal value other ||
    (!check.caseSensitive && engine.equal (lowered engine value) (lowered engine other))

/-- The rows have the same scope and key values, where NULL is the same as NULL only. -/
def sameKey (row other : Row) : Bool :=
  (check.scopes.all fun scope =>
    bothOr engine.equal ((Expr.cell scope).eval engine row) ((Expr.cell scope).eval engine other)) &&
  check.columns.all fun column =>
    bothOr (check.sameValue engine) ((Expr.cell column).eval engine row)
      ((Expr.cell column).eval engine other)

/-- The filter admits the row, and no key column is NULL where NULLs are left out. -/
def checks (row : Row) : Bool :=
  admits engine row (filterCondition runtime check.filter) &&
    (check.includes || check.columns.all fun column => !(Expr.cell column).isNull engine row)

def checkedRows (rows : List Row) : List Row := rows.filter (check.checks runtime engine)

def sharedKeyRows (rows : List Row) : Nat :=
  (check.checkedRows runtime engine rows).countP
    (shared (check.sameKey engine) (check.checkedRows runtime engine rows))

/-- Rows are encoded alike exactly if their keys are the same. -/
def Faithful : Prop :=
  ∀ row other, check.checks runtime engine row = true → check.checks runtime engine other = true →
    check.encodedAlike engine row other = check.sameKey engine row other

/-- The number of rows that have a key of their own and share the encoding of another row. -/
def mistaken (rows : List Row) : Nat :=
  let checked := check.checkedRows runtime engine rows
  checked.countP fun row =>
    shared (check.encodedAlike engine) checked row && !shared (check.sameKey engine) checked row

/-- The number of rows that share the key of another row and have an encoding of their own. -/
def missed (rows : List Row) : Nat :=
  let checked := check.checkedRows runtime engine rows
  checked.countP fun row =>
    shared (check.sameKey engine) checked row && !shared (check.encodedAlike engine) checked row

end Counting

section Exactness

variable {Row V : Type} {runtime : Runtime} {engine : Engine Row V} {check : UniquenessCheck}

private theorem admits_conditions (row : Row) :
    admits engine row (check.conditions runtime) = check.checks runtime engine row := by
  unfold conditions checks
  rw [admits_append, Bool.and_comm]
  congr 1
  rw [Bool.eq_iff_iff, admits_nullConditions]
  simp only [isNull_keyExpr]
  cases check.includes <;> simp

theorem selected_eq_checkedRows (rows : List Row) :
    engine.selected (check.conditions runtime) rows = check.checkedRows runtime engine rows :=
  List.filter_congr fun row _ => admits_conditions row

theorem encodedAlike_equating (equating : Equating engine.equal) :
    Equating (check.encodedAlike engine) := by
  have values := bothOr_equating equating
  refine ⟨fun row => ?_, fun joined => ?_, fun left right => ?_⟩
  · exact List.all_eq_true.mpr fun key _ => values.refl _
  · exact List.all_eq_true.mpr fun key member => values.symm (List.all_eq_true.mp joined key member)
  · exact List.all_eq_true.mpr fun key member =>
      values.trans (List.all_eq_true.mp left key member) (List.all_eq_true.mp right key member)

private theorem sameKey_refl (equating : Equating engine.equal) (row : Row) :
    check.sameKey engine row row = true := by
  have values := bothOr_equating equating
  have same : ∀ value, bothOr (check.sameValue engine) value value = true := by
    intro value
    cases value with
    | none => rfl
    | some value => exact Bool.or_eq_true _ _ |>.mpr (.inl (equating.refl value))
  unfold sameKey
  rw [Bool.and_eq_true, List.all_eq_true, List.all_eq_true]
  exact ⟨fun scope _ => values.refl _, fun column _ => same _⟩

theorem bothOr_comm {same : V → V → Bool} (symm : ∀ left right, same left right = same right left)
    (left right : Option V) : bothOr same left right = bothOr same right left := by
  cases left with
  | none => cases right <;> rfl
  | some left =>
      cases right with
      | none => rfl
      | some right => exact symm left right

private theorem equal_comm (equating : Equating engine.equal) (left right : V) :
    engine.equal left right = engine.equal right left :=
  Bool.eq_iff_iff.mpr ⟨equating.symm, equating.symm⟩

private theorem sameKey_comm (equating : Equating engine.equal) (row other : Row) :
    check.sameKey engine row other = check.sameKey engine other row := by
  have values : ∀ left right, check.sameValue engine left right = check.sameValue engine right left := by
    intro left right
    unfold sameValue
    rw [equal_comm equating left, equal_comm equating (lowered engine left)]
  unfold sameKey
  congr 1
  · exact congrArg check.scopes.all (funext fun _ => bothOr_comm (equal_comm equating) _ _)
  · exact congrArg check.columns.all (funext fun _ => bothOr_comm values _ _)

theorem countedTotal_eq (rows : List Row) :
    check.countedTotal runtime engine rows = (check.checkedRows runtime engine rows).length :=
  congrArg List.length (selected_eq_checkedRows rows)

theorem countedDuplicates_eq (equating : Equating engine.equal) (rows : List Row) :
    check.countedDuplicates runtime engine rows =
      (check.checkedRows runtime engine rows).countP
        (shared (check.encodedAlike engine) (check.checkedRows runtime engine rows)) := by
  unfold countedDuplicates
  rw [selected_eq_checkedRows, repeatedCount_eq (encodedAlike_equating equating)]

private theorem countedDuplicates_eq_iff (equating : Equating engine.equal) (rows : List Row) :
    check.countedDuplicates runtime engine rows = check.sharedKeyRows runtime engine rows ↔
      check.mistaken runtime engine rows = check.missed runtime engine rows := by
  rw [countedDuplicates_eq equating]
  exact countP_eq_iff _

private theorem shared_congr {rows : List Row} {alike same : Row → Row → Bool}
    (agree : ∀ row ∈ rows, ∀ other ∈ rows, alike row other = same row other) :
    rows.countP (shared alike rows) = rows.countP (shared same rows) := by
  refine List.countP_congr fun row member => ?_
  have sizes : groupSize alike rows row = groupSize same rows row :=
    List.countP_congr fun other present => by rw [agree row member other present]
  unfold shared
  rw [sizes]

/-- Every table is counted right exactly where rows are encoded alike exactly if their keys are
the same. -/
theorem countedDuplicates_all_iff (equating : Equating engine.equal) :
    (∀ rows, check.countedDuplicates runtime engine rows = check.sharedKeyRows runtime engine rows) ↔
      check.Faithful runtime engine := by
  constructor
  · intro right row other admitted admittedOther
    have pair : check.checkedRows runtime engine [row, other] = [row, other] := by
      unfold checkedRows
      rw [List.filter_cons_of_pos admitted, List.filter_cons_of_pos admittedOther, List.filter_nil]
    have counts := right [row, other]
    have encoded := @encodedAlike_equating _ _ engine check equating
    rw [countedDuplicates_eq equating, sharedKeyRows, pair,
      countP_shared_pair encoded.refl fun _ _ => Bool.eq_iff_iff.mpr ⟨encoded.symm, encoded.symm⟩,
      countP_shared_pair (sameKey_refl equating) (sameKey_comm equating)] at counts
    cases left : check.encodedAlike engine row other <;>
      cases right : check.sameKey engine row other <;>
        simp only [left, right, if_true, Bool.false_eq_true, if_false] at counts ⊢ <;> cases counts
  · intro faithful rows
    rw [countedDuplicates_eq equating]
    refine shared_congr fun row member other present => ?_
    exact faithful row other (List.mem_filter.mp member).2 (List.mem_filter.mp present).2

theorem faithful_of_plain (excludes : check.includes = false) (cased : check.caseSensitive = true) :
    check.Faithful runtime engine := by
  intro row other _ _
  have own : check.columns.map check.keyExpr = check.columns.map Expr.cell := by
    refine List.map_congr_left fun column _ => ?_
    unfold keyExpr
    rw [excludes, cased]
    rfl
  have equal : check.sameValue engine = engine.equal := by
    funext left right
    unfold sameValue
    rw [cased]
    exact Bool.or_false _
  unfold encodedAlike sameKey keys
  rw [own, equal, List.all_append, List.all_map, List.all_map]
  rfl

end Exactness

end UniquenessCheck

section Example

def texts : Engine (List (String × String)) String where
  column row reference := row.lookup reference.column
  own _ _ := none
  literal value := value
  whole value := toString value
  raw _ _ := none
  value _ _ := none
  truth _ _ := some true
  related _ _ _ _ := none
  unary before _ operand :=
    if before = "LOWER(" then String.ofList (operand.toList.map Char.toLower) else operand
  binary _ _ _ first _ := first
  isZero _ := false
  regex _ _ := false
  equal first second := first == second
  less first second := decide (first < second)

theorem texts_equating : Equating texts.equal where
  refl value := beq_self_eq_true value
  symm same := beq_iff_eq.mpr (beq_iff_eq.mp same).symm
  trans left right := beq_iff_eq.mpr ((beq_iff_eq.mp left).trans (beq_iff_eq.mp right))

private def emailParameters (nullHandling : String) : Dict :=
  [("columns", .list [.str "email"]), ("null_handling", .str nullHandling)]

end Example

end CogniDQ.Rules
