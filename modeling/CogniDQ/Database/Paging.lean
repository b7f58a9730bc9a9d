import Mathlib.Data.List.Sort
import Mathlib.Data.List.Perm.Basic
import Mathlib.Algebra.GroupWithZero.Nat

/-!
# Ordered queries

`ORDER BY` a column with numbers: rows that are equal in it may come in any order.
-/

set_option autoImplicit false

namespace CogniDQ.Database

variable {Row : Type} {column : Row → Int}

/-- An execution of `ORDER BY column ASC`. -/
structure OrderBy (Row : Type) (column : Row → Int) where
  arrange : List Row → List Row
  perm : ∀ rows, (arrange rows).Perm rows
  ascending : ∀ rows, (arrange rows).Pairwise fun first second => column first ≤ column second

namespace OrderBy

private def Before (column : Row → Int) (first second : Row) : Prop :=
  column first ≤ column second

private instance : DecidableRel (Before column) :=
  fun first second => inferInstanceAs (Decidable (column first ≤ column second))

private instance : Std.Total (Before column) :=
  ⟨fun first second => Int.le_total (column first) (column second)⟩

private instance : IsTrans Row (Before column) :=
  ⟨fun _ _ _ before after => Int.le_trans before after⟩

/-- Rows that are equal in the column stay in the order of the table. -/
def stable (column : Row → Int) : OrderBy Row column where
  arrange := List.insertionSort (Before column)
  perm rows := List.perm_insertionSort _ rows
  ascending rows := List.pairwise_insertionSort _ rows

end OrderBy

end CogniDQ.Database

/-!
## Pages of an ordered query

Each page of a listing is a query of its own, which may put rows that are equal in the column in
another order. Counting the rows of a kind over all pages gives their number, in whatever order the
queries come, if and only if no boundary between pages separates equal rows of which some are of
the kind.
-/

namespace CogniDQ.Database

variable {Row : Type}

def page (rows : List Row) (size number : Nat) : List Row := (rows.drop (number * size)).take size

def listedOnPages (arranged : Nat → List Row) (flag : Row → Bool) (size count : Nat) : Nat :=
  ((List.range count).map fun number => (page (arranged number) size number).countP flag).sum

/-- The rows with a value lie on both sides of a position in the order. -/
def Separated (column : Row → Int) (rows : List Row) (value : Int) (position : Nat) : Prop :=
  (rows.countP fun row => column row < value) < position ∧
    position < rows.countP fun row => column row ≤ value

/-- Equal rows that a page boundary separates are all of the kind, or none is. -/
def TiesAgree (column : Row → Int) (flag : Row → Bool) (rows : List Row) (size : Nat) : Prop :=
  ∀ number, ∀ first ∈ rows, ∀ second ∈ rows, column first = column second →
    Separated column rows (column first) (number * size) → flag first = flag second

section Prefixes

variable {column : Row → Int} {flag : Row → Bool} {rows before rest : List Row} {pivot : Row}

/-- What is counted before a row: the smaller ones, and some of those that are equal to it. -/
private theorem countP_before
    (sorted : (before ++ pivot :: rest).Pairwise fun first second => column first ≤ column second)
    (kind : Row → Bool) :
    before.countP kind =
      ((before ++ pivot :: rest).countP fun row =>
          kind row && decide (column row < column pivot)) +
        before.countP fun row => kind row && decide (column row = column pivot) := by
  obtain ⟨-, sortedRest, apart⟩ := List.pairwise_append.mp sorted
  have noneLater : (pivot :: rest).countP
      (fun row => kind row && decide (column row < column pivot)) = 0 := by
    rw [List.countP_eq_zero]
    intro row listed smaller
    have atLeast : column pivot ≤ column row := by
      rcases List.mem_cons.mp listed with rfl | later
      · exact le_rfl
      · exact List.rel_of_pairwise_cons sortedRest later
    simp only [Bool.and_eq_true, decide_eq_true_eq] at smaller
    exact absurd smaller.2 (Int.not_lt.mpr atLeast)
  rw [List.countP_append, noneLater, Nat.add_zero, List.countP_eq_countP_filter_add _ kind
    (fun row => decide (column row < column pivot)), List.countP_filter, List.countP_filter]
  congr 1
  refine List.countP_congr fun row listed => ?_
  have atMost := apart row listed pivot List.mem_cons_self
  simp only [Bool.and_eq_true, Bool.not_eq_true', decide_eq_false_iff_not, decide_eq_true_eq]
  constructor
  · rintro ⟨ofKind, notSmaller⟩
    exact ⟨ofKind, by omega⟩
  · rintro ⟨ofKind, equal⟩
    exact ⟨ofKind, by omega⟩

/-- The row at a position bounds it by the rows that are smaller and those that are not larger. -/
private theorem bounds_of_pivot
    (sorted : (before ++ pivot :: rest).Pairwise fun first second => column first ≤ column second) :
    ((before ++ pivot :: rest).countP fun row => column row < column pivot) +
        (before.countP fun row => column row = column pivot) = before.length ∧
      before.length < (before ++ pivot :: rest).countP fun row => column row ≤ column pivot := by
  obtain ⟨-, -, apart⟩ := List.pairwise_append.mp sorted
  constructor
  · have counted := countP_before sorted fun _ => true
    simpa using counted.symm
  · have all : (before.countP fun row => column row ≤ column pivot) = before.length := by
      rw [List.countP_eq_length]
      intro row listed
      exact decide_eq_true (apart row listed pivot List.mem_cons_self)
    rw [List.countP_append, all, List.countP_cons_of_pos (by simp)]
    omega

private theorem pivot_not_lt {beforeOther restOther : List Row} {pivotOther : Row}
    (perm : (before ++ pivot :: rest).Perm (beforeOther ++ pivotOther :: restOther))
    (sorted : (before ++ pivot :: rest).Pairwise fun first second => column first ≤ column second)
    (sortedOther : (beforeOther ++ pivotOther :: restOther).Pairwise fun first second =>
      column first ≤ column second)
    (samePosition : before.length = beforeOther.length) : ¬column pivot < column pivotOther := by
  intro smaller
  have upper := (bounds_of_pivot sorted).2
  have lower := (bounds_of_pivot sortedOther).1
  rw [perm.countP_eq] at upper
  have included : ((beforeOther ++ pivotOther :: restOther).countP fun row =>
      column row ≤ column pivot) ≤
        (beforeOther ++ pivotOther :: restOther).countP fun row => column row < column pivotOther := by
    refine List.countP_mono_left fun row _ atMost => ?_
    simp only [decide_eq_true_eq] at atMost ⊢
    omega
  omega

private theorem countP_ties {value : Int} {decided : Bool}
    (agree : ∀ row ∈ rows, column row = value → flag row = decided) :
    (rows.countP fun row => flag row && decide (column row = value)) =
      if decided then rows.countP fun row => column row = value else 0 := by
  have same : (rows.countP fun row => flag row && decide (column row = value)) =
      rows.countP fun row => decided && decide (column row = value) := by
    refine List.countP_congr fun row listed => ?_
    by_cases equal : column row = value
    · rw [agree row listed equal]
    · simp [equal]
  rw [same]
  cases decided <;> simp

/-- Before a position where ties agree, every order of the rows has as many of the kind. -/
private theorem countP_take_eq {arranged other : List Row} {position : Nat}
    (perm : arranged.Perm other)
    (sorted : arranged.Pairwise fun first second => column first ≤ column second)
    (sortedOther : other.Pairwise fun first second => column first ≤ column second)
    (agree : ∀ first ∈ arranged, ∀ second ∈ arranged, column first = column second →
      Separated column arranged (column first) position → flag first = flag second) :
    (arranged.take position).countP flag = (other.take position).countP flag := by
  by_cases inside : position < arranged.length
  · have insideOther : position < other.length := perm.length_eq ▸ inside
    obtain ⟨pivot, before, rest, length, rfl⟩ : ∃ pivot before rest,
        before.length = position ∧ arranged = before ++ pivot :: rest :=
      ⟨arranged[position], arranged.take position, arranged.drop (position + 1),
        List.length_take_of_le inside.le, by simp⟩
    obtain ⟨pivotOther, beforeOther, restOther, lengthOther, rfl⟩ : ∃ pivot before rest,
        before.length = position ∧ other = before ++ pivot :: rest :=
      ⟨other[position], other.take position, other.drop (position + 1),
        List.length_take_of_le insideOther.le, by simp⟩
    have samePivot : column pivotOther = column pivot := by
      have notLess := pivot_not_lt perm sorted sortedOther (length.trans lengthOther.symm)
      have notGreater := pivot_not_lt perm.symm sortedOther sorted (lengthOther.trans length.symm)
      omega
    have bounds := bounds_of_pivot sorted
    have boundsOther := bounds_of_pivot sortedOther
    rw [samePivot, ← perm.countP_eq, ← perm.countP_eq] at boundsOther
    rw [List.take_left' length, List.take_left' lengthOther, countP_before sorted flag,
      countP_before sortedOther flag, samePivot, ← perm.countP_eq]
    congr 1
    by_cases noTies : (before.countP fun row => column row = column pivot) = 0
    · have noTiesOther : (beforeOther.countP fun row => column row = column pivot) = 0 := by
        omega
      have fewer (rows : List Row) : (rows.countP fun row =>
          flag row && decide (column row = column pivot)) ≤
            rows.countP fun row => column row = column pivot :=
        List.countP_mono_left fun row _ both => (Bool.and_eq_true _ _ ▸ both).2
      have none := fewer before
      have noneOther := fewer beforeOther
      omega
    · have separated : Separated column (before ++ pivot :: rest) (column pivot) position := by
        constructor <;> omega
      have decided : ∀ row ∈ before ++ pivot :: rest, column row = column pivot →
          flag row = flag pivot := by
        intro row listed equal
        refine agree row listed pivot (List.mem_append_right _ List.mem_cons_self) equal ?_
        rw [equal]
        exact separated
      rw [countP_ties fun row listed => decided row (List.mem_append_left _ listed),
        countP_ties fun row listed =>
          decided row (perm.mem_iff.mpr (List.mem_append_left _ listed))]
      split
      · omega
      · rfl
  · have insideOther : other.length ≤ position := perm.length_eq ▸ Nat.not_lt.mp inside
    rw [List.take_of_length_le (Nat.not_lt.mp inside), List.take_of_length_le insideOther]
    exact perm.countP_eq flag

end Prefixes

section Pages

variable {column : Row → Int} {flag : Row → Bool} {rows : List Row} {size : Nat}

theorem countP_page (flag : Row → Bool) (size : Nat) (arranged : List Row) (number : Nat) :
    (arranged.take (number * size)).countP flag + (page arranged size number).countP flag =
      (arranged.take ((number + 1) * size)).countP flag := by
  rw [Nat.succ_mul, List.take_add, List.countP_append]
  rfl

theorem listedOnPages_succ (arranged : Nat → List Row) (count : Nat) :
    listedOnPages arranged flag size (count + 1) =
      listedOnPages arranged flag size count + (page (arranged count) size count).countP flag := by
  unfold listedOnPages
  rw [List.range_succ, List.map_append, List.sum_append, List.map_singleton, List.sum_singleton]

private theorem listedOnPages_eq {arranged : Nat → List Row} (before : Nat → Nat)
    (first : before 0 = 0)
    (same : ∀ number, ((arranged number).take (number * size)).countP flag = before number ∧
      ((arranged number).take ((number + 1) * size)).countP flag = before (number + 1))
    (count : Nat) : listedOnPages arranged flag size count = before count := by
  induction count with
  | zero => exact first.symm
  | succ count ih =>
    have counted := countP_page flag size (arranged count) count
    rw [(same count).1, (same count).2] at counted
    rw [listedOnPages_succ, ih, counted]

private theorem listedOnPages_from (flag : Row → Bool) (size : Nat)
    {arranged : Nat → List Row} {fixed : List Row} {start : Nat}
    (same : ∀ number, start ≤ number → arranged number = fixed) {count : Nat}
    (later : start ≤ count) :
    listedOnPages arranged flag size count + (fixed.take (start * size)).countP flag =
      listedOnPages arranged flag size start + (fixed.take (count * size)).countP flag := by
  induction count, later using Nat.le_induction with
  | base => rfl
  | succ count later ih =>
    have counted := countP_page flag size fixed count
    rw [listedOnPages_succ, same count later]
    omega

/-- Over pages whose boundaries separate no rows that are told apart, each row counts once. -/
theorem listedOnPages_of_tiesAgree (agree : TiesAgree column flag rows size)
    (orders : Nat → OrderBy Row column) {count : Nat} (enough : rows.length ≤ count * size) :
    listedOnPages (fun number => (orders number).arrange rows) flag size count =
      rows.countP flag := by
  have prefixes (number : Nat) (order : OrderBy Row column) :
      ((order.arrange rows).take (number * size)).countP flag =
        (((OrderBy.stable column).arrange rows).take (number * size)).countP flag := by
    have perm := order.perm rows
    refine countP_take_eq (perm.trans ((OrderBy.stable column).perm rows).symm)
      (order.ascending rows) ((OrderBy.stable column).ascending rows) ?_
    intro first inFirst second inSecond equal separated
    refine agree number first (perm.mem_iff.mp inFirst) second (perm.mem_iff.mp inSecond) equal ?_
    simpa only [Separated, perm.countP_eq] using separated
  have all : ((OrderBy.stable column).arrange rows).length ≤ count * size :=
    (((OrderBy.stable column).perm rows).length_eq).trans_le enough
  rw [listedOnPages_eq (fun number =>
    (((OrderBy.stable column).arrange rows).take (number * size)).countP flag) (by simp)
    (fun number => ⟨prefixes number (orders number), prefixes (number + 1) (orders number)⟩) count,
    List.take_of_length_le all]
  exact ((OrderBy.stable column).perm rows).countP_eq flag

end Pages

section Ties

variable {column : Row → Int} {flag : Row → Bool} {rows : List Row} {size : Nat}

private theorem exists_orderBy {arranged : List Row} (perm : arranged.Perm rows)
    (ascending : arranged.Pairwise fun first second => column first ≤ column second) :
    ∃ order : OrderBy Row column, order.arrange rows = arranged := by
  classical
  refine ⟨{
    arrange := fun other => if other = rows then arranged else (OrderBy.stable column).arrange other
    perm := fun other => ?_
    ascending := fun other => ?_ }, if_pos rfl⟩
  · split
    · next same => exact same ▸ perm
    · exact (OrderBy.stable column).perm other
  · split
    · exact ascending
    · exact (OrderBy.stable column).ascending other

private theorem countP_le (value : Int) :
    (rows.countP fun row => column row ≤ value) =
      (rows.countP fun row => column row < value) +
        (rows.filter fun row => column row = value).length := by
  rw [← List.countP_eq_length_filter]
  induction rows with
  | nil => rfl
  | cons row rest ih =>
    simp only [List.countP_cons, ih]
    rcases lt_trichotomy (column row) value with smaller | equal | larger
    · simp [smaller, smaller.le, smaller.ne]
      omega
    · simp [equal]
      omega
    · simp [larger.not_gt, larger.not_ge, larger.ne']

private theorem arrange_ties (column : Row → Int) (rows : List Row) (value : Int) :
    ∃ smaller larger : List Row,
      smaller.length = (rows.countP fun row => column row < value) ∧
      ∀ ties : List Row, ties.Perm (rows.filter fun row => column row = value) →
        (smaller ++ ties ++ larger).Perm rows ∧
        (smaller ++ ties ++ larger).Pairwise fun first second => column first ≤ column second := by
  let order := OrderBy.stable column
  have permSmaller := order.perm (rows.filter fun row => column row < value)
  have permLarger := order.perm (rows.filter fun row => value < column row)
  refine ⟨order.arrange (rows.filter fun row => column row < value),
    order.arrange (rows.filter fun row => value < column row), ?_, fun ties permTies => ⟨?_, ?_⟩⟩
  · rw [permSmaller.length_eq, List.countP_eq_length_filter]
  · have rest : ((rows.filter fun row => column row = value) ++
        rows.filter fun row => value < column row).Perm
          (rows.filter fun row => !decide (column row < value)) := by
      have split := List.filter_append_perm (fun row => decide (column row = value))
        (rows.filter fun row => !decide (column row < value))
      rw [List.filter_filter, List.filter_filter] at split
      refine List.Perm.trans (List.Perm.of_eq ?_) split
      congr 1
      · refine List.filter_congr fun row _ => ?_
        by_cases equal : column row = value <;> simp [equal]
      · refine List.filter_congr fun row _ => ?_
        rcases lt_trichotomy (column row) value with smaller | equal | larger
        · simp [smaller, smaller.not_gt]
        · simp [equal]
        · simp [larger, larger.not_gt, larger.ne']
    rw [List.append_assoc]
    exact (permSmaller.append ((permTies.append permLarger).trans rest)).trans
      (List.filter_append_perm _ rows)
  · have below : ∀ row ∈ order.arrange (rows.filter fun row => column row < value),
        column row < value := by
      intro row listed
      exact of_decide_eq_true (List.mem_filter.mp (permSmaller.mem_iff.mp listed)).2
    have equal : ∀ row ∈ ties, column row = value := by
      intro row listed
      exact of_decide_eq_true (List.mem_filter.mp (permTies.mem_iff.mp listed)).2
    have above : ∀ row ∈ order.arrange (rows.filter fun row => value < column row),
        value < column row := by
      intro row listed
      exact of_decide_eq_true (List.mem_filter.mp (permLarger.mem_iff.mp listed)).2
    rw [List.pairwise_append, List.pairwise_append]
    refine ⟨⟨order.ascending _, ?_, ?_⟩, order.ascending _, ?_⟩
    · refine List.pairwise_of_forall_mem_list fun first inFirst second inSecond => ?_
      exact ((equal first inFirst).trans (equal second inSecond).symm).le
    · intro first inFirst second inSecond
      exact (equal second inSecond).symm ▸ (below first inFirst).le
    · intro first inFirst second inSecond
      have larger := above second inSecond
      rcases List.mem_append.mp inFirst with inSmaller | inTies
      · exact ((below first inSmaller).trans larger).le
      · exact (equal first inTies).symm ▸ larger.le

/-- Two arrangements that differ in which of two equal rows stands before a position. -/
private theorem exists_swapped {first second : Row} {position : Nat} (inFirst : first ∈ rows)
    (inSecond : second ∈ rows) (equal : column first = column second) (apart : first ≠ second)
    (separated : Separated column rows (column first) position) :
    ∃ before : List Row, ∃ left right : OrderBy Row column,
      (left.arrange rows).take position = before ++ [first] ∧
        (right.arrange rows).take position = before ++ [second] := by
  classical
  obtain ⟨smaller, larger, length, arranged⟩ := arrange_ties column rows (column first)
  obtain ⟨low, high⟩ := separated
  rw [countP_le] at high
  have firstTied : first ∈ rows.filter fun row => column row = column first :=
    List.mem_filter.mpr ⟨inFirst, decide_eq_true rfl⟩
  have secondTied : second ∈ rows.filter fun row => column row = column first :=
    List.mem_filter.mpr ⟨inSecond, decide_eq_true equal.symm⟩
  generalize (rows.filter fun row => column row = column first) = tied at *
  have permFirst := List.perm_cons_erase firstTied
  have permSecond := List.perm_cons_erase ((List.mem_erase_of_ne apart.symm).mpr secondTied)
  generalize ((tied.erase first).erase second) = rest at *
  have permBoth : tied.Perm (first :: second :: rest) := permFirst.trans (permSecond.cons first)
  have count := permBoth.length_eq
  simp only [List.length_cons] at count
  let ahead := position - 1 - smaller.length
  have aheadLength : (rest.take ahead).length = ahead :=
    List.length_take_of_le (by simp only [ahead]; omega)
  have middle (one other : Row) : (rest.take ahead ++ one :: other :: rest.drop ahead).Perm
      (one :: other :: rest) := by
    refine List.perm_middle.trans (List.Perm.cons one (List.perm_middle.trans ?_))
    rw [List.take_append_drop]
  have taken (one other : Row) :
      (smaller ++ (rest.take ahead ++ one :: other :: rest.drop ahead) ++ larger).take position =
        smaller ++ rest.take ahead ++ [one] := by
    have regroup : smaller ++ (rest.take ahead ++ one :: other :: rest.drop ahead) ++ larger =
        (smaller ++ rest.take ahead ++ [one]) ++ (other :: rest.drop ahead ++ larger) := by
      simp
    rw [regroup]
    refine List.take_left' ?_
    simp only [List.length_append, aheadLength, List.length_singleton, ahead]
    omega
  obtain ⟨perm, ascending⟩ := arranged _ ((middle first second).trans permBoth.symm)
  obtain ⟨permOther, ascendingOther⟩ := arranged _
    ((middle second first).trans ((List.Perm.swap first second rest).trans permBoth.symm))
  obtain ⟨left, arrangesLeft⟩ := exists_orderBy perm ascending
  obtain ⟨right, arrangesRight⟩ := exists_orderBy permOther ascendingOther
  refine ⟨smaller ++ rest.take ahead, left, right, ?_, ?_⟩
  · rw [arrangesLeft, taken]
  · rw [arrangesRight, taken]

/-- If a boundary separates equal rows that are told apart, one of them can be listed twice. -/
private theorem exists_miscounted {number count : Nat} {first second : Row}
    (inFirst : first ∈ rows) (inSecond : second ∈ rows) (equal : column first = column second)
    (separated : Separated column rows (column first) (number * size))
    (ofKind : flag first = true) (notOfKind : flag second = false)
    (enough : rows.length ≤ count * size) :
    ∃ orders : Nat → OrderBy Row column,
      listedOnPages (fun number => (orders number).arrange rows) flag size count ≠
        rows.countP flag := by
  have apart : first ≠ second := by
    rintro rfl
    rw [ofKind] at notOfKind
    cases notOfKind
  obtain ⟨before, left, right, takenLeft, takenRight⟩ :=
    exists_swapped inFirst inSecond equal apart separated
  refine ⟨fun page => if page < number then left else right, fun counted => ?_⟩
  have inside : number * size < rows.length :=
    separated.2.trans_le List.countP_le_length
  have later : number ≤ count := by
    by_contra beyond
    have further := Nat.mul_le_mul_right size (Nat.le_of_not_le beyond)
    omega
  have firstPages : listedOnPages
      (fun page => (if page < number then left else right).arrange rows) flag size number =
        ((left.arrange rows).take (number * size)).countP flag := by
    have same : listedOnPages
        (fun page => (if page < number then left else right).arrange rows) flag size number =
          listedOnPages (fun _ => left.arrange rows) flag size number := by
      unfold listedOnPages
      congr 1
      refine List.map_congr_left fun page listed => ?_
      simp only [if_pos (List.mem_range.mp listed)]
    rw [same]
    exact listedOnPages_eq (fun page => ((left.arrange rows).take (page * size)).countP flag)
      (by simp) (fun _ => ⟨rfl, rfl⟩) number
  have lastOnes : ∀ page, number ≤ page →
      (if page < number then left else right).arrange rows = right.arrange rows := by
    intro page reached
    rw [if_neg (Nat.not_lt.mpr reached)]
  have lastPages := listedOnPages_from flag size lastOnes later
  have whole : ((right.arrange rows).take (count * size)).countP flag = rows.countP flag := by
    rw [List.take_of_length_le (((right.perm rows).length_eq).trans_le enough)]
    exact (right.perm rows).countP_eq flag
  rw [counted, firstPages, takenLeft, takenRight, whole, List.countP_append, List.countP_append]
    at lastPages
  simp only [List.countP_singleton, ofKind, notOfKind, if_true, Bool.false_eq_true, if_false]
    at lastPages
  omega

/-- In whatever order the pages come, each row of the kind is listed once, if and only if no page
boundary separates equal rows that are told apart. -/
theorem listedOnPages_eq_countP_iff {count : Nat} (enough : rows.length ≤ count * size) :
    (∀ orders : Nat → OrderBy Row column,
      listedOnPages (fun number => (orders number).arrange rows) flag size count =
        rows.countP flag) ↔
      TiesAgree column flag rows size := by
  constructor
  · intro all number first inFirst second inSecond equal separated
    by_contra different
    cases ofFirst : flag first with
    | true =>
      have ofSecond : flag second = false := by
        cases ofSecond : flag second with
        | false => rfl
        | true => exact absurd (ofFirst.trans ofSecond.symm) different
      obtain ⟨orders, miscounted⟩ :=
        exists_miscounted inFirst inSecond equal separated ofFirst ofSecond enough
      exact miscounted (all orders)
    | false =>
      have ofSecond : flag second = true := by
        cases ofSecond : flag second with
        | true => rfl
        | false => exact absurd (ofFirst.trans ofSecond.symm) different
      obtain ⟨orders, miscounted⟩ :=
        exists_miscounted inSecond inFirst equal.symm (equal ▸ separated) ofSecond ofFirst enough
      exact miscounted (all orders)
  · exact fun agree orders => listedOnPages_of_tiesAgree agree orders enough

end Ties

end CogniDQ.Database
