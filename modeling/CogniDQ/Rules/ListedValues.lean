import CogniDQ.Rules.ReferenceCounts
import CogniDQ.Rules.UniquenessCounts
import CogniDQ.Rules.ValiditySemantics

/-!
# Values held against a list or a column

A list of allowed values is written into the query, or joined with the rows as a table where it is
long. A reference column is always joined. A row comes out of a join once for each entry that its
value equals.
-/

set_option autoImplicit false

namespace CogniDQ.Rules

open CogniDQ.Python CogniDQ.Sql

namespace ValidityCheck

variable {Row V : Type}

/-! ## Counts by what is found -/

section Counting

variable (check : ValidityCheck)

/-- Whether a row is counted as valid, by whether its value is found and whether it is NULL. -/
def countsFound (found absent : Bool) : Bool :=
  if check.passes then found || absent
  else if check.skips then !absent && found
  else found

def countsUnfound (found absent : Bool) : Bool :=
  if check.passes || check.skips then !absent && !found else !found || absent

structure Finds (engine : Engine Row V) (row : Row) (found absent : Bool) : Prop where
  holds : check.test.holds.holds engine row = found
  alone : check.test.alone.holds engine row = found
  fails : absent = false → check.test.fails.holds engine row = !found
  isNull : check.test.isNull.holds engine row = absent
  isNotNull : check.test.isNotNull.holds engine row = !absent

variable {check} {engine : Engine Row V} {row : Row} {found absent : Bool}

private theorem Finds.countsValid (finds : check.Finds engine row found absent) :
    check.countsValid engine row = check.countsFound found absent := by
  unfold ValidityCheck.countsValid validArgument countsFound
  cases check.passes <;> cases check.skips <;>
    simp [Argument.holds, finds.holds, finds.alone, finds.isNull, finds.isNotNull]

private theorem Finds.countsInvalid (finds : check.Finds engine row found absent) :
    check.countsInvalid engine row = check.countsUnfound found absent := by
  have fails := finds.fails
  unfold ValidityCheck.countsInvalid invalidArgument countsUnfound
  cases absent <;> cases check.passes <;> cases check.skips <;>
    simp_all [Argument.holds, finds.isNull, finds.isNotNull]

theorem Finds.counted (finds : check.Finds engine row found absent) :
    check.totalArgument.holds engine row = (!check.skips || !absent) := by
  unfold totalArgument
  cases check.skips <;> simp [Argument.holds, finds.isNotNull]

private theorem Finds.countsSkipped (finds : check.Finds engine row found absent) :
    check.countsSkipped engine row = (check.skips && absent) := by
  rw [countsSkipped_eq, lacks, finds.isNull]

end Counting

/-! ## The columns of the result -/

section Columns

variable {runtime : Runtime} {engine : Engine Row V} {check : ValidityCheck} {rows : List Row}

theorem result_total : (check.result runtime engine rows).get "total_rows" =
    .int ((check.selected runtime engine rows).countP fun row => check.totalArgument.holds engine row) :=
  rfl

private theorem result_valid : (check.result runtime engine rows).get "valid_rows" =
    .int ((check.selected runtime engine rows).countP (check.countsValid engine)) := rfl

private theorem result_invalid : (check.result runtime engine rows).get "invalid_rows" =
    .int ((check.selected runtime engine rows).countP (check.countsInvalid engine)) := rfl

private theorem result_skipped : (check.result runtime engine rows).get "skipped_rows" =
    if check.skips then .int ((check.selected runtime engine rows).countP (check.countsSkipped engine))
    else .none := by
  unfold result Query.row query countsSkipped skippedArgument
  cases check.skips with
  | false => rfl
  | true => rfl

end Columns

/-! ## Joined rows -/

section Joined

variable {L R : Type} {runtime : Runtime} {plain : Engine L V} {engine : Engine (L × Option R) V}
  {check : ValidityCheck} {on : L → R → Bool} {right : List R} {found absent : L → Bool}

/-- What a joined row is counted as: its value is found where it has a partner. -/
def FindsPartners (check : ValidityCheck) (engine : Engine (L × Option R) V) (on : L → R → Bool)
    (right : List R) (absent : L → Bool) : Prop :=
  ∀ row, ∀ pair ∈ extended on right row,
    check.Finds engine pair (!(partners on right row).isEmpty) (absent row)

theorem selected_leftJoin (reads : ∀ pair expression, engine.truth pair expression =
      plain.truth pair.1 expression) (rows : List L) :
    check.selected runtime engine (leftJoin on right rows) =
      leftJoin on right (plain.selected (filterCondition runtime check.filter) rows) := by
  have same : ∀ pair : L × Option R, admits engine pair (filterCondition runtime check.filter) =
      admits plain pair.1 (filterCondition runtime check.filter) := by
    intro pair
    unfold filterCondition
    split
    · simp only [admits, List.map_cons, List.map_nil, Predicate.eval, Atomic.eval, reads]
    · rfl
  unfold selected Engine.selected
  rw [← filter_leftJoin]
  exact List.filter_congr fun pair _ => same pair

theorem countP_joined {test : L × Option R → Bool} {counts : L → Bool}
    (agrees : ∀ row, ∀ pair ∈ extended on right row, test pair = counts row) (rows : List L) :
    (leftJoin on right rows).countP test =
      rows.countP counts +
        ((rows.filter counts).map fun row => (partners on right row).length - 1).sum := by
  have same : (leftJoin on right rows).countP test =
      (leftJoin on right (rows.filter counts)).length := by
    rw [← filter_leftJoin, List.countP_eq_length_filter]
    congr 1
    refine List.filter_congr fun pair member => ?_
    obtain ⟨row, _, inside⟩ := List.mem_flatMap.mp member
    rw [agrees row pair inside, fst_of_mem_extended inside]
  rw [same, length_leftJoin, ← List.countP_eq_length_filter]

private theorem sum_filter_of_zero {size : L → Nat} {counts : L → Bool} {rows : List L}
    (zero : ∀ row, counts row = false → size row = 0) :
    ((rows.filter counts).map size).sum = (rows.map size).sum := by
  induction rows with
  | nil => rfl
  | cons row rows ih =>
      cases counted : counts row with
      | true => rw [List.filter_cons_of_pos counted, List.map_cons, List.map_cons, List.sum_cons,
          List.sum_cons, ih]
      | false =>
          rw [List.filter_cons_of_neg (by rw [counted]; decide), List.map_cons, List.sum_cons,
            zero row counted, Nat.zero_add, ih]

theorem total_joined (finds : FindsPartners check engine on right absent)
    (alone : ∀ row, absent row = true → partners on right row = [])
    (reads : ∀ pair expression, engine.truth pair expression = plain.truth pair.1 expression)
    (rows : List L) :
    let kept := plain.selected (filterCondition runtime check.filter) rows
    (check.result runtime engine (leftJoin on right rows)).get "total_rows" =
      .int ((kept.countP fun row => !check.skips || !absent row) +
        (kept.map fun row => (partners on right row).length - 1).sum : Nat) := by
  intro kept
  have zero : ∀ row, (!check.skips || !absent row) = false →
      (partners on right row).length - 1 = 0 := by
    intro row skipped
    have null : absent row = true := by
      cases isAbsent : absent row with
      | true => rfl
      | false =>
          rw [isAbsent, Bool.not_false, Bool.or_true] at skipped
          cases skipped
    rw [alone row null]
    rfl
  rw [result_total, selected_leftJoin reads,
    countP_joined fun row pair member => (finds row pair member).counted, sum_filter_of_zero zero]

end Joined

/-! ## Two ways to find a value -/

section Agreement

variable {Row : Type} {check : ValidityCheck} {rows : List Row} {found other absent : Row → Bool}

private theorem countP_countsFound (present : ∀ row, found row = true → absent row = false) :
    (rows.countP fun row => check.countsFound (found row) (absent row)) =
      rows.countP found + if check.passes then rows.countP absent else 0 := by
  have apart : ∀ row ∈ rows, ¬ (found row = true ∧ absent row = true) := by
    intro row _ ⟨is, isAbsent⟩
    rw [present row is] at isAbsent
    cases isAbsent
  unfold countsFound
  cases check.passes with
  | true => exact countP_or apart
  | false =>
      cases check.skips with
      | false => rfl
      | true =>
          refine List.countP_congr fun row _ => ?_
          cases is : found row <;> simp [is, present row]

private theorem countP_countsUnfound (present : ∀ row, found row = true → absent row = false) :
    (rows.countP fun row => check.countsUnfound (found row) (absent row)) + rows.countP found +
      (if check.passes || check.skips then rows.countP absent else 0) = rows.length := by
  unfold countsUnfound
  induction rows with
  | nil => cases check.passes <;> cases check.skips <;> rfl
  | cons row rows ih =>
      have here := present row
      cases passes : check.passes <;> cases skips : check.skips <;>
        cases isFound : found row <;> cases isAbsent : absent row <;>
          simp_all <;> omega

private theorem countP_found_iff (present : ∀ row, found row = true → absent row = false)
    (presentOther : ∀ row, other row = true → absent row = false) :
    ((rows.countP fun row => check.countsFound (found row) (absent row)) =
        (rows.countP fun row => check.countsFound (other row) (absent row)) ∧
      (rows.countP fun row => check.countsUnfound (found row) (absent row)) =
        rows.countP fun row => check.countsUnfound (other row) (absent row)) ↔
      rows.countP found = rows.countP other := by
  have first := @countP_countsUnfound _ check rows found absent present
  have second := @countP_countsUnfound _ check rows other absent presentOther
  rw [countP_countsFound present, countP_countsFound presentOther]
  omega

end Agreement

end ValidityCheck

/-- What a rule with a list of allowed values is compiled from. -/
structure ListedValues where
  runtime : Runtime
  table : Phrase
  column : String
  parameters : Dict
  values : List Value

namespace ListedValues

section Rule

variable (rule : ListedValues)

def caseSensitive : Bool := (rule.parameters.getD "case_sensitive" (.bool true)).truthy

def compared (operand : Expr) : Expr :=
  if rule.caseSensitive then operand else .unary "LOWER(" ")" operand

def joinCond : Predicate :=
  .atom (.compare .equal (rule.compared (Expr.checked rule.column))
    (rule.compared (.own "ref_values.val")))

def joinedSource : ValiditySource where
  before := "WITH ref_values AS (SELECT unnest(ARRAY[" ++
    Phrase.join ", " (rule.values.map (allowedValue rule.runtime true)) ++ "]) AS val)\n            "
  star := "t.*"
  tables := rule.table ++ " t\n            LEFT JOIN ref_values ON " ++ rule.joinCond.phrase

def joined : ValidityCheck :=
  validityCheckOf rule.parameters rule.joinedSource (listedTest rule.column)

def inline : ValidityCheck :=
  validityCheckOf rule.parameters (tableSource rule.table)
    (allowedTest rule.column rule.caseSensitive
      (rule.values.map (allowedPair rule.runtime rule.caseSensitive)))

end Rule

section Rows

variable {L V : Type} (rule : ListedValues) (engine : Engine L V)

/-- The engine over the rows of the join, in which the list has one column. -/
def listing : Engine (L × Option V) V :=
  { engine.joined "t" "" fun _ _ => none with
    own := fun pair written => if written = "ref_values.val" then pair.2 else engine.own pair.1 written }

/-- The rows of `ref_values`. -/
def entries : List V := rule.values.map fun value => engine.literal (rule.runtime.str value)

def matched (row : L) (entry : V) : Bool :=
  admits (listing engine) (row, some entry) [rule.joinCond]

def entriesOf (row : L) : List V := partners (rule.matched engine) (rule.entries engine) row

def isListed (row : L) : Bool := rule.inline.test.holds.holds engine row

def kept (rows : List L) : List L :=
  engine.selected (filterCondition rule.runtime (rule.parameters.get "filter_expression")) rows

def joinedResult (rows : List L) : Dict :=
  rule.joined.result rule.runtime (listing engine)
    (leftJoin (rule.matched engine) (rule.entries engine) rows)

/-- The row that the join form returns, if it is answered. -/
def joinedAnswer (joining : Joining) (rows : List L) : Option Dict :=
  if joining.answers rule.runtime (rule.parameters.get "filter_expression") then
    some (rule.joinedResult engine rows)
  else none

def inlineResult (rows : List L) : Dict := rule.inline.result rule.runtime engine rows

def SameCounts (rows : List L) (row : Dict) : Prop :=
  ∀ key ∈ ["total_rows", "valid_rows", "invalid_rows", "skipped_rows"],
    row.get key = (rule.inlineResult engine rows).get key

/-- No value is in the list twice, and as many rows are found by the join only as by the IN list
only. -/
structure Agrees (rows : List L) : Prop where
  single : ∀ row ∈ rule.kept engine rows, (rule.entriesOf engine row).length ≤ 1
  balanced :
    ((rule.kept engine rows).countP fun row =>
        !(rule.entriesOf engine row).isEmpty && !rule.isListed engine row) =
      (rule.kept engine rows).countP fun row =>
        rule.isListed engine row && !(!(rule.entriesOf engine row).isEmpty)

end Rows

section Found

variable {L V : Type} {rule : ListedValues} {engine : Engine L V}

def absent (rule : ListedValues) (engine : Engine L V) (row : L) : Bool :=
  (Expr.cell rule.column).isNull engine row

theorem isNull_checked (pair : L × Option V) :
    (Expr.checked rule.column).isNull (listing engine) pair = rule.absent engine pair.1 := by
  simp [Expr.checked, Expr.isNull, Expr.eval, listing, Engine.joined, absent, Expr.cell]

theorem entriesOf_of_absent {row : L} (absent : rule.absent engine row = true) :
    rule.entriesOf engine row = [] := by
  refine List.filter_eq_nil_iff.mpr fun entry _ isJoined => ?_
  have unknown : (rule.joinCond.eval (listing engine) (row, some entry)).isSome = false := by
    have null : (rule.compared (Expr.checked rule.column)).isNull (listing engine) (row, some entry) =
        true := by
      unfold compared
      split
      · rw [isNull_checked, absent]
      · rw [Expr.isNull_unary, isNull_checked, absent]
    refine (Comparison.eval_isSome _ _ _).trans ?_
    rw [null]
    rfl
  have holds := admits_iff.mp isJoined rule.joinCond List.mem_cons_self
  rw [Predicate.holds_of_unknown unknown] at holds
  cases holds

theorem finds_joined : rule.joined.FindsPartners (listing engine) (rule.matched engine)
    (rule.entries engine) (rule.absent engine) := by
  intro row pair member
  have same := fst_of_mem_extended member
  have own : pair.2.isSome = !(partners (rule.matched engine) (rule.entries engine) row).isEmpty := by
    unfold extended at member
    split at member
    · next alone => rw [List.mem_singleton.mp member, alone]; rfl
    · next some =>
        obtain ⟨partner, _, rfl⟩ := List.mem_map.mp member
        cases found : partners (rule.matched engine) (rule.entries engine) row with
        | nil => exact absurd found (by simpa using some)
        | cons first rest => rfl
  have value : (listing engine).own pair "ref_values.val" = pair.2 := by simp [listing]
  have null : (Expr.checked rule.column).isNull (listing engine) pair = rule.absent engine row := by
    rw [isNull_checked, same]
  rw [← own]
  constructor
  · simp [joined, validityCheckOf, listedTest, joinedTest, Predicate.holds, Predicate.eval,
      Atomic.eval, value]
  · simp [joined, validityCheckOf, listedTest, joinedTest, Predicate.holds, Predicate.eval,
      Atomic.eval, value]
  · intro _
    simp [joined, validityCheckOf, listedTest, joinedTest, Predicate.holds, Predicate.eval,
      Atomic.eval, value]
  · exact (Predicate.holds_isNull _).trans null
  · exact (Predicate.holds_isNotNull _).trans (congrArg (!·) null)

private theorem present_of_listed {row : L} (found : rule.isListed engine row = true) :
    rule.absent engine row = false := by
  cases null : rule.absent engine row with
  | false => rfl
  | true =>
      have never : rule.isListed engine row = false :=
        Predicate.holds_of_unknown ((known_allowedTest _ _ row).trans (congrArg (!·) null))
      rw [found] at never
      cases never

theorem present_of_entries {row : L} (found : (!(rule.entriesOf engine row).isEmpty) = true) :
    rule.absent engine row = false := by
  cases null : rule.absent engine row with
  | false => rfl
  | true =>
      rw [entriesOf_of_absent null] at found
      cases found

theorem finds_inline (row : L) :
    rule.inline.Finds engine row (rule.isListed engine row) (rule.absent engine row) := by
  have strict : rule.inline.test.Strict engine := strict_allowedTest _ _
  have null : rule.inline.lacks engine row = rule.absent engine row := Predicate.holds_isNull _
  have alone := ValidityCheck.holds_eq strict row
  constructor
  · rfl
  · exact alone.symm
  · intro present
    have known : rule.inline.knows engine row = true :=
      (known_allowedTest _ _ row).trans (congrArg (!·) present)
    rw [ValidityCheck.fails_eq strict, known, ← alone]
    rfl
  · exact null
  · rw [ValidityCheck.isNotNull_holds strict.testsNull, null]

end Found

section Counts

variable {L V : Type} {rule : ListedValues} {engine : Engine L V} {rows : List L}

/-- The partners beyond the first of the rows that a test counts. -/
def surplus (rule : ListedValues) (engine : Engine L V) (rows : List L) (counts : L → Bool) : Nat :=
  (((rule.kept engine rows).filter counts).map fun row => (rule.entriesOf engine row).length - 1).sum

private theorem selected_joined : rule.joined.selected rule.runtime (listing engine)
    (leftJoin (rule.matched engine) (rule.entries engine) rows) =
      leftJoin (rule.matched engine) (rule.entries engine) (rule.kept engine rows) :=
  ValidityCheck.selected_leftJoin (fun _ _ => rfl) rows

private theorem countP_selected {test : L × Option V → Bool} {counts : L → Bool}
    (agrees : ∀ row, ∀ pair ∈ extended (rule.matched engine) (rule.entries engine) row,
      test pair = counts row) :
    (rule.joined.selected rule.runtime (listing engine)
        (leftJoin (rule.matched engine) (rule.entries engine) rows)).countP test =
      (rule.kept engine rows).countP counts + rule.surplus engine rows counts := by
  rw [selected_joined, ValidityCheck.countP_joined agrees]
  rfl

private theorem surplus_of_single (single : ∀ row ∈ rule.kept engine rows,
    (rule.entriesOf engine row).length ≤ 1) (counts : L → Bool) :
    rule.surplus engine rows counts = 0 := by
  refine List.sum_eq_zero fun size member => ?_
  obtain ⟨row, inside, rfl⟩ := List.mem_map.mp member
  exact Nat.sub_eq_zero_of_le (single row (List.mem_filter.mp inside).1)

private theorem total_iff :
    (rule.joinedResult engine rows).get "total_rows" = (rule.inlineResult engine rows).get "total_rows" ↔
      ∀ row ∈ rule.kept engine rows, (rule.entriesOf engine row).length ≤ 1 := by
  have joins : (rule.joinedResult engine rows).get "total_rows" = _ :=
    ValidityCheck.total_joined finds_joined (fun row => entriesOf_of_absent) (fun _ _ => rfl) rows
  have lists : (rule.inline.selected rule.runtime engine rows).countP
      (fun row => rule.inline.totalArgument.holds engine row) =
      (rule.kept engine rows).countP fun row => !rule.joined.skips || !rule.absent engine row :=
    List.countP_congr fun row _ => by rw [(finds_inline row).counted]; rfl
  have kept : engine.selected (filterCondition rule.runtime rule.joined.filter) rows =
    rule.kept engine rows := rfl
  rw [joins, kept, inlineResult, ValidityCheck.result_total, lists, Value.int.injEq, Int.natCast_inj,
    Nat.add_eq_left, List.sum_eq_zero_iff_forall_eq_nat, List.forall_mem_map]
  exact forall₂_congr fun row _ => Nat.sub_eq_zero_iff_le

private theorem isListed_eq (cased : rule.caseSensitive = true) (row : L) :
    rule.isListed engine row = !(rule.entriesOf engine row).isEmpty := by
  have listed : rule.isListed engine row =
      ((memberEval engine row (Expr.cell rule.column)
        (rule.values.map (allowedPair rule.runtime true))) == some true) := by
    unfold isListed inline
    rw [cased]
    rfl
  have joins : ∀ entry, rule.matched engine row entry =
      (engine.column row ⟨"", rule.column⟩).any fun found => engine.equal found entry := by
    intro entry
    have compare : rule.matched engine row entry = rule.joinCond.holds (listing engine)
        (row, some entry) := by
      rw [Bool.eq_iff_iff, matched, admits_iff, List.forall_mem_singleton]
    rw [compare]
    simp only [joinCond, compared, cased, if_true, Predicate.holds, Predicate.eval, Atomic.eval,
      Comparison.eval, Expr.eval, Expr.checked, listing, Engine.joined]
    cases engine.column row ⟨"", rule.column⟩ <;> simp [Comparison.holds]
  rw [listed, Bool.eq_iff_iff, Bool.not_eq_true', List.isEmpty_eq_false_iff_exists_mem]
  simp only [entriesOf, partners, entries, List.mem_filter, List.mem_map, joins, memberEval,
    Expr.cell, Expr.eval]
  cases engine.column row ⟨"", rule.column⟩ with
  | none => simp
  | some found => simp [allowedPair]

private theorem sameCounts_iff :
    rule.SameCounts engine rows (rule.joinedResult engine rows) ↔ rule.Agrees engine rows := by
  have balance := @ValidityCheck.countP_found_iff _ rule.joined (rule.kept engine rows)
    (fun row => !(rule.entriesOf engine row).isEmpty) (rule.isListed engine) (rule.absent engine)
    (fun _ => present_of_entries) (fun _ => present_of_listed)
  have valid := @countP_selected _ _ rule engine rows _ _ fun row pair member =>
    (finds_joined row pair member).countsValid
  have invalid := @countP_selected _ _ rule engine rows _ _ fun row pair member =>
    (finds_joined row pair member).countsInvalid
  have skipped := @countP_selected _ _ rule engine rows _ _ fun row pair member =>
    (finds_joined row pair member).countsSkipped
  have listed : ∀ {test counts : L → Bool}, (∀ row, test row = counts row) →
      (rule.inline.selected rule.runtime engine rows).countP test =
        (rule.kept engine rows).countP counts := by
    intro test counts same
    exact List.countP_congr fun row _ => by rw [same]
  have listedValid := listed fun row => (@finds_inline _ _ rule engine row).countsValid
  have listedInvalid := listed fun row => (@finds_inline _ _ rule engine row).countsInvalid
  have listedSkipped := listed fun row => (@finds_inline _ _ rule engine row).countsSkipped
  constructor
  · intro same
    have single := total_iff.mp (same "total_rows" (by decide))
    have sameValid := same "valid_rows" (by decide)
    have sameInvalid := same "invalid_rows" (by decide)
    unfold joinedResult inlineResult at sameValid sameInvalid
    rw [ValidityCheck.result_valid, ValidityCheck.result_valid, valid, listedValid,
      surplus_of_single single, Nat.add_zero, Value.int.injEq, Int.natCast_inj] at sameValid
    rw [ValidityCheck.result_invalid, ValidityCheck.result_invalid, invalid, listedInvalid,
      surplus_of_single single, Nat.add_zero, Value.int.injEq, Int.natCast_inj] at sameInvalid
    exact ⟨single, (countP_eq_iff _).mp (balance.mp ⟨sameValid, sameInvalid⟩)⟩
  · intro agrees
    obtain ⟨sameValid, sameInvalid⟩ := balance.mpr ((countP_eq_iff _).mpr agrees.balanced)
    intro key member
    simp only [List.mem_cons, List.not_mem_nil, or_false] at member
    obtain rfl | rfl | rfl | rfl := member
    · exact total_iff.mpr agrees.single
    · unfold joinedResult inlineResult
      rw [ValidityCheck.result_valid, ValidityCheck.result_valid, valid, listedValid,
        surplus_of_single agrees.single, Nat.add_zero]
      exact congrArg (fun count : Nat => Value.int count) sameValid
    · unfold joinedResult inlineResult
      rw [ValidityCheck.result_invalid, ValidityCheck.result_invalid, invalid, listedInvalid,
        surplus_of_single agrees.single, Nat.add_zero]
      exact congrArg (fun count : Nat => Value.int count) sameInvalid
    · unfold joinedResult inlineResult
      rw [ValidityCheck.result_skipped, ValidityCheck.result_skipped, skipped, listedSkipped,
        surplus_of_single agrees.single, Nat.add_zero]
      rfl

private theorem agrees_iff_of_cased (cased : rule.caseSensitive = true) :
    rule.Agrees engine rows ↔
      ∀ row ∈ rule.kept engine rows, (rule.entriesOf engine row).length ≤ 1 := by
  constructor
  · exact Agrees.single
  · intro single
    refine ⟨single, ?_⟩
    simp only [isListed_eq cased, Bool.and_not_self]

end Counts

end ListedValues

/-! ## A reference column -/

/-- What a rule with a reference column is compiled from. -/
structure ReferenceLookup where
  runtime : Runtime
  table : Phrase
  column : String
  parameters : Dict

namespace ReferenceLookup

section Rule

variable (rule : ReferenceLookup)

def refColumn : String := rule.runtime.str (rule.parameters.get "reference_column")

def joinCond : Predicate :=
  .atom (.compare .equal (Expr.checked rule.column) (.column ⟨"ref", rule.refColumn⟩))

def source : ValiditySource where
  before := "\n            "
  star := "t.*"
  tables := rule.table ++ " t\n            LEFT JOIN " ++
    referenceTable (rule.runtime.str (rule.parameters.get "reference_dataset")) ++ " ref ON " ++
      rule.joinCond.phrase

def check : ValidityCheck :=
  validityCheckOf rule.parameters rule.source (lookupTest rule.column rule.refColumn)

end Rule

section Rows

variable {L R V : Type} (rule : ReferenceLookup) (engine : Engine L V) (cell : R → String → Option V)
  (reference : List R)

def matched (row : L) (partner : R) : Bool :=
  admits (engine.joined "t" "ref" cell) (row, some partner) [rule.joinCond]

/-- The rows of the reference table that hold the value of a row. -/
def partnersOf (row : L) : List R := partners (rule.matched engine cell) reference row

def kept (rows : List L) : List L :=
  engine.selected (filterCondition rule.runtime (rule.parameters.get "filter_expression")) rows

def result (rows : List L) : Dict :=
  rule.check.result rule.runtime (engine.joined "t" "ref" cell)
    (leftJoin (rule.matched engine cell) reference rows)

/-- The row that the query returns, if it is answered. -/
def answer (joining : Joining) (rows : List L) : Option Dict :=
  if joining.answers rule.runtime (rule.parameters.get "filter_expression") then
    some (rule.result engine cell reference rows)
  else none

def absent (row : L) : Bool := (Expr.cell rule.column).isNull engine row

def repeats (rows : List L) : Nat :=
  ((rule.kept engine rows).map fun row => (rule.partnersOf engine cell reference row).length - 1).sum

def leftOut (rows : List L) : Nat :=
  if rule.check.skips then (rule.kept engine rows).countP (rule.absent engine) else 0

end Rows

section Counts

variable {L R V : Type} {rule : ReferenceLookup} {engine : Engine L V} {cell : R → String → Option V}
  {reference : List R}

theorem matched_eq_true {row : L} {partner : R} :
    rule.matched engine cell row partner = true ↔
      ∃ first second, engine.column row ⟨"", rule.column⟩ = some first ∧
        cell partner rule.refColumn = some second ∧ engine.equal first second = true := by
  have apart : ¬ "ref" = "t" := by decide
  rw [matched, admits_iff, List.forall_mem_singleton]
  simp only [joinCond, Expr.checked, Predicate.holds, Predicate.eval, Atomic.eval, Comparison.eval,
    Expr.eval, Engine.joined, if_true, if_neg apart, Option.bind_some]
  cases engine.column row ⟨"", rule.column⟩ with
  | none => simp
  | some first =>
      cases cell partner rule.refColumn with
      | none => simp
      | some second => simp [Comparison.holds]

private theorem partnersOf_of_absent (row : L) (absent : rule.absent engine row = true) :
    rule.partnersOf engine cell reference row = [] := by
  refine List.filter_eq_nil_iff.mpr fun partner _ isJoined => ?_
  obtain ⟨first, _, present, _⟩ := matched_eq_true.mp isJoined
  have null : (engine.column row ⟨"", rule.column⟩).isNone = true := absent
  rw [present] at null
  cases null

theorem finds : rule.check.FindsPartners (engine.joined "t" "ref" cell) (rule.matched engine cell)
    reference (rule.absent engine) := by
  intro row pair member
  have null : (Expr.checked rule.column).isNull (engine.joined "t" "ref" cell) pair =
      rule.absent engine row := by
    rw [Expr.checked, isNull_left, fst_of_mem_extended member]
    rfl
  have missing : (Expr.column ⟨"ref", rule.refColumn⟩).isNull (engine.joined "t" "ref" cell) pair =
      (partners (rule.matched engine cell) reference row).isEmpty := by
    unfold extended at member
    split at member
    · next alone =>
        rw [List.mem_singleton.mp member, alone]
        exact isNull_right_of_none (by decide)
    · next some =>
        obtain ⟨partner, inside, rfl⟩ := List.mem_map.mp member
        obtain ⟨_, second, _, present, _⟩ := matched_eq_true.mp (List.mem_filter.mp inside).2
        have given : (Expr.column ⟨"ref", rule.refColumn⟩).isNull (engine.joined "t" "ref" cell)
            (row, Option.some partner) = false := by
          simp [Expr.isNull, Expr.eval, Engine.joined, present]
        rw [given]
        cases found : partners (rule.matched engine cell) reference row with
        | nil => exact absurd found (by simpa using some)
        | cons first rest => rfl
  constructor
  · exact (Predicate.holds_isNotNull _).trans (congrArg (!·) missing)
  · exact (Predicate.holds_isNotNull _).trans (congrArg (!·) missing)
  · intro _
    exact (Predicate.holds_isNull _).trans (by rw [missing, Bool.not_not])
  · exact (Predicate.holds_isNull _).trans null
  · exact (Predicate.holds_isNotNull _).trans (congrArg (!·) null)

private theorem countP_counted (rows : List L) :
    ((rule.kept engine rows).countP fun row => !rule.check.skips || !rule.absent engine row) +
      rule.leftOut engine rows = (rule.kept engine rows).length := by
  unfold leftOut
  cases rule.check.skips with
  | false => simp
  | true =>
      have split := @List.length_eq_countP_add_countP _ (rule.absent engine) (rule.kept engine rows)
      have rest : (rule.kept engine rows).countP (fun row => !true || !rule.absent engine row) =
          (rule.kept engine rows).countP fun row => decide ¬ rule.absent engine row = true :=
        List.countP_congr fun row _ => by simp
      rw [rest, if_pos rfl]
      omega

private theorem total_iff (rows : List L) :
    (rule.result engine cell reference rows).get "total_rows" = .int (rule.kept engine rows).length ↔
      rule.repeats engine cell reference rows = rule.leftOut engine rows := by
  have joins : (rule.result engine cell reference rows).get "total_rows" = _ :=
    ValidityCheck.total_joined finds partnersOf_of_absent (fun _ _ => rfl) rows
  have kept : engine.selected (filterCondition rule.runtime rule.check.filter) rows =
    rule.kept engine rows := rfl
  have counted := @countP_counted _ _ rule engine rows
  rw [joins, kept, Value.int.injEq, Int.natCast_inj, ← counted, Nat.add_left_cancel_iff]
  rfl

end Counts

end ReferenceLookup

/-! ## The compiled texts -/

section Texts

variable {runtime : Runtime} {parameters : Dict} {source written : ValiditySource} {test : RowTest}
  {compiled : Compiled}

private theorem ValidityCheck.writes_of_tables {printed : ValidityTest} {forMysql : String → String}
    (same : test.phrase = printed) (before : source.before = written.before)
    (tables : source.tables.chars = written.tables.chars)
    (success : validityCompiled runtime parameters written printed forMysql = .compiled compiled) :
    compiled.query.phrase.text =
      (((validityCheckOf parameters source test).query runtime).map Argument.phrase).phrase.text := by
  subst same
  obtain rfl := Outcome.compiled.inj success
  have query : ((validityCheckOf parameters source test).query runtime).map Argument.phrase = _ :=
    ValidityCheck.map_query
  rw [query]
  refine Query.text_congr ?_ rfl rfl ?_
  · exact congrArg (fun before : Phrase => (before ++ "SELECT\n                ").chars) before.symm
  · simp only [validityQuery, Phrase.chars_append, tables, validityCheckOf]

private theorem ListedValues.chars_joinCond {rule : ListedValues} : rule.joinCond.phrase.chars =
    (if rule.caseSensitive then "t." ++ name rule.column ++ " = ref_values.val"
      else "LOWER(t." ++ name rule.column ++ ") = LOWER(ref_values.val)" : Phrase).chars := by
  unfold joinCond compared
  cases rule.caseSensitive with
  | true => simp [Predicate.phrase, Atomic.phrase, Expr.phrase, Expr.checked, ColumnRef.phrase,
      Comparison.operator]
  | false => simp [Predicate.phrase, Atomic.phrase, Expr.phrase, Expr.checked, ColumnRef.phrase,
      Comparison.operator]

theorem ReferenceLookup.chars_joinCond {rule : ReferenceLookup} : rule.joinCond.phrase.chars =
    ("t." ++ name rule.column ++ " = " ++ ("ref." ++ name rule.refColumn) : Phrase).chars := by
  simp [joinCond, Predicate.phrase, Atomic.phrase, Expr.phrase, Expr.checked, ColumnRef.phrase,
    Comparison.operator]

end Texts

section Example

private def codeParameters (copies : Nat) : Dict :=
  [("allowed_values", .list (List.replicate copies (.str "a"))), ("reference_dataset", .str "codes"),
    ("reference_column", .str "code")]

private def codeList (copies : Nat) : ListedValues where
  runtime := Runtime.ascii
  table := name "orders"
  column := "code"
  parameters := codeParameters copies
  values := List.replicate copies (.str "a")

def namedCell (row : List (String × String)) (column : String) : Option String := row.lookup column

private def codeLookup : ReferenceLookup where
  runtime := Runtime.ascii
  table := name "orders"
  column := "code"
  parameters := codeParameters 1

private def textJoining : Joining := ⟨fun _ => true, true⟩

end Example

end CogniDQ.Rules
