import CogniDQ.Rules.Completeness
import CogniDQ.Sql.Predicate
import CogniDQ.Sql.Ternary

/-!
# What the completeness queries count

The three-valued meaning of the conditions, the result rows of the query over any
table and the rows the violation query returns. In every check mode each selected
row is counted on exactly one side, and the evidence is the rows of the failing
side, where the texts are read as the conditions they are written from.
-/

set_option autoImplicit false

namespace CogniDQ.Rules

open CogniDQ.Python CogniDQ.Sql

/-- What the database knows of its rows: cells (nothing is NULL), the value of a
filter expression, and the comparisons of a value with a literal, as it is, trimmed,
and trimmed and lowered. -/
structure Database (Row V : Type) where
  cell : Row → String → Option V
  filter : String → Row → Ternary
  is : V → String → Bool
  trimmedIs : V → String → Bool
  loweredIs : V → String → Bool

section Meaning

variable {Row V : Type} (database : Database Row V)

def Database.compare (column : String) (test : V → Bool) (row : Row) : Ternary :=
  (database.cell row column).map test

def Database.isNull (column : String) (row : Row) : Bool := (database.cell row column).isNone

def Atom.eval (row : Row) : Atom → Ternary
  | .isNull column => some (database.isNull column row)
  | .isNotNull column => some (!database.isNull column row)
  | .trimmedEmpty column => database.compare column (database.trimmedIs · "") row
  | .trimmedNotEmpty column => (database.compare column (database.trimmedIs · "") row).not
  | .placeholder column values =>
      database.compare column (fun value => values.any (database.loweredIs value)) row
  | .notPlaceholder column values =>
      (database.compare column (fun value => values.any (database.loweredIs value)) row).not
  | .oneOf column values =>
      database.compare column (fun value => values.any (database.is value)) row
  | .someNotNull columns => some (columns.any fun column => !database.isNull column row)
  | .never => some false

def Condition.eval (row : Row) : Condition → Ternary
  | .all atoms => Ternary.all (atoms.map (Atom.eval database row))
  | .any atoms => Ternary.any (atoms.map (Atom.eval database row))

def Counted.holds (row : Row) : Counted → Bool
  | .rows => true
  | .column chosen => !database.isNull chosen row
  | .cases condition => condition.eval database row == some true

def Division.passes (row : Row) : Division → Bool
  | .everything => true
  | .column chosen => !database.isNull chosen row
  | .cases pass _ => pass.eval database row == some true

def Division.fails (row : Row) : Division → Bool
  | .everything => false
  | .column chosen => database.isNull chosen row
  | .cases _ fail => fail.eval database row == some true

def Database.valuation (rows : List Row) : Valuation Counted where
  count counted := rows.countP fun row => counted.holds database row
  rows _ := 0
  scalar _ := .none

end Meaning

/-- A part of a WHERE clause: the filter, a condition of the check, or one that no row meets. -/
inductive Clause where
  | filter
  | condition (chosen : Condition)
  | nothing
deriving DecidableEq, Repr

/-- No list of values is empty. -/
def Atom.listed : Atom → Bool
  | .placeholder _ values | .notPlaceholder _ values | .oneOf _ values => !values.isEmpty
  | _ => true

def Condition.listed : Condition → Bool
  | .all atoms | .any atoms => atoms.all Atom.listed

namespace CompletenessCheck

variable {Row V : Type} [DecidableEq V]

variable (runtime : Runtime) (database : Database Row V) (check : CompletenessCheck)

/-- A WHERE clause, as it is written and as it is read. -/
def Clause.phrase : Clause → Phrase
  | .filter => "(" ++ spliced runtime check.filter ++ ")"
  | .condition chosen => "(" ++ chosen.phrase ++ ")"
  | .nothing => "1=0"

def Clause.eval (row : Row) : Clause → Ternary
  | .filter => database.filter (runtime.str check.filter) row
  | .condition chosen => chosen.eval database row
  | .nothing => some false

/-- A condition beside the filter. -/
def clauses (condition : Option Condition) : List Clause :=
  (if check.filter.truthy then [.filter] else []) ++ (condition.map .condition).toList

def evidence : List Clause :=
  match check.violation with
  | some condition => check.clauses (some condition)
  | none => [.nothing]

def admits (parts : List Clause) (row : Row) : Bool :=
  Ternary.all (parts.map (Clause.eval runtime database check row)) == some true

def selected (rows : List Row) : List Row :=
  rows.filter (check.admits runtime database (check.clauses check.selection))

/-- The rows behind each row of the result: all that are selected, or those of a group. -/
def parts (rows : List Row) : List (List Row) :=
  if check.groupBy.isEmpty then [check.selected runtime database rows]
  else
    groupRows (fun row => check.groupBy.map (database.cell row))
      (check.selected runtime database rows)

def resultRows (rows : List Row) : List Dict :=
  (check.parts runtime database rows).map fun part =>
    (check.query runtime).row (database.valuation part)

/-- An empty IN list is a syntax error, and a group column called `completeness_rate` makes the
ORDER BY ambiguous. -/
def legible : Bool :=
  !check.groupBy.contains "completeness_rate" && check.selection.all Condition.listed &&
    check.violation.all Condition.listed

/-- The rows that the query returns, by the rows over which the database can compute the conditions:
it may refuse to trim what is no text. -/
def answer (computes : List Row → Bool) (rows : List Row) : Option (List Dict) :=
  if check.legible && computes (check.selected runtime database rows) then
    some (check.resultRows runtime database rows)
  else none

def violationRows (rows : List Row) : List Row :=
  rows.filter (check.admits runtime database check.evidence)

def countIn (key : String) (row : Dict) : Int :=
  match row.get key with
  | .int value => value
  | _ => 0

def total (key : String) (result : List Dict) : Int := (result.map (countIn key)).sum

/-- The texts are the columns that are computed and the clauses that are evaluated, and end where
they are meant to. -/
structure ReadsAs (compiled : Compiled) : Prop where
  query : compiled.query = {
    opening := check.select ++ "\n            " ++
      (if check.groupBy.isEmpty then Phrase.empty else nameList check.groupBy ++ ",\n            ")
    columns := (check.query runtime).columns.map (Column.map Counted.phrase)
    separator := ",\n            "
    closing := "\n        FROM " ++ check.table ++ "\n        " ++
      whereAll ((check.clauses check.selection).map (Clause.phrase runtime check)) ++
        (if check.groupBy.isEmpty then Phrase.empty
          else "\n        GROUP BY " ++ nameList check.groupBy ++
            "\n        ORDER BY completeness_rate ASC") }
  violation : compiled.violation.text = ("\n        SELECT *\n        FROM " ++ check.table ++
    "\n        " ++ whereAll (check.evidence.map (Clause.phrase runtime check))).text
  closed : compiled.closed = true

/-- The division of the rows that the counts and the evidence agree on. -/
structure Partitions (rows : List Row) (result : List Dict) : Prop where
  oneSide : ∀ row ∈ check.selected runtime database rows,
    check.division.passes database row = !check.division.fails database row
  passing : total "non_null_rows" result =
    (check.selected runtime database rows).countP (check.division.passes database)
  failing : total "null_rows" result =
    (check.selected runtime database rows).countP (check.division.fails database)
  whole : total "non_null_rows" result +
      total "null_rows" result =
    total "total_rows" result
  evidence : check.violationRows runtime database rows =
    (check.selected runtime database rows).filter (check.division.fails database)

end CompletenessCheck

/-! ## Complementary conditions -/

section Complement

variable {Row V : Type} {database : Database Row V} {row : Row}

/-- One condition is the negation of the other, and neither is ever unknown. -/
def Complementary (database : Database Row V) (pass fail : Condition) : Prop :=
  ∀ row, pass.eval database row ≠ none ∧ fail.eval database row = (pass.eval database row).not

theorem Complementary.divides {pass fail : Condition} (complementary : Complementary database pass fail) :
    Division.passes database row (.cases pass fail) =
      !Division.fails database row (.cases pass fail) := by
  obtain ⟨definite, negation⟩ := complementary row
  simp only [Division.passes, Division.fails, negation]
  generalize pass.eval database row = value at definite
  rcases value with _ | _ | _
  · exact absurd rfl definite
  · rfl
  · rfl

theorem eval_isNull_eq_not (column : String) :
    Atom.eval database row (.isNull column) = (Atom.eval database row (.isNotNull column)).not := by
  simp [Atom.eval, Ternary.not]

theorem compare_ne_none {column : String} {test : V → Bool}
    (present : Atom.eval database row (.isNotNull column) = some true) :
    database.compare column test row ≠ none := by
  simp only [Atom.eval, Database.isNull, Option.some.injEq, Bool.not_eq_true',
    Option.isNone_eq_false_iff] at present
  obtain ⟨value, found⟩ := Option.isSome_iff_exists.mp present
  simp [Database.compare, found]

theorem not_ne_none {value : Ternary} (definite : value ≠ none) : value.not ≠ none := by
  simpa [Ternary.not] using definite

private theorem complementary_allNotNull (columns : List String) :
    Complementary database (.all (columns.map .isNotNull)) (.any (columns.map .isNull)) := by
  intro row
  constructor
  · refine Ternary.all_ne_none fun value member => ?_
    obtain ⟨atom, inside, rfl⟩ := List.mem_map.mp member
    obtain ⟨column, _, rfl⟩ := List.mem_map.mp inside
    simp [Atom.eval]
  · simp only [Condition.eval, Ternary.not_all, List.map_map]
    congr 1
    exact List.map_congr_left fun column _ => eval_isNull_eq_not column

private theorem complementary_someNotNull (columns : List String) :
    Complementary database (.all [.someNotNull columns]) (.all (columns.map .isNull)) := by
  intro row
  have single : Condition.eval database row (.all [.someNotNull columns]) =
      some (columns.any fun column => !database.isNull column row) := by
    simp only [Condition.eval, Ternary.all, List.map_cons, List.map_nil, List.foldr_cons,
      List.foldr_nil, Atom.eval]
    cases columns.any fun column => !database.isNull column row <;> rfl
  have every : Condition.eval database row (.all (columns.map .isNull)) =
      some (columns.all fun column => database.isNull column row) := by
    rw [Condition.eval, List.map_map]
    exact Ternary.all_map_some columns fun column => database.isNull column row
  rw [single, every]
  refine ⟨by simp, ?_⟩
  simp [Ternary.not, List.not_any_eq_all_not]

theorem complementary_guarded {column : String} {passes fails : List Atom}
    (known : ∀ row, Atom.eval database row (.isNotNull column) = some true →
      ∀ atom ∈ passes, Atom.eval database row atom ≠ none)
    (negated : ∀ row, fails.map (Atom.eval database row) =
      passes.map fun atom => (Atom.eval database row atom).not) :
    Complementary database (.all (.isNotNull column :: passes)) (.any (.isNull column :: fails)) := by
  intro row
  constructor
  · refine Ternary.and_ne_none (by simp [Atom.eval]) fun present => ?_
    refine Ternary.all_ne_none fun value member => ?_
    obtain ⟨atom, inside, rfl⟩ := List.mem_map.mp member
    exact known row present atom inside
  · simp only [Condition.eval, Ternary.not_all, List.map_cons, eval_isNull_eq_not, negated,
      List.map_map, Function.comp_def]

private theorem complementary_blank (column : String) :
    Complementary database (.all [.isNotNull column, .trimmedNotEmpty column])
      (.any [.isNull column, .trimmedEmpty column]) := by
  refine complementary_guarded (fun row present atom member => ?_) fun row => ?_
  · obtain rfl := List.mem_singleton.mp member
    exact not_ne_none (compare_ne_none present)
  · simp [Atom.eval]

private theorem complementary_placeholder (column : String) (values : List String) :
    Complementary database
      (.all [.isNotNull column, .trimmedNotEmpty column, .notPlaceholder column values])
      (.any [.isNull column, .trimmedEmpty column, .placeholder column values]) := by
  refine complementary_guarded (fun row present atom member => ?_) fun row => ?_
  · rcases List.mem_pair.mp member with rfl | rfl
    · exact not_ne_none (compare_ne_none present)
    · exact not_ne_none (compare_ne_none present)
  · simp [Atom.eval]

end Complement

/-! ## The check modes -/

namespace Division

variable {Row V : Type} {database : Database Row V}

private theorem passing_value (division : Division) (rows : List Row) :
    division.passing.value (database.valuation rows) = rows.countP (division.passes database) := by
  cases division <;> rfl

private theorem failing_value (division : Division) (rows : List Row) :
    division.failing.value (database.valuation rows) = rows.countP (division.fails database) := by
  cases division with
  | everything => simp [failing, fails, Tally.value]
  | column chosen =>
      have sides := List.length_eq_countP_add_countP (database.isNull chosen) (l := rows)
      have others : rows.countP (fun row => decide ¬database.isNull chosen row = true) =
          rows.countP fun row => !database.isNull chosen row := by simp
      have whole : (failing (.column chosen)).value (database.valuation rows) =
          (rows.length : Int) - (rows.countP fun row => !database.isNull chosen row) := by
        simp [failing, Tally.value, Database.valuation, Counted.holds]
      have same : rows.countP (fails database · (.column chosen)) =
          rows.countP (database.isNull chosen) := rfl
      rw [whole, same]
      omega
  | cases pass fail => rfl

end Division

namespace CompletenessCheck

section Sides

variable {Row V : Type}

variable {runtime : Runtime} {database : Database Row V} {check : CompletenessCheck}

theorem admits_iff {condition : Option Condition} {row : Row} :
    check.admits runtime database (check.clauses condition) row = true ↔
      (check.filter.truthy = true → database.filter (runtime.str check.filter) row = some true) ∧
        ∀ chosen ∈ condition, chosen.eval database row = some true := by
  simp only [admits, clauses, beq_iff_eq, Ternary.all_eq_true, List.map_append, List.mem_append]
  cases condition <;> split <;> simp_all [Clause.eval]

/-- What each check mode takes care of: the two sides are complementary, and a row is
evidence exactly where it is selected and fails. -/
structure Divides (runtime : Runtime) (database : Database Row V) (check : CompletenessCheck) :
    Prop where
  oneSide : ∀ row, check.division.passes database row = !check.division.fails database row
  evidence : ∀ row, check.admits runtime database check.evidence row =
    (check.admits runtime database (check.clauses check.selection) row &&
      check.division.fails database row)

private theorem evidence_of_fail {pass fail : Condition} {row : Row}
    (division : check.division = .cases pass fail) (selection : check.selection = none) :
    check.admits runtime database (check.clauses (some fail)) row =
      (check.admits runtime database (check.clauses check.selection) row &&
        check.division.fails database row) := by
  rw [Bool.eq_iff_iff, Bool.and_eq_true, admits_iff, admits_iff, division, selection]
  simp [Division.fails]

theorem divides_of_cases {pass fail : Condition} (complementary : Complementary database pass fail)
    (division : check.division = .cases pass fail) (selection : check.selection = none)
    (violation : check.violation = some fail) : check.Divides runtime database where
  oneSide row := by
    rw [division]
    exact complementary.divides
  evidence row := by
    rw [evidence, violation]
    exact evidence_of_fail division selection

theorem eval_all_singleton {atom : Atom} {row : Row} :
    Condition.eval database row (.all [atom]) = Atom.eval database row atom := by
  have joined : Condition.eval database row (.all [atom]) =
      Ternary.and (Atom.eval database row atom) (some true) := rfl
  rw [joined]
  rcases Atom.eval database row atom with _ | _ | _ <;> rfl

private theorem divides_of_column {column : String} (division : check.division = .column column)
    (selection : check.selection = none) (violation : check.violation = some (.all [.isNull column])) :
    check.Divides runtime database where
  oneSide row := by simp [division, Division.passes, Division.fails]
  evidence row := by
    rw [evidence, violation, Bool.eq_iff_iff, Bool.and_eq_true, admits_iff, admits_iff, division,
      selection]
    simp [eval_all_singleton, Atom.eval, Division.fails]

end Sides

variable {Row V : Type} [DecidableEq V]

variable {runtime : Runtime} {database : Database Row V} {check : CompletenessCheck}

private theorem sum_parts (p : Row → Bool) (rows : List Row) :
    ((check.parts runtime database rows).map (List.countP p)).sum =
      (check.selected runtime database rows).countP p := by
  unfold parts
  split
  · simp
  · exact sum_countP_groupRows _ p _

theorem total_of_counts {key : String} {p : Row → Bool}
    (counts : ∀ part, countIn key ((check.query runtime).row (database.valuation part)) =
      part.countP p) (rows : List Row) :
    total key (check.resultRows runtime database rows) =
      (check.selected runtime database rows).countP p := by
  rw [← sum_parts, total, resultRows, List.map_map]
  induction check.parts runtime database rows with
  | nil => rfl
  | cons part parts ih => simp [counts, ih]

private theorem total_passing (rows : List Row) :
    total "non_null_rows" (check.resultRows runtime database rows) =
      (check.selected runtime database rows).countP (check.division.passes database) := by
  refine total_of_counts (fun part => ?_) rows
  exact check.division.passing_value part

private theorem total_failing (rows : List Row) :
    total "null_rows" (check.resultRows runtime database rows) =
      (check.selected runtime database rows).countP (check.division.fails database) := by
  refine total_of_counts (fun part => ?_) rows
  exact check.division.failing_value part

private theorem total_rows (rows : List Row) :
    total "total_rows" (check.resultRows runtime database rows) =
      (check.selected runtime database rows).length := by
  rw [← List.countP_true]
  exact total_of_counts (fun _ => rfl) rows

private theorem Divides.partitions (divides : check.Divides runtime database) (rows : List Row) :
    check.Partitions runtime database rows (check.resultRows runtime database rows) where
  oneSide row _ := divides.oneSide row
  passing := total_passing rows
  failing := total_failing rows
  whole := by
    rw [total_passing, total_failing, total_rows]
    have sides := List.length_eq_countP_add_countP (check.division.passes database)
      (l := check.selected runtime database rows)
    have others : (check.selected runtime database rows).countP
        (fun row => decide ¬check.division.passes database row = true) =
          (check.selected runtime database rows).countP (check.division.fails database) := by
      refine List.countP_congr fun row _ => ?_
      simp [divides.oneSide row]
    omega
  evidence := by
    simp only [violationRows, selected, List.filter_filter]
    refine List.filter_congr fun row _ => ?_
    rw [divides.evidence row, Bool.and_comm]

/-! ## The texts -/

private theorem whereAll_clauses (condition : Option Condition) :
    whereAll ((check.clauses condition).map (Clause.phrase runtime check)) =
      whereClause runtime check.filter (condition.map Condition.phrase) := by
  unfold whereClause clauses filterPart
  cases condition <;> split <;> rfl

private theorem readsAs_compiled (closed : (check.compiled runtime).closed = true) :
    check.ReadsAs runtime (check.compiled runtime) where
  query := by
    rw [whereAll_clauses]
    rfl
  violation := by
    unfold evidence
    cases found : check.violation with
    | some condition =>
        dsimp only
        rw [whereAll_clauses]
        simp only [CompletenessCheck.compiled, violationSql, found]
        rfl
    | none =>
        simp only [CompletenessCheck.compiled, violationSql, found]
        simp [Phrase.text, whereAll, Clause.phrase, Phrase.join]
  closed := closed

end CompletenessCheck

section Modes

variable {Row V : Type} {runtime : Runtime} {database : Database Row V} {table : Phrase}
  {column : String} {parameters : Dict} {check : CompletenessCheck}

open CompletenessCheck

private theorem CompletenessMode.divides {mode : String}
    (compiled : CompletenessMode runtime table column parameters mode check) :
    check.Divides runtime database := by
  cases compiled with
  | columns mode columns => exact divides_of_cases (complementary_allNotNull _) rfl rfl rfl
  | blank mode => exact divides_of_cases (complementary_blank _) rfl rfl rfl
  | everything mode => exact ⟨fun _ => rfl, fun _ => (Bool.and_false _).symm⟩
  | column mode select groupBy => exact divides_of_column rfl rfl rfl
  | placeholder elements values found cleaned =>
      exact divides_of_cases (complementary_placeholder _ _) rfl rfl rfl
  | conditional chosen values written =>
      refine ⟨fun row => ?_, fun row => ?_⟩
      · simp [Division.passes, Division.fails, eval_all_singleton, Atom.eval]
      · rw [evidence, Bool.eq_iff_iff, Bool.and_eq_true, CompletenessCheck.admits_iff,
          CompletenessCheck.admits_iff]
        simp [Division.fails, Condition.eval, Ternary.all_eq_true, and_assoc]
  | anyField columns => exact divides_of_cases (complementary_someNotNull _) rfl rfl rfl
  | groups groupBy =>
      refine ⟨fun _ => rfl, fun row => ?_⟩
      rw [evidence, Bool.eq_iff_iff, Bool.and_eq_true, CompletenessCheck.admits_iff]
      simp [eval_all_singleton, Atom.eval, Division.fails]

/-- Completeness SQL is a partition with matching evidence where its texts are closed: each selected
row is counted in exactly one of `non_null_rows` and `null_rows`, the two add up to `total_rows`,
over the groups where there are any, and the violation query returns the rows counted in
`null_rows`. The query fails to answer only if it is not legible or cannot be computed. -/
theorem compileCompletenessRule_partitions_iff [DecidableEq V] {compiled : Compiled}
    (success : compileCompletenessRule runtime table column parameters = .ok (.compiled compiled))
    (closed : compiled.closed = true) (database : Database Row V) (computes : List Row → Bool)
    (rows : List Row) :
    ∃ check : CompletenessCheck, check.ReadsAs runtime compiled ∧
      ((∃ result, check.answer runtime database computes rows = some result ∧
          check.Partitions runtime database rows result) ↔
        check.legible = true ∧ computes (check.selected runtime database rows) = true) := by
  obtain ⟨check, outcome, rfl⟩ := Outcome.eq_of_map success
  obtain ⟨mode, _, _, shape⟩ := completenessCheck_mode outcome
  refine ⟨check, readsAs_compiled closed, ?_⟩
  unfold answer
  rw [← Bool.and_eq_true]
  cases check.legible && computes (check.selected runtime database rows) with
  | false => exact iff_of_false (fun ⟨_, answered, _⟩ => by cases answered) Bool.false_ne_true
  | true => exact iff_of_true ⟨_, rfl, shape.divides.partitions rows⟩ rfl

end Modes

section Example

private def contactCheck : CompletenessCheck where
  table := name "contacts"
  select := "\n        SELECT"
  groupBy := []
  division := .cases (.all [.someNotNull ["email", "phone"]]) (.all [.isNull "email", .isNull "phone"])
  filter := .none
  selection := none
  violation := some (.all [.isNull "email", .isNull "phone"])

private def contactParameters : Dict :=
  [("check_mode", .str "multi_field"), ("multi_field_mode", .str "any"),
    ("columns", .list [.str "email", .str "phone"])]

/-- Rows are the cells they hold, and no filter excludes any of them. -/
private def contactDatabase : Database (List (String × String)) String where
  cell row column := row.lookup column
  filter _ _ := some true
  is value text := value == text
  trimmedIs value text := value == text
  loweredIs value text := value == text

private def contacts : List (List (String × String)) := [[("email", "a@b.c")], []]

private def computesContacts (_ : List (List (String × String))) : Bool := true

theorem contactCheck_partitions :
    ∃ check : CompletenessCheck, check.ReadsAs Runtime.ascii (contactCheck.compiled Runtime.ascii) ∧
      ((∃ result, check.answer Runtime.ascii contactDatabase computesContacts contacts = some result ∧
        check.Partitions Runtime.ascii contactDatabase contacts result) ↔
          check.legible = true ∧
            computesContacts (check.selected Runtime.ascii contactDatabase contacts) = true) :=
  @compileCompletenessRule_partitions_iff _ _ Runtime.ascii (name "contacts") "*" contactParameters
    _ _ rfl (by decide +kernel) contactDatabase computesContacts contacts

/-- One of the two contacts passes, the other is the evidence. -/
example : contactCheck.violationRows Runtime.ascii contactDatabase contacts = [[]] := by decide

private def splicedParameters : Dict :=
  [("columns", .list [.str "a\" IS NULL OR \"b", .str "c"])]

/-- The query as a database reads it, with three columns of ordinary names. -/
private def readQuery : Query Argument where
  opening := "\n        SELECT\n            "
  columns :=
    let passes := Argument.cases (.or (.atom (.isNull (.cell "a")))
      (.and (.atom (.isNotNull (.cell "b"))) (.atom (.isNotNull (.cell "c")))))
    [.named " as " "total_rows" (.tally (.count .rows)),
      .named " as " "non_null_rows" (.tally (.count passes)),
      .named " as " "null_rows" (.tally (.count (.cases (.or (.atom (.isNull (.cell "a")))
        (.or (.atom (.isNull (.cell "b"))) (.atom (.isNull (.cell "c")))))))),
      .named " as " "completeness_rate" (.rate (.count passes) (.count .rows))]
  separator := ",\n            "
  closing := "\n        FROM " ++ name "contacts" ++ "\n        "

/-- A row with a NULL is counted on both sides. -/
theorem splicedName_counted_twice :
    ∃ compiled, compileCompletenessRule Runtime.ascii (name "contacts") "*" splicedParameters =
        .ok (.compiled compiled) ∧
      compiled.query.phrase.text = (readQuery.map Argument.phrase).phrase.text ∧
      (readQuery.map Argument.phrase).phrase.closed = true ∧
      ∀ key ∈ ["total_rows", "non_null_rows", "null_rows"],
        (readQuery.row ((wholeNumbers fun _ => some true).valuation [[("b", 1), ("c", 1)]])).get key =
          .int 1 := by
  refine ⟨_, rfl, Query.text_congr ?_ rfl ?_ ?_, ?_, ?_⟩
  · decide +kernel
  · decide +kernel
  · decide +kernel
  · decide +kernel
  · intro key member
    simp only [List.mem_cons, List.not_mem_nil, or_false] at member
    obtain rfl | rfl | rfl := member <;> rfl

end Example

end CogniDQ.Rules
