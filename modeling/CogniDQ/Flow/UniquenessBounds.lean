import CogniDQ.Flow.CheckResults
import CogniDQ.Rules.UniquenessSelfJoins

/-!
# Bounds of uniqueness checks

Each uniqueness mode counts its duplicates in a way of its own, and the rows in all by the filter alone.
The rows that passed are what is left of them.
-/

set_option autoImplicit false

namespace CogniDQ.Rules.UniquenessCheck

open CogniDQ.Python CogniDQ.Sql

section Counting

variable {Row V : Type} (runtime : Runtime) (engine : Engine Row V) (check : UniquenessCheck)
  (rows : List Row)

def groupSizes : List Nat :=
  let chosen := engine.selected (check.conditions runtime) rows
  ((representatives (check.encodedAlike engine) chosen).filter
    (shared (check.encodedAlike engine) chosen)).map (groupSize (check.encodedAlike engine) chosen)

def totalText : Phrase :=
  "(SELECT COUNT(*) FROM " ++ check.table ++ " " ++
    whereAll ((check.conditions runtime).map Predicate.phrase) ++ ")"

/-- A subquery over the groups. -/
def groupsText (counted : String) : Phrase :=
  Phrase.ofText ("(SELECT " ++ counted ++ " FROM " ++ check.cte ++ ")")

/-- The number that each subquery of the compiled query counts. -/
def valuation : Valuation Phrase where
  count _ := 0
  rows written :=
    if written = check.totalText runtime then check.countedTotal runtime engine rows
    else if written = check.groupsText "COUNT(*)" then (check.groupSizes runtime engine rows).length
    else if written = check.groupsText "COALESCE(SUM(duplicate_count), 0)" then
      check.countedDuplicates runtime engine rows
    else (check.groupSizes runtime engine rows).foldr max 0
  scalar _ := .none

def returned : Dict :=
  uniquenessRow
    [("total_rows", check.countedTotal runtime engine rows),
      ("duplicate_groups", (check.groupSizes runtime engine rows).length),
      ("duplicate_rows", check.countedDuplicates runtime engine rows),
      ("max_group_size", (check.groupSizes runtime engine rows).foldr max 0)]
    (check.countedTotal runtime engine rows) (check.countedDuplicates runtime engine rows)

variable {runtime engine check rows}

theorem groupsText_ne_total (counted : String) : check.groupsText counted ≠ check.totalText runtime := by
  intro same
  have lengths := congrArg (fun phrase : Phrase => phrase.segments.length) same
  simp [groupsText, totalText, Phrase.ofText] at lengths

private theorem groupsText_ne {counted other : String} (apart : counted ≠ other) :
    check.groupsText counted ≠ check.groupsText other := by
  intro same
  have texts := congrArg Phrase.chars same
  simp only [groupsText, Phrase.chars_ofText, String.toList_append, List.append_assoc,
    List.append_cancel_left_eq, List.append_cancel_right_eq] at texts
  exact apart (String.toList_inj.mp texts)

private theorem groupsText_eq {counted written : String}
    (same : "(SELECT " ++ counted ++ " FROM " = written) :
    Phrase.ofText (written ++ check.cte ++ ")") = check.groupsText counted := by
  rw [← same]
  rfl

/-- The row of the compiled query, each subquery evaluated. -/
theorem row_compiled {compiled : Compiled} (made : check.compiled runtime = .compiled compiled) :
    compiled.query.row (check.valuation runtime engine rows) = check.returned runtime engine rows := by
  obtain rfl := Outcome.compiled.inj made
  have total : (check.valuation runtime engine rows).rows (check.totalText runtime) =
      check.countedTotal runtime engine rows := if_pos rfl
  have groups : (check.valuation runtime engine rows).rows (check.groupsText "COUNT(*)") =
      (check.groupSizes runtime engine rows).length :=
    (if_neg (groupsText_ne_total _)).trans (if_pos rfl)
  have duplicates : (check.valuation runtime engine rows).rows
      (check.groupsText "COALESCE(SUM(duplicate_count), 0)") =
        check.countedDuplicates runtime engine rows := by
    unfold valuation
    dsimp only
    rw [if_neg (groupsText_ne_total _), if_neg (groupsText_ne (by decide)), if_pos rfl]
  have largest : (check.valuation runtime engine rows).rows
      (check.groupsText "COALESCE(MAX(duplicate_count), 0)") =
        (check.groupSizes runtime engine rows).foldr max 0 := by
    unfold valuation
    dsimp only
    rw [if_neg (groupsText_ne_total _), if_neg (groupsText_ne (by decide)),
      if_neg (groupsText_ne (by decide))]
  unfold returned
  rw [← total, ← groups, ← duplicates, ← largest, ← groupsText_eq rfl, ← groupsText_eq rfl,
    ← groupsText_eq rfl]
  rfl

private theorem countedDuplicates_le (equating : Equating engine.equal) :
    check.countedDuplicates runtime engine rows ≤ check.countedTotal runtime engine rows := by
  rw [countedDuplicates_eq equating, countedTotal_eq]
  exact List.countP_le_length

end Counting

end CogniDQ.Rules.UniquenessCheck

namespace CogniDQ.Flow

open CogniDQ.Python CogniDQ.Execution CogniDQ.Rules CogniDQ.Sql

/-! ## What is read of a row -/

section Reading

variable {runtime : Runtime} {row parameters : Dict} {total duplicates groups largest : Nat}

/-- No more duplicates than rows are counted, and the result says so: no negative count, and a
percentage. -/
def WellFormed (runtime : Runtime) (parameters row : Dict) : Prop :=
  ∃ total duplicates, readCount runtime row "total_rows" = .ok total ∧
    readCount runtime row "duplicate_rows" = .ok duplicates ∧ 0 ≤ duplicates ∧ duplicates ≤ total ∧
      ∃ result, parseUniquenessResults runtime row parameters = .ok result ∧
        0 ≤ result.rowsPassed ∧ 0 ≤ result.passRate ∧ result.passRate ≤ 100

structure UniquenessReads (runtime : Runtime) (row : Dict) (total duplicates groups largest : Nat) :
    Prop where
  total : readCount runtime row "total_rows" = .ok total
  duplicates : readCount runtime row "duplicate_rows" = .ok duplicates
  groups : readCount runtime row "duplicate_groups" = .ok groups
  largest : readCount runtime row "max_group_size" = .ok largest

theorem wellFormed_iff (reads : UniquenessReads runtime row total duplicates groups largest) :
    WellFormed runtime parameters row ↔ ThresholdsRead runtime parameters ∧ duplicates ≤ total := by
  have step : ∀ {α β : Type} (value : α) (continuation : α → Except Exn β),
      (Except.ok value >>= continuation) = continuation value := fun _ _ => rfl
  unfold WellFormed parseUniquenessResults
  simp only [reads.total, reads.duplicates, reads.groups, reads.largest, step]
  constructor
  · intro ⟨_, _, sameTotal, sameDuplicates, _, within, result, parsed, _⟩
    obtain ⟨thresholds, read, _⟩ := bind_eq_ok parsed
    obtain rfl := Except.ok.inj sameTotal
    obtain rfl := Except.ok.inj sameDuplicates
    exact ⟨⟨thresholds, read⟩, by exact_mod_cast within⟩
  · intro ⟨⟨thresholds, read⟩, within⟩
    have fewer : (duplicates : Int) ≤ total := by exact_mod_cast within
    have passed : (0 : Int) ≤ total - duplicates := by omega
    have rate := rateOf_bounded passed (by omega : (total : Int) - duplicates ≤ total)
    simp only [read, step]
    exact ⟨total, duplicates, rfl, rfl, Int.natCast_nonneg _, fewer, _, rfl, passed, rate.1, rate.2⟩

end Reading

/-! ## The rows of each mode -/

/-- What a database knows: values and conditions, whether `overlaps` can name a table (it is a reserved
word of PostgreSQL and DuckDB), which conditions of the user it can read in a join, and the rows for
which it can compute what a join compares (not every text is a timestamp, and `levenshtein` takes short
ones). In a join of a table with itself both sides have every column, so a condition that is read there
names none, and it does not tell rows apart. -/
structure UniquenessData (Row V : Type) where
  engine : Engine Row V
  equating : Equating engine.equal
  namesOverlaps : Bool
  readsCross : String → Bool
  readsSelf : String → Bool
  computes : List Row → Bool
  constant : ∀ expression, readsSelf expression = true →
    ∀ row other, engine.truth row expression = engine.truth other expression

section Modes

variable {Row V : Type}

/-- Whether the query of a join is answered. -/
def UniquenessData.joins (data : UniquenessData Row V) (runtime : Runtime) (parameters : Dict)
    (reads : String → Bool) (rows : List Row) : Bool :=
  filterRead runtime (parameters.get "filter_expression") reads && data.computes rows

/-- The row that the query of a mode returns, and when it counts no more duplicates than rows. -/
inductive UniquenessAnswer (runtime : Runtime) (table : Phrase) (column : String) (parameters : Dict)
    (compiled : Compiled) (data : UniquenessData Row V) (rows others : List Row) :
    String → Option Dict → Prop → Prop where
  | grouping {mode : String} {check : UniquenessCheck} (grouping : mode ∈ groupingModes)
      (shape : UniquenessMode table parameters mode check)
      (made : check.compiled runtime = .compiled compiled) :
      UniquenessAnswer runtime table column parameters compiled data rows others mode
        (if check.legible then
          some (compiled.query.row (check.valuation runtime data.engine rows))
        else none)
        (check.legible = true)
  | crossDataset {chosen : Value} (first : (keyColumns column parameters).first = .ok chosen)
      (text : compiled.query.phrase.text =
        ((crossDatasetCheck runtime table parameters chosen).query runtime).phrase.text) :
      UniquenessAnswer runtime table column parameters compiled data rows others "cross_dataset"
        (if data.namesOverlaps && data.joins runtime parameters data.readsCross rows then
          some ((crossDatasetCheck runtime table parameters chosen).returned runtime data.engine rows
            others)
        else none)
        ((data.namesOverlaps && data.joins runtime parameters data.readsCross rows) = true ∧
          (crossDatasetCheck runtime table parameters chosen).Balanced runtime data.engine rows others)
  | fuzzy {chosen : Value} (first : (keyColumns column parameters).first = .ok chosen)
      (text : compiled.query.phrase.text =
        ((fuzzyCheck runtime table parameters chosen).query runtime).phrase.text) :
      UniquenessAnswer runtime table column parameters compiled data rows others "fuzzy"
        (if data.joins runtime parameters data.readsSelf rows then
          some ((fuzzyCheck runtime table parameters chosen).returned runtime data.engine rows)
        else none)
        (data.joins runtime parameters data.readsSelf rows = true ∧
          (fuzzyCheck runtime table parameters chosen).Balanced runtime data.engine rows)
  | temporal {columns : List Value} {window : Int}
      (elements : (keyColumns column parameters).elements = .ok columns)
      (parsed : parseTemporalWindow runtime (parameters.get "temporal_window") = .ok window)
      (text : compiled.query.phrase.text =
        ((temporalCheck runtime table parameters columns window).query runtime).phrase.text) :
      UniquenessAnswer runtime table column parameters compiled data rows others "temporal"
        (if data.joins runtime parameters data.readsSelf rows then
          some ((temporalCheck runtime table parameters columns window).returned runtime data.engine
            rows)
        else none)
        (data.joins runtime parameters data.readsSelf rows = true)

variable {runtime : Runtime} {table : Phrase} {column : String} {parameters : Dict}
  {compiled : Compiled} {data : UniquenessData Row V} {rows others : List Row}

theorem inFilter_constant (joined : data.joins runtime parameters data.readsSelf rows = true)
    (row other : Row) :
    inFilter runtime data.engine (parameters.get "filter_expression") row =
      inFilter runtime data.engine (parameters.get "filter_expression") other := by
  unfold inFilter filterCondition
  split
  · rename_i given
    have read := (Bool.and_eq_true _ _ ▸ joined).1
    unfold filterRead at read
    rw [given] at read
    have same := data.constant _ read row other
    simp only [admits_single, Predicate.holds, Predicate.eval, Atomic.eval, same]
  · rfl

theorem returned_wellFormed_iff {returned : Dict} {read : Bool} {condition : Prop}
    {total duplicates groups largest : Nat}
    (reads : UniquenessReads runtime returned total duplicates groups largest)
    (bounded : read = true → (duplicates ≤ total ↔ condition)) :
    (∃ row, (if read then some returned else none) = some row ∧ WellFormed runtime parameters row) ↔
      ThresholdsRead runtime parameters ∧ read = true ∧ condition := by
  cases read with
  | false => simp
  | true =>
      rw [← bounded rfl]
      constructor
      · intro ⟨row, same, sound⟩
        obtain rfl := Option.some.inj same
        obtain ⟨thresholds, within⟩ := (wellFormed_iff reads).mp sound
        exact ⟨thresholds, rfl, within⟩
      · intro ⟨thresholds, _, within⟩
        exact ⟨returned, rfl, (wellFormed_iff reads).mpr ⟨thresholds, within⟩⟩

theorem grouping_wellFormed_iff {check : UniquenessCheck} (made : check.compiled runtime = .compiled compiled) :
    (∃ row, (if check.legible then some (compiled.query.row (check.valuation runtime data.engine rows))
        else none) = some row ∧ WellFormed runtime parameters row) ↔
      ThresholdsRead runtime parameters ∧ check.legible = true := by
  rw [UniquenessCheck.row_compiled made]
  have counted := @returned_wellFormed_iff runtime parameters
    (check.returned runtime data.engine rows) check.legible True _ _ _ _ ⟨rfl, rfl, rfl, rfl⟩
    fun _ => ⟨fun _ => trivial, fun _ => UniquenessCheck.countedDuplicates_le data.equating⟩
  simpa using counted

end Modes

section Example

private def soundexDigit (letter : Char) : Option Char :=
  if "bfpv".toList.contains letter then some '1'
  else if "cgjkqsxz".toList.contains letter then some '2'
  else if "dt".toList.contains letter then some '3'
  else if letter = 'l' then some '4'
  else if "mn".toList.contains letter then some '5'
  else if letter = 'r' then some '6'
  else none

private def soundexOf (name : String) : List Char :=
  match name.toList with
  | [] => []
  | first :: rest => first :: rest.filterMap soundexDigit

/-- Rows that are the texts they hold, compared by their sound. A condition is met by the rows that are
active. -/
private def spokenTexts : Engine (List (String × String)) String :=
  { texts with
    raw := fun _ written => some written
    truth := fun row _ => some (row.lookup "active" == some "yes")
    binary := fun before _ _ first second =>
      if before = "CASE WHEN soundex(" then
        if soundexOf first = soundexOf second then "1.0" else "0.0"
      else first }

/-- A database that reserves `overlaps`. No condition is read in a self join, and every one in a join
with another table. -/
private def spokenData : UniquenessData (List (String × String)) String where
  engine := spokenTexts
  equating := texts_equating
  namesOverlaps := false
  readsCross _ := true
  readsSelf _ := false
  computes _ := true
  constant _ read := absurd read Bool.false_ne_true

private def nameRows (names : List String) : List (List (String × String)) :=
  names.map fun name => [("name", name)]

private def soundParameters : Dict := [("uniqueness_mode", .str "fuzzy"), ("fuzzy_algorithm", .str "soundex")]

private def soundCheck : FuzzyCheck :=
  fuzzyCheck Runtime.ascii (name "customers") soundParameters (.str "name")

private def listedParameters : Dict :=
  [("uniqueness_mode", .str "cross_dataset"), ("cross_dataset_name", .str "blocked"),
    ("cross_dataset_column", .str "name"), ("filter_expression", .str "active = 'yes'")]

private def listedCheck : CrossDatasetCheck :=
  crossDatasetCheck Runtime.ascii (name "customers") listedParameters (.str "name")

end Example

end CogniDQ.Flow
