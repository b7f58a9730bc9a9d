import CogniDQ.Rules.Compiler
import CogniDQ.Rules.ReferenceRule

/-!
# Rows counted against another table

Accuracy rules with a reference table and consistency rules across tables count the
pairs of a join. Pairs are as many as rows where keys do not repeat.
-/

set_option autoImplicit false

namespace CogniDQ.Rules

open CogniDQ.Python CogniDQ.Sql

/-! ## Accuracy -/

namespace ReferenceRule

variable {L R V : Type} {engine : Engine L V} {cell : R → String → Option V} {table : List L}
  {reference : List R} {rule : ReferenceRule}

private theorem pairs_of_partner {row : L} {partner : R}
    (single : (rule.partners engine cell reference row).length ≤ 1)
    (member : partner ∈ rule.partners engine cell reference row) :
    rule.partners engine cell reference row = [partner] := by
  cases found : rule.partners engine cell reference row with
  | nil => rw [found] at member; cases member
  | cons first rest =>
      rw [found] at member single
      obtain rfl : rest = [] := List.length_eq_zero_iff.mp (Nat.le_zero.mp (Nat.le_of_succ_le_succ single))
      rw [List.mem_singleton.mp member]

private theorem countsChecked_iff :
    rule.CountsChecked engine cell table reference ↔ rule.Determined engine cell table reference := by
  constructor
  · intro counts
    have single : ∀ row ∈ rule.kept engine table,
        (rule.partners engine cell reference row).length ≤ 1 := by
      refine (length_leftJoin_eq_iff _).mp ?_
      have same := counts.total
      rw [result_total] at same
      exact Int.ofNat.inj (Value.int.inj same)
    refine ⟨single, fun row member partner joined present => ?_, ?_⟩
    · have once := counts.once row member
      have alone := pairs_of_partner (single row member) joined
      rw [pairs, extended_of_single alone, counted_once_iff, isUnverifiable_some] at once
      rcases once with absent | decided
      · rw [Option.isNone_iff_eq_none.mp absent] at present
        cases present
      · exact decided
    · intro kind chosen row member partner joined
      exact isAccurate_eq_agrees_iff row partner |>.mp
        (counts.agreeing row member partner (pairs_of_partner (single row member) joined)) kind chosen
  · intro determined
    have lengths := (length_leftJoin_eq_iff (rule.kept engine table)).mpr determined.single
    have total : (rule.result engine cell table reference).get "total_rows" =
        .int (rule.kept engine table).length := by
      rw [result_total]
      exact congrArg (fun length : Nat => Value.int length) lengths
    refine ⟨⟨_, Int.ofNat_le.mpr (List.length_filter_le _ _), total⟩, total, result_accurate,
      result_inaccurate, result_unverifiable, fun row member => ?_, fun row member partner alone => ?_⟩
    · dsimp only
      unfold pairs
      cases found : rule.partners engine cell reference row with
      | nil =>
          rw [extended_of_none found, counted_once_iff]
          exact .inl (isUnverifiable_none row)
      | cons partner rest =>
          have joined : partner ∈ rule.partners engine cell reference row :=
            found ▸ List.mem_cons_self
          have alone := pairs_of_partner (determined.single row member) joined
          rw [extended_of_single alone, counted_once_iff, isUnverifiable_some]
          cases present : cell partner rule.referenceColumn with
          | none => exact .inl rfl
          | some value =>
              exact .inr (determined.comparable row member partner joined (by rw [present]; rfl))
    · refine isAccurate_eq_agrees_iff row partner |>.mpr fun kind chosen => ?_
      exact determined.matching kind chosen row member partner (alone ▸ List.mem_cons_self)

end ReferenceRule

section Inversion

variable {runtime : Runtime} {table : Phrase} {column : String} {parameters : Dict}
  {compiled : Compiled}

theorem chars_equalKeys {leftName rightName : String} (leftNamed : leftName ≠ "")
    (rightNamed : rightName ≠ "") (keys : List String) :
    (Phrase.join " AND " ((equalKeys leftName rightName keys).map Predicate.phrase)).chars =
      (equalColumns leftName rightName (keys.map name)).chars := by
  refine Phrase.chars_join_congr ?_
  simp only [equalKeys, List.map_map]
  refine List.map_congr_left fun key _ => ?_
  simp [Predicate.phrase, Atomic.phrase, Expr.phrase, ColumnRef.phrase, leftNamed, rightNamed,
    Comparison.operator]

theorem namesOf_eq (keys : List Value) : namesOf runtime keys = (keys.map runtime.str).map name := by
  simp [namesOf]

theorem filterPart_of_unfiltered {filter : Value} (unfiltered : filter.truthy = false) :
    filterPart runtime filter = [] := by
  simp [filterPart, unfiltered]

def referenceRuleOf (runtime : Runtime) (table : Phrase) (column : String) (parameters : Dict)
    (keys : List Value) : ReferenceRule :=
  { runtime, table, column, parameters, keys := keys.map runtime.str }

private theorem chars_source (unfiltered : (parameters.get "filter_expression").truthy = false)
    (keys : List Value) :
    (referenceRuleOf runtime table column parameters keys).source.chars =
      (strippedAccuracyFrom runtime (table ++ " a LEFT JOIN " ++
          raw (runtime.str (parameters.get "reference_dataset")) ++ " b ON " ++
            equalColumns "a" "b" (namesOf runtime keys))
        (accuracyWhere runtime parameters ("a." ++ name column))).chars := by
  have joins : (Phrase.join " AND " ((equalKeys "a" "b" (keys.map runtime.str)).map
      Predicate.phrase)).chars = (equalColumns "a" "b" (namesOf runtime keys)).chars := by
    rw [namesOf_eq]
    exact chars_equalKeys (by decide) (by decide) _
  have keeps : (whereAll ((referenceRuleOf runtime table column parameters keys).conditions.map
      Predicate.phrase)).chars = (accuracyWhere runtime parameters ("a." ++ name column)).chars := by
    refine chars_whereAll_congr ?_
    rw [filterPart_of_unfiltered unfiltered]
    unfold ReferenceRule.conditions ReferenceRule.nullHandling referenceRuleOf
    dsimp only
    split
    · simp [ReferenceRule.actual, Predicate.phrase, Atomic.phrase, Expr.phrase, ColumnRef.phrase]
    · rfl
  have whole : (" FROM " ++ (table ++ " a LEFT JOIN " ++
        raw (runtime.str (parameters.get "reference_dataset")) ++ " b ON " ++
          Phrase.join " AND " ((equalKeys "a" "b" (keys.map runtime.str)).map Predicate.phrase)) ++ " " ++
      whereAll ((referenceRuleOf runtime table column parameters keys).conditions.map
        Predicate.phrase) : Phrase).chars =
      (" FROM " ++ (table ++ " a LEFT JOIN " ++
        raw (runtime.str (parameters.get "reference_dataset")) ++ " b ON " ++
          equalColumns "a" "b" (namesOf runtime keys)) ++ " " ++
        accuracyWhere runtime parameters ("a." ++ name column) : Phrase).chars := by
    simp only [Phrase.chars_append, joins, keeps]
  unfold ReferenceRule.source strippedAccuracyFrom
  rw [Phrase.chars_stripEnd, Phrase.chars_stripEnd]
  exact congrArg (fun written : List Char =>
    written.take (written.length - (written.reverse.takeWhile runtime.isSpace).length)) whole

theorem renders_of_reference (unfiltered : (parameters.get "filter_expression").truthy = false)
    (keys : List Value) {violation : Phrase} :
    let rule := referenceRuleOf runtime table column parameters keys
    let expected : Phrase := "b." ++ name rule.referenceColumn
    let found : Phrase := expected ++ " IS NOT NULL AND "
    let compared := accuracyToleranceSql runtime ("a." ++ name column) expected
      (parameters.getD "tolerance_type" (.str "none")) (parameters.get "tolerance_value")
    let conditions := accuracyConditions parameters ("a." ++ name column) compared.1 compared.2
    rule.Renders {
      query := {
        opening := "SELECT "
        columns := accuracyColumns (.count expected) (.minus (.count "*") (.count expected))
          (caseWhen (found ++ conditions.1)) (caseWhen (found ++ conditions.2))
        separator := ", "
        closing := strippedAccuracyFrom runtime (table ++ " a LEFT JOIN " ++
            raw (runtime.str (parameters.get "reference_dataset")) ++ " b ON " ++
              equalColumns "a" "b" (namesOf runtime keys))
          (accuracyWhere runtime parameters ("a." ++ name column)) }
      mysql := none
      violation } := by
  intro rule expected found compared conditions
  have left : rule.actual.phrase = "a." ++ name column := rfl
  have right : rule.expected.phrase = expected := rfl
  have tolerated := @chars_accuracyTolerance runtime rule.actual rule.expected
    (parameters.getD "tolerance_type" (.str "none")) (parameters.get "tolerance_value")
  obtain ⟨passes, fails⟩ := @chars_guardedSides parameters rule.actual _ _ _ tolerated.1 tolerated.2
  have passing : rule.sides.passing.phrase.chars = conditions.1.chars := passes
  have failing : rule.sides.failing.phrase.chars = conditions.2.chars := fails
  refine Query.text_congr rfl rfl ?_ (chars_source unfiltered keys).symm
  unfold ReferenceRule.query Query.map
  simp [accuracyColumns, Column.phrase, Column.map, Column.named, Aggregate.phrase, Aggregate.map,
    Tally.phrase, Tally.map, Argument.phrase, caseWhen, ReferenceRule.accurate,
    ReferenceRule.inaccurate, Predicate.phrase, Atomic.phrase, passing, failing, right, found]

theorem accuracyReference_rule (unfiltered : (parameters.get "filter_expression").truthy = false)
    (success : accuracyReference runtime table column parameters = .ok (.compiled compiled)) :
    ∃ keys, (parameters.get "join_keys").elements = .ok keys ∧
      (referenceRuleOf runtime table column parameters keys).Renders compiled := by
  simp only [accuracyReference] at success
  split at success
  · cases success
  · split at success
    · cases success
    · split at success
      · cases success
      · obtain ⟨known, _, success⟩ := bind_eq_ok success
        split at success
        · cases success
        · obtain ⟨keys, elements, success⟩ := bind_eq_ok success
          refine ⟨keys, elements, ?_⟩
          rw [← Outcome.eq_of_pure success]
          exact renders_of_reference unfiltered keys

private theorem compileAccuracyRule_rule {type : String}
    (unfiltered : (parameters.get "filter_expression").truthy = false)
    (chosen : accuracyType parameters = .str type) (within : type ∈ referenceTypes)
    (success : compileAccuracyRule runtime table column parameters = .ok (.compiled compiled)) :
    ∃ keys, (parameters.get "join_keys").elements = .ok keys ∧
      (referenceRuleOf runtime table column parameters keys).Renders compiled := by
  simp only [compileAccuracyRule, chosen] at success
  obtain ⟨known, _, success⟩ := bind_eq_ok success
  split at success
  · cases success
  · obtain ⟨rejected, _, success⟩ := bind_eq_ok success
    split at success
    · cases success
    · simp only [referenceTypes, List.mem_cons, List.not_mem_nil, or_false] at within
      obtain rfl | rfl | rfl := within
      · exact accuracyReference_rule unfiltered success
      · exact accuracyReference_rule unfiltered success
      · exact accuracyReference_rule unfiltered success

end Inversion

/-! ## Consistency across tables -/

section CrossTable

def allMatch (first : String) (rest : List String) : Predicate :=
  .allOf (.atom (.compare .equal (.column ⟨"a", first⟩) (.column ⟨"b", first⟩))) (equalKeys "a" "b" rest)

/-- The check of a rule across tables over the columns that are its keys, and those it
compares. -/
def crossTableCheck (runtime : Runtime) (table : Phrase) (parameters : Dict) (keys : List String)
    (first : String) (rest : List String) : SidedCheck where
  dimension := .consistency
  opening := "SELECT "
  sides := {
    passing := allMatch first rest
    failing := .notParen (allMatch first rest)
    needs := [.condition (allMatch first rest)]
    cover := .plain }
  closing wherePhrase := " FROM " ++ (table ++ " a INNER JOIN " ++
      raw (runtime.str (parameters.get "comparison_dataset")) ++ " b ON " ++
        Phrase.join " AND " ((equalKeys "a" "b" keys).map Predicate.phrase) ++ " ") ++ wherePhrase
  conditions := []
  nullHandling := .none

section Rows

variable {L R V : Type} (engine : Engine L V) (cell : R → String → Option V) (check : SidedCheck)
  (keys : List String) (table : List L) (reference : List R)

def crossTableResult : Dict :=
  let joined := engine.joined "a" "b" cell
  let on (row : L) (partner : R) := admits joined (row, some partner) (equalKeys "a" "b" keys)
  check.result joined (Sql.innerJoin on reference table)

/-- No more rows are counted than are checked. -/
def CrossTableBounded : Prop :=
  ∃ total ≤ (table.length : Int),
    (crossTableResult engine cell check keys table reference).get "total_rows" = .int total

/-- The rows without a partner make up for the partners that others have beyond one. -/
def Balanced : Prop :=
  let partners (row : L) := (Sql.partners (engine.sameKeys cell keys) reference row).length
  (table.map fun row => partners row - 1).sum ≤ table.countP fun row => partners row == 0

end Rows

variable {L R V : Type} {engine : Engine L V} {cell : R → String → Option V} {table : List L}
  {reference : List R} {runtime : Runtime} {source : Phrase} {parameters : Dict} {keys : List String}
  {first : String} {rest : List String} {compiled : Compiled}

private theorem crossTableResult_total :
    (crossTableResult engine cell (crossTableCheck runtime source parameters keys first rest) keys table
        reference).get "total_rows" =
      .int (table.map fun row =>
        (Sql.partners (engine.sameKeys cell keys) reference row).length).sum := by
  have apart : "b" ≠ "a" := by decide
  have same : (fun (row : L) (partner : R) =>
      admits (engine.joined "a" "b" cell) (row, some partner) (equalKeys "a" "b" keys)) =
        engine.sameKeys cell keys := by
    funext row partner
    exact admits_equalKeys apart keys row partner
  have everything : ∀ rows : List (L × Option R),
      (crossTableCheck runtime source parameters keys first rest).evaluated
        (engine.joined "a" "b" cell) rows = rows := fun rows =>
    List.filter_eq_self.mpr fun _ _ => rfl
  unfold crossTableResult
  dsimp only
  rw [same, ← length_innerJoin]
  unfold SidedCheck.result
  rw [everything, ← List.countP_true]
  rfl

private theorem crossTableBounded_iff :
    CrossTableBounded engine cell (crossTableCheck runtime source parameters keys first rest) keys table
        reference ↔ Balanced engine cell keys table reference := by
  unfold CrossTableBounded Balanced
  dsimp only
  rw [← sum_map_le_length_iff, crossTableResult_total]
  constructor
  · rintro ⟨total, bounded, same⟩
    obtain rfl := Value.int.inj same
    exact Int.ofNat_le.mp bounded
  · intro bounded
    exact ⟨_, Int.ofNat_le.mpr bounded, rfl⟩

private theorem renders_of_crossTable {table violation : Phrase}
    (unfiltered : (parameters.get "filter_expression").truthy = false) (keys : List Value)
    (first : Value) (rest : List Value) :
    let allMatched := equalColumns "a" "b" (namesOf runtime (first :: rest))
    (crossTableCheck runtime table parameters (keys.map runtime.str) (runtime.str first)
        (rest.map runtime.str)).Renders {
      query := {
        opening := "SELECT "
        columns := consistencyColumns (caseWhen allMatched) (caseWhen ("NOT (" ++ allMatched ++ ")"))
        separator := ", "
        closing := " FROM " ++ (table ++ " a INNER JOIN " ++
            raw (runtime.str (parameters.get "comparison_dataset")) ++ " b ON " ++
              equalColumns "a" "b" (namesOf runtime keys) ++ " ") ++
          whereAll (filterPart runtime (parameters.get "filter_expression")) }
      mysql := none
      violation } := by
  intro allMatched
  have joins : (Phrase.join " AND " ((equalKeys "a" "b" (keys.map runtime.str)).map
      Predicate.phrase)).chars = (equalColumns "a" "b" (namesOf runtime keys)).chars := by
    rw [namesOf_eq]
    exact chars_equalKeys (by decide) (by decide) _
  have matched : (allMatch (runtime.str first) (rest.map runtime.str)).phrase.chars =
      allMatched.chars := by
    unfold allMatched
    rw [namesOf_eq, allMatch, Predicate.phrase_allOf]
    exact chars_equalKeys (by decide) (by decide) ((first :: rest).map runtime.str)
  refine Query.text_congr rfl rfl ?_ ?_
  · unfold SidedCheck.query Query.map
    simp [crossTableCheck, SidedDimension.columns, consistencyColumns, Column.phrase,
      Column.map, Column.named, Aggregate.phrase, Aggregate.map, Tally.phrase, Tally.map,
      Argument.phrase, caseWhen, Predicate.phrase, matched]
  · rw [filterPart_of_unfiltered unfiltered]
    simp only [SidedCheck.query, Query.map, crossTableCheck, Phrase.chars_append, joins]
    rfl

private theorem consistencyCrossTable_check {table : Phrase}
    (unfiltered : (parameters.get "filter_expression").truthy = false)
    (success : consistencyCrossTable runtime table parameters = .ok (.compiled compiled)) :
    ∃ keys first rest, (parameters.get "join_keys").elements = .ok keys ∧
      (parameters.get "comparison_columns").elements = .ok (first :: rest) ∧
      (crossTableCheck runtime table parameters (keys.map runtime.str) (runtime.str first)
        (rest.map runtime.str)).Renders compiled := by
  simp only [consistencyCrossTable] at success
  split at success
  · cases success
  · split at success
    · cases success
    · split at success
      · cases success
      · next compares =>
          obtain ⟨keys, keyed, success⟩ := bind_eq_ok success
          obtain ⟨columns, compared, success⟩ := bind_eq_ok success
          cases columns with
          | nil => simp [Value.truthy_of_no_elements compared] at compares
          | cons first rest =>
              refine ⟨keys, first, rest, keyed, compared, ?_⟩
              rw [← Outcome.eq_of_pure success]
              exact renders_of_crossTable unfiltered keys first rest

private theorem compileConsistencyRule_crossTable {table : Phrase} {column : String}
    (unfiltered : (parameters.get "filter_expression").truthy = false)
    (chosen : consistencyType parameters = .str "cross_table")
    (success : compileConsistencyRule runtime table column parameters = .ok (.compiled compiled)) :
    ∃ keys first rest, (parameters.get "join_keys").elements = .ok keys ∧
      (parameters.get "comparison_columns").elements = .ok (first :: rest) ∧
      (crossTableCheck runtime table parameters (keys.map runtime.str) (runtime.str first)
        (rest.map runtime.str)).Renders compiled := by
  simp only [compileConsistencyRule, chosen] at success
  obtain ⟨known, _, success⟩ := bind_eq_ok success
  split at success
  · cases success
  · obtain ⟨rejected, _, success⟩ := bind_eq_ok success
    split at success
    · cases success
    · obtain ⟨dangerous, _, success⟩ := bind_eq_ok success
      split at success
      · cases success
      · exact consistencyCrossTable_check unfiltered success

end CrossTable

/-! ## Both -/

/-- Comparisons with a reference table count each checked row once exactly if no kept
row has two partners, what has a partner can be compared, and the comparison is that of
the match type; a comparison across tables counts no more than the checked rows exactly
if rows without a partner make up for the partners beyond one. -/
theorem compileRule_countsChecked_iff {L R V : Type} {runtime : Runtime} {rule : CanonicalRule}
    {targetSchema targetTable : String} {targetColumns : List String} {compiled : Compiled}
    (success : compileRule runtime rule targetSchema targetTable targetColumns = .ok (.compiled compiled))
    (unfiltered : (rule.parameters.get "filter_expression").truthy = false)
    (engine : Engine L V) (cell : R → String → Option V) (table : List L) (reference : List R) :
    (∀ type ∈ referenceTypes, rule.dimension = .str "accuracy" →
      accuracyType rule.parameters = .str type →
        ∃ keys, (rule.parameters.get "join_keys").elements = .ok keys ∧
          let held := referenceRuleOf runtime (rule.table targetSchema targetTable)
            (rule.column targetColumns) rule.parameters keys
          held.Renders compiled ∧
            (held.CountsChecked engine cell table reference ↔
              held.Determined engine cell table reference)) ∧
    (rule.dimension = .str "consistency" → consistencyType rule.parameters = .str "cross_table" →
      ∃ keys first rest, (rule.parameters.get "join_keys").elements = .ok keys ∧
        (rule.parameters.get "comparison_columns").elements = .ok (first :: rest) ∧
        let check := crossTableCheck runtime (rule.table targetSchema targetTable) rule.parameters
          (keys.map runtime.str) (runtime.str first) (rest.map runtime.str)
        check.Renders compiled ∧
          (CrossTableBounded engine cell check (keys.map runtime.str) table reference ↔
            Balanced engine cell (keys.map runtime.str) table reference)) := by
  constructor
  · intro type within dimension chosen
    simp only [compileRule, dimension] at success
    obtain ⟨keys, elements, renders⟩ := compileAccuracyRule_rule unfiltered chosen within success
    exact ⟨keys, elements, renders, ReferenceRule.countsChecked_iff⟩
  · intro dimension chosen
    simp only [compileRule, dimension] at success
    obtain ⟨keys, first, rest, keyed, compared, renders⟩ :=
      compileConsistencyRule_crossTable unfiltered chosen success
    exact ⟨keys, first, rest, keyed, compared, renders, crossTableBounded_iff⟩

section Example

private def priceRule : CanonicalRule where
  dimension := .str "accuracy"
  entity := "orders.price"
  condition := .none
  parameters := [("accuracy_type", .str "reference_comparison"), ("reference_dataset", .str "catalog"),
    ("join_keys", .list [.str "item"])]

private def totalRule : CanonicalRule where
  dimension := .str "consistency"
  entity := "orders.total"
  condition := .none
  parameters := [("consistency_type", .str "cross_table"), ("comparison_dataset", .str "invoices"),
    ("join_keys", .list [.str "item"]), ("comparison_columns", .list [.str "price"])]

private def priceReference : ReferenceRule :=
  referenceRuleOf Runtime.ascii (name "orders") "price" priceRule.parameters [.str "item"]

private def prices : Engine (List (String × Int)) Int := wholeNumbers fun _ => some true

private def priced (item price : Int) : List (String × Int) := [("item", item), ("price", price)]

theorem priced_counted :
    (∃ keys, let held := referenceRuleOf Runtime.ascii (name "orders") "price" priceRule.parameters keys
      held.CountsChecked prices (fun row column => row.lookup column) [priced 1 5] [priced 1 5] ↔
        held.Determined prices (fun row column => row.lookup column) [priced 1 5] [priced 1 5]) ∧
    ∃ keys first rest,
      let check := crossTableCheck Runtime.ascii (name "orders") totalRule.parameters keys first rest
      CrossTableBounded prices (fun row column => row.lookup column) check keys [priced 1 5] [priced 1 5] ↔
        Balanced prices (fun row column => row.lookup column) keys [priced 1 5] [priced 1 5] := by
  have compiles : ∃ compiled,
      compileRule Runtime.ascii priceRule "" "orders" ["price"] = .ok (.compiled compiled) := ⟨_, rfl⟩
  have crosses : ∃ compiled,
      compileRule Runtime.ascii totalRule "" "orders" ["total"] = .ok (.compiled compiled) := ⟨_, rfl⟩
  constructor
  · obtain ⟨compiled, success⟩ := compiles
    obtain ⟨keys, _, _, counts⟩ := (compileRule_countsChecked_iff success rfl prices
      (fun row column => row.lookup column) [priced 1 5] [priced 1 5]).1 "reference_comparison"
        (by decide) rfl rfl
    exact ⟨keys, counts⟩
  · obtain ⟨compiled, success⟩ := crosses
    obtain ⟨keys, first, rest, _, _, _, bounded⟩ := (compileRule_countsChecked_iff success rfl prices
      (fun row column => row.lookup column) [priced 1 5] [priced 1 5]).2 rfl rfl
    exact ⟨_, _, _, bounded⟩

/-- An order of an item that the catalog has twice is counted twice. -/
theorem repeatedItem_counted_twice :
    (∃ compiled, compileRule Runtime.ascii priceRule "" "orders" ["price"] = .ok (.compiled compiled) ∧
      priceReference.Renders compiled) ∧
    priceReference.result prices (fun row column => row.lookup column) [priced 1 5]
        [priced 1 5, priced 1 5] =
      [("total_rows", .int 2), ("verified_rows", .int 2), ("unverifiable_rows", .int 0),
        ("accurate_rows", .int 2), ("inaccurate_rows", .int 0)] ∧
    ¬ priceReference.CountsChecked prices (fun row column => row.lookup column) [priced 1 5]
      [priced 1 5, priced 1 5] := by
  have result : priceReference.result prices (fun row column => row.lookup column) [priced 1 5]
        [priced 1 5, priced 1 5] =
      [("total_rows", .int 2), ("verified_rows", .int 2), ("unverifiable_rows", .int 0),
        ("accurate_rows", .int 2), ("inaccurate_rows", .int 0)] := rfl
  refine ⟨⟨_, rfl, ?_⟩, result, fun counts => ?_⟩
  · exact renders_of_reference rfl [.str "item"]
  · obtain ⟨total, bounded, same⟩ := counts.bounded
    rw [result] at same
    obtain rfl := Value.int.inj same
    exact absurd bounded (by decide)

end Example

end CogniDQ.Rules
