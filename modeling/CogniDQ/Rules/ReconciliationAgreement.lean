import CogniDQ.Rules.ReconciliationRows
import CogniDQ.Rules.UniquenessCounts

/-!
# Two ways to find rows without a partner

`one_to_one` counts a dataset by what stands before the first ` a` or ` b` of its item, without outer
parentheses. A dataset with a filter is a parenthesised SELECT, which is none without them.
-/

set_option autoImplicit false

namespace CogniDQ.Sql

private theorem Segment.chars_drop (count : Nat) (segment : Segment) :
    (segment.drop count).chars = segment.chars.drop count := by
  unfold drop
  split
  · next zero => rw [zero, List.drop_zero]
  · cases segment <;> simp [chars]

private theorem Phrase.chars_drop {phrase : Phrase} (count : Nat) :
    (phrase.drop count).chars = phrase.chars.drop count := by
  unfold drop chars
  dsimp only
  induction phrase.segments generalizing count with
  | nil => simp [dropFrom]
  | cons segment rest ih =>
      rw [dropFrom, List.flatMap_cons, List.drop_append]
      split
      · next whole => rw [ih, List.drop_eq_nil_of_le whole, List.nil_append]
      · next part =>
          have none : count - segment.chars.length = 0 := by omega
          rw [List.flatMap_cons, Segment.chars_drop, none, List.drop_zero]

end CogniDQ.Sql

namespace CogniDQ.Rules

open CogniDQ.Python CogniDQ.Sql

section Stripped

variable {mark text : List Char}

theorem take_beforeMark : text.take (beforeMark mark text).length = beforeMark mark text := by
  induction text with
  | nil => rfl
  | cons c rest ih =>
      unfold beforeMark
      split
      · rfl
      · rw [List.length_cons, List.take_succ_cons, ih]

theorem beforeMark_cons_of_ne {c first : Char} {others : List Char} (apart : c ≠ first) :
    beforeMark (first :: others) (c :: text) = c :: beforeMark (first :: others) text := by
  have other : (first :: others).isPrefixOf (c :: text) = false := by
    simp [List.isPrefixOf, Ne.symm apart]
  rw [beforeMark, other]
  rfl

theorem chars_beforeAlias (mark : String) (aliased : Phrase) :
    (beforeAlias mark aliased).chars =
      let before := beforeMark mark.toList aliased.chars
      let opened := before.drop (before.takeWhile (· == '(')).length
      opened.take (opened.length - (opened.reverse.takeWhile (· == ')')).length) := by
  unfold beforeAlias
  rw [Phrase.chars_stripEnd, Phrase.stripStart, Phrase.chars_drop, Phrase.chars_take, take_beforeMark]

theorem select_prefix_of_filtered {mark : String} {aliased : Phrase} {others rest : List Char}
    (spaced : mark.toList = ' ' :: others)
    (filtered : aliased.chars = "(SELECT".toList ++ rest) :
    "SELECT".toList <+: (beforeAlias mark aliased).chars := by
  have before : beforeMark mark.toList aliased.chars =
      '(' :: ("SELECT".toList ++ beforeMark mark.toList rest) := by
    rw [filtered, spaced]
    have parts : "(SELECT".toList ++ rest = '(' :: 'S' :: 'E' :: 'L' :: 'E' :: 'C' :: 'T' :: rest := rfl
    rw [parts]
    repeat rw [beforeMark_cons_of_ne (by decide)]
    rfl
  rw [chars_beforeAlias]
  dsimp only
  rw [before]
  generalize beforeMark mark.toList rest = left
  have opened : ('(' :: ("SELECT".toList ++ left)).takeWhile (· == '(') = ['('] := rfl
  rw [opened]
  have closed : ((("SELECT".toList ++ left).reverse).takeWhile (· == ')')).length ≤ left.length := by
    rw [List.reverse_append, List.takeWhile_append]
    split
    · next all =>
        have stops : "SELECT".toList.reverse.takeWhile (· == ')') = [] := by decide
        rw [stops, List.append_nil, List.length_reverse]
    · exact (List.takeWhile_sublist _).length_le.trans (le_of_eq List.length_reverse)
  have whole : ("SELECT".toList ++ left).length = 6 + left.length := by
    rw [List.length_append]
    rfl
  have six : "SELECT".toList.length = 6 := rfl
  refine List.prefix_take_iff.mpr ⟨List.prefix_append _ left, ?_⟩
  show _ ≤ ("SELECT".toList ++ left).length - _
  rw [six, whole]
  exact Nat.le_sub_of_add_le (Nat.add_le_add_left closed 6)

theorem text_beforeAlias_of_plain {mark dataset : String} {others : List Char}
    (spaced : mark.toList = ' ' :: others) (named : ' ' ∉ dataset.toList)
    (opening : dataset.toList.head? ≠ some '(') (closing : dataset.toList.getLast? ≠ some ')') :
    (beforeAlias mark (raw dataset ++ mark)).text = dataset := by
  have before : ∀ name : List Char, ' ' ∉ name →
      beforeMark (' ' :: others) (name ++ ' ' :: others) = name := by
    intro name plain
    induction name with
    | nil =>
        have here : (' ' :: others).isPrefixOf (' ' :: others) = true := by simp
        rw [List.nil_append, beforeMark, here]
        rfl
    | cons c rest ih =>
        rw [List.mem_cons, not_or] at plain
        rw [List.cons_append, beforeMark_cons_of_ne (Ne.symm plain.1), ih plain.2]
  have chars : (beforeAlias mark (raw dataset ++ mark)).chars = dataset.toList := by
    rw [chars_beforeAlias]
    dsimp only
    rw [Phrase.chars_append, Phrase.chars_raw, Phrase.chars_ofText, spaced, before _ named]
    have opened : dataset.toList.takeWhile (· == '(') = [] := by
      cases chars : dataset.toList with
      | nil => rfl
      | cons c rest =>
          rw [chars] at opening
          exact List.takeWhile_cons_of_neg (by simpa using opening)
    have closed : dataset.toList.reverse.takeWhile (· == ')') = [] := by
      rw [← List.head?_reverse] at closing
      cases chars : dataset.toList.reverse with
      | nil => rfl
      | cons c rest =>
          rw [chars] at closing
          exact List.takeWhile_cons_of_neg (by simpa using closing)
    rw [opened, List.length_nil, List.drop_zero, closed, List.length_nil, Nat.sub_zero,
      List.take_length]
  rw [Phrase.text, chars, String.ofList_toList]

end Stripped

namespace KeyedReconciliation

/-! ## When the counts agree -/

section Agreement

variable {Row V : Type} {rule : KeyedReconciliation} {engine : Engine Row V}
  {read : String → Option (List Row)} {source target : List Row}

/-- Neither dataset has a filter, what is counted of their names is read as tables of as many rows,
and no row has a NULL in its first key column. -/
structure Comparable (rule : KeyedReconciliation) (engine : Engine Row V)
    (read : String → Option (List Row)) (source target : List Row) : Prop where
  sourceUnfiltered : (rule.parameters.get "source_filter").truthy = false
  targetUnfiltered : (rule.parameters.get "target_filter").truthy = false
  sourceCounted : (read rule.countedSource.text).map List.length = some source.length
  targetCounted : (read rule.countedTarget.text).map List.length = some target.length
  sourceKeys : ∀ row ∈ source, rule.sourceNull engine row = false
  targetKeys : ∀ row ∈ target, rule.targetNull engine row = false

/-- SELECT is a reserved word: no item that is read FROM starts with it. -/
def Reserves (read : String → Option (List Row)) : Prop :=
  ∀ text rows, read text = some rows → ¬ "SELECT".toList <+: text.toList

private theorem chars_filteredDataset {runtime : Runtime} {dataset filter : Value} {mark : String}
    (filters : filter.truthy = true) :
    ∃ rest, (filteredDataset runtime dataset filter ++ mark : Phrase).chars =
      "(SELECT".toList ++ rest := by
  have opening : "(SELECT * FROM ".toList = "(SELECT".toList ++ " * FROM ".toList := by decide
  unfold filteredDataset
  rw [if_pos filters]
  simp only [Phrase.chars_append, Phrase.chars_ofText, opening, List.append_assoc]
  exact ⟨_, rfl⟩

theorem read_filtered {runtime : Runtime} {dataset filter : Value} {mark : String}
    {others : List Char} (reserves : Reserves read) (spaced : mark.toList = ' ' :: others)
    (filters : filter.truthy = true) :
    read (beforeAlias mark (filteredDataset runtime dataset filter ++ mark)).text = none := by
  obtain ⟨rest, chars⟩ := @chars_filteredDataset runtime dataset filter mark filters
  cases found : read (beforeAlias mark (filteredDataset runtime dataset filter ++ mark)).text with
  | none => rfl
  | some rows =>
      have starts := select_prefix_of_filtered spaced chars
      have text : (beforeAlias mark (filteredDataset runtime dataset filter ++ mark)).text.toList =
          (beforeAlias mark (filteredDataset runtime dataset filter ++ mark)).chars :=
        String.toList_ofList
      refine absurd ?_ (reserves _ rows found)
      rw [text]
      exact starts

private theorem unfiltered_of_counted (reserves : Reserves read) {count : Nat}
    (counted : (read rule.countedSource.text).map List.length = some count) :
    (rule.parameters.get "source_filter").truthy = false := by
  cases filters : (rule.parameters.get "source_filter").truthy with
  | false => rfl
  | true =>
      have none : read rule.countedSource.text = none := read_filtered reserves rfl filters
      rw [none] at counted
      cases counted

private theorem unfiltered_of_targetCounted (reserves : Reserves read) {count : Nat}
    (counted : (read rule.countedTarget.text).map List.length = some count) :
    (rule.parameters.get "target_filter").truthy = false := by
  cases filters : (rule.parameters.get "target_filter").truthy with
  | false => rfl
  | true =>
      have none : read rule.countedTarget.text = none := read_filtered reserves rfl filters
      rw [none] at counted
      cases counted

theorem mem_antiJoin_of_null {row : Row} (member : row ∈ source)
    (null : rule.sourceNull engine row = true) :
    row ∈ antiJoin (rule.matched engine) source target := by
  refine List.mem_filter.mpr ⟨member, List.isEmpty_iff.mpr (List.filter_eq_nil_iff.mpr ?_)⟩
  intro partner _ joined
  rw [(present_of_matched joined).1] at null
  cases null

theorem mem_antiJoin_of_targetNull {row : Row} (member : row ∈ target)
    (null : rule.targetNull engine row = true) :
    row ∈ antiJoin (turned (rule.matched engine)) target source := by
  refine List.mem_filter.mpr ⟨member, List.isEmpty_iff.mpr (List.filter_eq_nil_iff.mpr ?_)⟩
  intro partner _ joined
  rw [(present_of_matched joined).2] at null
  cases null

private theorem missing_iff :
    ((antiJoin (rule.matched engine) source target).countP fun row =>
        !rule.sourceNull engine row) = (antiJoin (rule.matched engine) source target).length ↔
      ∀ row ∈ source, rule.sourceNull engine row = false := by
  rw [List.countP_eq_length]
  constructor
  · intro every row member
    cases null : rule.sourceNull engine row with
    | false => rfl
    | true =>
        have present := every row (mem_antiJoin_of_null member null)
        rw [null] at present
        cases present
  · intro every row member
    rw [every row (List.mem_filter.mp member).1]
    rfl

private theorem extra_iff :
    ((antiJoin (turned (rule.matched engine)) target source).countP fun row =>
        !rule.targetNull engine row) =
          (antiJoin (turned (rule.matched engine)) target source).length ↔
      ∀ row ∈ target, rule.targetNull engine row = false := by
  rw [List.countP_eq_length]
  constructor
  · intro every row member
    cases null : rule.targetNull engine row with
    | false => rfl
    | true =>
        have present := every row (mem_antiJoin_of_targetNull member null)
        rw [null] at present
        cases present
  · intro every row member
    rw [every row (List.mem_filter.mp member).1]
    rfl

theorem oneToOneRow_eq {sourceCount targetCount : Nat}
    (sourceCounted : (read rule.countedSource.text).map List.length = some sourceCount)
    (targetCounted : (read rule.countedTarget.text).map List.length = some targetCount)
    (sourceRead : read rule.source.text = some source)
    (targetRead : read rule.target.text = some target) :
    rule.oneToOneRow engine read = some [("source_count", .int sourceCount),
      ("target_count", .int targetCount),
      ("matched_count", .int (pairCount (rule.matched engine) source target)),
      ("missing_in_target", .int ((antiJoin (rule.matched engine) source target).countP fun row =>
        !rule.sourceNull engine row)),
      ("extra_in_target", .int ((antiJoin (turned (rule.matched engine)) target source).countP
        fun row => !rule.targetNull engine row))] := by
  unfold oneToOneRow
  simp only [sourceCounted, targetCounted, sourceRead, targetRead, Option.bind_eq_bind,
    Option.bind_some, countP_isMatched, countP_isMissing, countP_isExtra]
  rfl

theorem missingExtraRow_eq (sourceRead : read rule.source.text = some source)
    (targetRead : read rule.target.text = some target) :
    rule.missingExtraRow engine read = some [("source_count", .int source.length),
      ("target_count", .int target.length),
      ("missing_in_target", .int (antiJoin (rule.matched engine) source target).length),
      ("extra_in_target", .int (antiJoin (turned (rule.matched engine)) target source).length)] := by
  unfold missingExtraRow
  simp only [sourceRead, targetRead, Option.bind_eq_bind, Option.bind_some, countP_missing,
    countP_extra]
  rfl

theorem counted_of_oneToOneRow {one : Dict} (returned : rule.oneToOneRow engine read = some one) :
    ∃ sourceCount targetCount, (read rule.countedSource.text).map List.length = some sourceCount ∧
      (read rule.countedTarget.text).map List.length = some targetCount := by
  unfold oneToOneRow at returned
  cases first : (read rule.countedSource.text).map List.length with
  | none => rw [first] at returned; cases returned
  | some sourceCount =>
      cases second : (read rule.countedTarget.text).map List.length with
      | none => rw [first, second] at returned; cases returned
      | some targetCount => exact ⟨sourceCount, targetCount, rfl, rfl⟩

theorem agree_iff (reserves : Reserves read) (sourceRead : read rule.source.text = some source)
    (targetRead : read rule.target.text = some target) :
    rule.Agree engine read ↔ rule.Comparable engine read source target := by
  constructor
  · rintro ⟨one, returned, both, returnedBoth, same⟩
    obtain ⟨sourceCount, targetCount, sourceCounted, targetCounted⟩ := counted_of_oneToOneRow returned
    rw [oneToOneRow_eq sourceCounted targetCounted sourceRead targetRead] at returned
    rw [missingExtraRow_eq sourceRead targetRead] at returnedBoth
    obtain rfl := Option.some.inj returned
    obtain rfl := Option.some.inj returnedBoth
    have sizes := same "source_count" (by decide)
    have targetSizes := same "target_count" (by decide)
    have missing := same "missing_in_target" (by decide)
    have extra := same "extra_in_target" (by decide)
    have ofInt : ∀ first second : Nat, Value.int first = Value.int second → first = second :=
      fun _ _ equal => Int.natCast_inj.mp (Value.int.inj equal)
    refine ⟨unfiltered_of_counted reserves sourceCounted,
      unfiltered_of_targetCounted reserves targetCounted, ?_, ?_, ?_, ?_⟩
    · rw [sourceCounted, ofInt _ _ sizes]
    · rw [targetCounted, ofInt _ _ targetSizes]
    · exact missing_iff.mp (ofInt _ _ missing)
    · exact extra_iff.mp (ofInt _ _ extra)
  · intro comparable
    refine ⟨_, oneToOneRow_eq comparable.sourceCounted comparable.targetCounted sourceRead targetRead,
      _, missingExtraRow_eq sourceRead targetRead, ?_⟩
    rw [@missing_iff _ _ rule engine source target |>.mpr comparable.sourceKeys,
      @extra_iff _ _ rule engine source target |>.mpr comparable.targetKeys]
    intro key member
    simp only [List.mem_cons, List.not_mem_nil, or_false] at member
    obtain rfl | rfl | rfl | rfl := member
    · rfl
    · rfl
    · rfl
    · rfl

end Agreement

end KeyedReconciliation

section Compiled

variable {runtime : Runtime} {parameters : Dict} {compiled : Compiled}

def keyedReconciliation (runtime : Runtime) (parameters : Dict) (first : Value × Value)
    (rest : List (Value × Value)) : KeyedReconciliation where
  runtime := runtime
  parameters := parameters
  first := (runtime.str first.1, runtime.str first.2)
  rest := rest.map fun pair => (runtime.str pair.1, runtime.str pair.2)

theorem chars_joinCond {first : Value × Value} {rest : List (Value × Value)}
    {sourceName targetName : String} (sourceNamed : sourceName ≠ "") (targetNamed : targetName ≠ "") :
    ((keyedReconciliation runtime parameters first rest).joinCond sourceName targetName).chars =
      (joinCondition runtime sourceName targetName (first :: rest)).chars := by
  refine Phrase.chars_join_congr ?_
  have pairs : (keyedReconciliation runtime parameters first rest).on sourceName targetName =
      (first :: rest).map fun pair => .atom (.compare .equal
        (.column ⟨sourceName, runtime.str pair.1⟩) (.column ⟨targetName, runtime.str pair.2⟩)) := by
    simp [KeyedReconciliation.on, keyedReconciliation]
  rw [pairs, List.map_map, List.map_map, List.map_map]
  refine List.map_congr_left fun pair _ => ?_
  simp [Predicate.phrase, Atomic.phrase, Expr.phrase, ColumnRef.phrase, sourceNamed, targetNamed,
    Comparison.operator]

theorem oneToOne_rule (success : reconciliationOneToOne runtime parameters = .ok (.compiled compiled)) :
    ∃ first rest, normalizeJoinKeys (parameters.get "join_keys") = .ok (first :: rest) ∧
      compiled.query.phrase.text =
        ((keyedReconciliation runtime parameters first rest).oneToOneQuery.map
          Argument.phrase).phrase.text := by
  simp only [reconciliationOneToOne] at success
  split at success
  · cases success
  · obtain ⟨pairs, normalized, success⟩ := bind_eq_ok success
    obtain ⟨first, chosen, success⟩ := bind_eq_ok success
    cases pairs with
    | nil => cases chosen
    | cons pair rest =>
        obtain rfl := Except.ok.inj chosen
        obtain rfl := Outcome.compiled.inj (Except.ok.inj success)
        refine ⟨pair, rest, normalized, Query.text_congr rfl rfl ?_ ?_⟩
        · simp [KeyedReconciliation.oneToOneQuery, reconciliationQuery, Query.map, Column.map,
            Column.named, Aggregate.map, Tally.map, Column.phrase, Aggregate.phrase, Tally.phrase,
            Argument.phrase, caseWhen, KeyedReconciliation.isMatched, KeyedReconciliation.isMissing,
            KeyedReconciliation.isExtra, KeyedReconciliation.sourceKey, KeyedReconciliation.targetKey,
            Predicate.phrase, Atomic.phrase, Expr.phrase, ColumnRef.phrase, keyedReconciliation,
            KeyedReconciliation.countedSource, KeyedReconciliation.countedTarget,
            KeyedReconciliation.source, KeyedReconciliation.target]
        · simp only [reconciliationQuery, KeyedReconciliation.oneToOneQuery, Query.map,
            Phrase.chars_append,
            @chars_joinCond runtime parameters pair rest "a" "b" (by decide) (by decide)]
          rfl

theorem missingExtra_rule
    (success : reconciliationMissingExtra runtime parameters = .ok (.compiled compiled)) :
    ∃ first rest, normalizeJoinKeys (parameters.get "join_keys") = .ok (first :: rest) ∧
      compiled.query.phrase.text =
        ((keyedReconciliation runtime parameters first rest).missingExtraQuery.map
          Argument.phrase).phrase.text := by
  simp only [reconciliationMissingExtra] at success
  split at success
  · cases success
  · obtain ⟨pairs, normalized, success⟩ := bind_eq_ok success
    obtain ⟨first, chosen, success⟩ := bind_eq_ok success
    cases pairs with
    | nil => cases chosen
    | cons pair rest =>
        obtain rfl := Except.ok.inj chosen
        obtain rfl := Outcome.compiled.inj (Except.ok.inj success)
        have named := @chars_joinCond runtime parameters pair rest "a" "b" (by decide) (by decide)
        have turned := @chars_joinCond runtime parameters pair rest "a2" "b2" (by decide) (by decide)
        refine ⟨pair, rest, normalized, Query.text_congr rfl rfl ?_ rfl⟩
        simp [KeyedReconciliation.missingExtraQuery, reconciliationQuery, Query.map, Column.map,
          Column.named, Aggregate.map, Tally.map, Column.phrase, Aggregate.phrase, Tally.phrase,
          KeyedReconciliation.sourceKey, KeyedReconciliation.targetKey, Predicate.phrase,
          Atomic.phrase, Expr.phrase, ColumnRef.phrase, named, turned]
        simp [keyedReconciliation, KeyedReconciliation.source, KeyedReconciliation.target]

end Compiled

/-- The two types that look for rows without a partner. Over any tables of the datasets, and any
database in which SELECT is reserved, both queries return the same counts exactly if the datasets are
comparable: without filters, counted as tables of as many rows, and without NULLs in the first key. -/
theorem reconciliations_agree_iff {Row V : Type} {runtime : Runtime} {parameters : Dict}
    {oneToOne missingExtra : Compiled} {engine : Engine Row V} {read : String → Option (List Row)}
    {source target : List Row}
    (one : reconciliationOneToOne runtime parameters = .ok (.compiled oneToOne))
    (both : reconciliationMissingExtra runtime parameters = .ok (.compiled missingExtra))
    (reserves : KeyedReconciliation.Reserves read)
    (sourceRead : read (sourceTable runtime parameters).text = some source)
    (targetRead : read (targetTable runtime parameters).text = some target) :
    ∃ first rest, normalizeJoinKeys (parameters.get "join_keys") = .ok (first :: rest) ∧
      let rule := keyedReconciliation runtime parameters first rest
      oneToOne.query.phrase.text = (rule.oneToOneQuery.map Argument.phrase).phrase.text ∧
        missingExtra.query.phrase.text = (rule.missingExtraQuery.map Argument.phrase).phrase.text ∧
          (rule.Agree engine read ↔ rule.Comparable engine read source target) := by
  obtain ⟨first, rest, normalized, text⟩ := oneToOne_rule one
  obtain ⟨other, others, again, otherText⟩ := missingExtra_rule both
  obtain ⟨rfl, rfl⟩ := List.cons.inj (Except.ok.inj (normalized.symm.trans again))
  exact ⟨first, rest, normalized, text, otherText,
    KeyedReconciliation.agree_iff reserves sourceRead targetRead⟩

section Example

def orderParameters (sourceFilter : Value) : Dict :=
  [("join_keys", .list [.str "id"]), ("source_dataset", .str "orders"),
    ("target_dataset", .str "shipments"), ("source_filter", sourceFilter)]

private def orderRule (sourceFilter : Value) : KeyedReconciliation :=
  keyedReconciliation Runtime.ascii (orderParameters sourceFilter) (.str "id", .str "id") []

def items (orders : String) (source target : List (List (String × String))) (text : String) :
    Option (List (List (String × String))) :=
  if text = orders then some source else if text = "shipments" then some target else none

private theorem items_reserve {orders : String} {source target : List (List (String × String))}
    (named : ¬ "SELECT".toList <+: orders.toList) :
    KeyedReconciliation.Reserves (items orders source target) := by
  intro text rows found
  unfold items at found
  split at found
  · next same => rwa [same]
  · split at found
    · next same =>
        rw [same]
        decide
    · cases found

/-- Datasets with plain names, no filter and no NULL are reconciled alike. -/
theorem plainDatasets_agree :
    (orderRule .none).Agree texts (items "orders" [[("id", "1")], [("id", "2")]] [[("id", "1")]]) := by
  obtain ⟨one, made⟩ : ∃ compiled, reconciliationOneToOne Runtime.ascii (orderParameters .none) =
    .ok (.compiled compiled) := ⟨_, rfl⟩
  obtain ⟨both, madeBoth⟩ : ∃ compiled, reconciliationMissingExtra Runtime.ascii
    (orderParameters .none) = .ok (.compiled compiled) := ⟨_, rfl⟩
  have source : (sourceTable Runtime.ascii (orderParameters .none)).text = "orders" := by decide +kernel
  have target : (targetTable Runtime.ascii (orderParameters .none)).text = "shipments" := by
    decide +kernel
  obtain ⟨first, rest, normalized, _, _, agree⟩ := @reconciliations_agree_iff _ _ Runtime.ascii
    (orderParameters .none) one both texts
    (items "orders" [[("id", "1")], [("id", "2")]] [[("id", "1")]]) _ _ made madeBoth
    (items_reserve (by decide)) (by rw [source]; rfl) (by rw [target]; rfl)
  have keys : normalizeJoinKeys ((orderParameters .none).get "join_keys") =
    .ok [(.str "id", .str "id")] := rfl
  obtain ⟨rfl, rfl⟩ := List.cons.inj (Except.ok.inj (normalized.symm.trans keys))
  have countedSource : (orderRule .none).countedSource.text = "orders" :=
    text_beforeAlias_of_plain rfl (by decide) (by decide) (by decide)
  have countedTarget : (orderRule .none).countedTarget.text = "shipments" :=
    text_beforeAlias_of_plain rfl (by decide) (by decide) (by decide)
  refine agree.mpr ⟨rfl, rfl, ?_, ?_, by decide, by decide⟩
  · show (items "orders" _ _ (orderRule .none).countedSource.text).map List.length = _
    rw [countedSource]
    rfl
  · show (items "orders" _ _ (orderRule .none).countedTarget.text).map List.length = _
    rw [countedTarget]
    rfl

/-- With a filter the sub-select of `one_to_one` loses its parentheses, and the query fails. Without
one, an order that has no key is missing for `missing_extra` only. -/
theorem filteredOrders_differ :
    let filtered := items "(SELECT * FROM orders WHERE qty > 0)" [[("id", "1")]] [[("id", "1")]]
    rejects Runtime.ascii (.str "qty > 0") = .ok false ∧
      (orderRule (.str "qty > 0")).countedSource.text = "SELECT * FROM orders WHERE qty > 0" ∧
        (orderRule (.str "qty > 0")).oneToOneRow texts filtered = none ∧
          ((orderRule (.str "qty > 0")).missingExtraRow texts filtered).isSome = true ∧
            ¬ (orderRule (.str "qty > 0")).Agree texts filtered ∧
              ¬ (orderRule .none).Agree texts (items "orders" [[]] [[("id", "1")]]) := by
  intro filtered
  have text : (orderRule (.str "qty > 0")).countedSource.text =
      "SELECT * FROM orders WHERE qty > 0" := by decide +kernel
  have none : (orderRule (.str "qty > 0")).oneToOneRow texts filtered = .none := by
    unfold KeyedReconciliation.oneToOneRow
    rw [text]
    rfl
  refine ⟨by decide +kernel, text, none, by decide +kernel, ?_, ?_⟩
  · rintro ⟨one, returned, _⟩
    rw [none] at returned
    cases returned
  · intro agree
    have source : (orderRule .none).source.text = "orders" := by decide +kernel
    have target : (orderRule .none).target.text = "shipments" := by decide +kernel
    have comparable := (KeyedReconciliation.agree_iff (items_reserve (by decide))
      (by rw [source]; rfl) (by rw [target]; rfl)).mp agree
    have keyed := comparable.sourceKeys [] (List.mem_singleton_self _)
    cases keyed

end Example

end CogniDQ.Rules
